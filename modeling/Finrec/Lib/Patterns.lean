import Mathlib.Algebra.Group.Nat.Defs
import Mathlib.Data.List.Basic

/-!
# Patterns of fixed length

A pattern is one class of characters for each place of a text.  UUIDs are 128
bits, here their 32 hexadecimal digits; their canonical text has five groups of
digits with hyphens between them.
-/

namespace Patterns

/-- A full match of a text with one class for each character. -/
def fits : List (Char → Bool) → List Char → Bool
  | [], [] => true
  | allowed :: classes, character :: rest => allowed character && fits classes rest
  | _, _ => false

/-- The pattern that only one text fits. -/
def literal (text : List Char) : List (Char → Bool) :=
  text.map fun expected character => character == expected

/-- A lower-case hexadecimal digit. -/
def isHex (character : Char) : Bool :=
  '0' ≤ character && character ≤ '9' || 'a' ≤ character && character ≤ 'f'

theorem fits_append {first second : List (Char → Bool)} {head tail : List Char}
    (aligned : head.length = first.length) :
    fits (first ++ second) (head ++ tail) = (fits first head && fits second tail) := by
  induction first generalizing head with
  | nil =>
      have empty : head = [] := List.length_eq_zero_iff.mp aligned
      simp [empty, fits]
  | cons allowed classes ih =>
      cases head with
      | nil => simp at aligned
      | cons character rest =>
          have aligned' : rest.length = classes.length := by simpa using aligned
          simp [fits, ih aligned', Bool.and_assoc]

theorem fits_literal (text : List Char) : fits (literal text) text = true := by
  induction text with
  | nil => rfl
  | cons character rest ih => simpa [literal, fits] using ih

theorem fits_literal_append (text : List Char) (classes : List (Char → Bool)) (rest : List Char) :
    fits (literal text ++ classes) (text ++ rest) = fits classes rest := by
  rw [fits_append (by simp [literal]), fits_literal, Bool.true_and]

/-- A text that begins with another character does not fit. -/
theorem fits_literal_of_head_ne {text rest : List Char} {expected found : Char}
    (textHead : text.head? = some expected) (restHead : rest.head? = some found)
    (differ : found ≠ expected) (classes : List (Char → Bool)) :
    fits (literal text ++ classes) rest = false := by
  cases text with
  | nil => simp at textHead
  | cons first others =>
      cases rest with
      | nil => simp at restHead
      | cons character tail =>
          simp only [List.head?_cons, Option.some.injEq] at textHead restHead
          subst textHead restHead
          simp [literal, fits, differ]

theorem isPrefixOf_of_head_ne {text rest : List Char} {expected found : Char}
    (textHead : text.head? = some expected) (restHead : rest.head? = some found)
    (differ : found ≠ expected) : text.isPrefixOf rest = false := by
  cases text with
  | nil => simp at textHead
  | cons first others =>
      cases rest with
      | nil => rfl
      | cons character tail =>
          simp only [List.head?_cons, Option.some.injEq] at textHead restHead
          subst textHead restHead
          simp [List.isPrefixOf, differ.symm]

theorem fits_replicate {allowed : Char → Bool} {text : List Char}
    (all : ∀ character ∈ text, allowed character = true) :
    fits (List.replicate text.length allowed) text = true := by
  induction text with
  | nil => rfl
  | cons character rest ih =>
      have restFits := ih fun other member => all other (by simp [member])
      simpa [List.replicate_succ, fits, restFits] using all character (by simp)

/-- Five groups with a separator between them. -/
def grouped (separator : α) (first second third fourth fifth : List α) : List α :=
  first ++ separator :: (second ++ separator :: (third ++ separator :: (fourth ++
    separator :: fifth)))

structure Uuid where
  digits : List (Fin 16)
  length_eq : digits.length = 32
deriving DecidableEq

namespace Uuid

def digitChar (digit : Fin 16) : Char :=
  if digit.val < 10 then Char.ofNat (48 + digit.val) else Char.ofNat (87 + digit.val)

def digitValue? (character : Char) : Option (Fin 16) :=
  (List.finRange 16).find? fun digit => digitChar digit = character.toLower

/-- The canonical text of a UUID. -/
def text (id : Uuid) : List Char :=
  let hex := id.digits.map digitChar
  grouped '-' (hex.take 8) ((hex.drop 8).take 4) ((hex.drop 12).take 4) ((hex.drop 16).take 4)
    (hex.drop 20)

/-- A UUID is read from its digits, wherever the hyphens stand. -/
def parse? (value : List Char) : Option Uuid :=
  match (value.filter (· ≠ '-')).mapM digitValue? with
  | some digits => if enough : digits.length = 32 then some ⟨digits, enough⟩ else none
  | none => none

/-- A text that is read as a UUID and is its canonical text. -/
def isCanonical (value : List Char) : Bool :=
  match parse? value with
  | some id => id.text = value
  | none => false

/-- The digit that tells the variant of the UUID. -/
def variant (id : Uuid) : Fin 16 :=
  id.digits.get ⟨16, by rw [id.length_eq]; omega⟩

/-- The pattern of a canonical text, with a class for the digit that tells the variant. -/
def classes (variantClass : Char → Bool) : List (Char → Bool) :=
  grouped (· == '-') (List.replicate 8 isHex) (List.replicate 4 isHex) (List.replicate 4 isHex)
    (variantClass :: List.replicate 3 isHex) (List.replicate 12 isHex)

theorem eq_text_of_isCanonical {value : List Char} (canonical : isCanonical value = true) :
    ∃ id : Uuid, value = id.text := by
  unfold isCanonical at canonical
  split at canonical
  · rename_i id read
    exact ⟨id, (of_decide_eq_true canonical).symm⟩
  · cases canonical

theorem isHex_digitChar (digit : Fin 16) : isHex (digitChar digit) = true := by
  revert digit
  decide

theorem fits_hexes {hex : List Char} {length : ℕ} (enough : hex.length = length)
    (all : ∀ character ∈ hex, isHex character = true) :
    fits (List.replicate length isHex) hex = true := by
  subst enough
  exact fits_replicate all

/-- A canonical text fits the pattern exactly when the digit for the variant is in the class. -/
theorem fits_classes_text (variantClass : Char → Bool) (id : Uuid) :
    fits (classes variantClass) id.text = variantClass (digitChar id.variant) := by
  have all : ∀ character ∈ id.digits.map digitChar, isHex character = true := by
    intro character member
    obtain ⟨digit, -, rfl⟩ := List.mem_map.mp member
    exact isHex_digitChar digit
  have length : (id.digits.map digitChar).length = 32 := by
    rw [List.length_map, id.length_eq]
  have fourth : ((id.digits.map digitChar).drop 16).take 4 =
      digitChar id.variant :: ((id.digits.map digitChar).drop 17).take 3 := by
    have bound : 16 < (id.digits.map digitChar).length := by omega
    rw [List.drop_eq_getElem_cons bound, List.take_succ_cons]
    simp [variant]
  generalize hex_eq : id.digits.map digitChar = hex at all length fourth
  have part : ∀ skipped taken, skipped + taken ≤ 32 →
      fits (List.replicate taken isHex) ((hex.drop skipped).take taken) = true := by
    intro skipped taken inside
    refine fits_hexes (by simp; omega) ?_
    exact fun character member => all character (List.mem_of_mem_drop (List.mem_of_mem_take member))
  have firstPart : fits (List.replicate 8 isHex) (hex.take 8) = true := by
    simpa using part 0 8 (by omega)
  have lastPart : fits (List.replicate 12 isHex) (hex.drop 20) = true := by
    refine fits_hexes (by simp; omega) ?_
    exact fun character member => all character (List.mem_of_mem_drop member)
  unfold classes text
  simp only [hex_eq, fourth, grouped]
  rw [fits_append (by simp; omega), firstPart]
  simp only [fits, Bool.true_and, beq_self_eq_true]
  rw [fits_append (by simp; omega), part 8 4 (by omega)]
  simp only [fits, Bool.true_and, beq_self_eq_true]
  rw [fits_append (by simp; omega), part 12 4 (by omega)]
  simp only [fits, Bool.true_and, beq_self_eq_true, List.cons_append]
  rw [fits_append (by simp; omega), part 17 3 (by omega)]
  simp only [fits, beq_self_eq_true, lastPart, Bool.and_true]

/-- The digit for the variant stands behind the third hyphen. -/
theorem text_variant (id : Uuid) : id.text[19]? = some (digitChar id.variant) := by
  have length : (id.digits.map digitChar).length = 32 := by
    rw [List.length_map, id.length_eq]
  unfold text grouped
  simp [length, variant]

/-- The last `width` hexadecimal digits of a number. -/
def hexDigits : ℕ → ℕ → List (Fin 16)
  | 0, _ => []
  | width + 1, value => hexDigits width (value / 16) ++ [Fin.ofNat 16 value]

/-- The number that hexadecimal digits denote. -/
def number (digits : List (Fin 16)) : ℕ :=
  digits.foldl (fun value digit => value * 16 + digit.val) 0

theorem length_hexDigits (width value : ℕ) : (hexDigits width value).length = width := by
  induction width generalizing value with
  | zero => rfl
  | succ width ih => simp [hexDigits, ih]

theorem number_hexDigits {width value : ℕ} (fits : value < 16 ^ width) :
    number (hexDigits width value) = value := by
  induction width generalizing value with
  | zero =>
      have zero : value = 0 := by simpa using fits
      rw [zero]
      rfl
  | succ width ih =>
      have shorter : value / 16 < 16 ^ width := by
        rw [Nat.pow_succ] at fits
        omega
      have read := ih shorter
      simp only [number] at read
      simp only [number, hexDigits, List.foldl_append, List.foldl_cons, List.foldl_nil, read,
        Fin.ofNat]
      omega

/-- The UUID of a number of 128 bits. -/
def ofNat (value : ℕ) : Uuid :=
  ⟨hexDigits 32 value, length_hexDigits 32 value⟩

/-- `UUID.int`. -/
def toNat (id : Uuid) : ℕ :=
  number id.digits

theorem toNat_ofNat {value : ℕ} (fits : value < 2 ^ 128) : (ofNat value).toNat = value := by
  have hexadecimal : (2 : ℕ) ^ 128 = 16 ^ 32 := by decide +kernel
  rw [hexadecimal] at fits
  exact number_hexDigits fits

theorem digitValue?_digitChar (digit : Fin 16) : digitValue? (digitChar digit) = some digit := by
  revert digit
  decide

theorem digitChar_ne_hyphen (digit : Fin 16) : digitChar digit ≠ '-' := by
  revert digit
  decide

theorem mapM_digitValue? (digits : List (Fin 16)) :
    (digits.map digitChar).mapM digitValue? = some digits := by
  induction digits with
  | nil => rfl
  | cons digit rest ih => simp [digitValue?_digitChar, ih]

theorem filter_grouped {α : Type} {kept : α → Bool} {separator : α}
    {first second third fourth fifth : List α} (dropped : kept separator = false) :
    (grouped separator first second third fourth fifth).filter kept =
      (first ++ (second ++ (third ++ (fourth ++ fifth)))).filter kept := by
  simp [grouped, dropped]

theorem groups_append {α : Type} (hex : List α) :
    hex.take 8 ++ ((hex.drop 8).take 4 ++ ((hex.drop 12).take 4 ++
      ((hex.drop 16).take 4 ++ hex.drop 20))) = hex := by
  have part (skipped taken : ℕ) :
      (hex.drop skipped).take taken ++ hex.drop (skipped + taken) = hex.drop skipped := by
    rw [← List.drop_drop, List.take_append_drop]
  rw [part 16 4, part 12 4, part 8 4, List.take_append_drop]

/-- Without its hyphens, the canonical text is the digits. -/
theorem filter_text (id : Uuid) : id.text.filter (· ≠ '-') = id.digits.map digitChar := by
  have hex : (id.digits.map digitChar).filter (· ≠ '-') = id.digits.map digitChar := by
    rw [List.filter_eq_self]
    intro character member
    rcases List.mem_map.mp member with ⟨digit, -, rfl⟩
    exact decide_eq_true (digitChar_ne_hyphen digit)
  simp only [text]
  rw [filter_grouped (by decide), groups_append, hex]

/-- Reading the canonical text of a UUID gives back the UUID. -/
theorem parse?_text (id : Uuid) : parse? id.text = some id := by
  simp only [parse?, filter_text, mapM_digitValue?, id.length_eq, ↓reduceDIte]

end Uuid

end Patterns
