import Mathlib.Data.Nat.Log
import Mathlib.Data.List.Basic
import Mathlib.Tactic.IntervalCases

/-!
# Decimal digit texts

Texts are lists of characters.  This file gives the fixed-width and the
variable-width decimal texts of a natural number, and a small reader for
them: a reader takes a text and returns a value together with the rest of the
text, so that longer formats are read by composing readers.  Each writer is
followed by the lemma that its reader undoes it.
-/

namespace Digits

/-- The character of a digit below ten. -/
def digit (value : ℕ) : Char :=
  Char.ofNat (48 + value)

/-- The value of a digit character. -/
def digitValue? (character : Char) : Option ℕ :=
  if 48 ≤ character.toNat ∧ character.toNat ≤ 57 then some (character.toNat - 48) else none

/-- A character is one of the ten digits. -/
def isDigit (character : Char) : Bool :=
  (digitValue? character).isSome

/-- The last `width` digits of a number, with leading zeros. -/
def padded : ℕ → ℕ → List Char
  | 0, _ => []
  | width + 1, value => padded width (value / 10) ++ [digit (value % 10)]

/-- The number that a text of digits denotes. -/
def number? (text : List Char) : Option ℕ :=
  text.foldlM (fun value character => (digitValue? character).map (value * 10 + ·)) 0

/-- The digits of a number without leading zeros; zero is one digit. -/
def natural (value : ℕ) : List Char :=
  padded (Nat.log 10 value + 1) value

/-- Read a number of exactly `width` digits. -/
def field? (width : ℕ) (text : List Char) : Option (ℕ × List Char) :=
  if (text.take width).length = width then
    (number? (text.take width)).map fun value => (value, text.drop width)
  else none

/-- Read one expected character. -/
def expect? (character : Char) : List Char → Option (List Char)
  | [] => none
  | head :: rest => if head = character then some rest else none

theorem digitValue?_digit {value : ℕ} (small : value < 10) :
    digitValue? (digit value) = some value := by
  interval_cases value <;> decide

theorem isDigit_digit {value : ℕ} (small : value < 10) : isDigit (digit value) = true := by
  simp [isDigit, digitValue?_digit small]

@[simp]
theorem length_padded (width value : ℕ) : (padded width value).length = width := by
  induction width generalizing value with
  | zero => rfl
  | succ width ih => simp [padded, ih]

theorem isDigit_of_mem_padded {width value : ℕ} {character : Char}
    (member : character ∈ padded width value) : isDigit character = true := by
  induction width generalizing value with
  | zero => simp [padded] at member
  | succ width ih =>
      simp only [padded, List.mem_append, List.mem_singleton] at member
      rcases member with earlier | rfl
      · exact ih earlier
      · exact isDigit_digit (Nat.mod_lt _ (by omega))

theorem number?_padded {width value : ℕ} (fits : value < 10 ^ width) :
    number? (padded width value) = some value := by
  induction width generalizing value with
  | zero =>
      have : value = 0 := by simpa using fits
      subst this
      rfl
  | succ width ih =>
      have shorter : value / 10 < 10 ^ width := by
        rw [Nat.pow_succ] at fits
        omega
      have prefixRead := ih shorter
      have lastRead := digitValue?_digit (Nat.mod_lt value (by omega : 10 > 0))
      unfold number? at prefixRead ⊢
      rw [padded, List.foldlM_append, prefixRead]
      simp [lastRead]
      omega

theorem number?_natural (value : ℕ) : number? (natural value) = some value :=
  number?_padded (Nat.lt_pow_succ_log_self (by omega) value)

theorem isDigit_of_mem_natural {value : ℕ} {character : Char}
    (member : character ∈ natural value) : isDigit character = true :=
  isDigit_of_mem_padded member

theorem natural_ne_nil (value : ℕ) : natural value ≠ [] := by
  intro empty
  have lengths := congrArg List.length empty
  simp [natural] at lengths

/-- Reading a fixed-width field undoes writing it. -/
@[simp]
theorem field?_padded_append {width value : ℕ} (fits : value < 10 ^ width) (rest : List Char) :
    field? width (padded width value ++ rest) = some (value, rest) := by
  have taken : (padded width value ++ rest).take width = padded width value :=
    List.take_left' (length_padded width value)
  have dropped : (padded width value ++ rest).drop width = rest :=
    List.drop_left' (length_padded width value)
  simp [field?, taken, dropped, number?_padded fits]

@[simp]
theorem expect?_cons (character : Char) (rest : List Char) :
    expect? character (character :: rest) = some rest := by
  simp [expect?]

/-- The digits at the head of a text end where the first other character stands. -/
theorem span_isDigit_append {digits : List Char} (all : ∀ character ∈ digits, isDigit character)
    {rest : List Char} (stops : ∀ character ∈ rest.head?, isDigit character = false) :
    (digits ++ rest).takeWhile isDigit = digits ∧ (digits ++ rest).dropWhile isDigit = rest := by
  induction digits with
  | nil =>
      cases rest with
      | nil => simp
      | cons head tail =>
          have : isDigit head = false := stops head (by simp)
          simp [this]
  | cons head tail ih =>
      have headDigit : isDigit head = true := all head (by simp)
      have tailRead := ih fun character member => all character (by simp [member])
      simp [headDigit, tailRead]

end Digits
