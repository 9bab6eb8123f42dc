import Mathlib.Data.List.Basic
import Mathlib.Data.List.Chain

/-!
# Texts of Python

A text of Python is a list of code points, and half of a surrogate pair is a code
point of its own.  Halves come from the escapes of JSON and from bytes that are
decoded with `surrogatepass`.  Two halves in a row are not the character that
they stand for in UTF-16, until a writer and a reader take them for it.
-/

inductive CodePoint where
  | scalar (character : Char)
  | surrogate (half : Fin 0x800)
deriving DecidableEq

namespace CodePoint

def ofCode (code : ℕ) : CodePoint :=
  if half : 0xd800 ≤ code ∧ code < 0xe000 then .surrogate ⟨code - 0xd800, by omega⟩
  else .scalar (Char.ofNat code)

def char? : CodePoint → Option Char
  | .scalar character => some character
  | .surrogate _ => none

/-- The character that a high half and a low half stand for. -/
def pair? : CodePoint → CodePoint → Option Char
  | .surrogate high, .surrogate low =>
      if high.val < 0x400 ∧ 0x400 ≤ low.val then
        some (Char.ofNat (0x10000 + high.val * 0x400 + (low.val - 0x400)))
      else none
  | _, _ => none

@[simp]
theorem pair?_scalar (first : CodePoint) (character : Char) :
    pair? first (.scalar character) = none := by
  cases first <;> rfl

theorem ofCode_toNat (character : Char) : ofCode character.toNat = .scalar character := by
  have valid : character.toNat < 0xd800 ∨ 0xdfff < character.toNat := by
    rcases character.valid with low | high
    · exact .inl low
    · exact .inr high.1
  rw [ofCode, dif_neg (by omega), Char.ofNat_toNat]

theorem ofCode_half (half : Fin 0x800) : ofCode (0xd800 + half.val) = .surrogate half := by
  have := half.isLt
  rw [ofCode, dif_pos (by omega)]
  simp

end CodePoint

abbrev PythonText := List CodePoint

namespace PythonText

open CodePoint

def ofChars (characters : List Char) : PythonText := characters.map .scalar

def ofString (text : String) : PythonText := ofChars text.toList

instance : Coe String PythonText := ⟨ofString⟩

/-- The text as a list of Unicode scalars, if it has no halves. -/
def toString? (text : PythonText) : Option String := (text.mapM char?).map String.ofList

@[simp]
theorem ofChars_nil : ofChars [] = [] := rfl

@[simp]
theorem ofChars_cons (character : Char) (characters : List Char) :
    ofChars (character :: characters) = .scalar character :: ofChars characters := rfl

@[simp]
theorem ofChars_append (left right : List Char) :
    ofChars (left ++ right) = ofChars left ++ ofChars right := List.map_append

@[simp]
theorem length_ofChars (characters : List Char) : (ofChars characters).length = characters.length :=
  List.length_map _

theorem ofString_injective : Function.Injective ofString := by
  intro left right same
  have characters := List.map_injective_iff.mpr (fun _ _ => CodePoint.scalar.inj) same
  exact String.toList_inj.mp characters

@[simp]
theorem ofString_inj {left right : String} : ofString left = ofString right ↔ left = right :=
  ofString_injective.eq_iff

@[simp]
theorem toString?_ofChars (characters : List Char) :
    toString? (ofChars characters) = some (String.ofList characters) := by
  have same : (ofChars characters).mapM char? = some characters := by
    induction characters with
    | nil => rfl
    | cons character characters ih => simp [char?, ih]
  rw [toString?, same, Option.map_some]

@[simp]
theorem toString?_ofString (text : String) : toString? (ofString text) = some text := by
  rw [ofString, toString?_ofChars, String.ofList_toList]

/-! ## Pairs of halves -/

/-- The text with a character for every two halves in a row that stand for one. -/
def joinPairs : PythonText → PythonText
  | [] => []
  | [last] => [last]
  | first :: second :: rest =>
      match pair? first second with
      | some character => .scalar character :: joinPairs rest
      | none => first :: joinPairs (second :: rest)

/-- No two halves in a row stand for a character. -/
def Unpaired (text : PythonText) : Prop := text.IsChain fun first second => pair? first second = none

theorem joinPairs_of_unpaired {text : PythonText} (unpaired : Unpaired text) :
    joinPairs text = text := by
  induction text with
  | nil => rfl
  | cons first rest ih =>
      cases rest with
      | nil => rfl
      | cons second rest =>
          obtain ⟨alone, later⟩ := List.isChain_cons_cons.mp unpaired
          rw [joinPairs, alone]
          exact congrArg _ (ih later)

/-- A joined text begins as the text does, or with a character. -/
theorem joinPairs_head (first : CodePoint) (rest : PythonText) :
    ∃ head more, joinPairs (first :: rest) = head :: more ∧
      ∀ before, pair? before first = none → pair? before head = none := by
  cases rest with
  | nil => exact ⟨first, [], rfl, fun _ alone => alone⟩
  | cons second rest =>
      rw [joinPairs]
      cases pair? first second with
      | some character => exact ⟨_, _, rfl, fun before _ => pair?_scalar before character⟩
      | none => exact ⟨_, _, rfl, fun _ alone => alone⟩

theorem unpaired_joinPairs (text : PythonText) : Unpaired (joinPairs text) := by
  induction text using joinPairs.induct with
  | case1 => exact .nil
  | case2 last => exact .singleton last
  | case3 first second rest character pair ih =>
      rw [joinPairs, pair]
      refine List.isChain_cons.mpr ⟨fun next _ => ?_, ih⟩
      cases next <;> rfl
  | case4 first second rest alone ih =>
      rw [joinPairs, alone]
      obtain ⟨head, more, shape, begins⟩ := joinPairs_head second rest
      rw [shape] at ih ⊢
      exact List.isChain_cons_cons.mpr ⟨begins first alone, ih⟩

theorem joinPairs_eq_self_iff {text : PythonText} : joinPairs text = text ↔ Unpaired text := by
  constructor
  · intro same
    rw [← same]
    exact unpaired_joinPairs text
  · exact joinPairs_of_unpaired

theorem unpaired_ofChars (characters : List Char) : Unpaired (ofChars characters) := by
  induction characters with
  | nil => exact .nil
  | cons character characters ih =>
      refine List.isChain_cons.mpr ⟨fun next _ => ?_, ih⟩
      cases next <;> rfl

theorem unpaired_ofString (text : String) : Unpaired (ofString text) := unpaired_ofChars _

@[simp]
theorem joinPairs_ofChars (characters : List Char) :
    joinPairs (ofChars characters) = ofChars characters :=
  joinPairs_of_unpaired (unpaired_ofChars characters)

@[simp]
theorem joinPairs_ofString (text : String) : joinPairs (ofString text) = ofString text :=
  joinPairs_ofChars _

/-! ## UTF-8 -/

/-- The six bits of a byte that goes on. -/
def sixBits? (byte : UInt8) : Option ℕ :=
  if 0x80 ≤ byte.toNat ∧ byte.toNat < 0xc0 then some (byte.toNat - 0x80) else none

/-- `bytes.decode("utf-8", "surrogatepass")`. -/
def utf8Decode? : List UInt8 → Option PythonText
  | [] => some []
  | first :: rest =>
      if first.toNat < 0x80 then (utf8Decode? rest).map (ofCode first.toNat :: ·)
      else
        match rest with
        | [] => none
        | second :: rest =>
            if first.toNat < 0xe0 then do
              let code := (first.toNat - 0xc0) * 0x40 + (← sixBits? second)
              if 0xc2 ≤ first.toNat then (utf8Decode? rest).map (ofCode code :: ·) else none
            else
              match rest with
              | [] => none
              | third :: rest =>
                  if first.toNat < 0xf0 then do
                    let code := (first.toNat - 0xe0) * 0x1000 + (← sixBits? second) * 0x40 +
                      (← sixBits? third)
                    if 0x800 ≤ code then (utf8Decode? rest).map (ofCode code :: ·) else none
                  else
                    match rest with
                    | [] => none
                    | fourth :: rest => do
                        let code := (first.toNat - 0xf0) * 0x40000 + (← sixBits? second) * 0x1000 +
                          (← sixBits? third) * 0x40 + (← sixBits? fourth)
                        if 0x10000 ≤ code ∧ code < 0x110000 then
                          (utf8Decode? rest).map (ofCode code :: ·)
                        else none

/-- Characters of ASCII have one byte each. -/
theorem utf8Decode?_ascii {characters : List Char}
    (ascii : ∀ character ∈ characters, character.toNat < 0x80) :
    utf8Decode? (characters.map fun character => character.val.toUInt8) =
      some (ofChars characters) := by
  induction characters with
  | nil => rfl
  | cons character characters ih =>
      have small := ascii character List.mem_cons_self
      have code : character.val.toUInt8.toNat = character.toNat := by
        rw [UInt32.toNat_toUInt8]
        exact Nat.mod_eq_of_lt (by unfold Char.toNat at small; omega)
      rw [List.map_cons, utf8Decode?.eq_def]
      simp only [code, if_pos small, ofCode_toNat,
        ih fun other member => ascii other (List.mem_cons_of_mem _ member), Option.map_some,
        ofChars_cons]

example : utf8Decode? [0xed, 0xa0, 0xbd, 0xed, 0xb8, 0x80] =
    some [.surrogate 0x3d, .surrogate 0x600] := by decide

end PythonText
