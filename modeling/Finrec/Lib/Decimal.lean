import Finrec.Lib.Digits
import Mathlib.Algebra.Order.Field.Rat
import Mathlib.Tactic.FieldSimp
import Mathlib.Tactic.Linarith
import Mathlib.Tactic.Push
import Mathlib.Tactic.Ring

/-!
# Finite decimal numbers

A decimal is an integer coefficient and a number of decimal places, as in the
`decimal` module of Python with its exponent at most zero.  Two decimals of
different places can denote the same number, so the numeric comparison
`Decimal.Same` is not equality of representations.  The plain text format is
the one of `format(value, "f")`.
-/

/-- A finite decimal number: `coefficient / 10 ^ places`. -/
structure Decimal where
  coefficient : ℤ
  places : ℕ
deriving DecidableEq, Repr

namespace Decimal

/-- The number a decimal denotes. -/
def value (number : Decimal) : ℚ :=
  (number.coefficient : ℚ) / (10 : ℚ) ^ number.places

/-- Numeric equality of two decimals, decided on integers. -/
def Same (left right : Decimal) : Prop :=
  left.coefficient * 10 ^ right.places = right.coefficient * 10 ^ left.places

instance (left right : Decimal) : Decidable (left.Same right) :=
  inferInstanceAs (Decidable (_ = _))

/-- The decimal with two places that denotes a number of hundredths. -/
def ofCents (cents : ℤ) : Decimal :=
  ⟨cents, 2⟩

/-- A decimal denotes exactly a given number of hundredths. -/
def IsCents (number : Decimal) (cents : ℤ) : Prop :=
  number.coefficient * 100 = cents * 10 ^ number.places

instance (number : Decimal) (cents : ℤ) : Decidable (number.IsCents cents) :=
  inferInstanceAs (Decidable (_ = _))

/-- Exact addition, at the larger number of places. -/
def add (left right : Decimal) : Decimal where
  coefficient :=
    left.coefficient * 10 ^ (max left.places right.places - left.places) +
      right.coefficient * 10 ^ (max left.places right.places - right.places)
  places := max left.places right.places

instance : Add Decimal := ⟨add⟩

/-- `quantize(Decimal("0.01"))` without its precision limit: hundredths, rounded half to even. -/
def roundedCents (number : Decimal) : ℤ :=
  if number.places ≤ 2 then number.coefficient * 10 ^ (2 - number.places)
  else
    let unit : ℤ := 10 ^ (number.places - 2)
    let floor := number.coefficient / unit
    let rest := number.coefficient % unit
    if 2 * rest < unit ∨ (2 * rest = unit ∧ floor % 2 = 0) then floor else floor + 1

/-- `Emax` of the default context. -/
def maxExponent : ℕ := 999999

/-- Rounded to 28 digits, half to even, the number is beyond the default context: an operation on it
signals `Overflow`. -/
def Overflows (number : Decimal) : Prop :=
  (2 * 10 ^ 28 - 1) * 10 ^ (maxExponent - 27 + number.places) ≤ 2 * number.coefficient.natAbs

theorem not_overflows_of_lt {number : Decimal} (small : number.coefficient.natAbs < 10 ^ 28) :
    ¬number.Overflows := by
  have positive : 10 ≤ 10 ^ (maxExponent - 27 + number.places) :=
    Nat.le_self_pow (by simp [maxExponent]) 10
  simp only [Overflows, not_le]
  generalize 10 ^ (maxExponent - 27 + number.places) = bound at positive
  omega

theorem overflows_of_le {number : Decimal}
    (large : 10 ^ (maxExponent + 1 + number.places) ≤ number.coefficient.natAbs) :
    number.Overflows := by
  have split : 10 ^ (maxExponent + 1 + number.places) =
      10 ^ 28 * 10 ^ (maxExponent - 27 + number.places) := by
    rw [← pow_add]
    congr 1
    unfold maxExponent
    omega
  rw [split] at large
  unfold Overflows
  generalize 10 ^ (maxExponent - 27 + number.places) = bound at large ⊢
  omega

instance (number : Decimal) : Decidable number.Overflows :=
  if small : number.coefficient.natAbs < 10 ^ 28 then isFalse (not_overflows_of_lt small)
  else inferInstanceAs (Decidable (_ ≤ _))

theorem ten_pow_ne_zero (exponent : ℕ) : ((10 : ℤ) ^ exponent) ≠ 0 := by
  positivity

theorem same_iff_value_eq {left right : Decimal} : left.Same right ↔ left.value = right.value := by
  unfold Same value
  rw [div_eq_div_iff (by positivity) (by positivity)]
  constructor
  · intro same
    exact_mod_cast same
  · intro same
    exact_mod_cast same

theorem isCents_iff_value_eq {number : Decimal} {cents : ℤ} :
    number.IsCents cents ↔ number.value = (cents : ℚ) / 100 := by
  unfold IsCents value
  rw [div_eq_div_iff (by positivity) (by norm_num)]
  constructor
  · intro exactly
    exact_mod_cast exactly
  · intro exactly
    exact_mod_cast exactly

@[simp]
theorem isCents_ofCents (cents : ℤ) : (ofCents cents).IsCents cents := by
  simp [IsCents, ofCents]

theorem value_add (left right : Decimal) : (left + right).value = left.value + right.value := by
  have leftPow : ((10 : ℚ) ^ (max left.places right.places)) =
      10 ^ (max left.places right.places - left.places) * 10 ^ left.places := by
    rw [← pow_add]
    congr 1
    omega
  have rightPow : ((10 : ℚ) ^ (max left.places right.places)) =
      10 ^ (max left.places right.places - right.places) * 10 ^ right.places := by
    rw [← pow_add]
    congr 1
    omega
  change ((add left right).coefficient : ℚ) / 10 ^ (add left right).places = _
  simp only [add, value]
  push_cast
  rw [add_div]
  congr 1
  · rw [leftPow]
    field_simp
  · rw [rightPow]
    field_simp

/-- A decimal that denotes a whole number of hundredths is rounded to just that number. -/
theorem roundedCents_eq {number : Decimal} {cents : ℤ} (exactly : number.IsCents cents) :
    number.roundedCents = cents := by
  unfold IsCents at exactly
  unfold roundedCents
  split
  · rename_i few
    have split100 : (100 : ℤ) = 10 ^ (2 - number.places) * 10 ^ number.places := by
      rw [← pow_add, show 2 - number.places + number.places = 2 by omega]
      norm_num
    rw [split100, ← mul_assoc] at exactly
    exact mul_right_cancel₀ (ten_pow_ne_zero number.places) exactly
  · rename_i many
    have splitPow : (10 : ℤ) ^ number.places = 10 ^ (number.places - 2) * 100 := by
      rw [show (100 : ℤ) = 10 ^ 2 by norm_num, ← pow_add,
        show number.places - 2 + 2 = number.places by omega]
    rw [splitPow, ← mul_assoc] at exactly
    have coefficientEq : number.coefficient = cents * 10 ^ (number.places - 2) :=
      mul_right_cancel₀ (by norm_num) exactly
    have unitPos : (0 : ℤ) < 10 ^ (number.places - 2) := by positivity
    have restZero : number.coefficient % 10 ^ (number.places - 2) = 0 := by
      rw [coefficientEq]
      exact Int.mul_emod_left _ _
    have floorEq : number.coefficient / 10 ^ (number.places - 2) = cents := by
      rw [coefficientEq]
      exact Int.mul_ediv_cancel _ unitPos.ne'
    simp [restZero, floorEq, unitPos]

/-- At most two places are always a whole number of hundredths. -/
theorem isCents_roundedCents {number : Decimal} (few : number.places ≤ 2) :
    number.IsCents number.roundedCents := by
  unfold IsCents roundedCents
  rw [if_pos few, mul_assoc, ← pow_add, show 2 - number.places + number.places = 2 by omega]
  norm_num

theorem isCents_add {left right : Decimal} {leftCents rightCents : ℤ}
    (leftIs : left.IsCents leftCents) (rightIs : right.IsCents rightCents) :
    (left + right).IsCents (leftCents + rightCents) := by
  rw [isCents_iff_value_eq] at leftIs rightIs ⊢
  rw [value_add, leftIs, rightIs]
  push_cast
  ring

theorem isCents_unique {number : Decimal} {cents cents' : ℤ} (isCents : number.IsCents cents)
    (isCents' : number.IsCents cents') : cents = cents' := by
  rw [← roundedCents_eq isCents, ← roundedCents_eq isCents']

/-- A decimal equals one that denotes a number of hundredths just when it denotes the same number. -/
theorem same_iff_isCents {left right : Decimal} {cents : ℤ} (isCents : left.IsCents cents) :
    left.Same right ↔ right.IsCents cents := by
  rw [same_iff_value_eq, isCents_iff_value_eq, ← isCents_iff_value_eq.mp isCents]
  exact eq_comm

/-- `format(value, "f")`. -/
def plain (number : Decimal) : List Char :=
  let magnitude := number.coefficient.natAbs
  let sign := if number.coefficient < 0 then ['-'] else []
  let fraction :=
    if number.places = 0 then []
    else '.' :: Digits.padded number.places (magnitude % 10 ^ number.places)
  sign ++ Digits.natural (magnitude / 10 ^ number.places) ++ fraction

/-- The unsigned number that a plain text denotes. -/
def ofUnsigned? (text : List Char) : Option (ℕ × ℕ) := do
  let whole ← Digits.number? (text.takeWhile Digits.isDigit)
  match text.dropWhile Digits.isDigit with
  | [] => some (whole, 0)
  | '.' :: fraction =>
      let part ← Digits.number? fraction
      some (whole * 10 ^ fraction.length + part, fraction.length)
  | _ => none

/-- `Decimal(text)` on the plain texts. -/
def ofPlain? (text : List Char) : Option Decimal :=
  match text with
  | '-' :: unsigned => (ofUnsigned? unsigned).map fun (magnitude, places) => ⟨-magnitude, places⟩
  | unsigned => (ofUnsigned? unsigned).map fun (magnitude, places) => ⟨magnitude, places⟩

theorem ofUnsigned?_plain (magnitude places : ℕ) :
    ofUnsigned? (Digits.natural (magnitude / 10 ^ places) ++
      if places = 0 then [] else '.' :: Digits.padded places (magnitude % 10 ^ places)) =
      some (magnitude, places) := by
  have stops : ∀ character ∈ (if places = 0 then [] else
      '.' :: Digits.padded places (magnitude % 10 ^ places)).head?,
      Digits.isDigit character = false := by
    split
    · simp
    · simp
      decide
  have digits : ∀ character ∈ Digits.natural (magnitude / 10 ^ places),
      Digits.isDigit character = true := fun _ member => Digits.isDigit_of_mem_natural member
  have spans := Digits.span_isDigit_append digits stops
  unfold ofUnsigned?
  rw [spans.1, spans.2, Digits.number?_natural]
  by_cases whole : places = 0
  · simp [whole]
  · simp only [whole, ↓reduceIte, Option.bind_eq_bind, Option.bind_some,
      Digits.number?_padded (Nat.mod_lt magnitude (by positivity)), Digits.length_padded,
      Option.some.injEq, Prod.mk.injEq, and_true]
    rw [mul_comm]
    exact Nat.div_add_mod magnitude (10 ^ places)

/-- The first character of an unsigned text is a digit. -/
theorem ofPlain?_unsigned {text : List Char} (notSigned : text.head? ≠ some '-') :
    ofPlain? text = (ofUnsigned? text).map fun (magnitude, places) => ⟨magnitude, places⟩ := by
  unfold ofPlain?
  split
  · simp at notSigned
  · rfl

theorem head?_natural_append_ne (value : ℕ) (rest : List Char) :
    (Digits.natural value ++ rest).head? ≠ some '-' := by
  intro signed
  rw [List.head?_append_of_ne_nil _ (Digits.natural_ne_nil value)] at signed
  have member := List.mem_of_mem_head? signed
  have := Digits.isDigit_of_mem_natural member
  revert this
  decide

/-- Reading a plain text gives back the decimal it was written from. -/
theorem ofPlain?_plain (number : Decimal) : ofPlain? number.plain = some number := by
  rcases number with ⟨coefficient, places⟩
  have unsigned := ofUnsigned?_plain coefficient.natAbs places
  unfold plain
  by_cases negative : coefficient < 0
  · simp only [negative, ↓reduceIte, List.cons_append, List.nil_append, ofPlain?]
    rw [unsigned]
    simp [abs_of_neg negative]
  · simp only [negative, ↓reduceIte, List.nil_append]
    rw [ofPlain?_unsigned (head?_natural_append_ne _ _), unsigned]
    simp [abs_of_nonneg (not_lt.mp negative)]

end Decimal
