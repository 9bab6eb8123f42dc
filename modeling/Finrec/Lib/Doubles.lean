import Mathlib.Data.Nat.Log
import Mathlib.Tactic.Linarith
import Mathlib.Tactic.Ring

/-!
# Quotients in floating point

The quotient of two natural numbers as a double: the closest number with 53
binary digits, the even one of two.  Every double is a multiple of the smallest
positive one, so a double is given here by that multiple and all rounding is
done on natural numbers.

A double is shown by the shortest decimal that reads as it.  A number of
hundredths, divided by a hundred, falls between doubles.  The quotient still
determines the hundredths while the doubles are less than a hundredth apart; of
two hundredths with one quotient beyond, the shorter text is shown, and of two
of one length the closer one.
-/

namespace Doubles

/-- The smallest positive double has this many binary places. -/
def places : ℕ :=
  1074

/-- The number one, in units of the smallest positive double. -/
def one : ℕ :=
  2 ^ places

/-- The natural number closest to a quotient, the even one of two. -/
def halfEven (numerator denominator : ℕ) : ℕ :=
  let floor := numerator / denominator
  let rest := numerator % denominator
  if 2 * rest < denominator ∨ (2 * rest = denominator ∧ floor % 2 = 0) then floor else floor + 1

/-- The distance between the doubles around a number of units. -/
def spacing (units : ℕ) : ℕ :=
  2 ^ (units.log2 - 52)

/-- `numerator / denominator`, in units. -/
def quotient (numerator denominator : ℕ) : ℕ :=
  let step := spacing (numerator * one / denominator)
  halfEven (numerator * one) (denominator * step) * step

/-- `Math.floor`. -/
def floor (units : ℕ) : ℕ :=
  units / one

/-! ## The shortest decimal -/

/-- The place of the first digit that a double can have, counted from that of the ones. -/
def topPlace : ℕ :=
  308

/-- A digit at a position, counted from the top place down, counts `up / down`. -/
def up (position : ℕ) : ℕ :=
  10 ^ (topPlace - position)

def down (position : ℕ) : ℕ :=
  10 ^ (position - topPlace)

/-- The decimal with its last digit at a position is read as the double. -/
def Reads (units position digits : ℕ) : Prop :=
  quotient (digits * up position) (down position) = units

instance (units position digits : ℕ) : Decidable (Reads units position digits) :=
  inferInstanceAs (Decidable (_ = _))

/-- The decimal below the double, with its last digit at a position. -/
def below (units position : ℕ) : ℕ :=
  units * down position / (one * up position)

/-- Of two neighbours those that qualify, and the closer one where both do. -/
def pick? (low high : Prop) [Decidable low] [Decidable high] (number closer : ℕ) : Option ℕ :=
  if low then if high then some closer else some number
  else if high then some (number + 1) else none

/-- The decimal with its last digit at a position that is read as the double: the closest one, the
even one of two. -/
def digitsAt? (units position : ℕ) : Option ℕ :=
  pick? (Reads units position (below units position)) (Reads units position (below units position + 1))
    (below units position) (halfEven (units * down position) (one * up position))

/-- The first position with a value, and the value. -/
def firstFrom? {α : Type} (value? : ℕ → Option α) : ℕ → ℕ → Option (α × ℕ)
  | 0, _ => none
  | fuel + 1, position =>
      match value? position with
      | some value => some (value, position)
      | none => firstFrom? value? fuel (position + 1)

/-- The shortest decimal that is read as the double, as `Number.prototype.toString` writes it: its
digits and the position of the last one.  A double has all its digits at the positions gone through,
so there is one. -/
def shortest (units : ℕ) : ℕ × ℕ :=
  (firstFrom? (digitsAt? units) (topPlace + places + 1) 0).getD (0, 0)

/-- The hundredths that a text with two decimals shows: those of the shortest decimal, rounded half
up. -/
def hundredths (units : ℕ) : ℕ :=
  (200 * ((shortest units).1 * up (shortest units).2) + down (shortest units).2) /
    (2 * down (shortest units).2)

theorem pick?_eq_some {low high : Prop} [Decidable low] [Decidable high] {number closer found : ℕ}
    (picked : pick? low high number closer = some found) :
    (low ∧ ¬high ∧ found = number) ∨ (¬low ∧ high ∧ found = number + 1) ∨
      (low ∧ high ∧ found = closer) := by
  rw [pick?] at picked
  split_ifs at picked with isLow isHigh isHigh
  · exact .inr (.inr ⟨isLow, isHigh, (Option.some.inj picked).symm⟩)
  · exact .inl ⟨isLow, isHigh, (Option.some.inj picked).symm⟩
  · exact .inr (.inl ⟨isLow, isHigh, (Option.some.inj picked).symm⟩)

theorem pick?_isSome {low high : Prop} [Decidable low] [Decidable high] (either : low ∨ high)
    (number closer : ℕ) : (pick? low high number closer).isSome := by
  rw [pick?]
  split_ifs with isLow isHigh isHigh
  · rfl
  · rfl
  · rfl
  · exact absurd either (not_or.mpr ⟨isLow, isHigh⟩)

theorem pick?_congr {low low' high high' : Prop} [Decidable low] [Decidable low'] [Decidable high]
    [Decidable high'] (sameLow : low ↔ low') (sameHigh : high ↔ high') {number closer : ℕ} :
    pick? low high number closer = pick? low' high' number closer := by
  simp only [pick?, sameLow, sameHigh]

/-- The search stops at the first position with a value. -/
theorem firstFrom?_spec {α : Type} {value? : ℕ → Option α} {fuel start position : ℕ}
    (inside : position < fuel) (found : (value? (start + position)).isSome) :
    ∃ first ≤ position, ∃ value, value? (start + first) = some value ∧
      firstFrom? value? fuel start = some (value, start + first) := by
  induction fuel generalizing start position with
  | zero => omega
  | succ fuel ih =>
      rw [firstFrom?]
      cases here : value? start with
      | some value => exact ⟨0, Nat.zero_le _, value, here, rfl⟩
      | none =>
          cases position with
          | zero =>
              rw [Nat.add_zero, here] at found
              cases found
          | succ position =>
              have moved (steps : ℕ) : start + (steps + 1) = start + 1 + steps := by omega
              rw [moved position] at found
              rcases ih (by omega) found with ⟨first, early, value, isValue, stops⟩
              refine ⟨first + 1, by omega, value, ?_, ?_⟩
              · rw [moved first]
                exact isValue
              · rw [moved first]
                exact stops

/-! ## Rounding -/

theorem one_pos : 0 < one :=
  Nat.two_pow_pos _

theorem spacing_pos (units : ℕ) : 0 < spacing units :=
  Nat.two_pow_pos _

theorem div_le_halfEven (numerator denominator : ℕ) :
    numerator / denominator ≤ halfEven numerator denominator := by
  simp only [halfEven]
  split
  · exact le_rfl
  · exact Nat.le_succ _

/-- Rounding moves a quotient by at most a half. -/
theorem halfEven_near (numerator : ℕ) {denominator : ℕ} (positive : 0 < denominator) :
    2 * numerator ≤ 2 * (denominator * halfEven numerator denominator) + denominator ∧
      2 * (denominator * halfEven numerator denominator) ≤ 2 * numerator + denominator := by
  have division := Nat.div_add_mod numerator denominator
  have rest := Nat.mod_lt numerator positive
  simp only [halfEven]
  split
  · constructor <;> omega
  · rw [Nat.mul_succ]
    constructor <;> omega

theorem spacing_le {units digits : ℕ} (small : units < 2 ^ (digits + 53)) :
    spacing units ≤ 2 ^ digits := by
  apply Nat.pow_le_pow_right (by omega)
  by_cases zero : units = 0
  · simp [zero]
  · have bound := (Nat.log2_lt zero).mpr small
    omega

theorem spacing_eq {units digits : ℕ} (large : 2 ^ (digits + 52) ≤ units)
    (small : units < 2 ^ (digits + 53)) : spacing units = 2 ^ digits := by
  have nonzero : units ≠ 0 := by
    have := Nat.two_pow_pos (digits + 52)
    omega
  have upper := (Nat.log2_lt nonzero).mpr small
  have lower := (Nat.le_log2 nonzero).mpr large
  rw [spacing]
  congr 1
  omega

section Hundredths

variable {cents step : ℕ}

/-- A quotient by a hundred is off by at most half the spacing of the doubles. -/
theorem quotient_near (cents : ℕ) :
    cents * one ≤ 100 * quotient cents 100 + 50 * spacing (cents * one / 100) ∧
      100 * quotient cents 100 ≤ cents * one + 50 * spacing (cents * one / 100) := by
  have near := halfEven_near (cents * one)
    (Nat.mul_pos (by omega : 0 < 100) (spacing_pos (cents * one / 100)))
  have product : 100 * spacing (cents * one / 100) *
      halfEven (cents * one) (100 * spacing (cents * one / 100)) = 100 * quotient cents 100 := by
    simp only [quotient]
    ring
  rw [product] at near
  omega

theorem one_eq {digits : ℕ} (fewer : digits ≤ places) :
    one = 2 ^ digits * 2 ^ (places - digits) := by
  rw [← pow_add, one]
  congr 1
  omega

theorem one_eq_mul (digits : ℕ) : 2 ^ digits * one = 2 ^ (digits + places) := by
  rw [one, ← pow_add]

/-- The units of a quotient by a hundred, rounded down. -/
theorem units_lt {digits : ℕ} (small : cents < 100 * 2 ^ digits) :
    cents * one / 100 < 2 ^ (digits + places) := by
  rw [Nat.div_lt_iff_lt_mul (by omega), ← one_eq_mul]
  calc
    cents * one < 100 * 2 ^ digits * one := Nat.mul_lt_mul_of_pos_right small one_pos
    _ = 2 ^ digits * one * 100 := by ring

/-- Hundredths below `100 * 2 ^ 47` have doubles at most a sixty-fourth apart. -/
theorem spacing_le_of_safe (safe : cents < 100 * 2 ^ 47) :
    spacing (cents * one / 100) ≤ 2 ^ (places - 6) := by
  have exponent : 47 + places = places - 6 + 53 := by decide
  exact spacing_le (exponent ▸ units_lt safe)

/-- The spacing of doubles below a power of two divides one. -/
theorem spacing_dvd_one (safe : cents < 100 * 2 ^ 47) :
    spacing (cents * one / 100) ∣ one := by
  have step := spacing_le_of_safe safe
  have fewer : (cents * one / 100).log2 - 52 ≤ places - 6 :=
    (Nat.pow_le_pow_iff_right (by omega)).mp step
  exact Nat.pow_dvd_pow 2 (by omega)

/-- The whole part of a quotient by a hundred is exact. -/
theorem floor_quotient (safe : cents < 100 * 2 ^ 47) : floor (quotient cents 100) = cents / 100 := by
  have step := spacing_le_of_safe safe
  have near := (quotient_near cents).2
  have sixtyfour : one = 2 ^ 6 * 2 ^ (places - 6) := one_eq (by decide)
  have positive := one_pos
  have division := Nat.div_add_mod cents 100
  have rest := Nat.mod_lt cents (by omega : 0 < 100)
  rw [floor]
  apply Nat.div_eq_of_lt_le
  · -- a whole number is a double, so rounding does not fall below it
    rcases spacing_dvd_one safe with ⟨parts, oneEq⟩
    calc
      cents / 100 * one = cents / 100 * parts * spacing (cents * one / 100) := by
        rw [mul_assoc, mul_comm parts, ← oneEq]
      _ ≤ halfEven (cents * one) (100 * spacing (cents * one / 100)) *
          spacing (cents * one / 100) := by
        apply Nat.mul_le_mul_right
        apply le_trans _ (div_le_halfEven _ _)
        rw [Nat.le_div_iff_mul_le (Nat.mul_pos (by omega) (spacing_pos _))]
        calc
          cents / 100 * parts * (100 * spacing (cents * one / 100)) =
              100 * (cents / 100) * (spacing (cents * one / 100) * parts) := by ring
          _ ≤ cents * one := by
            rw [← oneEq]
            apply Nat.mul_le_mul_right
            omega
  · have scaled : cents * one ≤ (100 * (cents / 100) + 99) * one := by
      apply Nat.mul_le_mul_right
      omega
    have expanded : (100 * (cents / 100) + 99) * one = 100 * (cents / 100 * one) + 99 * one := by
      ring
    have goal : (cents / 100 + 1) * one = cents / 100 * one + one := by ring
    rw [goal]
    omega

/-- Rounding loses the common factor of numerator and denominator. -/
theorem halfEven_mul {numerator denominator factor : ℕ} (positive : 0 < factor) :
    halfEven (numerator * factor) (denominator * factor) = halfEven numerator denominator := by
  simp only [halfEven, Nat.mul_div_mul_right _ _ positive, Nat.mul_mod_mul_right]
  have less : 2 * (numerator % denominator * factor) < denominator * factor ↔
      2 * (numerator % denominator) < denominator := by
    rw [← mul_assoc]
    exact Nat.mul_lt_mul_right positive
  have same : 2 * (numerator % denominator * factor) = denominator * factor ↔
      2 * (numerator % denominator) = denominator := by
    rw [← mul_assoc]
    exact Nat.mul_left_inj positive.ne'
  simp only [less, same]

/-- Hundredths from `100 * 2 ^ 46` on are rounded to sixty-fourths. -/
theorem quotient_of_large (large : 100 * 2 ^ 46 ≤ cents) (safe : cents < 100 * 2 ^ 47) :
    quotient cents 100 = halfEven (16 * cents) 25 * 2 ^ (places - 6) := by
  have lower : 2 ^ (46 + places) ≤ cents * one / 100 := by
    rw [Nat.le_div_iff_mul_le (by omega), ← one_eq_mul]
    calc
      2 ^ 46 * one * 100 = 100 * 2 ^ 46 * one := by ring
      _ ≤ cents * one := Nat.mul_le_mul_right one large
  have lowerExponent : 46 + places = places - 6 + 52 := by decide
  have upperExponent : 47 + places = places - 6 + 53 := by decide
  have step : spacing (cents * one / 100) = 2 ^ (places - 6) :=
    spacing_eq (lowerExponent ▸ lower) (upperExponent ▸ units_lt safe)
  have sixtyfour : one = 2 ^ 6 * 2 ^ (places - 6) := one_eq (by decide)
  have factor : 0 < 4 * 2 ^ (places - 6) := Nat.mul_pos (by omega) (Nat.two_pow_pos _)
  have numerator : cents * one = 16 * cents * (4 * 2 ^ (places - 6)) := by
    rw [sixtyfour]
    ring
  have denominator : 100 * 2 ^ (places - 6) = 25 * (4 * 2 ^ (places - 6)) := by ring
  rw [quotient, step, numerator, denominator, halfEven_mul factor]

/-- A quotient depends on the ratio alone. -/
theorem quotient_mul {numerator denominator factor : ℕ} (positive : 0 < factor) :
    quotient (numerator * factor) (denominator * factor) = quotient numerator denominator := by
  have scaled : numerator * factor * one = numerator * one * factor := mul_right_comm ..
  simp only [quotient, scaled, Nat.mul_div_mul_right _ _ positive]
  generalize spacing (numerator * one / denominator) = step
  rw [mul_right_comm denominator, halfEven_mul positive]

theorem halfEven_cases (numerator denominator : ℕ) :
    halfEven numerator denominator = numerator / denominator ∨
      halfEven numerator denominator = numerator / denominator + 1 := by
  simp only [halfEven]
  split
  · exact .inl rfl
  · exact .inr rfl

/-! ### Digits -/

section Digits

variable {units position digits : ℕ}

theorem up_pos (position : ℕ) : 0 < up position :=
  Nat.pow_pos (by omega)

theorem down_pos (position : ℕ) : 0 < down position :=
  Nat.pow_pos (by omega)

theorem eq_below_or (least : digits * (one * up position) < units * down position + one * up position)
    (most : units * down position < (digits + 1) * (one * up position)) :
    digits = below units position ∨ digits = below units position + 1 := by
  have positive : 0 < one * up position := Nat.mul_pos one_pos (up_pos position)
  have atMost : below units position < digits + 1 := (Nat.div_lt_iff_lt_mul positive).mpr most
  have remainder := Nat.lt_div_mul_add positive (a := units * down position)
  have atLeast : digits < below units position + 2 := by
    apply Nat.lt_of_mul_lt_mul_right (a := one * up position)
    calc
      digits * (one * up position) < units * down position + one * up position := least
      _ < below units position * (one * up position) + one * up position + one * up position := by
        exact Nat.add_lt_add_right remainder _
      _ = (below units position + 2) * (one * up position) := by ring
  omega

theorem digitsAt?_eq_some (found : digitsAt? units position = some digits) :
    Reads units position digits := by
  rw [digitsAt?] at found
  rcases pick?_eq_some found with ⟨reads, -, isBelow⟩ | ⟨-, reads, isAbove⟩ | ⟨low, high, isClosest⟩
  · rw [isBelow]
    exact reads
  · rw [isAbove]
    exact reads
  · rcases halfEven_cases (units * down position) (one * up position) with same | same
    · rw [isClosest, same]
      exact low
    · rw [isClosest, same]
      exact high

theorem digitsAt?_isSome (reads : Reads units position digits)
    (near : digits = below units position ∨ digits = below units position + 1) :
    (digitsAt? units position).isSome := by
  rw [digitsAt?]
  apply pick?_isSome
  rcases near with rfl | rfl
  · exact .inl reads
  · exact .inr reads

theorem shortest_spec (inside : position ≤ topPlace + places)
    (found : (digitsAt? units position).isSome) :
    (shortest units).2 ≤ position ∧
      digitsAt? units (shortest units).2 = some (shortest units).1 := by
  have started : (digitsAt? units (0 + position)).isSome := by
    rw [Nat.zero_add]
    exact found
  rcases firstFrom?_spec (Nat.lt_succ_of_le inside) started with ⟨first, early, value, here, stops⟩
  rw [Nat.zero_add] at here stops
  rw [shortest, stops]
  exact ⟨early, here⟩

theorem up_mul_hundred (coarse : position ≤ topPlace + 2) :
    up position * 100 = 10 ^ (topPlace + 2 - position) * down position := by
  have exponents : topPlace - position + 2 = topPlace + 2 - position + (position - topPlace) := by
    omega
  calc
    up position * 100 = 10 ^ (topPlace - position) * 10 ^ 2 := by norm_num [up]
    _ = 10 ^ (topPlace - position + 2) := (pow_add ..).symm
    _ = 10 ^ (topPlace + 2 - position) * down position := by rw [exponents, pow_add, down]

/-- A decimal with at most two decimals is a number of hundredths. -/
theorem reads_iff (coarse : position ≤ topPlace + 2) :
    Reads units position digits ↔ quotient (digits * 10 ^ (topPlace + 2 - position)) 100 = units := by
  have numerator : digits * up position * 100 =
      digits * 10 ^ (topPlace + 2 - position) * down position := by
    rw [mul_assoc, up_mul_hundred coarse, mul_assoc]
  rw [Reads, ← quotient_mul (by omega : 0 < 100), numerator, mul_comm (down position) 100,
    quotient_mul (down_pos position)]

theorem hundredths_of_coarse (coarse : (shortest units).2 ≤ topPlace + 2) :
    hundredths units = (shortest units).1 * 10 ^ (topPlace + 2 - (shortest units).2) := by
  have positive := down_pos (shortest units).2
  have numerator : 200 * ((shortest units).1 * up (shortest units).2) =
      (shortest units).1 * 10 ^ (topPlace + 2 - (shortest units).2) *
        (2 * down (shortest units).2) := by
    calc
      200 * ((shortest units).1 * up (shortest units).2) =
          2 * (shortest units).1 * (up (shortest units).2 * 100) := by ring
      _ = _ := by
        rw [up_mul_hundred coarse]
        ring
  rw [hundredths, numerator, mul_comm, Nat.mul_add_div (by omega),
    Nat.div_eq_of_lt (by omega : down (shortest units).2 < 2 * down (shortest units).2), Nat.add_zero]

end Digits

/-! ### Hundredths with one quotient -/

/-- Doubles are far denser than their size. -/
theorem spacing_fine (units : ℕ) : spacing units = 1 ∨ 2 ^ 52 * spacing units ≤ units := by
  by_cases zero : units = 0
  · left
    rw [zero]
    decide
  · by_cases large : 52 ≤ units.log2
    · right
      rw [spacing, ← pow_add, Nat.add_sub_cancel' large]
      exact Nat.log2_self_le zero
    · left
      rw [spacing, Nat.sub_eq_zero_of_le (by omega), pow_zero]

/-- The quotient of safe hundredths is off by less than a hundredth. -/
theorem quotient_close (safe : cents < 100 * 2 ^ 47) :
    cents * one < 100 * quotient cents 100 + one ∧
      100 * quotient cents 100 < cents * one + one := by
  have step := spacing_le_of_safe safe
  have near := quotient_near cents
  have sixtyfour : one = 2 ^ 6 * 2 ^ (places - 6) := one_eq (by decide)
  have positive := one_pos
  omega

variable {others : ℕ}

/-- Hundredths with the quotient of safe ones are safe too. -/
theorem safe_of_same (safe : cents < 2 ^ 53) (same : quotient others 100 = quotient cents 100) :
    others < 100 * 2 ^ 47 := by
  have near := (quotient_near others).1
  have close := (quotient_close (by omega : cents < 100 * 2 ^ 47)).2
  have positive : 2 ^ 10 ≤ one := Nat.pow_le_pow_right (by omega) (by decide)
  rw [same] at near
  have fine := spacing_fine (others * one / 100)
  have divided := Nat.div_mul_le_self (others * one) 100
  by_contra large
  have scaled := Nat.mul_le_mul_right one (not_lt.mp large)
  have small := Nat.mul_le_mul_right one safe.le
  generalize spacing (others * one / 100) = step at near fine
  generalize others * one / 100 = quotient at fine divided
  generalize others * one = numerator at near divided scaled
  generalize cents * one = limit at close small
  generalize one = whole at close positive scaled small
  omega

theorem div_eq_of_same (safe : cents < 2 ^ 53) (same : quotient others 100 = quotient cents 100) :
    others / 100 = cents / 100 := by
  rw [← floor_quotient (safe_of_same safe same), same, floor_quotient (by omega)]

/-- Hundredths below `100 * 2 ^ 46` have quotients of their own. -/
theorem eq_of_same (small : cents < 100 * 2 ^ 46)
    (same : quotient others 100 = quotient cents 100) : others = cents := by
  have floors := div_eq_of_same (by omega) same
  have exponent : 46 + places = places - 7 + 53 := by decide
  have fine : one = 2 ^ 7 * 2 ^ (places - 7) := one_eq (by decide)
  have step : spacing (cents * one / 100) ≤ 2 ^ (places - 7) :=
    spacing_le (exponent ▸ units_lt small)
  have stepOther : spacing (others * one / 100) ≤ 2 ^ (places - 7) :=
    spacing_le (exponent ▸ units_lt (by omega))
  have near := quotient_near cents
  have nearOther := quotient_near others
  have positive := one_pos
  rw [same] at nearOther
  rcases lt_trichotomy others cents with less | equal | more
  · have scaled : (others + 1) * one ≤ cents * one := Nat.mul_le_mul_right one less
    rw [Nat.add_mul, Nat.one_mul] at scaled
    omega
  · exact equal
  · have scaled : (cents + 1) * one ≤ others * one := Nat.mul_le_mul_right one more
    rw [Nat.add_mul, Nat.one_mul] at scaled
    omega

theorem halfEven_sixteen (cents : ℕ) : halfEven (16 * cents) 25 = (16 * cents + 12) / 25 := by
  simp only [halfEven]
  split <;> omega

/-- Larger hundredths share their quotient just when they are rounded to one sixty-fourth. -/
theorem same_iff (large : 100 * 2 ^ 46 ≤ cents) (safe : cents < 2 ^ 53) :
    quotient others 100 = quotient cents 100 ↔
      (16 * others + 12) / 25 = (16 * cents + 12) / 25 := by
  have positive : 0 < 2 ^ (places - 6) := Nat.two_pow_pos _
  constructor
  · intro same
    have floors := div_eq_of_same safe same
    rw [quotient_of_large (by omega) (by omega), quotient_of_large large (by omega)] at same
    rw [← halfEven_sixteen, ← halfEven_sixteen]
    exact Nat.eq_of_mul_eq_mul_right positive same
  · intro same
    by_cases low : others < 100 * 2 ^ 46
    · omega
    · rw [quotient_of_large (by omega) (by omega), quotient_of_large large (by omega),
        halfEven_sixteen, halfEven_sixteen, same]

/-! ### What is shown -/

theorem hundredths_inside : topPlace + 2 ≤ topPlace + places := by
  decide

theorem tenths_inside : topPlace + 1 ≤ topPlace + places := by
  decide

/-- The place of the hundredths. -/
theorem digitsAt?_hundredths (safe : cents < 2 ^ 53) :
    (digitsAt? (quotient cents 100) (topPlace + 2)).isSome := by
  have close := quotient_close (by omega : cents < 100 * 2 ^ 47)
  have ups : up (topPlace + 2) = 1 := rfl
  have downs : down (topPlace + 2) = 100 := rfl
  apply @digitsAt?_isSome _ _ cents
  · rw [Reads, ups, downs, Nat.mul_one]
  · apply eq_below_or
    · rw [ups, downs, Nat.mul_one]
      omega
    · rw [ups, downs, Nat.mul_one, Nat.add_mul]
      omega

/-- The shortest decimal of a quotient is a number of hundredths with that quotient. -/
theorem quotient_hundredths (safe : cents < 2 ^ 53) :
    (shortest (quotient cents 100)).2 ≤ topPlace + 2 ∧
      quotient (hundredths (quotient cents 100)) 100 = quotient cents 100 := by
  rcases shortest_spec hundredths_inside (digitsAt?_hundredths safe) with ⟨coarse, digits⟩
  refine ⟨coarse, ?_⟩
  rw [hundredths_of_coarse coarse]
  exact (reads_iff coarse).mp (digitsAt?_eq_some digits)

/-- Hundredths below `100 * 2 ^ 46` are shown as they are. -/
theorem hundredths_quotient (small : cents < 100 * 2 ^ 46) :
    hundredths (quotient cents 100) = cents :=
  eq_of_same small (quotient_hundredths (by omega)).2

/-- Tenths with the same quotient come before the hundredths. -/
theorem digitsAt?_tenths {tenths : ℕ} (safe : cents < 2 ^ 53)
    (same : quotient (tenths * 10) 100 = quotient cents 100) :
    (digitsAt? (quotient cents 100) (topPlace + 1)).isSome := by
  have close := quotient_close (safe_of_same safe same)
  rw [same] at close
  have ups : up (topPlace + 1) = 1 := rfl
  have downs : down (topPlace + 1) = 10 := rfl
  have split : tenths * 10 * one = 10 * (tenths * one) := by ring
  apply @digitsAt?_isSome _ _ tenths
  · exact (reads_iff (Nat.le_succ _)).mpr same
  · apply eq_below_or
    · rw [ups, downs, Nat.mul_one]
      omega
    · rw [ups, downs, Nat.mul_one, Nat.add_mul]
      omega

/-- A shortest decimal with fewer than two decimals is a number of tenths, and else there are no
tenths with the quotient. -/
theorem tenths_or (safe : cents < 2 ^ 53) :
    hundredths (quotient cents 100) % 10 = 0 ∨
      (∀ others, quotient others 100 = quotient cents 100 → others % 10 ≠ 0) ∧
        digitsAt? (quotient cents 100) (topPlace + 2) =
          some (hundredths (quotient cents 100)) := by
  have coarse := (quotient_hundredths safe).1
  have shown := hundredths_of_coarse coarse
  by_cases few : (shortest (quotient cents 100)).2 ≤ topPlace + 1
  · left
    have exponent : topPlace + 2 - (shortest (quotient cents 100)).2 =
        topPlace + 1 - (shortest (quotient cents 100)).2 + 1 := by omega
    rw [shown, exponent, pow_succ, ← mul_assoc, Nat.mul_mod_left]
  · right
    have last : (shortest (quotient cents 100)).2 = topPlace + 2 := by omega
    constructor
    · intro others same tenths
      have whole : others / 10 * 10 = others := by omega
      rw [← whole] at same
      exact few (shortest_spec tenths_inside (digitsAt?_tenths safe same)).1
    · have stops := (shortest_spec hundredths_inside (digitsAt?_hundredths safe)).2
      rw [last, Nat.sub_self, pow_zero, Nat.mul_one] at shown
      rw [last] at stops
      rw [stops, shown]

/-- The hundredths that are rounded to a number of sixty-fourths. -/
def Rounds (cents sixtyfourths : ℕ) : Prop :=
  25 * sixtyfourths ≤ 16 * cents + 12 ∧ 16 * cents + 12 < 25 * sixtyfourths + 25

instance (cents sixtyfourths : ℕ) : Decidable (Rounds cents sixtyfourths) :=
  inferInstanceAs (Decidable (_ ∧ _))

/-- Of two neighbouring hundredths with one quotient the closer ones are shown. -/
theorem closer_of_large (large : 100 * 2 ^ 46 ≤ cents) (safe : cents < 2 ^ 53) {shown m : ℕ}
    (rounded : (16 * cents + 12) / 25 = m)
    (found : digitsAt? (quotient cents 100) (topPlace + 2) = some shown) :
    pick? (Rounds (25 * m / 16) m) (Rounds (25 * m / 16 + 1) m) (25 * m / 16) (halfEven (25 * m) 16) =
      some shown := by
  have units : quotient cents 100 = m * 2 ^ (places - 6) := by
    rw [quotient_of_large large (by omega), halfEven_sixteen, rounded]
  have ups : up (topPlace + 2) = 1 := rfl
  have downs : down (topPlace + 2) = 100 := rfl
  have sixtyfour : one = 16 * (4 * 2 ^ (places - 6)) := by
    rw [one_eq (by decide : 6 ≤ places)]
    ring
  have factor : 0 < 4 * 2 ^ (places - 6) := Nat.mul_pos (by omega) (Nat.two_pow_pos _)
  have numerator : quotient cents 100 * 100 = 25 * m * (4 * 2 ^ (places - 6)) := by
    rw [units]
    ring
  have low : below (quotient cents 100) (topPlace + 2) = 25 * m / 16 := by
    rw [below, ups, downs, Nat.mul_one, numerator, sixtyfour, Nat.mul_div_mul_right _ _ factor]
  have closer : halfEven (quotient cents 100 * down (topPlace + 2)) (one * up (topPlace + 2)) =
      halfEven (25 * m) 16 := by
    rw [ups, downs, Nat.mul_one, numerator, sixtyfour, halfEven_mul factor]
  have reads (others : ℕ) : Reads (quotient cents 100) (topPlace + 2) others ↔ Rounds others m := by
    rw [reads_iff le_rfl, Nat.sub_self, pow_zero, Nat.mul_one, same_iff large safe, rounded, Rounds]
    omega
  rw [digitsAt?, low, closer] at found
  rw [← found]
  exact pick?_congr (reads _).symm (reads _).symm

/-- Hundredths that keep their text where doubles are a sixty-fourth apart: those without a neighbour
of the same quotient, whole tenths, and of two neighbours none of which are tenths the closer
ones. -/
def Prevails (cents : ℕ) : Prop :=
  cents % 10 = 0 ∨ (16 * cents % 25 ≤ 7 ∧ (cents % 10 = 1 → 16 * cents % 25 ≤ 3)) ∨
    (18 ≤ 16 * cents % 25 ∧ (cents % 10 = 9 → 22 ≤ 16 * cents % 25)) ∨
    ((16 * cents % 25 = 8 ∨ 16 * cents % 25 = 17) ∧ cents % 2 = 0)

instance (cents : ℕ) : Decidable (Prevails cents) :=
  inferInstanceAs (Decidable (_ ∨ _))

section Neighbours

variable {shown m : ℕ}

/-- The residue is the distance from the sixty-fourths. -/
theorem Rounds.residue (rounds : Rounds cents m) :
    (25 * m ≤ 16 * cents ∧ 16 * cents % 25 = 16 * cents - 25 * m) ∨
      (16 * cents < 25 * m ∧ 16 * cents % 25 = 16 * cents + 25 - 25 * m) := by
  rw [Rounds] at rounds
  omega

theorem prevails_of_tenths (own : Rounds cents m) (other : Rounds shown m)
    (tenths : shown % 10 = 0) : shown = cents ↔ Prevails cents := by
  rw [Prevails]
  rcases own.residue with ⟨side, residue⟩ | ⟨side, residue⟩
  all_goals
    rw [residue]
    rw [Rounds] at own other
    rcases (by omega : shown = cents ∨ shown = cents + 1 ∨ shown + 1 = cents) with same | after | before
    · omega
    · omega
    · omega

variable {floor : ℕ}

/-- Hundredths below the sixty-fourths that the ones above are not rounded to. -/
theorem prevails_of_below (own : Rounds cents m) (side : 16 * cents ≤ 25 * m)
    (alone : ¬Rounds (cents + 1) m) : Prevails cents := by
  have residue := own.residue
  rw [Rounds] at own alone
  have extreme : 16 * cents % 25 = 0 ∨ 22 ≤ 16 * cents % 25 := by
    generalize 16 * cents % 25 = rest at residue ⊢
    omega
  rw [Prevails]
  rcases extreme with zero | large
  · exact .inr (.inl ⟨by omega, by omega⟩)
  · exact .inr (.inr (.inl ⟨by omega, fun _ => large⟩))

theorem prevails_of_above (own : Rounds (cents + 1) m) (side : 25 * m < 16 * (cents + 1))
    (alone : ¬Rounds cents m) : Prevails (cents + 1) := by
  have residue := own.residue
  rw [Rounds] at own alone
  have small : 16 * (cents + 1) % 25 ≤ 3 := by
    generalize 16 * (cents + 1) % 25 = rest at residue ⊢
    omega
  rw [Prevails]
  exact .inr (.inl ⟨by omega, fun _ => small⟩)

/-- The lower of two neighbours prevails when it is closer. -/
theorem prevails_lower_iff (low : Rounds floor m) (high : Rounds (floor + 1) m)
    (lower : floor % 10 ≠ 0) (upper : (floor + 1) % 10 ≠ 0) :
    Prevails floor ↔ 2 * (25 * m - 16 * floor) < 16 ∨
      (2 * (25 * m - 16 * floor) = 16 ∧ floor % 2 = 0) := by
  have residue := low.residue
  have notLast : floor % 10 ≠ 9 := by omega
  rw [Rounds] at low high
  have gap : 4 ≤ 25 * m - 16 * floor ∧ 25 * m - 16 * floor ≤ 12 ∧
      16 * floor % 25 = 25 - (25 * m - 16 * floor) := by
    generalize 16 * floor % 25 = rest at residue ⊢
    omega
  rw [Prevails]
  generalize 16 * floor % 25 = rest at gap ⊢
  generalize 25 * m - 16 * floor = distance at gap ⊢
  rcases gap with ⟨least, most, rfl⟩
  simp only [lower, notLast, false_or, false_imp_iff, and_true]
  clear residue low high lower upper notLast
  omega

theorem prevails_upper_iff (low : Rounds floor m) (high : Rounds (floor + 1) m)
    (lower : floor % 10 ≠ 0) (upper : (floor + 1) % 10 ≠ 0) :
    Prevails (floor + 1) ↔ ¬(2 * (25 * m - 16 * floor) < 16 ∨
      (2 * (25 * m - 16 * floor) = 16 ∧ floor % 2 = 0)) := by
  have residue := high.residue
  have notFirst : (floor + 1) % 10 ≠ 1 := by omega
  rw [Rounds] at low high
  have gap : 4 ≤ 25 * m - 16 * floor ∧ 25 * m - 16 * floor ≤ 12 ∧
      16 * (floor + 1) % 25 = 16 - (25 * m - 16 * floor) := by
    generalize 16 * (floor + 1) % 25 = rest at residue ⊢
    omega
  rw [Prevails]
  generalize 16 * (floor + 1) % 25 = rest at gap ⊢
  generalize 25 * m - 16 * floor = distance at gap ⊢
  rcases gap with ⟨least, most, rfl⟩
  simp only [upper, notFirst, false_or, false_imp_iff, and_true]
  clear residue low high lower upper notFirst
  omega

theorem prevails_of_picked (own : Rounds cents m)
    (noTenths : ∀ others, Rounds others m → others % 10 ≠ 0)
    (picked : pick? (Rounds (25 * m / 16) m) (Rounds (25 * m / 16 + 1) m) (25 * m / 16)
      (halfEven (25 * m) 16) = some shown) : shown = cents ↔ Prevails cents := by
  have rest : 25 * m % 16 = 25 * m - 16 * (25 * m / 16) := by omega
  have floored : 16 * (25 * m / 16) ≤ 25 * m ∧ 25 * m < 16 * (25 * m / 16) + 16 := by omega
  have neighbour : cents = 25 * m / 16 ∨ cents = 25 * m / 16 + 1 := by
    rw [Rounds] at own
    omega
  have cases := pick?_eq_some picked
  simp only [halfEven, rest] at cases
  generalize 25 * m / 16 = floor at cases floored neighbour
  rcases cases with ⟨low, high, isLow⟩ | ⟨low, high, isHigh⟩ | ⟨low, high, isCloser⟩
  · rcases neighbour with rfl | rfl
    · exact iff_of_true isLow (prevails_of_below own floored.1 high)
    · exact absurd own high
  · rcases neighbour with rfl | rfl
    · exact absurd own low
    · exact iff_of_true isHigh (prevails_of_above own floored.2 low)
  · have lower := prevails_lower_iff low high (noTenths _ low) (noTenths _ high)
    have upper := prevails_upper_iff low high (noTenths _ low) (noTenths _ high)
    split_ifs at isCloser with closer
    · rcases neighbour with rfl | rfl
      · exact iff_of_true isCloser (lower.mpr closer)
      · exact iff_of_false (by omega) (fun prevails => upper.mp prevails closer)
    · rcases neighbour with rfl | rfl
      · exact iff_of_false (by omega) (fun prevails => closer (lower.mp prevails))
      · exact iff_of_true isCloser (upper.mpr closer)

end Neighbours

/-- The safe hundredths that are shown as they are. -/
theorem hundredths_quotient_iff (safe : cents < 2 ^ 53) :
    hundredths (quotient cents 100) = cents ↔ cents < 100 * 2 ^ 46 ∨ Prevails cents := by
  by_cases small : cents < 100 * 2 ^ 46
  · simp only [hundredths_quotient small, small, true_or]
  · simp only [small, false_or]
    have large : 100 * 2 ^ 46 ≤ cents := not_lt.mp small
    have reads (others : ℕ) : quotient others 100 = quotient cents 100 ↔
        Rounds others ((16 * cents + 12) / 25) := by
      rw [same_iff large safe, Rounds]
      omega
    have own := (reads cents).mp rfl
    rcases tenths_or safe with tenths | ⟨noTenths, digits⟩
    · exact prevails_of_tenths own ((reads _).mp (quotient_hundredths safe).2) tenths
    · exact prevails_of_picked own (fun others rounds => noTenths others ((reads others).mpr rounds))
        (closer_of_large large safe rfl digits)

end Hundredths

end Doubles
