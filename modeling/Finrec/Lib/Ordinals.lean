import Finrec.Lib.Calendar

/-!
# The dates of the days

`Date.ofDay?` searches the year and the month of a day.  It finds the date with
the number of the day whenever there is one, which is the case from 0001-01-01
to 9999-12-31.
-/

namespace Calendar

/-- The number of 9999-12-31. -/
def lastDay : ℤ :=
  3652059

theorem daysBeforeYear_succ {year : ℕ} (positive : 1 ≤ year) :
    daysBeforeYear (year + 1) = daysBeforeYear year + if isLeap year then 366 else 365 := by
  rcases Nat.exists_eq_add_of_le' positive with ⟨elapsed, rfl⟩
  have four : (elapsed + 1) / 4 = _ := Nat.succ_div
  have hundred : (elapsed + 1) / 100 = _ := Nat.succ_div
  have fourHundred : (elapsed + 1) / 400 = _ := Nat.succ_div
  have fewer : elapsed / 100 ≤ elapsed / 4 := by omega
  unfold daysBeforeYear isLeap
  simp only [Nat.add_sub_cancel, four, hundred, fourHundred, decide_eq_true_eq,
    Nat.dvd_iff_mod_eq_zero]
  clear four hundred fourHundred
  by_cases everyFour : (elapsed + 1) % 4 = 0
  · by_cases everyHundred : (elapsed + 1) % 100 = 0
    · by_cases everyFourHundred : (elapsed + 1) % 400 = 0
      · simp [everyFour, everyHundred, everyFourHundred]
        omega
      · simp [everyFour, everyHundred, everyFourHundred]
        omega
    · have other : (elapsed + 1) % 400 ≠ 0 := by omega
      simp [everyFour, everyHundred, other]
      omega
  · have notHundred : (elapsed + 1) % 100 ≠ 0 := by omega
    have notFourHundred : (elapsed + 1) % 400 ≠ 0 := by omega
    simp [everyFour, notHundred, notFourHundred]
    omega

/-- The months of a year fill it. -/
theorem daysBeforeMonth_thirteen (year : ℕ) :
    daysBeforeMonth year 13 = if isLeap year then 366 else 365 := by
  simp only [daysBeforeMonth, daysInMonth]
  cases isLeap year <;> simp

theorem daysBeforeYear_mono {earlier later : ℕ} (le : earlier ≤ later) :
    daysBeforeYear earlier ≤ daysBeforeYear later := by
  induction later, le using Nat.le_induction with
  | base => exact le_rfl
  | succ year _ ih =>
      apply ih.trans
      cases year with
      | zero => exact le_rfl
      | succ year =>
          rw [daysBeforeYear_succ (Nat.succ_pos year)]
          exact Nat.le_add_right _ _

theorem daysBeforeMonth_mono (year : ℕ) {earlier later : ℕ} (le : earlier ≤ later) :
    daysBeforeMonth year earlier ≤ daysBeforeMonth year later := by
  induction later, le using Nat.le_induction with
  | base => exact le_rfl
  | succ month _ ih =>
      apply ih.trans
      simp only [daysBeforeMonth]
      split_ifs with first
      · simp [first, daysBeforeMonth]
      · omega

theorem daysBeforeMonth_succ (year : ℕ) {month : ℕ} (positive : 1 ≤ month) :
    daysBeforeMonth year (month + 1) = daysBeforeMonth year month + daysInMonth year month := by
  simp only [daysBeforeMonth]
  rw [if_neg (by omega)]

/-! ## The search for the year and the month -/

/-- The search stops in the year of the day, if it starts early enough and runs long enough. -/
theorem yearFrom_spec {day fuel year : ℕ} (after : daysBeforeYear year < day)
    (before : day ≤ daysBeforeYear (year + fuel + 1)) :
    daysBeforeYear (yearFrom day fuel year) < day ∧
      day ≤ daysBeforeYear (yearFrom day fuel year + 1) := by
  induction fuel generalizing year with
  | zero => exact ⟨after, before⟩
  | succ fuel ih =>
      unfold yearFrom
      split_ifs with found
      · exact ⟨after, found⟩
      · apply ih
        · omega
        · rw [add_right_comm year 1 fuel]
          exact before

theorem monthFrom_spec (year dayOfYear fuel month : ℕ)
    (after : daysBeforeMonth year month < dayOfYear)
    (before : dayOfYear ≤ daysBeforeMonth year (month + fuel + 1)) :
    month ≤ monthFrom year dayOfYear fuel month ∧
      monthFrom year dayOfYear fuel month ≤ month + fuel ∧
      daysBeforeMonth year (monthFrom year dayOfYear fuel month) < dayOfYear ∧
      dayOfYear ≤ daysBeforeMonth year (monthFrom year dayOfYear fuel month + 1) := by
  induction fuel generalizing month with
  | zero => exact ⟨le_rfl, le_rfl, after, before⟩
  | succ fuel ih =>
      unfold monthFrom
      split_ifs with found
      · exact ⟨le_rfl, by omega, after, found⟩
      · have next : dayOfYear ≤ daysBeforeMonth year (month + 1 + fuel + 1) := by
          rw [add_right_comm month 1 fuel]
          exact before
        rcases ih (month + 1) (by omega) next with ⟨lower, upper, spec⟩
        exact ⟨by omega, by omega, spec⟩

theorem le_yearFrom (day fuel year : ℕ) : year ≤ yearFrom day fuel year := by
  induction fuel generalizing year with
  | zero => exact le_rfl
  | succ fuel ih =>
      unfold yearFrom
      split_ifs
      · exact le_rfl
      · exact (Nat.le_succ year).trans (ih (year + 1))

/-- The search for the year of a day that a date can have. -/
theorem yearFrom_estimate (day : ℕ) (positive : 1 ≤ day) (small : day ≤ 366 * 10000) :
    daysBeforeYear (yearFrom day 64 ((day - 1) / 366 + 1)) < day ∧
      day ≤ daysBeforeYear (yearFrom day 64 ((day - 1) / 366 + 1) + 1) := by
  apply yearFrom_spec
  · unfold daysBeforeYear
    omega
  · unfold daysBeforeYear
    omega

namespace Date

theorem daysBeforeYear_lt_toDay (date : Date) :
    daysBeforeYear date.year < date.toDay.toNat ∧
      date.toDay.toNat ≤ daysBeforeYear (date.year + 1) := by
  rcases date with ⟨year, month, day, ⟨first, -⟩, ⟨low, high⟩, lowDay, highDay⟩
  have filled : daysBeforeMonth year month + day ≤ daysBeforeMonth year 13 := by
    have next := daysBeforeMonth_succ year low
    have mono := daysBeforeMonth_mono year (show month + 1 ≤ 13 by omega)
    omega
  rw [daysBeforeMonth_thirteen] at filled
  have next := daysBeforeYear_succ first
  simp only [toDay]
  omega

theorem toDay_bounds (date : Date) : 1 ≤ date.toDay ∧ date.toDay ≤ lastDay := by
  have bounds := date.daysBeforeYear_lt_toDay
  have last := daysBeforeYear_mono (show date.year + 1 ≤ 10000 by have := date.valid; omega)
  have first : daysBeforeYear 10000 = 3652059 := by decide
  unfold lastDay
  omega

/-- The date of a day is the one with its number. -/
theorem ofDay?_toDay (date : Date) : ofDay? date.toDay = some date := by
  have bounds := date.toDay_bounds
  have inYear := date.daysBeforeYear_lt_toDay
  unfold lastDay at bounds
  have found := yearFrom_estimate date.toDay.toNat (by omega) (by omega)
  have sameYear : yearFrom date.toDay.toNat 64 ((date.toDay.toNat - 1) / 366 + 1) = date.year := by
    generalize yearFrom date.toDay.toNat 64 ((date.toDay.toNat - 1) / 366 + 1) = year at found
    by_contra differs
    rcases Nat.lt_or_gt_of_ne differs with less | greater
    · have := daysBeforeYear_mono (show year + 1 ≤ date.year by omega)
      omega
    · have := daysBeforeYear_mono (show date.year + 1 ≤ year by omega)
      omega
  have ofYear : date.toDay.toNat - daysBeforeYear date.year =
      daysBeforeMonth date.year date.month + date.day := by
    simp only [toDay]
    omega
  rcases date.valid with ⟨-, ⟨lowMonth, highMonth⟩, lowDay, highDay⟩
  have nextMonth := daysBeforeMonth_succ date.year lowMonth
  have lastMonth := daysBeforeMonth_mono date.year (show date.month + 1 ≤ 13 by omega)
  have foundMonth : 1 ≤ _ ∧ _ := monthFrom_spec date.year
    (daysBeforeMonth date.year date.month + date.day) 11 1
    (by simp only [daysBeforeMonth, if_true]; omega)
    (show _ ≤ daysBeforeMonth date.year 13 by omega)
  have sameMonth : monthFrom date.year (daysBeforeMonth date.year date.month + date.day) 11 1 =
      date.month := by
    generalize monthFrom date.year (daysBeforeMonth date.year date.month + date.day) 11 1 = month
      at foundMonth
    by_contra differs
    rcases Nat.lt_or_gt_of_ne differs with less | greater
    · have := daysBeforeMonth_mono date.year (show month + 1 ≤ date.month by omega)
      omega
    · have := daysBeforeMonth_mono date.year (show date.month + 1 ≤ month by omega)
      omega
  unfold ofDay?
  rw [if_neg (by omega)]
  simp only [sameYear, ofYear, sameMonth, Nat.add_sub_cancel_left, ofFields?_fields]

theorem daysBeforeYear_tenThousand : (daysBeforeYear 10000 : ℤ) = lastDay := by
  decide

/-- Every day from the first to the last one is the day of a date. -/
theorem exists_toDay {day : ℤ} (first : 1 ≤ day) (last : day ≤ lastDay) :
    ∃ date : Date, date.toDay = day := by
  have end10000 := daysBeforeYear_tenThousand
  have found := yearFrom_estimate day.toNat (by omega) (by unfold lastDay at last; omega)
  have positive : 1 ≤ yearFrom day.toNat 64 ((day.toNat - 1) / 366 + 1) :=
    (Nat.succ_pos _).trans_le (le_yearFrom ..)
  generalize yearFrom day.toNat 64 ((day.toNat - 1) / 366 + 1) = year at found positive
  have yearLe : year ≤ 9999 := by
    by_contra late
    have := daysBeforeYear_mono (show 10000 ≤ year by omega)
    omega
  have next := daysBeforeYear_succ positive
  rw [← daysBeforeMonth_thirteen] at next
  have foundMonth : 1 ≤ _ ∧ _ := monthFrom_spec year
    (day.toNat - daysBeforeYear year) 11 1 (by simp only [daysBeforeMonth, if_true]; omega)
    (show _ ≤ daysBeforeMonth year 13 by omega)
  generalize monthFrom year (day.toNat - daysBeforeYear year) 11 1 = month at foundMonth
  have nextMonth := daysBeforeMonth_succ year foundMonth.1
  refine ⟨⟨year, month, day.toNat - daysBeforeYear year - daysBeforeMonth year month,
    ⟨positive, yearLe⟩, ⟨foundMonth.1, by omega⟩, by omega, by omega⟩, ?_⟩
  simp only [toDay]
  omega

theorem ofDay?_eq_none {day : ℤ} (outside : day < 1 ∨ lastDay < day) : ofDay? day = none := by
  rcases outside with early | late
  · exact if_pos early
  · have end10000 := daysBeforeYear_tenThousand
    have year : 10000 ≤ yearFrom day.toNat 64 ((day.toNat - 1) / 366 + 1) := by
      by_cases small : day.toNat ≤ 366 * 10000
      · have found := yearFrom_estimate day.toNat (by unfold lastDay at late; omega) small
        by_contra before
        have := daysBeforeYear_mono
          (show yearFrom day.toNat 64 ((day.toNat - 1) / 366 + 1) + 1 ≤ 10000 by omega)
        omega
      · exact le_trans (by omega) (le_yearFrom ..)
    unfold ofDay?
    rw [if_neg (by unfold lastDay at late; omega)]
    apply dif_neg
    intro valid
    omega

theorem ofDay?_eq_some {day : ℤ} {date : Date} : ofDay? day = some date ↔ date.toDay = day := by
  constructor
  · intro found
    by_cases inside : 1 ≤ day ∧ day ≤ lastDay
    · rcases exists_toDay inside.1 inside.2 with ⟨other, rfl⟩
      rw [ofDay?_toDay, Option.some.injEq] at found
      rw [found]
    · rw [ofDay?_eq_none (by omega)] at found
      cases found
  · rintro rfl
    exact ofDay?_toDay date

theorem ofDay?_isSome {day : ℤ} : (ofDay? day).isSome ↔ 1 ≤ day ∧ day ≤ lastDay := by
  rw [Option.isSome_iff_exists]
  simp only [ofDay?_eq_some]
  constructor
  · rintro ⟨date, rfl⟩
    exact date.toDay_bounds
  · rintro ⟨first, last⟩
    exact exists_toDay first last

end Date

namespace DateTime

/-- The instants in the years 1 to 9999 of UTC. -/
def InCalendar (instant : ℤ) : Prop :=
  dayMicros ≤ instant ∧ instant < (lastDay + 1) * dayMicros

instance (instant : ℤ) : Decidable (InCalendar instant) :=
  inferInstanceAs (Decidable (_ ∧ _))

theorem utcText?_isSome {instant : ℤ} : (utcText? instant).isSome ↔ InCalendar instant := by
  have low : 1 ≤ instant / dayMicros ↔ 1 * dayMicros ≤ instant :=
    Int.le_ediv_iff_mul_le (by decide)
  have high : instant / dayMicros < lastDay + 1 ↔ instant < (lastDay + 1) * dayMicros :=
    Int.ediv_lt_iff_lt_mul (by decide)
  rw [utcText?, Option.isSome_map, Date.ofDay?_isSome, InCalendar, low, one_mul, ← high,
    Int.lt_add_one_iff]

theorem padded_append_inj {width left right : ℕ} {leftRest rightRest : List Char}
    (leftFits : left < 10 ^ width) (rightFits : right < 10 ^ width)
    (same : Digits.padded width left ++ leftRest = Digits.padded width right ++ rightRest) :
    left = right ∧ leftRest = rightRest := by
  have parts := List.append_inj same (by rw [Digits.length_padded, Digits.length_padded])
  have numbers := congrArg Digits.number? parts.1
  rw [Digits.number?_padded leftFits, Digits.number?_padded rightFits, Option.some.injEq] at numbers
  exact ⟨numbers, parts.2⟩

/-- An instant can be read off its text. -/
theorem utcText?_inj {left right : ℤ} {text : List Char} (ofLeft : utcText? left = some text)
    (ofRight : utcText? right = some text) : left = right := by
  rcases Option.map_eq_some_iff.mp ofLeft with ⟨leftDate, leftFound, rfl⟩
  rcases Option.map_eq_some_iff.mp ofRight with ⟨rightDate, rightFound, same⟩
  rw [Date.ofDay?_eq_some] at leftFound rightFound
  have leftRead := Date.read?_isoformat_append leftDate
  have rightRead := Date.read?_isoformat_append rightDate
  have dates := congrArg Date.read? same
  rw [rightRead, leftRead, Option.some.injEq, Prod.mk.injEq, List.cons_inj_right] at dates
  rcases dates with ⟨rfl, times⟩
  have positive : 0 < dayMicros := by decide
  have leftTime := Int.emod_lt_of_pos left positive
  have rightTime := Int.emod_lt_of_pos right positive
  have leftNonneg := Int.emod_nonneg left positive.ne'
  have rightNonneg := Int.emod_nonneg right positive.ne'
  have leftSplit := Int.mul_ediv_add_emod left dayMicros
  have rightSplit := Int.mul_ediv_add_emod right dayMicros
  rw [← leftFound] at leftSplit
  rw [← rightFound] at rightSplit
  generalize left % dayMicros = leftMicros at *
  generalize right % dayMicros = rightMicros at *
  unfold dayMicros at leftTime rightTime
  rcases padded_append_inj (by omega) (by omega) times with ⟨hours, afterHours⟩
  rcases padded_append_inj (by omega) (by omega) (List.cons.inj afterHours).2 with
    ⟨minutes, afterMinutes⟩
  rcases padded_append_inj (by omega) (by omega) (List.cons.inj afterMinutes).2 with
    ⟨seconds, afterSeconds⟩
  rcases padded_append_inj (by omega) (by omega) (List.cons.inj afterSeconds).2 with ⟨micros, -⟩
  have sameTime : leftMicros = rightMicros := by omega
  rw [← leftSplit, ← rightSplit, sameTime]

/-- A digit or a mark of ISO 8601. -/
def IsIsoCharacter (character : Char) : Prop :=
  Digits.isDigit character = true ∨ character ∈ ['-', 'T', ':', '.', '+']

instance (character : Char) : Decidable (IsIsoCharacter character) :=
  inferInstanceAs (Decidable (_ ∨ _))

theorem isIsoCharacter_of_mem_utcText {instant : ℤ} {text : List Char}
    (found : utcText? instant = some text) : ∀ character ∈ text, IsIsoCharacter character := by
  rcases Option.map_eq_some_iff.mp found with ⟨date, -, rfl⟩
  have digits (width value : ℕ) :
      ∀ character ∈ Digits.padded width value, IsIsoCharacter character :=
    fun character member => .inl (Digits.isDigit_of_mem_padded member)
  have zone : ∀ character ∈ "+00:00".toList, IsIsoCharacter character := by
    have zero : Digits.isDigit '0' = true := by decide
    simp [IsIsoCharacter, zero]
  simp only [Date.isoformat, List.forall_mem_append, List.forall_mem_cons, List.append_assoc,
    List.cons_append]
  exact ⟨digits _ _, by decide, digits _ _, by decide, digits _ _, by decide, digits _ _, by decide,
    digits _ _, by decide, digits _ _, by decide, digits _ _, zone⟩

end DateTime

end Calendar
