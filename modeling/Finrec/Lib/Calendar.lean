import Finrec.Lib.Digits
import Mathlib.Algebra.Order.Floor.Ring
import Mathlib.Data.Int.ModEq

/-!
# Days, instants, time zones and ISO 8601 texts

Days are integers counted as in `date.toordinal` of Python (day 1 is
0001-01-01), and instants are integers too: microseconds on the UTC time line,
counted from the start of day 0.  A civil date is a year, a month and a day that exist in
the Gregorian calendar, and an aware date-time is a civil date, a time of day
and a UTC offset.

A time zone is given by the civil day of each instant and by the first
instant of each day, with the law that relates them.  A fixed offset is the
basic example; a zone whose offset changes is another one as long as the
change does not repeat a midnight.
-/

namespace Calendar

/-- The length of a day in microseconds. -/
def dayMicros : ℤ :=
  86400000000

/-- A time zone: the local day of an instant and the first instant of a local day. -/
structure Zone where
  localDay : ℤ → ℤ
  dayStart : ℤ → ℤ
  /-- A local day is the interval from its first instant to that of the next day. -/
  dayStart_le_iff : ∀ day instant, dayStart day ≤ instant ↔ day ≤ localDay instant

namespace Zone

/-- The zone at a fixed offset, in microseconds east of UTC. -/
def fixed (offset : ℤ) : Zone where
  localDay instant := (instant + offset) / dayMicros
  dayStart day := day * dayMicros - offset
  dayStart_le_iff day instant := by
    rw [Int.le_ediv_iff_mul_le (by decide)]
    omega

/-- Coordinated universal time. -/
def utc : Zone :=
  fixed 0

/-- The first instant after a local day. -/
def cutoff (zone : Zone) (day : ℤ) : ℤ :=
  zone.dayStart (day + 1)

/-- The instants before the cutoff of a day are those of the day and of earlier days. -/
theorem lt_cutoff_iff (zone : Zone) {day : ℤ} {instant : ℤ} :
    instant < zone.cutoff day ↔ zone.localDay instant ≤ day := by
  have law := zone.dayStart_le_iff (day + 1) instant
  unfold cutoff
  omega

end Zone

/-- A year has a 29 February. -/
def isLeap (year : ℕ) : Bool :=
  year % 4 = 0 ∧ (year % 100 ≠ 0 ∨ year % 400 = 0)

/-- The number of days in a month. -/
def daysInMonth (year month : ℕ) : ℕ :=
  if month = 2 then if isLeap year then 29 else 28
  else if month = 4 ∨ month = 6 ∨ month = 9 ∨ month = 11 then 30
  else 31

/-- The number of days before the first day of a year. -/
def daysBeforeYear (year : ℕ) : ℕ :=
  (year - 1) * 365 + (year - 1) / 4 - (year - 1) / 100 + (year - 1) / 400

/-- The number of days of a year before the first day of a month. -/
def daysBeforeMonth (year : ℕ) : ℕ → ℕ
  | 0 => 0
  | month + 1 => if month = 0 then 0 else daysBeforeMonth year month + daysInMonth year month

/-- A year, a month and a day that exist in the calendar of Python's `date`. -/
structure Date where
  year : ℕ
  month : ℕ
  day : ℕ
  valid : (1 ≤ year ∧ year ≤ 9999) ∧ (1 ≤ month ∧ month ≤ 12) ∧
    (1 ≤ day ∧ day ≤ daysInMonth year month)
deriving DecidableEq

theorem daysInMonth_le (year month : ℕ) : daysInMonth year month ≤ 31 := by
  unfold daysInMonth
  split_ifs <;> omega

theorem one_le_daysInMonth (year month : ℕ) : 1 ≤ daysInMonth year month := by
  unfold daysInMonth
  split_ifs <;> omega

namespace Date

/-- The date of a year, a month and a day, where it exists. -/
def ofFields? (year month day : ℕ) : Option Date :=
  if valid : (1 ≤ year ∧ year ≤ 9999) ∧ (1 ≤ month ∧ month ≤ 12) ∧
      (1 ≤ day ∧ day ≤ daysInMonth year month) then some ⟨year, month, day, valid⟩
  else none

/-- `date.toordinal`. -/
def toDay (date : Date) : ℤ :=
  daysBeforeYear date.year + daysBeforeMonth date.year date.month + date.day

/-- `date.replace(day=1)`. -/
def monthStart (date : Date) : Date :=
  ⟨date.year, date.month, 1, date.valid.1, date.valid.2.1, le_rfl, one_le_daysInMonth _ _⟩

/-- The date of the last day of the month. -/
def monthEnd (date : Date) : Date :=
  ⟨date.year, date.month, daysInMonth date.year date.month, date.valid.1, date.valid.2.1,
    one_le_daysInMonth _ _, le_rfl⟩

/-- `date.isoformat`. -/
def isoformat (date : Date) : List Char :=
  Digits.padded 4 date.year ++ '-' :: (Digits.padded 2 date.month ++
    '-' :: Digits.padded 2 date.day)

/-- Read a date in the format of `date.isoformat`. -/
def read? (text : List Char) : Option (Date × List Char) := do
  let (year, text) ← Digits.field? 4 text
  let text ← Digits.expect? '-' text
  let (month, text) ← Digits.field? 2 text
  let text ← Digits.expect? '-' text
  let (day, text) ← Digits.field? 2 text
  let date ← ofFields? year month day
  some (date, text)

/-- `date.fromisoformat`, on the texts of `date.isoformat`. -/
def fromisoformat? (text : List Char) : Option Date :=
  match read? text with
  | some (date, []) => some date
  | _ => none

@[simp]
theorem ofFields?_fields (date : Date) :
    ofFields? date.year date.month date.day = some date := by
  simp only [ofFields?, dif_pos date.valid]

theorem read?_isoformat_append (date : Date) (rest : List Char) :
    read? (date.isoformat ++ rest) = some (date, rest) := by
  have yearFits : date.year < 10 ^ 4 := by have := date.valid.1; omega
  have monthFits : date.month < 10 ^ 2 := by have := date.valid.2.1; omega
  have dayFits : date.day < 10 ^ 2 := by
    have := date.valid.2.2
    have := daysInMonth_le date.year date.month
    omega
  simp [read?, isoformat, Digits.field?_padded_append yearFits,
    Digits.field?_padded_append monthFits, Digits.field?_padded_append dayFits]

/-- Reading an ISO date gives back the date it was written from. -/
theorem fromisoformat?_isoformat (date : Date) : fromisoformat? date.isoformat = some date := by
  have reads := read?_isoformat_append date []
  rw [List.append_nil] at reads
  simp [fromisoformat?, reads]

end Date

/-- The year of a day: search upwards from an estimate that is never too late. -/
def yearFrom (day : ℕ) : ℕ → ℕ → ℕ
  | 0, year => year
  | fuel + 1, year => if day ≤ daysBeforeYear (year + 1) then year else yearFrom day fuel (year + 1)

/-- The month of a day of a year. -/
def monthFrom (year dayOfYear : ℕ) : ℕ → ℕ → ℕ
  | 0, month => month
  | fuel + 1, month =>
      if dayOfYear ≤ daysBeforeMonth year (month + 1) then month
      else monthFrom year dayOfYear fuel (month + 1)

/-- `date.fromordinal`. -/
def Date.ofDay? (day : ℤ) : Option Date :=
  if day < 1 then none
  else
    let ordinal := day.toNat
    let year := yearFrom ordinal 64 ((ordinal - 1) / 366 + 1)
    let dayOfYear := ordinal - daysBeforeYear year
    let month := monthFrom year dayOfYear 11 1
    Date.ofFields? year month (dayOfYear - daysBeforeMonth year month)

/-- An aware date-time: local civil date, local time of day and UTC offset. -/
structure DateTime where
  date : Date
  /-- The local time of day in microseconds. -/
  time : ℕ
  /-- The UTC offset in seconds, positive to the east. -/
  offset : ℤ
  valid : time < 86400000000 ∧ -86400 < offset ∧ offset < 86400
deriving DecidableEq

namespace DateTime

/-- The instant of a date-time on the UTC time line. -/
def instant (moment : DateTime) : ℤ :=
  moment.date.toDay * dayMicros + moment.time - moment.offset * 1000000

/-- The fraction of a second, which `isoformat` leaves out when it is zero. -/
def fractionText (time : ℕ) : List Char :=
  if time % 1000000 = 0 then [] else '.' :: Digits.padded 6 (time % 1000000)

/-- The time of day in the format of `isoformat`. -/
def timeText (time : ℕ) : List Char :=
  Digits.padded 2 (time / 3600000000) ++ ':' :: (Digits.padded 2 (time / 60000000 % 60) ++
    ':' :: (Digits.padded 2 (time / 1000000 % 60) ++ fractionText time))

/-- The unsigned UTC offset; its seconds are left out when they are zero. -/
def offsetText (seconds : ℕ) : List Char :=
  Digits.padded 2 (seconds / 3600) ++ ':' :: (Digits.padded 2 (seconds / 60 % 60) ++
    if seconds % 60 = 0 then [] else ':' :: Digits.padded 2 (seconds % 60))

/-- `datetime.isoformat` of an aware date-time. -/
def isoformat (moment : DateTime) : List Char :=
  moment.date.isoformat ++ 'T' :: (timeText moment.time ++
    (if moment.offset < 0 then '-' else '+') :: offsetText moment.offset.natAbs)

/-- Read an optional fraction of a second. -/
def readFraction? (text : List Char) : Option (ℕ × List Char) :=
  match text with
  | '.' :: fraction => Digits.field? 6 fraction
  | rest => some (0, rest)

/-- Read a time of day. -/
def readTime? (text : List Char) : Option (ℕ × List Char) := do
  let (hours, text) ← Digits.field? 2 text
  let text ← Digits.expect? ':' text
  let (minutes, text) ← Digits.field? 2 text
  let text ← Digits.expect? ':' text
  let (seconds, text) ← Digits.field? 2 text
  let (micros, text) ← readFraction? text
  some (((hours * 60 + minutes) * 60 + seconds) * 1000000 + micros, text)

/-- Read an unsigned UTC offset that ends the text. -/
def readOffset? (text : List Char) : Option ℕ := do
  let (hours, text) ← Digits.field? 2 text
  let text ← Digits.expect? ':' text
  let (minutes, text) ← Digits.field? 2 text
  match text with
  | [] => some ((hours * 60 + minutes) * 60)
  | ':' :: rest =>
      match Digits.field? 2 rest with
      | some (seconds, []) => some ((hours * 60 + minutes) * 60 + seconds)
      | _ => none
  | _ => none

/-- Read a signed UTC offset. -/
def readSigned? : List Char → Option ℤ
  | '+' :: text => (readOffset? text).map fun (seconds : ℕ) => (seconds : ℤ)
  | '-' :: text => (readOffset? text).map fun (seconds : ℕ) => -(seconds : ℤ)
  | _ => none

/-- `datetime.fromisoformat`, on the texts of `datetime.isoformat`. -/
def fromisoformat? (text : List Char) : Option DateTime := do
  let (date, text) ← Date.read? text
  let text ← Digits.expect? 'T' text
  let (time, text) ← readTime? text
  let offset ← readSigned? text
  if valid : time < 86400000000 ∧ -86400 < offset ∧ offset < 86400 then
    some ⟨date, time, offset, valid⟩
  else none

theorem readFraction?_fractionText (time : ℕ) {rest : List Char} (notDot : rest.head? ≠ some '.') :
    readFraction? (fractionText time ++ rest) = some (time % 1000000, rest) := by
  unfold fractionText
  split
  · rename_i zero
    rw [List.nil_append, zero]
    unfold readFraction?
    split
    · simp at notDot
    · rfl
  · simp only [List.cons_append, readFraction?]
    exact Digits.field?_padded_append (Nat.mod_lt _ (by omega)) rest

theorem readTime?_timeText {time : ℕ} (fits : time < 86400000000) {rest : List Char}
    (notDot : rest.head? ≠ some '.') : readTime? (timeText time ++ rest) = some (time, rest) := by
  have hoursFit : time / 3600000000 < 10 ^ 2 := by omega
  have minutesFit : time / 60000000 % 60 < 10 ^ 2 := by omega
  have secondsFit : time / 1000000 % 60 < 10 ^ 2 := by omega
  simp only [readTime?, timeText, List.append_assoc, List.cons_append,
    Digits.field?_padded_append hoursFit, Digits.field?_padded_append minutesFit,
    Digits.field?_padded_append secondsFit, Digits.expect?_cons, Option.bind_eq_bind,
    Option.bind_some, readFraction?_fractionText time notDot, Option.some.injEq, Prod.mk.injEq,
    and_true]
  omega

theorem readOffset?_offsetText {seconds : ℕ} (fits : seconds < 86400) :
    readOffset? (offsetText seconds) = some seconds := by
  have hoursFit : seconds / 3600 < 10 ^ 2 := by omega
  have minutesFit : seconds / 60 % 60 < 10 ^ 2 := by omega
  have secondsFit : seconds % 60 < 10 ^ 2 := by omega
  have lastRead := Digits.field?_padded_append secondsFit []
  rw [List.append_nil] at lastRead
  unfold offsetText readOffset?
  split
  · rename_i whole
    simp only [List.append_nil, Digits.field?_padded_append hoursFit, Digits.expect?_cons,
      Option.bind_eq_bind, Option.bind_some]
    have minutesRead := Digits.field?_padded_append minutesFit []
    rw [List.append_nil] at minutesRead
    simp only [minutesRead, Option.bind_some, Option.some.injEq]
    omega
  · simp only [Digits.field?_padded_append hoursFit, Digits.field?_padded_append minutesFit,
      Digits.expect?_cons, Option.bind_eq_bind, Option.bind_some, lastRead, Option.some.injEq]
    omega

theorem readSigned?_sign_offsetText {offset : ℤ} (fits : offset.natAbs < 86400) :
    readSigned? ((if offset < 0 then '-' else '+') :: offsetText offset.natAbs) = some offset := by
  split
  · simp only [readSigned?, readOffset?_offsetText fits, Option.map_some, Option.some.injEq]
    omega
  · simp only [readSigned?, readOffset?_offsetText fits, Option.map_some, Option.some.injEq]
    omega

/-- Reading an ISO date-time gives back the date-time it was written from. -/
theorem fromisoformat?_isoformat (moment : DateTime) :
    fromisoformat? moment.isoformat = some moment := by
  have signNotDot : ((if moment.offset < 0 then '-' else '+') ::
      offsetText moment.offset.natAbs).head? ≠ some '.' := by
    split <;> simp
  have offsetFits : moment.offset.natAbs < 86400 := by have := moment.valid; omega
  simp only [fromisoformat?, isoformat, Date.read?_isoformat_append, Digits.expect?_cons,
    Option.bind_eq_bind, Option.bind_some, readTime?_timeText moment.valid.1 signNotDot,
    readSigned?_sign_offsetText offsetFits, dif_pos moment.valid]

/-- `astimezone(UTC).isoformat(timespec="microseconds")`; no text where UTC leaves the calendar. -/
def utcText? (instant : ℤ) : Option (List Char) :=
  (Date.ofDay? (instant / dayMicros)).map fun date =>
    let time := (instant % dayMicros).toNat
    date.isoformat ++ 'T' :: (Digits.padded 2 (time / 3600000000) ++
      ':' :: (Digits.padded 2 (time / 60000000 % 60) ++
      ':' :: (Digits.padded 2 (time / 1000000 % 60) ++
      '.' :: (Digits.padded 6 (time % 1000000) ++ "+00:00".toList))))

end DateTime

end Calendar
