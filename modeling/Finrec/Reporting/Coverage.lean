import Mathlib.Data.List.Sort
import Finrec.Ledger.Models
import Finrec.Lib.Ordinals

/-!
# Coverage of the supplier records

The register says for every year and source how complete the records are.  The
expected range of an entry is free: it need not lie in the year of the entry.
`supplier_coverage_as_of` takes the years from the entries, where the range of
the query begins at the earliest expected start.
-/

namespace Finrec

open Calendar

/-- An entry of the register with the ranges that its constraints and `clean` ask for. -/
structure CoverageEntry extends DataCoveragePeriod where
  actualStart : Option ℤ
  actualEnd : Option ℤ
  yearFits : year ≤ 32767
  dated : 1 ≤ expectedStart ∧ expectedEnd ≤ lastDay
  expectedOrdered : expectedStart ≤ expectedEnd
  actualRange : status = .missing ∧ actualStart = none ∧ actualEnd = none ∨
    status ≠ .missing ∧ ∃ first last, actualStart = some first ∧ actualEnd = some last ∧
      first ≤ last ∧ expectedStart ≤ first ∧ last ≤ expectedEnd

/-- The rows of the table: one for a year and a source at most. -/
structure CoverageRegister where
  entries : List CoverageEntry
  unique : (entries.map fun entry => (entry.year, entry.sourceKind)).Nodup

def CoverageRegister.periods (register : CoverageRegister) : List DataCoveragePeriod :=
  register.entries.map (·.toDataCoveragePeriod)

/-- The place of the value of a source among all values. -/
def SourceKind.rank : SourceKind → ℕ
  | .bank => 0
  | .inputInvoice => 1
  | .outputInvoice => 2
  | .wechat => 3

def SourceKind.label : SourceKind → String
  | .inputInvoice => "进项发票"
  | .outputInvoice => "销项发票"
  | .bank => "银行"
  | .wechat => "微信"

def CoverageStatus.label : CoverageStatus → String
  | .full => "完整"
  | .partlyCovered => "部分缺失"
  | .missing => "缺失"

inductive CoverageCode where
  | unregistered
  | incomplete
  | full
deriving DecidableEq, Repr

structure SupplierCoverage where
  code : CoverageCode
  label : String
  detail : String
deriving DecidableEq, Repr

/-- `SUPPLIER_SOURCE_KINDS`. -/
def supplierSourceKinds : List SourceKind := [.inputInvoice, .bank, .wechat]

/-- The entries of the query, before they are ordered. -/
def startedPeriods (coverage : List DataCoveragePeriod) (asOf : Date) : List DataCoveragePeriod :=
  coverage.filter fun period =>
    decide (period.sourceKind ∈ supplierSourceKinds ∧ period.expectedStart ≤ asOf.toDay)

/-- By year, then by source. -/
def comesBefore (left right : ℕ × SourceKind) : Prop :=
  left.1 < right.1 ∨ left.1 = right.1 ∧ left.2.rank ≤ right.2.rank

instance : DecidableRel comesBefore := fun _ _ => inferInstanceAs (Decidable (_ ∨ _))

def orderPeriods (periods : List DataCoveragePeriod) : List DataCoveragePeriod :=
  periods.insertionSort fun left right =>
    comesBefore (left.year, left.sourceKind) (right.year, right.sourceKind)

/-- `_supplier_coverage_detail`. -/
def supplierCoverageDetail (periods : List DataCoveragePeriod) : String :=
  "；".intercalate (periods.map fun period =>
    s!"{period.year}年{period.sourceKind.label}：{period.status.label}")

/-- The pairs of a year and a source from the first year to the year of the day. -/
def requiredPairs (firstYear : ℕ) (asOf : Date) : List (ℕ × SourceKind) :=
  (List.range' firstYear (asOf.year + 1 - firstYear)).flatMap fun year =>
    supplierSourceKinds.map fun source => (year, source)

def missingPairs (periods : List DataCoveragePeriod) (firstYear : ℕ) (asOf : Date) :
    List (ℕ × SourceKind) :=
  ((requiredPairs firstYear asOf).filter fun pair =>
    decide (pair ∉ periods.map fun period => (period.year, period.sourceKind))).insertionSort
      comesBefore

/-- `supplier_coverage_as_of`. -/
def supplierCoverageAsOf (coverage : List DataCoveragePeriod) (asOf : Date) : SupplierCoverage :=
  let periods := orderPeriods (startedPeriods coverage asOf)
  match (periods.map (·.year)).min? with
  | none => ⟨.unregistered, "完整性未登记", ""⟩
  | some earliestYear =>
      if periods.any fun period => period.status = .partlyCovered || period.status = .missing then
        ⟨.incomplete, "资料不完整", supplierCoverageDetail periods⟩
      else if missingPairs periods earliestYear asOf ≠ [] then
        ⟨.unregistered, "完整性未登记", "；".intercalate
          ((missingPairs periods earliestYear asOf).map fun pair =>
            s!"{pair.1}年{pair.2.label}：未登记")⟩
      else ⟨.full, "资料完整", supplierCoverageDetail periods⟩

/-! ## What the answer needs -/

/-- The entry of a year and a source that says that the records are complete. -/
def RegisteredFull (coverage : List DataCoveragePeriod) (year : ℕ) (source : SourceKind) : Prop :=
  ∃ period ∈ coverage, period.year = year ∧ period.sourceKind = source ∧ period.status = .full

/-- All three sources of all years from one to another are registered as complete. -/
def CoversYears (coverage : List DataCoveragePeriod) (first last : ℕ) : Prop :=
  ∀ year, first ≤ year → year ≤ last → ∀ source ∈ supplierSourceKinds,
    RegisteredFull coverage year source

/-- The calendar year of a day. -/
def yearOfDay (day : ℤ) : ℕ := ((Date.ofDay? day).map Date.year).getD 0

/-- The first of the started entries by its expected start. -/
def StartsFirst (coverage : List DataCoveragePeriod) (asOf : Date) (first : DataCoveragePeriod) :
    Prop :=
  first ∈ startedPeriods coverage asOf ∧
    ∀ period ∈ startedPeriods coverage asOf, first.expectedStart ≤ period.expectedStart

/-- The answer is full only if all sources of all years since the earliest expected start are
complete. -/
def NotOverstated (coverage : List DataCoveragePeriod) (asOf : Date) : Prop :=
  (supplierCoverageAsOf coverage asOf).code = .full →
    ∃ first, StartsFirst coverage asOf first ∧
      CoversYears coverage (yearOfDay first.expectedStart) asOf.year

/-- The started entries leave nothing open from a year on. -/
structure CompleteFrom (coverage : List DataCoveragePeriod) (asOf : Date) (firstYear : ℕ) :
    Prop where
  smallest : ∀ period ∈ startedPeriods coverage asOf, firstYear ≤ period.year
  attained : ∃ period ∈ startedPeriods coverage asOf, period.year = firstYear
  full : ∀ period ∈ startedPeriods coverage asOf, period.status = .full
  registered : ∀ year, firstYear ≤ year → year ≤ asOf.year → ∀ source ∈ supplierSourceKinds,
    ∃ period ∈ startedPeriods coverage asOf, period.year = year ∧ period.sourceKind = source

/-- Where the started entries leave nothing open from the smallest of their years on, the years
before it, back to the earliest expected start, are complete too. -/
def EarlierYearsCovered (coverage : List DataCoveragePeriod) (asOf : Date) : Prop :=
  ∀ first firstYear, StartsFirst coverage asOf first → CompleteFrom coverage asOf firstYear →
    ∀ year, yearOfDay first.expectedStart ≤ year → year < firstYear → year ≤ asOf.year →
      ∀ source ∈ supplierSourceKinds, RegisteredFull coverage year source

section Coverage

variable {coverage : List DataCoveragePeriod} {asOf : Date}

theorem mem_orderPeriods {periods : List DataCoveragePeriod} {period : DataCoveragePeriod} :
    period ∈ orderPeriods periods ↔ period ∈ periods := by
  simp [orderPeriods]

theorem mem_requiredPairs {firstYear year : ℕ} {source : SourceKind} :
    (year, source) ∈ requiredPairs firstYear asOf ↔
      (firstYear ≤ year ∧ year ≤ asOf.year) ∧ source ∈ supplierSourceKinds := by
  simp only [requiredPairs, List.mem_flatMap, List.mem_range'_1, List.mem_map, Prod.mk.injEq]
  constructor
  · rintro ⟨_, inside, _, known, rfl, rfl⟩
    exact ⟨by omega, known⟩
  · rintro ⟨inside, known⟩
    exact ⟨year, by omega, source, known, rfl, rfl⟩

theorem missingPairs_eq_nil {periods : List DataCoveragePeriod} {firstYear : ℕ} :
    missingPairs periods firstYear asOf = [] ↔
      ∀ year, firstYear ≤ year → year ≤ asOf.year → ∀ source ∈ supplierSourceKinds,
        ∃ period ∈ periods, period.year = year ∧ period.sourceKind = source := by
  have empty (pairs : List (ℕ × SourceKind)) :
      pairs.insertionSort comesBefore = [] ↔ ∀ year source, (year, source) ∉ pairs := by
    rw [List.eq_nil_iff_forall_not_mem]
    simp
  simp only [missingPairs, empty, List.mem_filter, mem_requiredPairs, decide_eq_true_eq,
    List.mem_map, Prod.mk.injEq, not_and, not_not]
  constructor
  · intro found year lower upper source known
    exact found year source ⟨⟨lower, upper⟩, known⟩
  · rintro found year source ⟨⟨lower, upper⟩, known⟩
    exact found year lower upper source known

theorem min_years_eq_some {firstYear : ℕ} :
    ((orderPeriods (startedPeriods coverage asOf)).map (·.year)).min? = some firstYear ↔
      (∃ period ∈ startedPeriods coverage asOf, period.year = firstYear) ∧
        ∀ period ∈ startedPeriods coverage asOf, firstYear ≤ period.year := by
  simp only [List.min?_eq_some_iff, List.mem_map, mem_orderPeriods, forall_exists_index, and_imp,
    forall_apply_eq_imp_iff₂]

/-- When the answer is full. -/
theorem code_eq_full_iff :
    (supplierCoverageAsOf coverage asOf).code = .full ↔
      ∃ firstYear, CompleteFrom coverage asOf firstYear := by
  have flagged : ((orderPeriods (startedPeriods coverage asOf)).any fun period =>
      decide (period.status = .partlyCovered) || decide (period.status = .missing)) = false ↔
      ∀ period ∈ startedPeriods coverage asOf, period.status = .full := by
    simp only [List.any_eq_false, mem_orderPeriods, Bool.or_eq_true, decide_eq_true_eq, not_or]
    apply forall₂_congr
    intro period _
    cases period.status <;> simp
  have recorded (firstYear : ℕ) :
      missingPairs (orderPeriods (startedPeriods coverage asOf)) firstYear asOf = [] ↔
        ∀ year, firstYear ≤ year → year ≤ asOf.year → ∀ source ∈ supplierSourceKinds,
          ∃ period ∈ startedPeriods coverage asOf,
            period.year = year ∧ period.sourceKind = source := by
    simp only [missingPairs_eq_nil, mem_orderPeriods]
  constructor
  · intro isFull
    simp only [supplierCoverageAsOf] at isFull
    split at isFull
    · cases isFull
    · rename_i firstYear smallest
      obtain ⟨attained, smallest⟩ := min_years_eq_some.mp smallest
      split_ifs at isFull with flags gaps
      refine ⟨firstYear, smallest, attained, flagged.mp ?_, (recorded firstYear).mp ?_⟩
      · simpa using flags
      · exact not_not.mp gaps
  · rintro ⟨firstYear, smallest, attained, full, registered⟩
    simp only [supplierCoverageAsOf, min_years_eq_some.mpr ⟨attained, smallest⟩, flagged.mpr full,
      (recorded firstYear).mpr registered, ne_eq, not_true_eq_false, if_false, Bool.false_eq_true]

theorem exists_startsFirst {firstYear : ℕ} (complete : CompleteFrom coverage asOf firstYear) :
    ∃ first, StartsFirst coverage asOf first := by
  obtain ⟨period, started, -⟩ := complete.attained
  have nonempty : (startedPeriods coverage asOf).map (·.expectedStart) ≠ [] :=
    List.ne_nil_of_mem (List.mem_map_of_mem started)
  obtain ⟨start, found⟩ := Option.isSome_iff_exists.mp (List.isSome_min?_of_ne_nil nonempty)
  obtain ⟨attained, smallest⟩ := List.min?_eq_some_iff.mp found
  obtain ⟨first, member, rfl⟩ := List.mem_map.mp attained
  exact ⟨first, member, fun period started => smallest _ (List.mem_map_of_mem started)⟩

theorem startsFirst_unique {first other : DataCoveragePeriod}
    (isFirst : StartsFirst coverage asOf first) (isOther : StartsFirst coverage asOf other) :
    first.expectedStart = other.expectedStart := by
  have left := isFirst.2 other isOther.1
  have right := isOther.2 first isFirst.1
  omega

theorem registeredFull_of_complete {firstYear year : ℕ} {source : SourceKind}
    (complete : CompleteFrom coverage asOf firstYear) (lower : firstYear ≤ year)
    (upper : year ≤ asOf.year) (known : source ∈ supplierSourceKinds) :
    RegisteredFull coverage year source := by
  obtain ⟨period, started, ofYear, ofSource⟩ :=
    complete.registered year lower upper source known
  exact ⟨period, List.mem_of_mem_filter started, ofYear, ofSource, complete.full period started⟩

end Coverage

/-- The answer is never too good if and only if the years before the first registered one are
covered as far back as the expected ranges reach. -/
theorem coverage_not_overstated_iff (register : CoverageRegister) (asOf : Date) :
    NotOverstated register.periods asOf ↔ EarlierYearsCovered register.periods asOf := by
  constructor
  · intro honest first firstYear isFirst complete year lower _ upper source known
    obtain ⟨other, isOther, covered⟩ := honest (code_eq_full_iff.mpr ⟨firstYear, complete⟩)
    rw [startsFirst_unique isFirst isOther] at lower
    exact covered year lower upper source known
  · intro earlier isFull
    obtain ⟨firstYear, complete⟩ := code_eq_full_iff.mp isFull
    obtain ⟨first, isFirst⟩ := exists_startsFirst complete
    refine ⟨first, isFirst, ?_⟩
    intro year lower upper source known
    rcases Nat.lt_or_ge year firstYear with before | after
    · exact earlier first firstYear isFirst complete year lower before upper source known
    · exact registeredFull_of_complete complete after upper known

namespace Sample

/-- An entry of the year 2026 whose expected range begins with the year 2025. -/
def longEntry (id : Uuid) (source : SourceKind) : CoverageEntry where
  id := id
  year := 2026
  sourceKind := source
  status := .full
  expectedStart := 739252
  expectedEnd := 739981
  actualStart := some 739252
  actualEnd := some 739981
  yearFits := by decide
  dated := by decide
  expectedOrdered := by decide
  actualRange := .inr ⟨by decide, 739252, 739981, rfl, rfl, by decide, by decide, by decide⟩

def longRegister : CoverageRegister where
  entries := [longEntry 1 .inputInvoice, longEntry 2 .bank, longEntry 3 .wechat]
  unique := by decide

def midsummer : Date where
  year := 2026
  month := 7
  day := 31
  valid := by decide

end Sample

open Sample in
/-- The year 2025 is expected and not registered, and the answer is full. -/
theorem coverage_overstated_long_range :
    (supplierCoverageAsOf longRegister.periods midsummer).code = .full ∧
    (∀ period ∈ longRegister.periods, yearOfDay period.expectedStart = 2025 ∧
      period.year = 2026) ∧
    ¬NotOverstated longRegister.periods midsummer := by
  have full : (supplierCoverageAsOf longRegister.periods midsummer).code = .full := by
    decide +kernel
  have years : ∀ period ∈ longRegister.periods, yearOfDay period.expectedStart = 2025 ∧
      period.year = 2026 := by decide +kernel
  refine ⟨full, years, fun honest => ?_⟩
  obtain ⟨first, isFirst, covered⟩ := honest full
  rw [(years first (List.mem_of_mem_filter isFirst.1)).1] at covered
  obtain ⟨period, member, ofYear, -⟩ :=
    covered 2025 (by decide) (by decide) .bank (by decide)
  have registered : period.year = 2026 := (years period member).2
  omega

end Finrec
