import Finrec.Imports.Confirmation
import Finrec.Imports.Staging
import Finrec.Lib.Tables

/-!
# The counters of a batch

A batch carries counters of its rows: staging computes them in its loop, and a
confirmation adjusts them by what it found on the way.  This file shows that the
counters always agree with the rows.
-/

namespace Finrec

open Checks

namespace Ledger

/-- The number of rows of a batch with a property. -/
def countRows (ledger : Ledger) (batch : Uuid) (select : StagedRow → Bool) : ℕ :=
  ledger.stagedRows.countP fun row => decide (row.batch = batch) && select row

end Ledger

namespace StagedRow

def hasIssues (row : StagedRow) : Bool :=
  !row.issues.isEmpty

/-- A row that still is to be posted. -/
def isPending (row : StagedRow) : Bool :=
  row.issues.isEmpty && !row.isDuplicate && row.postedAt.isNone

end StagedRow

/-- The counters of a batch agree with its rows. -/
structure Ledger.Tallied (ledger : Ledger) (batch : ImportBatch) : Prop where
  total : batch.totalRows = batch.validRows + batch.duplicateRows + batch.errorRows
  duplicates : (ledger.countRows batch.id (·.isDuplicate) : ℤ) = batch.duplicateRows
  errors : (ledger.countRows batch.id (·.hasIssues) : ℤ) = batch.errorRows
  staged : batch.confirmedAt = none → (ledger.countRows batch.id (·.isPending) : ℤ) =
    batch.validRows ∧ ledger.countRows batch.id (·.postedAt.isSome) = 0
  confirmed : batch.confirmedAt.isSome → (ledger.countRows batch.id (·.postedAt.isSome) : ℤ) =
    batch.validRows ∧ (batch.status = .partlyCompleted ↔ 0 < batch.errorRows)

/-! ## Staging -/

namespace PrepareState

/-- The counters of a loop over rows that became the prepared rows. -/
def Counts (before after : PrepareState) (rows : List PreparedRow) : Prop :=
  after.counters.total = before.counters.total + rows.length ∧
    after.counters.valid = before.counters.valid +
      rows.countP (fun row => row.issues.isEmpty && !row.isDuplicate) ∧
    after.counters.duplicate = before.counters.duplicate + rows.countP (·.isDuplicate) ∧
    after.counters.error = before.counters.error + rows.countP (fun row => !row.issues.isEmpty)

theorem Counts.append {before middle after : PrepareState} {rows later : List PreparedRow}
    (first : Counts before middle rows) (rest : Counts middle after later) :
    Counts before after (rows ++ later) := by
  simp only [Counts, List.length_append, List.countP_append, Nat.cast_add] at first rest ⊢
  omega

end PrepareState

section Staging

variable {env : Env} {ledger : Ledger} {sourceKind : SourceKind}

/-- A prepared row is valid, a duplicate or an error, and never two of them. -/
structure PreparedRow.Classified (row : PreparedRow) : Prop where
  exclusive : row.isDuplicate → row.issues = []

theorem PreparedRow.length_eq_classes (rows : List PreparedRow)
    (classified : ∀ row ∈ rows, row.Classified) :
    rows.length = rows.countP (fun row => row.issues.isEmpty && !row.isDuplicate) +
      rows.countP (·.isDuplicate) + rows.countP (fun row => !row.issues.isEmpty) := by
  induction rows with
  | nil => rfl
  | cons row rest ih =>
      have tail := ih fun other later => classified other (List.mem_cons_of_mem _ later)
      have exclusive := (classified row (List.mem_cons_self ..)).exclusive
      simp only [List.length_cons, List.countP_cons, tail]
      cases duplicate : row.isDuplicate with
      | true =>
          rw [exclusive duplicate]
          simp only [List.isEmpty_nil, Bool.not_true, Bool.and_false, Bool.false_eq_true, if_true,
            if_false]
          omega
      | false =>
          cases row.issues.isEmpty <;>
            simp only [Bool.not_false, Bool.not_true, Bool.and_true, Bool.false_eq_true, if_true,
              if_false] <;>
            omega

theorem prepareValidRow_counts {row : ParsedRow} {normalized : Normalized}
    {state next : PrepareState} {prepared : PreparedRow}
    (succeeded : prepareValidRow env ledger row normalized state = .ok (prepared, next)) :
    PrepareState.Counts state next [prepared] ∧ prepared.Classified := by
  simp only [prepareValidRow, bind_eq_ok, pure, Except.pure, Except.ok.injEq] at succeeded
  rcases succeeded with ⟨key, -, ⟨disposition, status⟩, -, same⟩
  cases disposition <;> cases same <;>
    exact ⟨by simp [PrepareState.Counts, PrepareState.countValid, PrepareState.countError,
      PrepareState.countDuplicate, PrepareState.addDate, PrepareState.remember], ⟨by simp⟩⟩

theorem prepareStagedRow_counts {row : ParsedRow} {state next : PrepareState}
    {prepared : PreparedRow}
    (succeeded : prepareStagedRow env ledger sourceKind row state = .ok (prepared, next)) :
    PrepareState.Counts state next [prepared] ∧ prepared.Classified := by
  simp only [prepareStagedRow] at succeeded
  split at succeeded
  · exact prepareValidRow_counts succeeded
  · cases succeeded
    exact ⟨by simp [PrepareState.Counts, PrepareState.countValid], ⟨by simp⟩⟩
  · rename_i issues normalized notNone notSome
    cases succeeded
    have faulty : rowIssues env ledger.directory sourceKind row ≠ [] := by
      intro clean
      cases found : row.normalized with
      | none => exact notSome clean found
      | some normalized => exact notNone normalized clean found
    exact ⟨by simp [PrepareState.Counts, PrepareState.countError, faulty], ⟨by simp⟩⟩

theorem prepareLoop_counts {rowCount : ℕ} {rows : List ParsedRow} {state next : PrepareState}
    {prepared : List PreparedRow}
    (succeeded : prepareLoop env ledger sourceKind rowCount rows state = .ok (prepared, next)) :
    PrepareState.Counts state next prepared ∧ ∀ row ∈ prepared, row.Classified := by
  induction rows generalizing rowCount state prepared with
  | nil =>
      cases succeeded
      exact ⟨by simp [PrepareState.Counts], by simp⟩
  | cons row rows ih =>
      simp only [prepareLoop] at succeeded
      split at succeeded
      · simp at succeeded
      simp only [bind_eq_ok, pure, Except.pure, Except.ok.injEq, Prod.mk.injEq] at succeeded
      rcases succeeded with ⟨⟨first, middle⟩, head, ⟨rest, last⟩, tail, rfl, rfl⟩
      have counted := prepareStagedRow_counts head
      have countedRest := ih tail
      refine ⟨counted.1.append countedRest.1, ?_⟩
      intro other member
      rcases List.mem_cons.mp member with rfl | later
      · exact counted.2
      · exact countedRest.2 other later

end Staging

/-! ## The effect of a step on the staged rows -/

namespace StagedRow

def asDuplicate (row : StagedRow) : StagedRow :=
  { row with isDuplicate := true }

def withIssue (issue : RowIssue) (row : StagedRow) : StagedRow :=
  { row with issues := [issue] }

def asPosted (now : ℤ) (row : StagedRow) : StagedRow :=
  { row with postedAt := some now }

end StagedRow

/-- The change of a row in a step, with the duplicates and the errors that the step found. -/
inductive RowEffect (row : StagedRow) : (StagedRow → StagedRow) → ℤ → ℤ → Prop where
  | skipped (issues : row.issues ≠ []) : RowEffect row id 0 0
  | duplicate (clean : row.issues = []) : RowEffect row StagedRow.asDuplicate 1 0
  | conflict (clean : row.issues = []) (issue : RowIssue) :
      RowEffect row (StagedRow.withIssue issue) 0 1
  | posted (clean : row.issues = []) (now : ℤ) : RowEffect row (StagedRow.asPosted now) 0 0

/-- No step touches the key of a row, its place or its document. -/
theorem RowEffect.keeps {row : StagedRow} {change : StagedRow → StagedRow} {duplicates errors : ℤ}
    (effect : RowEffect row change duplicates errors) (other : StagedRow) :
    (change other).id = other.id ∧ (change other).batch = other.batch ∧
      (change other).rowNumber = other.rowNumber ∧
      (change other).normalizedData = other.normalizedData := by
  cases effect <;> exact ⟨rfl, rfl, rfl, rfl⟩

theorem Ledger.updateRow_stagedRows (ledger : Ledger) (row : StagedRow)
    (change : StagedRow → StagedRow) :
    (ledger.updateRow row change).stagedRows =
      Tables.update (·.id) row.id change ledger.stagedRows := rfl

/-- What a step does to the staged rows and to the sums of the loop. -/
structure StepEffect (row : StagedRow) (state next : ConfirmState)
    (change : StagedRow → StagedRow) (duplicates errors : ℤ) : Prop where
  effect : RowEffect row change duplicates errors
  rows : next.ledger.stagedRows = Tables.update (·.id) row.id change state.ledger.stagedRows
  batches : next.ledger.importBatches = state.ledger.importBatches
  newDuplicates : next.newDuplicates = state.newDuplicates + duplicates
  newErrors : next.newErrors = state.newErrors + errors

theorem postNormalizedRow_tables {env : Env} {ledger after : Ledger} {batch : Uuid}
    {row : StagedRow} {key : Uuid} {normalized : Normalized}
    (posted : ledger.postNormalizedRow env batch row key normalized = .ok after) :
    after.stagedRows = ledger.stagedRows ∧ after.importBatches = ledger.importBatches := by
  cases normalized with
  | invoice normalized =>
      rcases Ledger.postInvoice_eq_ok posted with ⟨counterparty, totalAmount, -, -, -, rfl⟩
      exact ⟨rfl, rfl⟩
  | transaction normalized =>
      rcases Ledger.postTransaction_eq_ok posted with
        ⟨account, counterparty, fingerprint, amount, balance, -, -, -, -, -, -, rfl⟩
      exact ⟨rfl, rfl⟩

theorem RowOutcome.effect {context : ConfirmContext} {state next : ConfirmState} {row : StagedRow}
    (outcome : RowOutcome context state row next) :
    ∃ change duplicates errors, StepEffect row state next change duplicates errors := by
  cases outcome with
  | skipped issues =>
      refine ⟨id, 0, 0, .skipped issues, ?_, rfl, by simp, by simp⟩
      simp [Tables.update]
  | duplicate normalized existing clean decoded found =>
      exact ⟨_, 1, 0, .duplicate clean, rfl, rfl, rfl, by simp⟩
  | conflict normalized existing clean decoded found =>
      exact ⟨_, 0, 1, .conflict clean _, rfl, rfl, by simp, rfl⟩
  | statusUpdate normalized existing clean decoded found =>
      exact ⟨_, 0, 0, .posted clean _, rfl, rfl, by simp, by simp⟩
  | posted normalized ledger clean decoded found inserted =>
      have tables := postNormalizedRow_tables inserted
      refine ⟨_, 0, 0, .posted clean (context.supply.postedAt row.rowNumber), ?_, tables.2, by simp,
        by simp⟩
      rw [Ledger.markPosted, Ledger.updateRow_stagedRows, tables.1]
      rfl

/-! ## The loop -/

/-- The keys of a ledger's import tables. -/
structure Ledger.ImportKeyed (ledger : Ledger) : Prop where
  batchIds : (ledger.importBatches.map (·.id)).Nodup
  rowIds : (ledger.stagedRows.map (·.id)).Nodup
  rowsKnown : ∀ row ∈ ledger.stagedRows, ∃ batch ∈ ledger.importBatches, batch.id = row.batch

/-- The rows that wait are in the table, as they were when the loop began. -/
structure Waiting (batch : Uuid) (ledger : Ledger) (rows : List StagedRow) : Prop where
  member : ∀ row ∈ rows, row ∈ ledger.stagedRows
  ofBatch : ∀ row ∈ rows, row.batch = batch
  untouched : ∀ row ∈ rows, row.postedAt = none ∧ row.isDuplicate = false
  distinct : (rows.map (·.id)).Nodup

/-- What the loop has found so far about the rows of its batch. -/
structure LoopTally (batch : ImportBatch) (start : Ledger) (state : ConfirmState)
    (waiting : List StagedRow) : Prop where
  batches : state.ledger.importBatches = start.importBatches
  keys : state.ledger.stagedRows.map (·.id) = start.stagedRows.map (·.id)
  owners : state.ledger.stagedRows.map (·.batch) = start.stagedRows.map (·.batch)
  rows : Waiting batch.id state.ledger waiting
  duplicates : (state.ledger.countRows batch.id (·.isDuplicate) : ℤ) =
    batch.duplicateRows + state.newDuplicates
  errors : (state.ledger.countRows batch.id (·.hasIssues) : ℤ) =
    batch.errorRows + state.newErrors
  posted : (state.ledger.countRows batch.id (·.postedAt.isSome) : ℤ) +
    waiting.countP (·.isPending) + state.newDuplicates + state.newErrors = batch.validRows
  found : 0 ≤ state.newDuplicates ∧ 0 ≤ state.newErrors
  others : ∀ id ≠ batch.id, ∀ select,
    state.ledger.countRows id select = start.countRows id select

theorem RowEffect.isDuplicate {row : StagedRow} {change : StagedRow → StagedRow}
    {duplicates errors : ℤ} (effect : RowEffect row change duplicates errors)
    (untouched : row.isDuplicate = false) :
    ((if (change row).isDuplicate then 1 else 0 : ℕ) : ℤ) = duplicates := by
  cases effect <;> simp [StagedRow.asDuplicate, StagedRow.withIssue, StagedRow.asPosted, untouched]

theorem RowEffect.hasIssues {row : StagedRow} {change : StagedRow → StagedRow}
    {duplicates errors : ℤ} (effect : RowEffect row change duplicates errors) :
    ((if (change row).hasIssues then 1 else 0 : ℕ) : ℤ) =
      (if row.hasIssues then 1 else 0 : ℕ) + errors := by
  cases effect <;> simp_all [StagedRow.hasIssues, StagedRow.asDuplicate, StagedRow.withIssue,
    StagedRow.asPosted]

theorem RowEffect.posted_add {row : StagedRow} {change : StagedRow → StagedRow}
    {duplicates errors : ℤ} (effect : RowEffect row change duplicates errors)
    (untouched : row.postedAt = none ∧ row.isDuplicate = false) :
    ((if (change row).postedAt.isSome then 1 else 0 : ℕ) : ℤ) + duplicates + errors =
      (if row.isPending then 1 else 0 : ℕ) := by
  cases effect <;> simp_all [StagedRow.isPending, StagedRow.asDuplicate, StagedRow.withIssue,
    StagedRow.asPosted]

theorem RowEffect.nonneg {row : StagedRow} {change : StagedRow → StagedRow} {duplicates errors : ℤ}
    (effect : RowEffect row change duplicates errors) : 0 ≤ duplicates ∧ 0 ≤ errors := by
  cases effect <;> simp

/-- The count of a property of the rows of a batch, after a step for one of its rows. -/
theorem StepEffect.countRows {row : StagedRow} {state next : ConfirmState}
    {change : StagedRow → StagedRow} {duplicates errors : ℤ}
    (step : StepEffect row state next change duplicates errors)
    (distinct : (state.ledger.stagedRows.map (·.id)).Nodup)
    (member : row ∈ state.ledger.stagedRows) (select : StagedRow → Bool) :
    next.ledger.countRows row.batch select + (if select row then 1 else 0) =
      state.ledger.countRows row.batch select + if select (change row) then 1 else 0 := by
  have counted := Tables.countP_update change distinct member
    (fun other => decide (other.batch = row.batch) && select other)
  have sameBatch : (change row).batch = row.batch := (step.effect.keeps row).2.1
  simpa [Ledger.countRows, step.rows, sameBatch] using counted

theorem StepEffect.countRows_other {row : StagedRow} {state next : ConfirmState}
    {change : StagedRow → StagedRow} {duplicates errors : ℤ}
    (step : StepEffect row state next change duplicates errors)
    (distinct : (state.ledger.stagedRows.map (·.id)).Nodup)
    (member : row ∈ state.ledger.stagedRows) {id : Uuid} (other : id ≠ row.batch)
    (select : StagedRow → Bool) :
    next.ledger.countRows id select = state.ledger.countRows id select := by
  have counted := Tables.countP_update change distinct member
    (fun other => decide (other.batch = id) && select other)
  have sameBatch : (change row).batch = row.batch := (step.effect.keeps row).2.1
  simpa [Ledger.countRows, step.rows, sameBatch, Ne.symm other] using counted

theorem LoopTally.step {context : ConfirmContext} {batch : ImportBatch} {start : Ledger}
    {state next : ConfirmState} {row : StagedRow} {waiting : List StagedRow}
    (keyed : start.ImportKeyed) (tally : LoopTally batch start state (row :: waiting))
    (succeeded : confirmRow context state row = .ok next) : LoopTally batch start next waiting := by
  rcases (confirmRow_outcome succeeded).effect with ⟨change, duplicates, errors, step⟩
  have member := tally.rows.member row (List.mem_cons_self ..)
  have ofBatch : row.batch = batch.id := tally.rows.ofBatch row (List.mem_cons_self ..)
  have untouched := tally.rows.untouched row (List.mem_cons_self ..)
  have distinct : (state.ledger.stagedRows.map (·.id)).Nodup := by
    rw [tally.keys]
    exact keyed.rowIds
  have counts := fun select => step.countRows distinct member select
  simp only [ofBatch] at counts
  have waitingDistinct := tally.rows.distinct
  rw [List.map_cons, List.nodup_cons] at waitingDistinct
  constructor
  case batches => rw [step.batches, tally.batches]
  case keys =>
    rw [step.rows, Tables.map_update fun other => (step.effect.keeps other).1, tally.keys]
  case owners =>
    rw [step.rows, Tables.map_update fun other => (step.effect.keeps other).2.1, tally.owners]
  case rows =>
    refine ⟨?_, ?_, ?_, waitingDistinct.2⟩
    · intro other later
      rw [step.rows]
      refine Tables.mem_update_of_ne (tally.rows.member other (List.mem_cons_of_mem _ later)) ?_
      intro same
      exact waitingDistinct.1 (same ▸ List.mem_map_of_mem later)
    · exact fun other later => tally.rows.ofBatch other (List.mem_cons_of_mem _ later)
    · exact fun other later => tally.rows.untouched other (List.mem_cons_of_mem _ later)
  case duplicates =>
    have counted := counts (·.isDuplicate)
    have changed := step.effect.isDuplicate untouched.2
    rw [untouched.2] at counted
    rw [step.newDuplicates]
    have before := tally.duplicates
    simp only [Bool.false_eq_true, if_false] at counted
    omega
  case errors =>
    have counted := counts (·.hasIssues)
    have changed := step.effect.hasIssues
    rw [step.newErrors]
    have before := tally.errors
    omega
  case posted =>
    have counted := counts (·.postedAt.isSome)
    have changed := step.effect.posted_add untouched
    rw [untouched.1] at counted
    rw [step.newDuplicates, step.newErrors]
    have before := tally.posted
    rw [List.countP_cons] at before
    simp only [Option.isSome_none, Bool.false_eq_true, if_false] at counted
    omega
  case found =>
    have nonneg := step.effect.nonneg
    rw [step.newDuplicates, step.newErrors]
    exact ⟨add_nonneg tally.found.1 nonneg.1, add_nonneg tally.found.2 nonneg.2⟩
  case others =>
    intro id other select
    rw [step.countRows_other distinct member (ofBatch ▸ other) select]
    exact tally.others id other select

theorem LoopTally.loop {context : ConfirmContext} {batch : ImportBatch} {start : Ledger}
    {state next : ConfirmState} {waiting : List StagedRow} (keyed : start.ImportKeyed)
    (tally : LoopTally batch start state waiting)
    (succeeded : waiting.foldlM (confirmRow context) state = .ok next) :
    LoopTally batch start next [] :=
  foldlM_induction (LoopTally batch start) (fun before step => before.step keyed step) tally
    succeeded

/-! ## A whole confirmation -/

theorem importBatch?_eq_some {ledger : Ledger} {id : Uuid} {batch : ImportBatch}
    (found : ledger.importBatch? id = some batch) : batch ∈ ledger.importBatches ∧ batch.id = id :=
  ⟨List.mem_of_find?_eq_some found, by simpa using List.find?_some found⟩

theorem mem_pendingRows {ledger : Ledger} {batch : Uuid} {row : StagedRow} :
    row ∈ ledger.pendingRows batch ↔ row ∈ ledger.stagedRows ∧ row.batch = batch ∧
      row.postedAt = none ∧ row.isDuplicate = false := by
  simp [Ledger.pendingRows, Ledger.orderRows, and_assoc]

theorem waiting_pendingRows {ledger : Ledger} (keyed : ledger.ImportKeyed) (batch : Uuid) :
    Waiting batch ledger (ledger.pendingRows batch) where
  member row member := (mem_pendingRows.mp member).1
  ofBatch row member := (mem_pendingRows.mp member).2.1
  untouched row member := (mem_pendingRows.mp member).2.2
  distinct := by
    have sorted : (ledger.pendingRows batch).Perm (ledger.stagedRows.filter fun row =>
        decide (row.batch = batch) && row.postedAt.isNone && !row.isDuplicate) :=
      List.perm_insertionSort _ _
    rw [(sorted.map (·.id)).nodup_iff]
    exact keyed.rowIds.sublist (List.filter_sublist.map _)

/-- The rows the loop goes through that are to be posted are all such rows of the batch. -/
theorem countP_pendingRows (ledger : Ledger) (batch : Uuid) :
    (ledger.pendingRows batch).countP (·.isPending) = ledger.countRows batch (·.isPending) := by
  rw [Ledger.pendingRows, Ledger.orderRows, (List.perm_insertionSort _ _).countP_eq,
    List.countP_filter, Ledger.countRows]
  refine List.countP_congr fun row _ => ?_
  simp only [StagedRow.isPending, Bool.and_eq_true, decide_eq_true_eq, Bool.not_eq_true']
  tauto

theorem LoopTally.start {ledger : Ledger} {batch : ImportBatch} (keyed : ledger.ImportKeyed)
    (tallied : ledger.Tallied batch) (unconfirmed : batch.confirmedAt = none) :
    LoopTally batch ledger ⟨ledger, 0, 0⟩ (ledger.pendingRows batch.id) where
  batches := rfl
  keys := rfl
  owners := rfl
  rows := waiting_pendingRows keyed batch.id
  duplicates := by simpa using tallied.duplicates
  errors := by simpa using tallied.errors
  posted := by
    have counted := tallied.staged unconfirmed
    rw [countP_pendingRows]
    simp only [counted.2, Nat.cast_zero, zero_add, add_zero]
    exact counted.1
  found := ⟨le_refl 0, le_refl 0⟩
  others _ _ _ := rfl

/-- The batches after one of them was saved. -/
theorem mem_saveBatch {ledger : Ledger} {batch other : ImportBatch}
    (member : other ∈ (ledger.saveBatch batch).importBatches) :
    (other ∈ ledger.importBatches ∧ other.id ≠ batch.id) ∨ other = batch := by
  have updated : other ∈ Tables.update (·.id) batch.id (fun _ => batch) ledger.importBatches :=
    member
  rcases Tables.mem_update updated with kept | ⟨old, -, -, changed⟩
  · exact .inl kept
  · exact .inr changed

/-- The import tables of a ledger agree with each other. -/
structure Ledger.Tallies (ledger : Ledger) : Prop where
  keyed : ledger.ImportKeyed
  tallied : ∀ batch ∈ ledger.importBatches, ledger.Tallied batch

/-- Creating snapshots only adds snapshots. -/
theorem createBalanceSnapshots_eq {ledger after : Ledger} {batch : ImportBatch}
    (succeeded : ledger.createBalanceSnapshots batch = .ok after) :
    after = { ledger with snapshots := after.snapshots } := by
  simp only [Ledger.createBalanceSnapshots] at succeeded
  split at succeeded
  · refine foldlM_induction (fun state _ => state = { ledger with snapshots := state.snapshots }) ?_
      rfl succeeded
    intro state candidate rest next same step
    simp only [Ledger.createBalanceSnapshot] at step
    split at step
    · split_ifs at step
      cases step
      exact same
    · simp only [bind_eq_ok] at step
      rcases step with ⟨balance, -, added⟩
      cases added
      rw [same]
  · cases succeeded
    rfl

/-- The counts of a batch only depend on the staged rows. -/
theorem Ledger.Tallied.congr {ledger after : Ledger} {batch : ImportBatch}
    (tallied : ledger.Tallied batch)
    (counts : ∀ select, after.countRows batch.id select = ledger.countRows batch.id select) :
    after.Tallied batch where
  total := tallied.total
  duplicates := by
    rw [counts]
    exact tallied.duplicates
  errors := by
    rw [counts]
    exact tallied.errors
  staged unconfirmed := by
    rw [counts, counts]
    exact tallied.staged unconfirmed
  confirmed isConfirmed := by
    rw [counts]
    exact tallied.confirmed isConfirmed

/-- The counters of the confirmed batch, from the tally at the end of its loop. -/
theorem LoopTally.confirmed {ledger : Ledger} {batch : ImportBatch} {state : ConfirmState}
    {confirmedAt : ℤ} (tallied : ledger.Tallied batch) (tally : LoopTally batch ledger state []) :
    state.ledger.Tallied (confirmedBatch batch state.newDuplicates state.newErrors confirmedAt) where
  total := by
    have total := tallied.total
    simp only [confirmedBatch]
    omega
  duplicates := tally.duplicates
  errors := tally.errors
  staged unconfirmed := by simp [confirmedBatch] at unconfirmed
  confirmed _ := by
    have posted := tally.posted
    have errors := tally.errors
    refine ⟨?_, ?_⟩
    · simp only [confirmedBatch, List.countP_nil, Nat.cast_zero, add_zero] at posted ⊢
      omega
    · simp only [confirmedBatch]
      split_ifs with clean
      · simp [clean]
      · simp only [true_iff]
        omega

namespace Confirmed

variable {env : Env} {request : ConfirmRequest} {ledger snapshotted : Ledger} {batch : ImportBatch}
  {state : ConfirmState}

theorem tally (confirmed : Confirmed env request ledger batch state snapshotted)
    (tallies : ledger.Tallies) : LoopTally batch ledger state [] := by
  have tallied := tallies.tallied batch (importBatch?_eq_some confirmed.batchFound).1
  exact (LoopTally.start tallies.keyed tallied confirmed.unconfirmed).loop tallies.keyed
    confirmed.loop

theorem stagedRows (confirmed : Confirmed env request ledger batch state snapshotted) :
    (confirmedLedger request batch state snapshotted).stagedRows = state.ledger.stagedRows := by
  have same : snapshotted.stagedRows = state.ledger.stagedRows := by
    rw [createBalanceSnapshots_eq confirmed.snapshots]
  exact same

theorem countRows (confirmed : Confirmed env request ledger batch state snapshotted) (id : Uuid)
    (select : StagedRow → Bool) :
    (confirmedLedger request batch state snapshotted).countRows id select =
      state.ledger.countRows id select := by
  simp only [Ledger.countRows, confirmed.stagedRows]

theorem importBatches (confirmed : Confirmed env request ledger batch state snapshotted)
    (tallies : ledger.Tallies) :
    (confirmedLedger request batch state snapshotted).importBatches =
      (ledger.saveBatch (confirmedBatch batch state.newDuplicates state.newErrors
        request.confirmedAt)).importBatches := by
  have same : snapshotted.importBatches = state.ledger.importBatches := by
    rw [createBalanceSnapshots_eq confirmed.snapshots]
  simp only [confirmedLedger, savedLedger, Ledger.recordAudit, Ledger.saveBatch, same,
    (confirmed.tally tallies).batches]

theorem batchIds (confirmed : Confirmed env request ledger batch state snapshotted)
    (tallies : ledger.Tallies) :
    (confirmedLedger request batch state snapshotted).importBatches.map (·.id) =
      ledger.importBatches.map (·.id) := by
  rw [confirmed.importBatches tallies, Ledger.saveBatch, List.map_map]
  refine List.map_congr_left fun other _ => ?_
  by_cases same : other.id = batch.id
  · simp [confirmedBatch, same]
  · simp [confirmedBatch, same]

theorem importKeyed (confirmed : Confirmed env request ledger batch state snapshotted)
    (tallies : ledger.Tallies) :
    (confirmedLedger request batch state snapshotted).ImportKeyed where
  batchIds := by
    rw [confirmed.batchIds tallies]
    exact tallies.keyed.batchIds
  rowIds := by
    rw [confirmed.stagedRows, (confirmed.tally tallies).keys]
    exact tallies.keyed.rowIds
  rowsKnown row member := by
    rw [confirmed.stagedRows] at member
    have owner : row.batch ∈ ledger.stagedRows.map (·.batch) := by
      rw [← (confirmed.tally tallies).owners]
      exact List.mem_map_of_mem member
    rcases List.mem_map.mp owner with ⟨old, oldMem, sameOwner⟩
    rcases tallies.keyed.rowsKnown old oldMem with ⟨known, knownMem, knownId⟩
    have listed : row.batch ∈ ledger.importBatches.map (·.id) := by
      rw [← sameOwner, ← knownId]
      exact List.mem_map_of_mem knownMem
    rw [← confirmed.batchIds tallies] at listed
    exact List.mem_map.mp listed

theorem tallies (confirmed : Confirmed env request ledger batch state snapshotted)
    (tallies : ledger.Tallies) :
    (confirmedLedger request batch state snapshotted).Tallies := by
  refine ⟨confirmed.importKeyed tallies, ?_⟩
  have tally := confirmed.tally tallies
  have tallied := tallies.tallied batch (importBatch?_eq_some confirmed.batchFound).1
  intro other member
  rw [confirmed.importBatches tallies] at member
  rcases mem_saveBatch member with ⟨old, different⟩ | rfl
  · refine (tallies.tallied other old).congr fun select => ?_
    rw [confirmed.countRows]
    exact tally.others other.id different select
  · exact (tally.confirmed tallied).congr fun select => confirmed.countRows _ select

end Confirmed

theorem confirmBatch_tallies {env : Env} {request : ConfirmRequest} {ledger after : Ledger}
    {result : ImportResult} (tallies : ledger.Tallies)
    (succeeded : confirmBatch env request ledger = .ok (after, result)) : after.Tallies := by
  rw [confirmBatch_eq_ok] at succeeded
  rcases succeeded with ⟨-, ⟨batch, -, -, rfl, -⟩ | ⟨batch, state, snapshotted, confirmed, rfl, -⟩⟩
  · exact tallies
  · exact confirmed.tallies tallies

/-! ## A whole staging -/

/-- The rows that a staging adds with its batch. -/
structure AddsRows (ledger after : Ledger) (batch : ImportBatch) (added : List StagedRow) : Prop where
  batches : after.importBatches = ledger.importBatches ++ [batch]
  rows : after.stagedRows = ledger.stagedRows ++ added
  freshBatch : ∀ other ∈ ledger.importBatches, other.id ≠ batch.id
  ofBatch : ∀ row ∈ added, row.batch = batch.id
  distinct : (added.map (·.id)).Nodup
  freshRows : ∀ row ∈ added, ∀ other ∈ ledger.stagedRows, other.id ≠ row.id

namespace AddsRows

variable {ledger after : Ledger} {batch : ImportBatch} {added : List StagedRow}

theorem countRows (adds : AddsRows ledger after batch added) (id : Uuid)
    (select : StagedRow → Bool) :
    after.countRows id select = ledger.countRows id select +
      added.countP fun row => decide (row.batch = id) && select row := by
  rw [Ledger.countRows, adds.rows, List.countP_append, Ledger.countRows]

theorem countRows_new (adds : AddsRows ledger after batch added) (keyed : ledger.ImportKeyed)
    (select : StagedRow → Bool) : after.countRows batch.id select = added.countP select := by
  have noOld : ledger.countRows batch.id select = 0 := by
    rw [Ledger.countRows, List.countP_eq_zero]
    intro row member
    rcases keyed.rowsKnown row member with ⟨known, knownMem, knownId⟩
    have other : row.batch ≠ batch.id := knownId ▸ adds.freshBatch known knownMem
    simp [other]
  rw [adds.countRows, noOld, zero_add]
  refine List.countP_congr fun row member => ?_
  simp [adds.ofBatch row member]

theorem countRows_old (adds : AddsRows ledger after batch added) {id : Uuid} (other : id ≠ batch.id)
    (select : StagedRow → Bool) : after.countRows id select = ledger.countRows id select := by
  rw [adds.countRows, Nat.add_eq_left, List.countP_eq_zero]
  intro row member
  simp [adds.ofBatch row member, Ne.symm other]

theorem importKeyed (adds : AddsRows ledger after batch added) (keyed : ledger.ImportKeyed) :
    after.ImportKeyed where
  batchIds := by
    rw [adds.batches, List.map_append, List.nodup_append]
    refine ⟨keyed.batchIds, by simp, ?_⟩
    rintro id member other otherMem rfl
    rcases List.mem_map.mp member with ⟨old, oldMem, oldId⟩
    simp only [List.map_cons, List.map_nil, List.mem_singleton] at otherMem
    exact adds.freshBatch old oldMem (oldId.trans otherMem)
  rowIds := by
    rw [adds.rows, List.map_append, List.nodup_append]
    refine ⟨keyed.rowIds, adds.distinct, ?_⟩
    rintro id member other otherMem rfl
    rcases List.mem_map.mp member with ⟨old, oldMem, oldId⟩
    rcases List.mem_map.mp otherMem with ⟨new, newMem, newId⟩
    exact adds.freshRows new newMem old oldMem (oldId.trans newId.symm)
  rowsKnown row member := by
    rw [adds.rows] at member
    rw [adds.batches]
    rcases List.mem_append.mp member with old | new
    · rcases keyed.rowsKnown row old with ⟨known, knownMem, knownId⟩
      exact ⟨known, List.mem_append_left _ knownMem, knownId⟩
    · exact ⟨batch, List.mem_append_right _ (by simp), (adds.ofBatch row new).symm⟩

end AddsRows

theorem addsRows_insertUpload {request : StageRequest} {sha256 : String} {sourceKind : SourceKind}
    {ledger : Ledger} {rows : List PreparedRow} {state : PrepareState}
    (insertable : ledger.CanInsertUpload request rows) :
    AddsRows ledger
      (ledger.insertUpload request sha256 (Ledger.stagedBatch request sourceKind state) rows).1
      (Ledger.stagedBatch request sourceKind state)
      (rows.map (Ledger.stagedRow request.batchKey request.rowKey)) := by
  rcases insertable with ⟨freshBatch, -, -, distinct, freshRows⟩
  constructor
  case batches => rfl
  case rows => rfl
  case freshBatch => exact freshBatch
  case ofBatch =>
    intro row member
    rcases List.mem_map.mp member with ⟨prepared, -, rfl⟩
    rfl
  case distinct =>
    rw [List.map_map]
    exact distinct
  case freshRows =>
    intro row member other otherMem
    rcases List.mem_map.mp member with ⟨prepared, preparedMem, rfl⟩
    exact freshRows prepared preparedMem other otherMem

theorem stageUpload_addsRows {env : Env} {parsers : List Importer} {request : StageRequest}
    {ledger after : Ledger} {batch : ImportBatch}
    (succeeded : stageUpload env parsers request ledger = .ok (after, batch)) :
    ∃ parser sourceKind rows state,
      Staged env parsers request ledger parser sourceKind rows state ∧
        batch = Ledger.stagedBatch request sourceKind state ∧
        AddsRows ledger after batch (rows.map (Ledger.stagedRow batch.id request.rowKey)) := by
  rcases stageUpload_eq_ok succeeded with ⟨parser, sourceKind, rows, state, staged, same⟩
  have batchEq : batch = Ledger.stagedBatch request sourceKind state := congrArg Prod.snd same
  have afterEq : after = (ledger.insertUpload request (env.sha256 request.upload.content)
    (Ledger.stagedBatch request sourceKind state) rows).1 := congrArg Prod.fst same
  refine ⟨parser, sourceKind, rows, state, staged, batchEq, ?_⟩
  rw [batchEq, afterEq]
  exact addsRows_insertUpload staged.insertable

/-- The counters of a new batch, from the counts of the loop that prepared its rows. -/
theorem tallied_stagedBatch {env : Env} {ledger after : Ledger} {request : StageRequest}
    {sourceKind : SourceKind} {rowCount : ℕ} {parsed : List ParsedRow} {rows : List PreparedRow}
    {state : PrepareState} (keyed : ledger.ImportKeyed)
    (prepared : prepareLoop env ledger sourceKind rowCount parsed .start = .ok (rows, state))
    (adds : AddsRows ledger after (Ledger.stagedBatch request sourceKind state)
      (rows.map (Ledger.stagedRow request.batchKey request.rowKey))) :
    after.Tallied (Ledger.stagedBatch request sourceKind state) := by
  have counted := prepareLoop_counts prepared
  rcases counted with ⟨⟨total, valid, duplicate, error⟩, classified⟩
  simp only [PrepareState.start, zero_add] at total valid duplicate error
  have counts : ∀ select, after.countRows (Ledger.stagedBatch request sourceKind state).id select =
      rows.countP (select ∘ Ledger.stagedRow request.batchKey request.rowKey) := by
    intro select
    rw [adds.countRows_new keyed, List.countP_map]
  constructor
  case total =>
    have classes := PreparedRow.length_eq_classes rows classified
    simp only [Ledger.stagedBatch, total, valid, duplicate, error, classes, Nat.cast_add]
  case duplicates =>
    rw [counts, Ledger.stagedBatch, duplicate]
    rfl
  case errors =>
    rw [counts, Ledger.stagedBatch, error]
    rfl
  case staged =>
    intro _
    rw [counts, counts, Ledger.stagedBatch, valid]
    refine ⟨?_, ?_⟩
    · congr 1
      refine List.countP_congr fun row _ => ?_
      simp [StagedRow.isPending, Ledger.stagedRow]
    · rw [List.countP_eq_zero]
      simp [Ledger.stagedRow]
  case confirmed =>
    intro isConfirmed
    simp [Ledger.stagedBatch] at isConfirmed

theorem stageUpload_tallies {env : Env} {parsers : List Importer} {request : StageRequest}
    {ledger after : Ledger} {batch : ImportBatch} (tallies : ledger.Tallies)
    (succeeded : stageUpload env parsers request ledger = .ok (after, batch)) : after.Tallies := by
  rcases stageUpload_addsRows succeeded with ⟨parser, sourceKind, rows, state, staged, rfl, adds⟩
  refine ⟨adds.importKeyed tallies.keyed, ?_⟩
  intro other member
  rw [adds.batches] at member
  rcases List.mem_append.mp member with old | new
  · exact (tallies.tallied other old).congr fun select =>
      adds.countRows_old (adds.freshBatch other old) select
  · rw [List.mem_singleton.mp new]
    exact tallied_stagedBatch tallies.keyed staged.prepared adds

end Finrec
