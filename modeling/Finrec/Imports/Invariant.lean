import Finrec.Imports.Tallies
import Finrec.Ledger.StatusChanges

/-!
# The import invariant

Whatever files are staged and confirmed in whatever order, an invoice number and
a fingerprint name one record, an invoice keeps its business fields and ends at
most once, and the counters of a batch agree with its rows.
-/

namespace Finrec

open Checks

/-- The tables that imports write are the same. -/
structure SameImports (before after : Ledger) : Prop where
  batches : after.importBatches = before.importBatches
  rows : after.stagedRows = before.stagedRows
  invoices : after.invoices = before.invoices
  transactions : after.transactions = before.transactions
  snapshots : after.snapshots = before.snapshots

/-- An operation is a staging, a confirmation, or one that leaves the import tables alone. -/
theorem perform_cases {site : Installation} {ledger after : Ledger} {operation : Operation}
    (succeeded : operation.perform site ledger = .ok after) :
    (∃ request batch, operation = .stageUpload request ∧
      stageUpload site.env site.parsers request ledger = .ok (after, batch)) ∨
    (∃ request result, operation = .confirmBatch request ∧
      confirmBatch site.env request ledger = .ok (after, result)) ∨
    SameImports ledger after := by
  cases operation with
  | maintain directory =>
      cases succeeded
      exact .inr (.inr ⟨rfl, rfl, rfl, rfl, rfl⟩)
  | stageUpload request =>
      rcases perform_stageUpload succeeded with ⟨batch, staged⟩
      exact .inl ⟨request, batch, rfl, staged⟩
  | confirmBatch request =>
      rcases perform_confirmBatch succeeded with ⟨result, confirmed⟩
      exact .inr (.inl ⟨request, result, rfl, confirmed⟩)
  | createReconciliation request uuid now =>
      simp only [Operation.perform, createReconciliation_eq_ok] at succeeded
      rcases succeeded with ⟨direction, mode, lines, -, rfl⟩
      exact .inr (.inr ⟨rfl, rfl, rfl, rfl, rfl⟩)
  | reverseReconciliation actor id reason now =>
      simp only [Operation.perform, reverseReconciliation_eq_ok] at succeeded
      rcases succeeded with ⟨-, text, -, -, original, -, -, rfl⟩
      exact .inr (.inr ⟨rfl, rfl, rfl, rfl, rfl⟩)
  | createSettlementBatch request uuid now =>
      simp only [Operation.perform, createSettlementBatch_eq_ok] at succeeded
      rcases succeeded with ⟨direction, invoices, transactions, -, rfl⟩
      exact .inr (.inr ⟨rfl, rfl, rfl, rfl, rfl⟩)
  | confirmSettlementBatch id actor allocations version uuid now =>
      simp only [Operation.perform, confirmSettlementBatch_eq_ok, createReconciliation_eq_ok]
        at succeeded
      rcases succeeded with ⟨-, batch, -, -, -, created, ⟨direction, mode, lines, -, rfl⟩, rfl⟩
      exact .inr (.inr ⟨rfl, rfl, rfl, rfl, rfl⟩)

theorem SameImports.tallies {ledger after : Ledger} (same : SameImports ledger after)
    (tallies : ledger.Tallies) : after.Tallies where
  keyed := by
    refine ⟨?_, ?_, ?_⟩
    · rw [same.batches]
      exact tallies.keyed.batchIds
    · rw [same.rows]
      exact tallies.keyed.rowIds
    · rw [same.batches, same.rows]
      exact tallies.keyed.rowsKnown
  tallied := by
    rw [same.batches]
    intro batch member
    refine (tallies.tallied batch member).congr fun select => ?_
    simp only [Ledger.countRows, same.rows]

theorem perform_tallies {site : Installation} {ledger after : Ledger} {operation : Operation}
    (tallies : ledger.Tallies) (succeeded : operation.perform site ledger = .ok after) :
    after.Tallies := by
  rcases perform_cases succeeded with ⟨request, batch, -, staged⟩ | ⟨request, result, -, confirmed⟩ |
    same
  · exact stageUpload_tallies tallies staged
  · exact confirmBatch_tallies tallies confirmed
  · exact same.tallies tallies

theorem Ledger.Tallies.empty (directory : Directory) : (Ledger.empty directory).Tallies := by
  refine ⟨⟨?_, ?_, ?_⟩, ?_⟩ <;> simp [Ledger.empty]

theorem run_tallies (site : Installation) (directory : Directory) (operations : List Operation) :
    (run site directory operations).Tallies :=
  runFrom_induction _ (.empty directory) (fun tallies succeeded => perform_tallies tallies succeeded)
    operations

/-! ## Confirmed batches -/

/-- A confirmed batch stays as it is, and so do the flags of its rows. -/
def ConfirmedKept (before after : Ledger) : Prop :=
  ∀ batch ∈ before.importBatches, batch.confirmedAt.isSome → batch ∈ after.importBatches ∧
    ∀ select, after.countRows batch.id select = before.countRows batch.id select

namespace ConfirmedKept

theorem refl (ledger : Ledger) : ConfirmedKept ledger ledger :=
  fun _ member _ => ⟨member, fun _ => rfl⟩

theorem trans {before middle after : Ledger} (earlier : ConfirmedKept before middle)
    (later : ConfirmedKept middle after) : ConfirmedKept before after := by
  intro batch member isConfirmed
  have first := earlier batch member isConfirmed
  have second := later batch first.1 isConfirmed
  exact ⟨second.1, fun select => (second.2 select).trans (first.2 select)⟩

theorem of_confirmBatch {env : Env} {request : ConfirmRequest} {ledger after : Ledger}
    {result : ImportResult} (tallies : ledger.Tallies)
    (succeeded : confirmBatch env request ledger = .ok (after, result)) :
    ConfirmedKept ledger after := by
  rw [confirmBatch_eq_ok] at succeeded
  rcases succeeded with ⟨-, ⟨batch, -, -, rfl, -⟩ | ⟨batch, state, snapshotted, confirmed, rfl, -⟩⟩
  · exact .refl _
  intro other member isConfirmed
  have batchMem := (importBatch?_eq_some confirmed.batchFound).1
  -- the batch that is being confirmed was not confirmed before
  have different : other.id ≠ batch.id := by
    intro sameId
    have same := List.inj_on_of_nodup_map tallies.keyed.batchIds member batchMem sameId
    rw [same, confirmed.unconfirmed] at isConfirmed
    simp at isConfirmed
  refine ⟨?_, fun select => ?_⟩
  · rw [confirmed.importBatches tallies]
    exact Tables.mem_update_of_ne member different
  · rw [confirmed.countRows]
    exact (confirmed.tally tallies).others other.id different select

theorem of_perform {site : Installation} {ledger after : Ledger} {operation : Operation}
    (tallies : ledger.Tallies) (succeeded : operation.perform site ledger = .ok after) :
    ConfirmedKept ledger after := by
  rcases perform_cases succeeded with ⟨request, batch, -, staged⟩ | ⟨request, result, -, confirmed⟩ |
    same
  · rcases stageUpload_addsRows staged with ⟨parser, sourceKind, rows, state, -, -, adds⟩
    intro other member _
    refine ⟨?_, adds.countRows_old (adds.freshBatch other member)⟩
    rw [adds.batches]
    exact List.mem_append_left _ member
  · exact of_confirmBatch tallies confirmed
  · intro other member _
    rw [same.batches]
    exact ⟨member, fun select => by simp only [Ledger.countRows, same.rows]⟩

theorem of_runFrom {site : Installation} {ledger : Ledger} (tallies : ledger.Tallies)
    (operations : List Operation) : ConfirmedKept ledger (runFrom site ledger operations) := by
  refine (runFrom_induction (fun after => after.Tallies ∧ ConfirmedKept ledger after)
    ⟨tallies, .refl ledger⟩ ?_ operations).2
  rintro before after operation ⟨talliesBefore, kept⟩ succeeded
  exact ⟨perform_tallies talliesBefore succeeded, kept.trans (of_perform talliesBefore succeeded)⟩

end ConfirmedKept

theorem importBatch?_eq_some_iff {ledger : Ledger} (keyed : ledger.ImportKeyed) {id : Uuid}
    {batch : ImportBatch} :
    ledger.importBatch? id = some batch ↔ batch ∈ ledger.importBatches ∧ batch.id = id :=
  Totals.find?_eq_some_iff keyed.batchIds

theorem postedRows_eq_countRows (ledger : Ledger) (batch : Uuid) :
    ledger.postedRows batch = ledger.countRows batch (·.postedAt.isSome) := by
  rw [Ledger.postedRows, Ledger.countRows, List.countP_eq_length_filter]

/-- The result of a successful confirmation is the one of the confirmed batch. -/
theorem confirmBatch_result {env : Env} {request : ConfirmRequest} {ledger after : Ledger}
    {result : ImportResult} (tallies : ledger.Tallies)
    (succeeded : confirmBatch env request ledger = .ok (after, result)) :
    ∃ batch ∈ after.importBatches, batch.id = request.batchId ∧ batch.confirmedAt.isSome ∧
      result = after.importResult batch := by
  rw [confirmBatch_eq_ok] at succeeded
  rcases succeeded with ⟨-, ⟨batch, found, isConfirmed, rfl, rfl⟩ |
    ⟨batch, state, snapshotted, confirmed, rfl, rfl⟩⟩
  · have located := importBatch?_eq_some found
    exact ⟨batch, located.1, located.2, isConfirmed, rfl⟩
  · have located := importBatch?_eq_some confirmed.batchFound
    refine ⟨confirmedBatch batch state.newDuplicates state.newErrors request.confirmedAt, ?_,
      located.2, rfl, rfl⟩
    rw [confirmed.importBatches tallies]
    exact List.mem_map.mpr ⟨batch, located.1, if_pos rfl⟩

/-- Confirming again, at any later time, changes nothing and gives the same result. -/
theorem confirmBatch_again {site : Installation} {ledger after : Ledger}
    {request again : ConfirmRequest} {result : ImportResult} (tallies : ledger.Tallies)
    (succeeded : confirmBatch site.env request ledger = .ok (after, result))
    (later : List Operation) (sameBatch : again.batchId = request.batchId)
    (finance : again.actor.IsFinance) :
    confirmBatch site.env again (runFrom site after later) =
      .ok (runFrom site after later, result) := by
  have talliesAfter := confirmBatch_tallies tallies succeeded
  rcases confirmBatch_result tallies succeeded with ⟨batch, member, batchId, isConfirmed, rfl⟩
  have keptAll : ConfirmedKept after (runFrom site after later) := .of_runFrom talliesAfter later
  have kept := keptAll batch member isConfirmed
  have talliesFinal : (runFrom site after later).Tallies :=
    runFrom_induction _ talliesAfter (fun before succeeded => perform_tallies before succeeded) later
  rw [confirmBatch_eq_ok]
  refine ⟨finance, .inl ⟨batch, ?_, isConfirmed, rfl, ?_⟩⟩
  · rw [importBatch?_eq_some_iff talliesFinal.keyed, sameBatch]
    exact ⟨kept.1, batchId⟩
  · simp only [Ledger.importResult, postedRows_eq_countRows, kept.2]

/-- The counters and the status that a batch reports. -/
structure Ledger.CountersAgree (ledger : Ledger) (batch : ImportBatch) : Prop where
  total : batch.totalRows = batch.validRows + batch.duplicateRows + batch.errorRows
  confirmed : batch.confirmedAt.isSome →
    ((ledger.stagedRows.filter fun row => decide (row.batch = batch.id) &&
        row.postedAt.isSome).length : ℤ) = batch.validRows ∧
      ((ledger.stagedRows.filter fun row => decide (row.batch = batch.id) &&
        row.isDuplicate).length : ℤ) = batch.duplicateRows ∧
      ((ledger.stagedRows.filter fun row => decide (row.batch = batch.id) &&
        decide (row.issues ≠ [])).length : ℤ) = batch.errorRows ∧
      (batch.status = .partlyCompleted ↔ 0 < batch.errorRows)

theorem Ledger.Tallied.countersAgree {ledger : Ledger} {batch : ImportBatch}
    (tallied : ledger.Tallied batch) : ledger.CountersAgree batch where
  total := tallied.total
  confirmed isConfirmed := by
    have counted := tallied.confirmed isConfirmed
    have issues : ledger.countRows batch.id (fun row => decide (row.issues ≠ [])) =
        ledger.countRows batch.id (·.hasIssues) := by
      refine List.countP_congr fun row _ => ?_
      simp [StagedRow.hasIssues]
    simp only [← List.countP_eq_length_filter]
    refine ⟨counted.1, tallied.duplicates, ?_, counted.2⟩
    rw [← tallied.errors, ← issues]
    rfl

/-- The import invariant, after every run: records are unique, invoices only ever end and end once,
with one audit entry, the counters agree with the rows, and confirming again does nothing. -/
theorem import_ledger_invariant (site : Installation) (directory : Directory)
    (operations : List Operation) :
    (run site directory operations).Keyed ∧
      (∀ invoice ∈ (run site directory operations).invoices,
        (run site directory operations).Chronicled invoice) ∧
      (∀ later, InvoicesKept (run site directory operations)
        (run site directory (operations ++ later))) ∧
      (∀ batch ∈ (run site directory operations).importBatches,
        (run site directory operations).CountersAgree batch) ∧
      ∀ request after result,
        confirmBatch site.env request (run site directory operations) = .ok (after, result) →
        ∀ later again, again.batchId = request.batchId → again.actor.IsFinance →
          confirmBatch site.env again (runFrom site after later) =
            .ok (runFrom site after later, result) := by
  have tallies := run_tallies site directory operations
  refine ⟨run_keyed site directory operations, (run_audited site directory operations).chronicled,
    run_invoicesKept site directory operations, ?_, ?_⟩
  · exact fun batch member => (tallies.tallied batch member).countersAgree
  · exact fun request after result succeeded later again sameBatch finance =>
      confirmBatch_again tallies succeeded later sameBatch finance

end Finrec
