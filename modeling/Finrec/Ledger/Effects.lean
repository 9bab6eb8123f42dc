import Finrec.Ledger.Invariant

/-!
# What an operation does to the books

Reconciliations, allocations, reversals and settlement batches are written by
four operations only.  `Effect` says for every successful operation what it
writes there and what it has checked, so that a fact about these tables needs
one case for each kind of entry.
-/

namespace Finrec

open Checks Totals

/-- The tables of reconciliations and of settlement batches are the same. -/
structure SameBooks (before after : Ledger) : Prop where
  settlementBatches : after.settlementBatches = before.settlementBatches
  batchInvoices : after.batchInvoices = before.batchInvoices
  batchTransactions : after.batchTransactions = before.batchTransactions
  reconciliations : after.reconciliations = before.reconciliations
  allocations : after.allocations = before.allocations
  reversals : after.reversals = before.reversals

namespace SameBooks

variable {stamps : ℤ → Prop} {ledger middle after : Ledger}

theorem refl (ledger : Ledger) : SameBooks ledger ledger :=
  ⟨rfl, rfl, rfl, rfl, rfl, rfl⟩

theorem trans (first : SameBooks ledger middle) (second : SameBooks middle after) :
    SameBooks ledger after :=
  ⟨second.settlementBatches.trans first.settlementBatches,
    second.batchInvoices.trans first.batchInvoices,
    second.batchTransactions.trans first.batchTransactions,
    second.reconciliations.trans first.reconciliations,
    second.allocations.trans first.allocations, second.reversals.trans first.reversals⟩

theorem of_importMove (move : ImportMove stamps ledger after) : SameBooks ledger after := by
  cases move with
  | addInvoice invoice insertable => exact ⟨rfl, rfl, rfl, rfl, rfl, rfl⟩
  | addTransaction money insertable => exact ⟨rfl, rfl, rfl, rfl, rfl, rfl⟩
  | setStatus existing status batch row actor now => exact ⟨rfl, rfl, rfl, rfl, rfl, rfl⟩
  | saveRow row change => exact ⟨rfl, rfl, rfl, rfl, rfl, rfl⟩
  | addSnapshot snapshot => exact ⟨rfl, rfl, rfl, rfl, rfl, rfl⟩
  | saveBatch batch => exact ⟨rfl, rfl, rfl, rfl, rfl, rfl⟩
  | auditConfirmed actor batch result now => exact ⟨rfl, rfl, rfl, rfl, rfl, rfl⟩

theorem of_importMoves (moves : ImportMoves stamps ledger after) : SameBooks ledger after := by
  induction moves with
  | refl => exact refl ledger
  | tail _ move ih => exact ih.trans (of_importMove move)

end SameBooks

/-- What a successful operation writes into the books, and what it has checked. -/
inductive Effect (ledger : Ledger) : Operation → Ledger → Prop where
  | elsewhere (operation : Operation) {after : Ledger} (same : SameBooks ledger after) :
      Effect ledger operation after
  | create {request : ReconciliationRequest} {uuid : Uuid} {now : ℤ}
      {direction : ReconciliationDirection} {mode : ReconciliationMode}
      {lines : List AllocationLine}
      (checked : ReconciliationChecked request uuid ledger direction mode lines) :
      Effect ledger (.createReconciliation request uuid now)
        (ledger.insertReconciliation (reconciliationRow request uuid now direction mode) lines)
  | reverse {actor : Actor} {id : Uuid} {reason : Option String} {now : ℤ}
      {row : ReconciliationReversal}
      (original : ∃ reconciliation ∈ ledger.reconciliations, reconciliation.id = row.original)
      (notReversed : ledger.isReversed row.original = false) :
      Effect ledger (.reverseReconciliation actor id reason now) (ledger.insertReversal row)
  | draft {request : SettlementRequest} {uuid : Uuid} {now : ℤ}
      {direction : ReconciliationDirection} {invoices : List Invoice}
      {transactions : List MoneyTransaction}
      (checked : Draftable ledger (settlementBatchRow request uuid direction) invoices
        transactions) :
      Effect ledger (.createSettlementBatch request uuid now)
        (ledger.insertSettlementBatch (settlementBatchRow request uuid direction) invoices
          transactions now)
  | settle {actor : Actor} {allocations : List AllocationInput} {version : ℤ} {uuid : Uuid}
      {now : ℤ} {batch : SettlementBatch} {direction : ReconciliationDirection}
      {mode : ReconciliationMode} {lines : List AllocationLine}
      (found : ledger.settlementBatch? batch.id = some batch) (isDraft : batch.status = .draft)
      (checked : ReconciliationChecked (confirmationRequest actor batch allocations) uuid ledger
        direction mode lines) :
      Effect ledger (.confirmSettlementBatch batch.id actor allocations version uuid now)
        ((ledger.insertReconciliation (reconciliationRow
          (confirmationRequest actor batch allocations) uuid now direction mode) lines).setConfirmed
            batch.id)

theorem settlementBatch?_id {ledger : Ledger} {id : Uuid} {batch : SettlementBatch}
    (found : ledger.settlementBatch? id = some batch) : batch.id = id := by
  simpa using List.find?_some found

theorem perform_effect {site : Installation} {ledger after : Ledger} {operation : Operation}
    (succeeded : operation.perform site ledger = .ok after) : Effect ledger operation after := by
  cases operation with
  | maintain directory =>
      cases succeeded
      exact .elsewhere _ ⟨rfl, rfl, rfl, rfl, rfl, rfl⟩
  | stageUpload request =>
      rcases perform_stageUpload succeeded with ⟨batch, staged⟩
      rcases stageUpload_eq_ok staged with ⟨parser, sourceKind, rows, state, -, same⟩
      rw [show after = _ from congrArg Prod.fst same]
      exact .elsewhere _ ⟨rfl, rfl, rfl, rfl, rfl, rfl⟩
  | confirmBatch request =>
      rcases perform_confirmBatch succeeded with ⟨result, confirmed⟩
      have moves : ImportMoves (fun _ => True) ledger after :=
        confirmBatch_moves (fun _ => trivial) trivial confirmed
      exact .elsewhere _ (.of_importMoves moves)
  | createReconciliation request uuid now =>
      rcases createReconciliation_eq_ok.mp succeeded with ⟨direction, mode, lines, checked, rfl⟩
      exact .create checked
  | reverseReconciliation actor id reason now =>
      simp only [Operation.perform, reverseReconciliation_eq_ok] at succeeded
      rcases succeeded with ⟨-, text, -, -, original, found, notReversed, rfl⟩
      exact .reverse ⟨original, (reconciliation?_eq_some found).1, rfl⟩ notReversed
  | createSettlementBatch request uuid now =>
      simp only [Operation.perform, createSettlementBatch_eq_ok] at succeeded
      rcases succeeded with ⟨direction, invoices, transactions, checked, rfl⟩
      exact .draft checked.draftable
  | confirmSettlementBatch id actor allocations version uuid now =>
      simp only [Operation.perform, confirmSettlementBatch_eq_ok] at succeeded
      rcases succeeded with ⟨-, batch, found, ⟨isDraft, -⟩, -, created, createdEq, rfl⟩
      rcases createReconciliation_eq_ok.mp createdEq with ⟨direction, mode, lines, checked, rfl⟩
      obtain rfl := settlementBatch?_id found
      exact .settle found isDraft checked

/-- A successful operation keeps the invariant. -/
theorem Ledger.Sound.perform {site : Installation} {ledger after : Ledger} {operation : Operation}
    (sound : ledger.Sound) (succeeded : operation.perform site ledger = .ok after) :
    after.Sound := by
  have moves : LedgerMoves (fun _ => True) ledger after :=
    perform_moves (fun _ _ => trivial) succeeded
  clear succeeded
  induction moves with
  | refl => exact sound
  | tail _ move ih => exact ih.of_move move

/-! ## Reconciliations on record -/

namespace Ledger

/-- Every reconciliation has an allocation, and its settlement batch exists. -/
structure Recorded (ledger : Ledger) : Prop where
  allocated : ∀ row ∈ ledger.reconciliations,
    ∃ allocation ∈ ledger.allocations, allocation.reconciliation = row.id
  batchKnown : ∀ row ∈ ledger.reconciliations, ∀ id ∈ row.settlementBatch,
    ∃ batch ∈ ledger.settlementBatches, batch.id = id

namespace Recorded

variable {ledger after : Ledger}

theorem empty (directory : Directory) : (Ledger.empty directory).Recorded := by
  constructor <;> simp [Ledger.empty]

theorem insertReconciliation (recorded : ledger.Recorded) {request : ReconciliationRequest}
    {uuid : Uuid} {direction : ReconciliationDirection} {mode : ReconciliationMode}
    {lines : List AllocationLine}
    (checked : ReconciliationChecked request uuid ledger direction mode lines) (now : ℤ) :
    (ledger.insertReconciliation (reconciliationRow request uuid now direction mode)
      lines).Recorded where
  allocated row member := by
    rcases List.mem_append.mp member with old | new
    · rcases recorded.allocated row old with ⟨allocation, allocationMem, ofRow⟩
      exact ⟨allocation, List.mem_append_left _ allocationMem, ofRow⟩
    · rw [List.mem_singleton.mp new]
      have nonempty : lines ≠ [] := by
        rintro rfl
        exact checked.nonempty (List.forall₂_nil_right_iff.mp checked.allocations.each)
      rcases List.exists_mem_of_ne_nil _ nonempty with ⟨line, lineMem⟩
      exact ⟨allocationRow uuid line, List.mem_append_right _ (List.mem_map_of_mem lineMem), rfl⟩
  batchKnown row member id ofRow := by
    rcases List.mem_append.mp member with old | new
    · exact recorded.batchKnown row old id ofRow
    · rw [List.mem_singleton.mp new] at ofRow
      exact checked.insertable.2 id ofRow

theorem setConfirmed (recorded : ledger.Recorded) (confirmed : Uuid) :
    (ledger.setConfirmed confirmed).Recorded where
  allocated := recorded.allocated
  batchKnown row member id ofRow := by
    rcases recorded.batchKnown row member id ofRow with ⟨batch, batchMem, batchId⟩
    refine ⟨_, List.mem_map_of_mem batchMem, ?_⟩
    split
    · exact batchId
    · exact batchId

theorem of_effect {operation : Operation} (recorded : ledger.Recorded)
    (effect : Effect ledger operation after) : after.Recorded := by
  cases effect with
  | elsewhere operation same =>
      constructor
      · rw [same.reconciliations, same.allocations]
        exact recorded.allocated
      · rw [same.reconciliations, same.settlementBatches]
        exact recorded.batchKnown
  | create checked => exact recorded.insertReconciliation checked _
  | reverse original notReversed => exact ⟨recorded.allocated, recorded.batchKnown⟩
  | draft checked =>
      refine ⟨recorded.allocated, ?_⟩
      intro row member id ofRow
      rcases recorded.batchKnown row member id ofRow with ⟨batch, batchMem, batchId⟩
      exact ⟨batch, List.mem_append_left _ batchMem, batchId⟩
  | settle found isDraft checked => exact (recorded.insertReconciliation checked _).setConfirmed _

end Recorded

end Ledger

theorem run_recorded (site : Installation) (directory : Directory) (operations : List Operation) :
    (run site directory operations).Recorded :=
  runFrom_induction _ (Ledger.Recorded.empty directory)
    (fun recorded succeeded => recorded.of_effect (perform_effect succeeded)) operations

end Finrec
