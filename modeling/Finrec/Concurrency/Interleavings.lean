import Finrec.Concurrency.Importing
import Finrec.Concurrency.Reconciling
import Finrec.Imports.Invariant
import Finrec.Reconciliation.Reversals

/-!
# Interleavings of the services

Any number of reconciliations, reversals, confirmations of settlements and
confirmations of imports run at a time, and their statements interleave in any
way that the row locks and the unique indexes let them.  Every one of them keeps
the discipline, so the committed ones have done what they do one after another,
in the order of their commits.  What is known of runs is known of these histories.
-/

namespace Finrec

open Checks RowLocks RowLocks.Transaction Totals

/-- A call of a service that several users may run at a time. -/
inductive ServiceCall where
  | createReconciliation (request : ReconciliationRequest) (uuid : Uuid) (now : ℤ)
  | reverseReconciliation (actor : Actor) (id : Uuid) (reason : Option String) (now : ℤ)
  | confirmSettlementBatch (id : Uuid) (actor : Actor) (allocations : List AllocationInput)
      (version : ℤ) (uuid : Uuid) (now : ℤ)
  | confirmBatch (request : ConfirmRequest)

namespace ServiceCall

/-- What the call does alone. -/
def operation : ServiceCall → Operation
  | createReconciliation request uuid now => .createReconciliation request uuid now
  | reverseReconciliation actor id reason now => .reverseReconciliation actor id reason now
  | confirmSettlementBatch id actor allocations version uuid now =>
      .confirmSettlementBatch id actor allocations version uuid now
  | confirmBatch request => .confirmBatch request

/-- The statements of the call. -/
def transaction (site : Installation) (scan : ScanOrder) :
    ServiceCall → Transaction RowLock Ledger Unit
  | createReconciliation request uuid now => createTransaction scan request uuid now
  | reverseReconciliation actor id reason now => reverseTransaction scan actor id reason now
  | confirmSettlementBatch id actor allocations version uuid now =>
      confirmSettlementTransaction scan id actor allocations version uuid now
  | confirmBatch request => confirmBatchTransaction site.env request >>= fun _ => done ()

end ServiceCall

/-! ## What every call keeps -/

section Placed

variable {ledger after : Ledger}

theorem Ledger.Placed.createBalanceSnapshot {batch : Uuid} {candidate : SnapshotCandidate}
    (placed : ledger.Placed)
    (succeeded : ledger.createBalanceSnapshot batch candidate = .ok after) : after.Placed := by
  unfold Ledger.createBalanceSnapshot at succeeded
  split at succeeded
  · split at succeeded
    · cases succeeded
      exact placed
    · cases succeeded
  · rename_i unused
    rcases bind_eq_ok.mp succeeded with ⟨balance, -, same⟩
    cases same
    exact placed.add unused

theorem RowOutcome.snapshots {context : ConfirmContext} {state next : ConfirmState}
    {row : StagedRow} (outcome : RowOutcome context state row next) :
    next.ledger.snapshots = state.ledger.snapshots := by
  cases outcome with
  | skipped issues => rfl
  | duplicate normalized existing clean decoded found => rfl
  | conflict normalized existing clean decoded found => rfl
  | statusUpdate normalized existing clean decoded found => rfl
  | posted normalized ledger clean decoded found inserted =>
      cases normalized with
      | invoice normalized =>
          rcases Ledger.postInvoice_eq_ok inserted with ⟨_, _, -, -, -, rfl⟩
          rfl
      | transaction normalized =>
          rcases Ledger.postTransaction_eq_ok inserted with ⟨_, _, _, _, _, -, -, -, -, -, -, rfl⟩
          rfl

theorem Ledger.Placed.perform {site : Installation} {operation : Operation} (placed : ledger.Placed)
    (succeeded : operation.perform site ledger = .ok after) : after.Placed := by
  rcases perform_cases succeeded with ⟨request, batch, -, staged⟩ | ⟨request, result, -, confirms⟩ |
    same
  · rcases stageUpload_eq_ok staged with ⟨_, _, _, _, -, inserted⟩
    rw [show after = _ from congrArg Prod.fst inserted]
    exact placed
  · rcases (confirmBatch_eq_ok.mp confirms).2 with ⟨batch, -, -, rfl, -⟩ |
      ⟨batch, state, snapshotted, confirmed, rfl, -⟩
    · exact placed
    have sameSnapshots : state.ledger.snapshots = ledger.snapshots := by
      refine foldlM_induction (fun reached _ => reached.ledger.snapshots = ledger.snapshots) ?_
        rfl confirmed.loop
      intro before row rest next same succeeded
      exact (confirmRow_outcome succeeded).snapshots.trans same
    have placedNow : state.ledger.Placed := by
      rw [Ledger.Placed, sameSnapshots]
      exact placed
    have snapshots := confirmed.snapshots
    change snapshotted.Placed
    rw [Ledger.createBalanceSnapshots] at snapshots
    split at snapshots
    · exact foldlM_induction (fun ledger _ => ledger.Placed)
        (fun placed succeeded => placed.createBalanceSnapshot succeeded) placedNow snapshots
    · cases snapshots
      exact placedNow
  · rw [Ledger.Placed, same.snapshots]
    exact placed

end Placed

/-- What the services need of the ledger, and keep. -/
structure Serviceable (ledger : Ledger) : Prop where
  orderly : Orderly ledger
  keyed : ledger.Keyed
  tallies : ledger.Tallies
  placed : ledger.Placed

section Calls

variable {site : Installation} {scan : ScanOrder} {ledger after : Ledger} {call : ServiceCall}

theorem Serviceable.importable (serviceable : Serviceable ledger) : Importable ledger :=
  ⟨serviceable.keyed.invoiceKeys, serviceable.placed, serviceable.tallies.keyed.rowIds⟩

theorem Orderly.perform {operation : Operation} (orderly : Orderly ledger)
    (leaves : operation.LeavesBatches) (succeeded : operation.perform site ledger = .ok after) :
    Orderly after := by
  have effect := perform_effect succeeded
  exact ⟨orderly.sound.perform succeeded, orderly.drafts.perform orderly.sound succeeded,
    orderly.recorded.of_effect effect,
    orderly.once.of_effect orderly.recorded orderly.drafts.batchIds leaves effect⟩

theorem Ledger.Keyed.perform {operation : Operation} (keyed : ledger.Keyed)
    (succeeded : operation.perform site ledger = .ok after) : after.Keyed := by
  have moves : LedgerMoves (fun _ => True) ledger after :=
    perform_moves (fun _ _ => trivial) succeeded
  clear succeeded
  induction moves with
  | refl => exact keyed
  | tail _ move ih => exact ih.of_move move

theorem Serviceable.perform {operation : Operation} (serviceable : Serviceable ledger)
    (leaves : operation.LeavesBatches) (succeeded : operation.perform site ledger = .ok after) :
    Serviceable after where
  orderly := serviceable.orderly.perform leaves succeeded
  keyed := serviceable.keyed.perform succeeded
  tallies := perform_tallies serviceable.tallies succeeded
  placed := serviceable.placed.perform succeeded

theorem serviceable_run (site : Installation) (directory : Directory) {operations : List Operation}
    (leaves : ∀ operation ∈ operations, operation.LeavesBatches) :
    Serviceable (run site directory operations) where
  orderly := runFrom_orderly site (orderly_empty directory) leaves
  keyed := run_keyed site directory operations
  tallies := run_tallies site directory operations
  placed := by
    have start : (Ledger.empty directory).Placed := List.nodup_nil
    exact runFrom_induction (fun ledger => ledger.Placed) start
      (fun placed succeeded => placed.perform succeeded) operations

/-- Alone, a call does what its service does. -/
theorem ServiceCall.alone_iff (serviceable : Serviceable ledger) :
    (call.transaction site scan).alone ledger = some ((), after) ↔
      call.operation.perform site ledger = .ok after := by
  cases call with
  | createReconciliation request uuid now => exact createTransaction_alone
  | reverseReconciliation actor id reason now => exact reverseTransaction_alone
  | confirmSettlementBatch id actor allocations version uuid now =>
      exact confirmSettlementTransaction_alone serviceable.orderly.sound
  | confirmBatch request =>
      have confirms (result : ImportResult) :
          (confirmBatchTransaction site.env request).alone ledger = some (result, after) ↔
            Finrec.confirmBatch site.env request ledger = .ok (after, result) :=
        confirmBatchTransaction_alone serviceable.importable.rowIds
      rw [transaction, alone_bind, Option.bind_eq_some_iff]
      constructor
      · rintro ⟨⟨result, middle⟩, ran, same⟩
        simp only [alone_done, Option.some.injEq, Prod.mk.injEq, true_and] at same
        subst same
        rw [operation, Operation.perform, (confirms result).mp ran]
        rfl
      · intro succeeded
        rcases perform_confirmBatch succeeded with ⟨result, confirmed⟩
        exact ⟨(result, after), (confirms result).mpr confirmed, rfl⟩

/-- Every call keeps the discipline of the row locks. -/
theorem ServiceCall.obeys (site : Installation) (scan : ScanOrder) (call : ServiceCall) :
    rowLocking.Obeys (call.transaction site scan) ∅ Serviceable := by
  cases call with
  | createReconciliation request uuid now =>
      have same : (createTransaction scan request uuid now >>= fun _ => done ()) =
          createTransaction scan request uuid now := bind_done _
      rw [transaction, ← same]
      exact obeys_createTransaction (fun _ serviceable => serviceable.orderly.sound) fun _ _ => .done
  | reverseReconciliation actor id reason now =>
      exact obeys_reverseTransaction fun _ serviceable => serviceable.orderly.sound
  | confirmSettlementBatch id actor allocations version uuid now =>
      exact obeys_confirmSettlementTransaction fun _ serviceable => serviceable.orderly
  | confirmBatch request =>
      exact (obeys_confirmBatchTransaction fun _ serviceable => serviceable.importable).map

end Calls

/-! ## Successful operations, one after another -/

section Successes

variable {site : Installation} {start stored : Ledger} {operations : List Operation}

theorem foldlM_perform_snoc {operation : Operation} :
    (operations ++ [operation]).foldlM (Operation.perform site) start = .ok stored ↔
      ∃ before, operations.foldlM (Operation.perform site) start = .ok before ∧
        operation.perform site before = .ok stored := by
  simp only [List.foldlM_append, List.foldlM_cons, List.foldlM_nil, bind_eq_ok]
  refine exists_congr fun before => and_congr_right fun _ => ?_
  constructor
  · rintro ⟨_, succeeded, same⟩
    cases same
    exact succeeded
  · intro succeeded
    exact ⟨stored, succeeded, rfl⟩

theorem foldlM_perform_append {front back : List Operation} :
    (front ++ back).foldlM (Operation.perform site) start = .ok stored ↔
      ∃ middle, front.foldlM (Operation.perform site) start = .ok middle ∧
        back.foldlM (Operation.perform site) middle = .ok stored := by
  rw [List.foldlM_append, bind_eq_ok]

theorem Operation.step_of_ok {operation : Operation}
    (succeeded : operation.perform site start = .ok stored) : operation.step site start = stored := by
  simp only [Operation.step, succeeded]

theorem runFrom_of_performed
    (performed : operations.foldlM (Operation.perform site) start = .ok stored) :
    runFrom site start operations = stored := by
  induction operations generalizing start with
  | nil =>
      cases performed
      rfl
  | cons operation rest ih =>
      rw [List.foldlM_cons, bind_eq_ok] at performed
      rcases performed with ⟨middle, succeeded, others⟩
      rw [← ih others, ← Operation.step_of_ok succeeded]
      rfl

theorem Serviceable.performed (serviceable : Serviceable start)
    (leaves : ∀ operation ∈ operations, operation.LeavesBatches)
    (performed : operations.foldlM (Operation.perform site) start = .ok stored) :
    Serviceable stored := by
  induction operations using List.reverseRecOn generalizing stored with
  | nil =>
      cases performed
      exact serviceable
  | append_singleton operations operation ih =>
      rcases foldlM_perform_snoc.mp performed with ⟨before, earlier, succeeded⟩
      have before := ih (fun other member => leaves other (List.mem_append_left _ member)) earlier
      exact before.perform (leaves operation (by simp)) succeeded

theorem exists_of_isOk {ε α : Type} {outcome : Except ε α} (succeeds : outcome.isOk = true) :
    ∃ value, outcome = .ok value := by
  cases outcome with
  | error error => cases succeeds
  | ok value => exact ⟨value, rfl⟩

/-- The settlement batch that an operation confirms. -/
def Operation.settles : Operation → Option Uuid
  | .confirmSettlementBatch id _ _ _ _ _ => some id
  | _ => none

/-- A confirmation finds a draft and leaves it confirmed. -/
theorem Operation.settles_draft {operation : Operation} {id : Uuid} (sound : start.Sound)
    (settles : operation.settles = some id)
    (succeeded : operation.perform site start = .ok stored) :
    (∃ batch ∈ start.settlementBatches, batch.id = id ∧ batch.status = .draft) ∧
      ∃ batch ∈ stored.settlementBatches, batch.id = id ∧ batch.status = .confirmed := by
  cases operation with
  | confirmSettlementBatch named actor allocations version uuid now =>
      cases settles
      have isDone := succeeded
      simp only [Operation.perform, confirmSettlementBatch_eq_ok] at isDone
      rcases isDone with ⟨-, batch, found, ⟨isDraft, -⟩, -⟩
      have member := List.mem_of_find?_eq_some found
      have sameId := settlementBatch?_id found
      subst sameId
      exact ⟨⟨batch, member, rfl, isDraft⟩,
        ⟨_, (settlesBatch_of_confirmed sound found succeeded).confirmed, rfl, rfl⟩⟩
  | _ => cases settles

/-- A settlement batch is confirmed at most once, and stays confirmed. -/
theorem settles_once (serviceable : Serviceable start)
    (leaves : ∀ operation ∈ operations, operation.LeavesBatches)
    (performed : operations.foldlM (Operation.perform site) start = .ok stored) :
    (operations.filterMap Operation.settles).Nodup ∧
      ∀ id ∈ operations.filterMap Operation.settles,
        ∃ batch ∈ stored.settlementBatches, batch.id = id ∧ batch.status = .confirmed := by
  induction operations using List.reverseRecOn generalizing stored with
  | nil => simp
  | append_singleton operations operation ih =>
      have leavesEarlier : ∀ other ∈ operations, other.LeavesBatches :=
        fun other member => leaves other (List.mem_append_left _ member)
      rcases foldlM_perform_snoc.mp performed with ⟨before, earlier, succeeded⟩
      rcases ih leavesEarlier earlier with ⟨once, confirmed⟩
      have orderly := (serviceable.performed leavesEarlier earlier).orderly
      have still : ∀ id ∈ operations.filterMap Operation.settles,
          ∃ batch ∈ stored.settlementBatches, batch.id = id ∧ batch.status = .confirmed := by
        intro id listed
        rcases confirmed id listed with ⟨batch, member, named, isConfirmed⟩
        rcases (perform_effect succeeded).keepsBatch orderly.drafts.batchIds member with
          kept | ⟨-, isDraft, -⟩
        · exact ⟨batch, kept, named, isConfirmed⟩
        · rw [isDraft] at isConfirmed
          cases isConfirmed
      rw [List.filterMap_append]
      cases settles : operation.settles with
      | none =>
          rw [List.filterMap_cons_none settles, List.filterMap_nil, List.append_nil]
          exact ⟨once, still⟩
      | some id =>
          rw [List.filterMap_cons_some settles, List.filterMap_nil]
          rcases operation.settles_draft orderly.sound settles succeeded with
            ⟨⟨batch, member, sameId, isDraft⟩, isConfirmedNow⟩
          constructor
          · rw [List.nodup_append]
            refine ⟨once, List.nodup_singleton _, ?_⟩
            rintro other listed _ new rfl
            rcases confirmed other listed with ⟨row, rowMem, rowId, isConfirmed⟩
            rw [List.mem_singleton.mp new, ← sameId] at rowId
            rw [List.inj_on_of_nodup_map orderly.drafts.batchIds rowMem member rowId,
              isDraft] at isConfirmed
            cases isConfirmed
          · intro other listed
            rcases List.mem_append.mp listed with old | new
            · exact still other old
            · rw [List.mem_singleton.mp new]
              exact isConfirmedNow

/-- No allocation is added to an invoice that has ended. -/
theorem allocations_of_ended (sound : start.Sound)
    (performed : operations.foldlM (Operation.perform site) start = .ok stored) :
    stored.Sound ∧ InvoicesKept start stored ∧
      ∀ invoice ∈ start.invoices, invoice.status ≠ .normal → ∀ allocation ∈ stored.allocations,
        allocation.invoice = invoice.id → allocation ∈ start.allocations := by
  induction operations using List.reverseRecOn generalizing stored with
  | nil =>
      cases performed
      exact ⟨sound, .refl start, fun _ _ _ _ member _ => member⟩
  | append_singleton operations operation ih =>
      rcases foldlM_perform_snoc.mp performed with ⟨before, earlier, succeeded⟩
      rcases ih earlier with ⟨soundBefore, kept, old⟩
      have moves : LedgerMoves (fun _ => True) before stored :=
        perform_moves (fun _ _ => trivial) succeeded
      refine ⟨soundBefore.perform succeeded, kept.trans (moves_invoicesKept soundBefore moves), ?_⟩
      intro invoice member ended allocation allocated ofInvoice
      rcases step_allocations site before operation with ⟨new, added, requested⟩
      rw [Operation.step_of_ok succeeded] at added
      rw [added] at allocated
      rcases List.mem_append.mp allocated with isOld | isNew
      · exact old invoice member ended allocation isOld ofInvoice
      · rcases (requested allocation isNew).1 with ⟨row, rowMem, rowId, normal⟩
        rcases kept invoice member with ⟨later, becomes⟩
        have laterId : later.id = invoice.id := by rw [becomes.fields]
        have same : row = later := List.inj_on_of_nodup_map soundBefore.invoiceIds rowMem
          becomes.member (rowId.trans (ofInvoice.trans laterId.symm))
        rw [same] at normal
        rcases becomes.status with ⟨unchanged, -⟩ | ⟨wasNormal, -⟩
        · exact absurd (unchanged.symm.trans normal) ended
        · exact absurd wasNormal ended

/-- A batch that was confirmed stays confirmed, with counters that agree with its rows. -/
theorem confirmed_of_performed {request : ConfirmRequest} {rest : List Operation}
    (tallies : start.Tallies) (performed : (.confirmBatch request :: rest).foldlM
      (Operation.perform site) start = .ok stored) :
    ∃ batch ∈ stored.importBatches, batch.id = request.batchId ∧
      batch.confirmedAt.isSome = true ∧ stored.CountersAgree batch := by
  rw [List.foldlM_cons, bind_eq_ok] at performed
  rcases performed with ⟨middle, succeeded, others⟩
  rcases perform_confirmBatch succeeded with ⟨result, confirmed⟩
  have talliesMiddle := confirmBatch_tallies tallies confirmed
  rcases confirmBatch_result tallies confirmed with ⟨batch, member, named, isConfirmed, -⟩
  have kept : ConfirmedKept middle (runFrom site middle rest) := .of_runFrom talliesMiddle rest
  have talliesLast : (runFrom site middle rest).Tallies :=
    runFrom_induction _ talliesMiddle (fun tallies succeeded => perform_tallies tallies succeeded)
      rest
  rw [runFrom_of_performed others] at kept talliesLast
  have still := (kept batch member isConfirmed).1
  exact ⟨batch, still, named, isConfirmed, (talliesLast.tallied batch still).countersAgree⟩

/-- A second confirmation of a batch changes nothing. -/
theorem confirmed_again {request again : ConfirmRequest} {between : List Operation}
    (tallies : start.Tallies) (sameBatch : again.batchId = request.batchId)
    (performed : (.confirmBatch request :: (between ++ [.confirmBatch again])).foldlM
      (Operation.perform site) start = .ok stored) :
    (.confirmBatch request :: between).foldlM (Operation.perform site) start = .ok stored := by
  rw [List.foldlM_cons, bind_eq_ok] at performed ⊢
  rcases performed with ⟨middle, succeeded, others⟩
  rcases foldlM_perform_snoc.mp others with ⟨before, earlier, repeated⟩
  refine ⟨middle, succeeded, earlier.trans ?_⟩
  rcases perform_confirmBatch succeeded with ⟨result, confirmed⟩
  rcases perform_confirmBatch repeated with ⟨result', confirmed'⟩
  have unchanged := confirmBatch_again tallies confirmed between sameBatch
    (confirmBatch_eq_ok.mp confirmed').1
  rw [runFrom_of_performed earlier, confirmed'] at unchanged
  cases unchanged
  rfl

end Successes

/-! ## Histories -/

section Histories

variable {ι : Type} {site : Installation} {start stored : Ledger} {calls : ι → ServiceCall}
  {scans : ι → ScanOrder} {history : List (ι × Unit)}

/-- The operations of the committed calls, in the order of their commits. -/
def committed (calls : ι → ServiceCall) (history : List (ι × Unit)) : List Operation :=
  history.map fun entry => (calls entry.1).operation

theorem Serviceable.serial (serviceable : Serviceable start)
    (leaves : ∀ i, (calls i).operation.LeavesBatches)
    (serial : Serial (fun i => (calls i).transaction site (scans i)) start history stored) :
    Serviceable stored ∧
      (committed calls history).foldlM (Operation.perform site) start = .ok stored := by
  induction serial with
  | nil => exact ⟨serviceable, rfl⟩
  | snoc earlier succeeds ih =>
      have succeeded := (ServiceCall.alone_iff ih.1).mp succeeds
      refine ⟨ih.1.perform (leaves _) succeeded, ?_⟩
      rw [committed, List.map_append]
      exact foldlM_perform_snoc.mpr ⟨_, ih.2, succeeded⟩

end Histories

/-- The committed calls have succeeded one after another. -/
theorem serial_of_interleaving {ι : Type} [DecidableEq ι] (site : Installation)
    (directory : Directory) (earlier : List Operation) (calls : ι → ServiceCall)
    (scans : ι → ScanOrder) (leavesEarlier : ∀ operation ∈ earlier, operation.LeavesBatches)
    (leaves : ∀ i, (calls i).operation.LeavesBatches) {system : System ι RowLock Ledger Unit}
    (reachable : Reachable (fun i => (calls i).transaction site (scans i))
      (run site directory earlier) system) :
    (∀ operation ∈ committed calls system.history, operation.LeavesBatches) ∧
      Serviceable system.stored ∧
      (committed calls system.history).foldlM (Operation.perform site)
        (run site directory earlier) = .ok system.stored := by
  have serviceable := serviceable_run site directory leavesEarlier
  have serial := Discipline.serial_of_reachable
    (fun i => ServiceCall.obeys site (scans i) (calls i))
    (fun i ledger result good succeeds =>
      good.perform (leaves i) ((ServiceCall.alone_iff good).mp succeeds)) serviceable reachable
  refine ⟨?_, serviceable.serial leaves serial⟩
  intro operation member
  rcases List.mem_map.mp member with ⟨entry, -, rfl⟩
  exact leaves entry.1

/--
The statements of the services may interleave in any way: the committed calls
have done what they do one after another, in the order of their commits.  So no
record is over-allocated and no reconciliation reversed twice, no settlement
batch is confirmed twice, and nothing is allocated to an invoice by a call that
commits after the one that ended it.
-/
theorem interleavings_serial {ι : Type} [DecidableEq ι] (site : Installation)
    (directory : Directory) (earlier : List Operation) (calls : ι → ServiceCall)
    (scans : ι → ScanOrder) (leavesEarlier : ∀ operation ∈ earlier, operation.LeavesBatches)
    (leaves : ∀ i, (calls i).operation.LeavesBatches) {system : System ι RowLock Ledger Unit}
    (reachable : Reachable (fun i => (calls i).transaction site (scans i))
      (run site directory earlier) system) :
    (system.history.map (·.1)).Nodup ∧
    (committed calls system.history).foldlM (Operation.perform site) (run site directory earlier) =
      .ok system.stored ∧
    ((∀ invoice ∈ system.stored.invoices,
        system.stored.activeAmount (·.invoice) invoice.id ≤ invoice.totalAmount) ∧
      (∀ money ∈ system.stored.transactions,
        system.stored.activeAmount (·.transaction) money.id ≤ money.amount) ∧
      (system.stored.reversals.map (·.original)).Nodup) ∧
    (((committed calls system.history).filterMap Operation.settles).Nodup ∧
      ∀ batch ∈ system.stored.settlementBatches,
        (system.stored.reconciliationsOf batch.id).length ≤ 1) ∧
    ∀ before after middle, committed calls system.history = before ++ after →
      before.foldlM (Operation.perform site) (run site directory earlier) = .ok middle →
      ∀ invoice ∈ middle.invoices, invoice.status ≠ .normal →
        ∀ allocation ∈ system.stored.allocations, allocation.invoice = invoice.id →
          allocation ∈ middle.allocations := by
  have serviceable := serviceable_run site directory leavesEarlier
  rcases serial_of_interleaving site directory earlier calls scans leavesEarlier leaves reachable with
    ⟨leavesAll, good, performed⟩
  have sound := good.orderly.sound
  refine ⟨(ended_of_reachable reachable).1, performed, ⟨sound.invoicesWithin,
    sound.transactionsWithin, sound.reversedOnce⟩, ⟨?_, ?_⟩, ?_⟩
  · exact (settles_once serviceable leavesAll performed).1
  · intro batch member
    rcases good.orderly.once batch member with ⟨-, -, none⟩ | ⟨-, -, one⟩
    · omega
    · omega
  · intro before after middle split reaches
    rw [split, List.foldlM_append, reaches] at performed
    have soundMiddle := (allocations_of_ended serviceable.orderly.sound reaches).1
    exact (allocations_of_ended soundMiddle performed).2.2

/--
Confirmations of imports in any interleaving, with each other and with the other
services.  A batch that a committed call confirmed is confirmed in the end, its
counters are those of its rows, and every other committed confirmation of it has
changed nothing.  No key of an invoice, a transaction or a balance is there twice,
and an invoice has ended at most once, with one audit entry.
-/
theorem confirmations_serial {ι : Type} [DecidableEq ι] (site : Installation)
    (directory : Directory) (earlier : List Operation) (calls : ι → ServiceCall)
    (scans : ι → ScanOrder) (leavesEarlier : ∀ operation ∈ earlier, operation.LeavesBatches)
    (leaves : ∀ i, (calls i).operation.LeavesBatches) {system : System ι RowLock Ledger Unit}
    (reachable : Reachable (fun i => (calls i).transaction site (scans i))
      (run site directory earlier) system) :
    (∀ entry ∈ system.history, ∀ request, calls entry.1 = .confirmBatch request →
      ∃ batch ∈ system.stored.importBatches, batch.id = request.batchId ∧
        batch.confirmedAt.isSome = true ∧ system.stored.CountersAgree batch) ∧
    (∀ (before between after : List Operation) (request again : ConfirmRequest),
      committed calls system.history =
        before ++ .confirmBatch request :: (between ++ [.confirmBatch again] ++ after) →
      again.batchId = request.batchId →
      runFrom site (run site directory earlier)
          (before ++ .confirmBatch request :: (between ++ [.confirmBatch again])) =
        runFrom site (run site directory earlier) (before ++ .confirmBatch request :: between)) ∧
    (system.stored.Keyed ∧ system.stored.Placed) ∧
    InvoicesKept (run site directory earlier) system.stored ∧ system.stored.Audited := by
  have serviceable := serviceable_run site directory leavesEarlier
  rcases serial_of_interleaving site directory earlier calls scans leavesEarlier leaves reachable with
    ⟨leavesAll, good, performed⟩
  have stored : run site directory (earlier ++ committed calls system.history) = system.stored := by
    rw [run, runFrom_append]
    exact runFrom_of_performed performed
  refine ⟨?_, ?_, ⟨good.keyed, good.placed⟩, ?_, ?_⟩
  · intro entry member request called
    rcases List.mem_iff_append.mp member with ⟨front, back, split⟩
    rw [split, committed, List.map_append, List.map_cons, called, foldlM_perform_append] at performed
    rcases performed with ⟨middle, reaches, rest⟩
    have tallies := (serviceable.performed ?_ reaches).tallies
    · exact confirmed_of_performed tallies rest
    · intro operation listed
      rcases List.mem_map.mp listed with ⟨other, -, rfl⟩
      exact leaves other.1
  · intro before between after request again split sameBatch
    rw [split, foldlM_perform_append] at performed
    rcases performed with ⟨middle, reaches, rest⟩
    rw [split] at leavesAll
    have tallies := (serviceable.performed
      (fun operation member => leavesAll operation (List.mem_append_left _ member)) reaches).tallies
    rw [← List.cons_append, foldlM_perform_append] at rest
    rcases rest with ⟨last, confirms, -⟩
    rw [runFrom_append, runFrom_append, runFrom_of_performed reaches, runFrom_of_performed confirms,
      runFrom_of_performed (confirmed_again tallies sameBatch confirms)]
  · rw [← stored]
    exact run_invoicesKept site directory earlier _
  · rw [← stored]
    exact run_audited site directory _

namespace Sample

/-- Two parts of one invoice are paid at a time. -/
def partRequest (i : Bool) : ReconciliationRequest :=
  ⟨finance, some .purchasePayment,
    [⟨1102, 1204, .decimal (Decimal.ofCents (if i then 6000 else 4000))⟩], "", some .direct, none,
    none, none, true⟩

def partCalls (i : Bool) : ServiceCall :=
  .createReconciliation (partRequest i) (if i then 91 else 92) 0

def inOrder : ScanOrder := ⟨id, List.Perm.refl⟩

theorem pairImports_leaveBatches : ∀ operation ∈ pairImports, operation.LeavesBatches := by
  intro operation member request uuid now same
  simp only [pairImports, List.mem_cons, List.not_mem_nil, or_false] at member
  rcases member with rfl | rfl | rfl | rfl
  · cases same
  · cases same
  · cases same
  · cases same

theorem leaves_partCalls (i : Bool) : (partCalls i).operation.LeavesBatches := by
  intro request uuid now same
  cases same
  rfl

/-- One batch is confirmed twice at a time. -/
def confirmCalls (_ : Bool) : ServiceCall :=
  .confirmBatch ⟨11, finance, ⟨fun rowNumber => 1100 + rowNumber, fun _ => 0, fun _ => 0⟩, 0, 0⟩

/-- Two calls can run one after the other. -/
theorem reachable_pair {site : Installation} {directory : Directory} {earlier : List Operation}
    {calls : Bool → ServiceCall} (leavesEarlier : ∀ operation ∈ earlier, operation.LeavesBatches)
    (leaves : ∀ i, (calls i).operation.LeavesBatches)
    (succeed : ((committed calls [(true, ()), (false, ())]).foldlM (Operation.perform site)
      (run site directory earlier)).isOk = true) :
    ∃ system : System Bool RowLock Ledger Unit,
      Reachable (fun i => (calls i).transaction site inOrder) (run site directory earlier) system ∧
        system.history = [(true, ()), (false, ())] := by
  have serviceable := serviceable_run site directory leavesEarlier
  rcases exists_of_isOk succeed with ⟨stored, performed⟩
  simp only [committed, List.map_cons, List.map_nil, List.foldlM_cons, List.foldlM_nil,
    bind_eq_ok] at performed
  rcases performed with ⟨middle, first, last, second, same⟩
  have serviceableMiddle := serviceable.perform (leaves true) first
  have paid : Serial (fun i => (calls i).transaction site inOrder) (run site directory earlier)
      [(true, ())] middle :=
    Serial.snoc (i := true) .nil ((ServiceCall.alone_iff serviceable).mpr first)
  have serial : Serial (fun i => (calls i).transaction site inOrder) (run site directory earlier)
      [(true, ()), (false, ())] last :=
    Serial.snoc (i := false) paid ((ServiceCall.alone_iff serviceableMiddle).mpr second)
  rcases reachable_of_serial serial (by decide) with ⟨sessions, reachable, -⟩
  exact ⟨_, reachable, rfl⟩

end Sample

namespace Sample

def partStart : Ledger := run (pairSite "正常") directory pairImports

def partProgram (i : Bool) : Transaction RowLock Ledger Unit :=
  (partCalls i).transaction (pairSite "正常") inOrder

/-- The first statement of both calls. -/
def soughtInvoices (ledger : Ledger) : List Uuid :=
  (ledger.invoices.filter fun invoice => decide (invoice.id ∈ [1102])).map (·.id)

def partRest (i : Bool) (ids : List Uuid) : Transaction RowLock Ledger Unit := do
  let invoices ← lockRows RowLock.invoice (fun id ledger => ledger.invoice? id) ids
  let transactions ← lockTransactions inOrder [1204]
  reconcileLocked inOrder (partRequest i) (if i then 91 else 92) 0 .purchasePayment .direct invoices
    transactions

theorem partProgram_eq (i : Bool) : partProgram i = .query soughtInvoices (partRest i) := by
  cases i <;> rfl

/-- Both calls have looked for the invoice. -/
def partMidway (stored : Ledger) : System Bool RowLock Ledger Unit :=
  ⟨stored, fun i => some ⟨partRest i [1102], id, ∅⟩, []⟩

theorem partMidway_reachable {stored : Ledger} (sought : soughtInvoices stored = [1102]) :
    Reachable partProgram stored (partMidway stored) := by
  let start : System Bool RowLock Ledger Unit := System.start partProgram stored
  let looked : Session RowLock Ledger Unit := ⟨partRest true (soughtInvoices stored), id, ∅⟩
  have looks : ∀ i, some (⟨partProgram i, id, ∅⟩ : Session RowLock Ledger Unit) =
      some ⟨.query soughtInvoices (partRest i), id, ∅⟩ := fun i => by rw [partProgram_eq]
  have waits : start.sessions true = some ⟨.query soughtInvoices (partRest true), id, ∅⟩ :=
    looks true
  have first : Step start (start.goOn true (some looked)) := Step.query waits
  have second : Step (start.goOn true (some looked)) ((start.goOn true (some looked)).goOn false
      (some ⟨partRest false (soughtInvoices stored), id, ∅⟩)) := by
    have waits : (start.goOn true (some looked)).sessions false =
        some ⟨.query soughtInvoices (partRest false), id, ∅⟩ :=
      (System.sessions_goOn _ (by decide) _).trans (looks false)
    exact Step.query waits
  have midway : (start.goOn true (some looked)).goOn false
      (some ⟨partRest false (soughtInvoices stored), id, ∅⟩) = partMidway stored := by
    rw [System.goOn, partMidway, System.mk.injEq]
    refine ⟨rfl, funext fun i => ?_, rfl⟩
    cases i with
    | false => rw [Function.update_self, sought]
    | true => rw [Function.update_of_ne (by decide), System.sessions_goOn_self, ← sought]
  rw [← midway]
  exact .tail (.single first) second

theorem soughtInvoices_partStart : soughtInvoices partStart = [1102] := by decide +kernel

/-- From there the first call commits and then the second. -/
theorem partMidway_commits : ∃ system : System Bool RowLock Ledger Unit,
    Relation.ReflTransGen Step (partMidway partStart) system ∧
      system.history = [(true, ()), (false, ())] := by
  have succeed : ((committed partCalls [(true, ()), (false, ())]).foldlM
      (Operation.perform (pairSite "正常")) partStart).isOk = true := by
    decide +kernel
  rcases exists_of_isOk succeed with ⟨last, performed⟩
  simp only [committed, List.map_cons, List.map_nil, List.foldlM_cons, List.foldlM_nil,
    bind_eq_ok] at performed
  rcases performed with ⟨middle, first, after, second, -⟩
  have sought : (Operation.perform (pairSite "正常") partStart
      (partCalls true).operation).toOption.map soughtInvoices = some [1102] := by
    decide +kernel
  rw [first, Except.toOption, Option.map_some, Option.some.injEq] at sought
  have serviceable := serviceable_run (pairSite "正常") directory pairImports_leaveBatches
  have firstRuns : (partProgram true).alone partStart = some ((), middle) :=
    (ServiceCall.alone_iff serviceable).mpr first
  have secondRuns : (partProgram false).alone middle = some ((), after) :=
    (ServiceCall.alone_iff (serviceable.perform (leaves_partCalls true) first)).mpr second
  rw [partProgram_eq, alone_query, soughtInvoices_partStart] at firstRuns
  rw [partProgram_eq, alone_query, sought] at secondRuns
  refine runs_both (by decide) ?_ rfl rfl firstRuns secondRuns
  intro i key j _ session isSession
  cases isSession
  exact Set.notMem_empty key

end Sample

/-- Both calls have found the invoice before either of them locks it. -/
theorem interleavings_serial_parts :
    ∃ midway system : System Bool RowLock Ledger Unit,
      Reachable Sample.partProgram Sample.partStart midway ∧
      (∀ i, ∃ next, midway.sessions i = some ⟨.lock (.invoice 1102) next, id, ∅⟩) ∧
      Relation.ReflTransGen Step midway system ∧
      system.history = [(true, ()), (false, ())] ∧
      (committed Sample.partCalls system.history).foldlM
        (Operation.perform (Sample.pairSite "正常")) Sample.partStart = .ok system.stored := by
  have reached := Sample.partMidway_reachable Sample.soughtInvoices_partStart
  rcases Sample.partMidway_commits with ⟨system, goesOn, history⟩
  refine ⟨Sample.partMidway Sample.partStart, system, reached, fun _ => ⟨_, rfl⟩, goesOn,
    history, ?_⟩
  exact (interleavings_serial (Sample.pairSite "正常") Sample.directory Sample.pairImports
    Sample.partCalls (fun _ => Sample.inOrder) Sample.pairImports_leaveBatches
      Sample.leaves_partCalls (reached.trans goesOn)).2.1

/-- Two confirmations of one batch leave one that is confirmed. -/
theorem confirmations_serial_twice :
    ∃ system : System Bool RowLock Ledger Unit,
      Reachable (fun i => (Sample.confirmCalls i).transaction (Sample.pairSite "正常") Sample.inOrder)
        (run (Sample.pairSite "正常") Sample.directory [Sample.stageInvoices 0 11 0]) system ∧
      system.history = [(true, ()), (false, ())] ∧
      ∃ batch ∈ system.stored.importBatches, batch.id = 11 ∧ batch.confirmedAt.isSome = true ∧
        system.stored.CountersAgree batch := by
  have leavesEarlier : ∀ operation ∈ [Sample.stageInvoices 0 11 0], operation.LeavesBatches := by
    intro operation member request uuid now same
    rw [List.mem_singleton.mp member] at same
    cases same
  have leaves : ∀ i, (Sample.confirmCalls i).operation.LeavesBatches := by
    intro i request uuid now same
    cases same
  have succeed : ((committed Sample.confirmCalls [(true, ()), (false, ())]).foldlM
      (Operation.perform (Sample.pairSite "正常"))
        (run (Sample.pairSite "正常") Sample.directory [Sample.stageInvoices 0 11 0])).isOk = true := by
    decide +kernel
  rcases Sample.reachable_pair leavesEarlier leaves succeed with ⟨system, reachable, history⟩
  refine ⟨system, reachable, history, ?_⟩
  have serial := confirmations_serial (Sample.pairSite "正常") Sample.directory
    [Sample.stageInvoices 0 11 0] Sample.confirmCalls (fun _ => Sample.inOrder) leavesEarlier leaves
      reachable
  exact serial.1 (true, ()) (by rw [history]; decide) _ rfl

end Finrec
