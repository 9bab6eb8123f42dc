import Finrec.Ledger.Effects
import Finrec.Reconciliation.Acceptance
import Finrec.Reporting.OpenAmounts

/-!
# Reversals

Open amounts are derived from allocations and reversals, by the services, by
the queries and by the reports.  This file proves that a reversal gives every
record back exactly what the reversed reconciliation allocated to it, in each of
these computations and whatever happened since the reconciliation was created,
and that the same lines can then be reconciled again.
-/

namespace Finrec

open Checks Totals

namespace Ledger

/-- What a reconciliation allocated to the records whose key is `id`. -/
def allocatedBy (ledger : Ledger) (reconciliation : Uuid) (key : ReconciliationAllocation → Uuid)
    (id : Uuid) : ℤ :=
  total (fun allocation => decide (key allocation = id) &&
    decide (allocation.reconciliation = reconciliation)) (·.amount) ledger.allocations

variable {ledger : Ledger} {row : ReconciliationReversal}

theorem isReversed_insertReversal (ledger : Ledger) (row : ReconciliationReversal) (id : Uuid) :
    (ledger.insertReversal row).isReversed id =
      (ledger.isReversed id || decide (row.original = id)) := by
  simp [isReversed, insertReversal, recordAudit]

variable (row) in
/-- A reversal takes exactly the allocations of its reconciliation out of the active ones. -/
theorem activeAmount_insertReversal (notReversed : ledger.isReversed row.original = false)
    (key : ReconciliationAllocation → Uuid) (id : Uuid) :
    ledger.activeAmount key id = (ledger.insertReversal row).activeAmount key id +
      ledger.allocatedBy row.original key id := by
  have allocationsEq : (ledger.insertReversal row).allocations = ledger.allocations := rfl
  simp only [activeAmount, allocatedBy, allocationsEq]
  rw [total_split (fun allocation => decide (key allocation = id) && ledger.isActive allocation)
    (fun allocation => decide (allocation.reconciliation = row.original)), add_comm]
  congr 1
  · apply total_congr
    intro allocation _
    simp only [isActive, isReversed_insertReversal, Bool.not_or, eq_comm (a := row.original),
      Bool.and_assoc]
  · apply total_congr
    intro allocation _
    by_cases same : allocation.reconciliation = row.original
    · simp [isActive, same, notReversed]
    · simp [same]

theorem reversal?_insertReversal (ledger : Ledger) (row : ReconciliationReversal) (id : Uuid) :
    (ledger.insertReversal row).reversal? id =
      (ledger.reversal? id).or (if row.original = id then some row else none) := by
  simp only [reversal?, insertReversal, recordAudit, List.find?_append]
  by_cases same : row.original = id
  · simp [same]
  · simp [same]

theorem reversal?_eq_none {id : Uuid} (notReversed : ledger.isReversed id = false) :
    ledger.reversal? id = none := by
  have none := ledger.isNone_reversal? id
  rw [notReversed] at none
  simpa using none

variable (row) in
/-- As of a cutoff after the reversal its allocations no longer count; before it they still do. -/
theorem historicalAmount_insertReversal (sound : ledger.Sound) {reconciliation : Reconciliation}
    (member : reconciliation ∈ ledger.reconciliations) (original : row.original = reconciliation.id)
    (notReversed : ledger.isReversed reconciliation.id = false) (cutoff : ℤ)
    (key : ReconciliationAllocation → Uuid) (id : Uuid) :
    ledger.historicalAmount cutoff key id =
      (ledger.insertReversal row).historicalAmount cutoff key id +
      if reconciliation.createdAt < cutoff ∧ row.createdAt < cutoff then
        ledger.allocatedBy reconciliation.id key id else 0 := by
  have allocationsEq : (ledger.insertReversal row).allocations = ledger.allocations := rfl
  have rowsEq (other : Uuid) :
      (ledger.insertReversal row).reconciliation? other = ledger.reconciliation? other := rfl
  have found : ledger.reconciliation? reconciliation.id = some reconciliation :=
    (find?_eq_some_iff sound.reconciliationIds).mpr ⟨member, rfl⟩
  simp only [historicalAmount, allocationsEq]
  rw [total_split (fun allocation => decide (key allocation = id) &&
      ledger.historicallyValid cutoff allocation)
    (fun allocation => decide (allocation.reconciliation = reconciliation.id)),
    total_split (fun allocation => decide (key allocation = id) &&
      (ledger.insertReversal row).historicallyValid cutoff allocation)
    (fun allocation => decide (allocation.reconciliation = reconciliation.id))]
  have others : total (fun allocation => decide (key allocation = id) &&
        ledger.historicallyValid cutoff allocation &&
          !decide (allocation.reconciliation = reconciliation.id)) (·.amount) ledger.allocations =
      total (fun allocation => decide (key allocation = id) &&
        (ledger.insertReversal row).historicallyValid cutoff allocation &&
          !decide (allocation.reconciliation = reconciliation.id)) (·.amount)
        ledger.allocations := by
    apply total_congr
    intro allocation _
    by_cases same : allocation.reconciliation = reconciliation.id
    · simp [same]
    · simp only [historicallyValid, rowsEq]
      cases ofAllocation : ledger.reconciliation? allocation.reconciliation with
      | none => rfl
      | some other =>
          have otherId := (reconciliation?_eq_some ofAllocation).2
          have notOriginal : ¬row.original = other.id := by
            rw [original, otherId]
            exact Ne.symm same
          simp only [reversal?_insertReversal, notOriginal, ↓reduceIte, Option.or_none]
  have own (cutoffReached : Bool) (before : Ledger)
      (valid : ∀ allocation, allocation.reconciliation = reconciliation.id →
        before.historicallyValid cutoff allocation = cutoffReached) :
      total (fun allocation => decide (key allocation = id) &&
        before.historicallyValid cutoff allocation &&
          decide (allocation.reconciliation = reconciliation.id)) (·.amount) ledger.allocations =
        if cutoffReached then ledger.allocatedBy reconciliation.id key id else 0 := by
    cases cutoffReached with
    | true =>
        apply total_congr
        intro allocation _
        by_cases same : allocation.reconciliation = reconciliation.id
        · simp [same, valid allocation same]
        · simp [same]
    | false =>
        apply total_eq_zero
        intro allocation _
        by_cases same : allocation.reconciliation = reconciliation.id
        · simp [valid allocation same]
        · simp [same]
  rw [others, own (decide (reconciliation.createdAt < cutoff)) ledger,
    own (decide (reconciliation.createdAt < cutoff ∧ cutoff ≤ row.createdAt))
      (ledger.insertReversal row)]
  · by_cases created : reconciliation.createdAt < cutoff
    · by_cases reversed : row.createdAt < cutoff
      · simp [created, reversed, not_le.mpr reversed]
        ring
      · simp [created, reversed, not_lt.mp reversed]
    · simp [created]
  · intro allocation ofRow
    simp only [historicallyValid, rowsEq, ofRow, found, reversal?_insertReversal,
      reversal?_eq_none notReversed, original, ↓reduceIte, Option.none_or, Bool.decide_and]
  · intro allocation ofRow
    simp [historicallyValid, ofRow, found, reversal?_eq_none notReversed]

end Ledger

/-- The lines that a reconciliation was created with. -/
def Ledger.linesOf (ledger : Ledger) (reconciliation : Uuid) : List AllocationInput :=
  (ledger.allocations.filter fun allocation =>
    decide (allocation.reconciliation = reconciliation)).map fun allocation =>
      ⟨allocation.invoice, allocation.transaction, .decimal (Decimal.ofCents allocation.amount)⟩

/-- The request for the lines of a reconciliation, with its own terms. -/
def Ledger.repeated (ledger : Ledger) (row : Reconciliation) (actor : Actor) (note : String) :
    ReconciliationRequest where
  actor := actor
  direction := some row.direction
  allocations := ledger.linesOf row.id
  note := note
  mode := some row.mode
  settlementBatch := row.settlementBatch
  expectedInvoiceOpenAmounts := none
  expectedTransactionOpenAmounts := none
  allowPartial := true

/-- A reversal at a time gives every record back what the reconciliation allocated to it. -/
structure GivesBack (before : Ledger) (row : Reconciliation) (now : ℤ) (after : Ledger) :
    Prop where
  allocations : after.allocations = before.allocations
  reconciliations : after.reconciliations = before.reconciliations
  othersStand : ∀ id, id ≠ row.id → after.isReversed id = before.isReversed id
  invoices : after.invoices = before.invoices
  transactions : after.transactions = before.transactions
  byQuery : ∀ id, invoiceOpenAmount after id =
      (invoiceOpenAmount before id).map (· + before.allocatedBy row.id (·.invoice) id) ∧
    transactionOpenAmount after id =
      (transactionOpenAmount before id).map (· + before.allocatedBy row.id (·.transaction) id)
  byService : (∀ invoice, after.invoiceOpen invoice =
      before.invoiceOpen invoice + before.allocatedBy row.id (·.invoice) invoice.id) ∧
    ∀ money, after.transactionOpen money =
      before.transactionOpen money + before.allocatedBy row.id (·.transaction) money.id
  byReport : (∀ invoice, after.currentInvoiceOpen invoice =
      before.currentInvoiceOpen invoice + before.allocatedBy row.id (·.invoice) invoice.id) ∧
    ∀ money, after.currentTransactionOpen money =
      before.currentTransactionOpen money + before.allocatedBy row.id (·.transaction) money.id
  byReportAsOf : ∀ (zone : Calendar.Zone) asOf,
    (∀ invoice, after.historicalInvoiceOpen zone asOf invoice =
      before.historicalInvoiceOpen zone asOf invoice +
        if row.createdAt < zone.cutoff asOf ∧ now < zone.cutoff asOf then
          before.allocatedBy row.id (·.invoice) invoice.id else 0) ∧
    ∀ money, after.historicalTransactionOpen zone asOf money =
      before.historicalTransactionOpen zone asOf money +
        if row.createdAt < zone.cutoff asOf ∧ now < zone.cutoff asOf then
          before.allocatedBy row.id (·.transaction) money.id else 0

section Reverse

variable {ledger : Ledger} {row : Reconciliation}

theorem givesBack (sound : ledger.Sound) (member : row ∈ ledger.reconciliations)
    (notReversed : ledger.isReversed row.id = false) (actor : Uuid) (reason : String) (now : ℤ) :
    GivesBack ledger row now (ledger.insertReversal ⟨row.id, actor, reason, now⟩) := by
  have active (key : ReconciliationAllocation → Uuid) (id : Uuid) :=
    Ledger.activeAmount_insertReversal ⟨row.id, actor, reason, now⟩ notReversed key id
  have invoiceOpen (invoice : Invoice) :
      (ledger.insertReversal ⟨row.id, actor, reason, now⟩).invoiceOpen invoice =
        ledger.invoiceOpen invoice + ledger.allocatedBy row.id (·.invoice) invoice.id := by
    rw [Ledger.invoiceOpen, Ledger.invoiceOpen, active (·.invoice) invoice.id]
    ring
  have transactionOpen (money : MoneyTransaction) :
      (ledger.insertReversal ⟨row.id, actor, reason, now⟩).transactionOpen money =
        ledger.transactionOpen money + ledger.allocatedBy row.id (·.transaction) money.id := by
    rw [Ledger.transactionOpen, Ledger.transactionOpen, active (·.transaction) money.id]
    ring
  constructor
  case allocations => rfl
  case reconciliations => rfl
  case invoices => rfl
  case transactions => rfl
  case othersStand =>
    intro id other
    rw [Ledger.isReversed_insertReversal, decide_eq_false (Ne.symm other), Bool.or_false]
  case byQuery =>
    intro id
    have sameInvoice : (ledger.insertReversal ⟨row.id, actor, reason, now⟩).invoice? id =
        ledger.invoice? id := rfl
    have sameMoney : (ledger.insertReversal ⟨row.id, actor, reason, now⟩).transaction? id =
        ledger.transaction? id := rfl
    simp only [invoiceOpenAmount, transactionOpenAmount, sameInvoice, sameMoney]
    constructor
    · cases found : ledger.invoice? id with
      | none => rfl
      | some invoice =>
          have sameId : invoice.id = id := by simpa using List.find?_some found
          change Except.ok _ = Except.ok _
          rw [invoiceOpen, sameId]
    · cases found : ledger.transaction? id with
      | none => rfl
      | some money =>
          have sameId : money.id = id := by simpa using List.find?_some found
          change Except.ok _ = Except.ok _
          rw [transactionOpen, sameId]
  case byService => exact ⟨invoiceOpen, transactionOpen⟩
  case byReport =>
    simp only [Ledger.currentInvoiceOpen_eq, Ledger.currentTransactionOpen_eq]
    exact ⟨invoiceOpen, transactionOpen⟩
  case byReportAsOf =>
    intro zone asOf
    have historical (key : ReconciliationAllocation → Uuid) (id : Uuid) :=
      Ledger.historicalAmount_insertReversal ⟨row.id, actor, reason, now⟩ sound member rfl
        notReversed (zone.cutoff asOf) key id
    constructor
    · intro invoice
      rw [Ledger.historicalInvoiceOpen, Ledger.historicalInvoiceOpen, historical (·.invoice)]
      ring
    · intro money
      rw [Ledger.historicalTransactionOpen, Ledger.historicalTransactionOpen,
        historical (·.transaction)]
      ring

/-- A reversal stays on record. -/
theorem isReversed_runFrom (site : Installation) {id : Uuid} (reversed : ledger.isReversed id = true)
    (operations : List Operation) : (runFrom site ledger operations).isReversed id = true := by
  apply runFrom_induction (fun ledger => ledger.isReversed id = true) reversed
  intro before after operation holds succeeded
  cases perform_effect succeeded with
  | elsewhere operation same =>
      rw [Ledger.isReversed, same.reversals]
      exact holds
  | create checked => exact holds
  | reverse original notReversed =>
      rw [Ledger.isReversed_insertReversal, holds, Bool.true_or]
  | draft checked => exact holds
  | settle found isDraft checked => exact holds

/-- A reversed reconciliation is not reversed again. -/
theorem reverse_again_fails {id : Uuid} (reversed : ledger.isReversed id = true) (actor : Actor)
    (reason : Option String) (now : ℤ) :
    ∃ error, reverseReconciliation actor id reason now ledger = .error error := by
  cases outcome : reverseReconciliation actor id reason now ledger with
  | error error => exact ⟨error, rfl⟩
  | ok after =>
      rcases reverseReconciliation_eq_ok.mp outcome with
        ⟨-, text, -, -, original, found, notReversed, -⟩
      rw [(reconciliation?_eq_some found).2, reversed] at notReversed
      exact Bool.noConfusion notReversed

theorem mem_linesOf {allocation : ReconciliationAllocation} {id : Uuid}
    (member : allocation ∈ ledger.allocations) (ofRow : allocation.reconciliation = id) :
    ⟨allocation.invoice, allocation.transaction, .decimal (Decimal.ofCents allocation.amount)⟩ ∈
      ledger.linesOf id :=
  List.mem_map.mpr ⟨allocation, List.mem_filter.mpr ⟨member, decide_eq_true ofRow⟩, rfl⟩

theorem requested_linesOf (ledger : Ledger) (id : Uuid) (key : AllocationInput → Uuid)
    (column : ReconciliationAllocation → Uuid)
    (keyEq : ∀ allocation : ReconciliationAllocation, key ⟨allocation.invoice,
      allocation.transaction, .decimal (Decimal.ofCents allocation.amount)⟩ = column allocation)
    (record : Uuid) :
    requested key (ledger.linesOf id) record = ledger.allocatedBy id column record := by
  have cents (allocation : ReconciliationAllocation) :
      (Amount.decimal (Decimal.ofCents allocation.amount)).cents = allocation.amount :=
    Decimal.roundedCents_eq (Decimal.isCents_ofCents _)
  simp only [requested, Ledger.linesOf, total_map, total_filter, keyEq, cents, Ledger.allocatedBy]
  apply total_congr
  intro allocation _
  exact Bool.and_comm _ _

/-- The lines of a reversed reconciliation are accepted again unless an invoice is red or void. -/
theorem repeated_ok_iff (sound : ledger.Sound) (recorded : ledger.Recorded)
    (member : row ∈ ledger.reconciliations)
    (room : (∀ invoice ∈ ledger.invoices,
        ledger.allocatedBy row.id (·.invoice) invoice.id ≤ ledger.invoiceOpen invoice) ∧
      ∀ money ∈ ledger.transactions,
        ledger.allocatedBy row.id (·.transaction) money.id ≤ ledger.transactionOpen money)
    {actor : Actor} (finance : actor.IsFinance) (note : String) {uuid : Uuid}
    (fresh : ∀ other ∈ ledger.reconciliations, other.id ≠ uuid) (now : ℤ) :
    (∃ again, createReconciliation (ledger.repeated row actor note) uuid now ledger = .ok again) ↔
      ∀ allocation ∈ ledger.allocations, allocation.reconciliation = row.id →
        ∀ invoice ∈ ledger.invoices, invoice.id = allocation.invoice →
          invoice.status ≠ .void ∧ invoice.status ≠ .red := by
  have legal : ArgumentsLegal ledger (ledger.repeated row actor note) uuid row.direction row.mode :=
    ⟨finance, rfl, rfl, sound.linked row member, fresh, recorded.batchKnown row member⟩
  rw [createReconciliation_ok_iff sound legal]
  constructor
  · intro valid allocation allocationMem ofRow invoice listed invoiceId
    rcases valid.pairsFit _ (mem_linesOf allocationMem ofRow) with ⟨other, otherListed, otherId, -, -, -, -, -, notVoid⟩
    rwa [List.inj_on_of_nodup_map sound.invoiceIds otherListed listed
      (otherId.trans invoiceId.symm)] at notVoid
  · intro standing
    constructor
    case nonempty =>
      rcases recorded.allocated row member with ⟨allocation, allocationMem, ofRow⟩
      exact List.ne_nil_of_mem (mem_linesOf allocationMem ofRow)
    case payments =>
      intro item itemMem
      rcases List.mem_map.mp itemMem with ⟨allocation, allocationMem, rfl⟩
      have fits := sound.allocationsFit allocation (List.mem_filter.mp allocationMem).1
      exact ⟨allocation.amount, fits.positive, Decimal.isCents_ofCents _⟩
    case pairsFit =>
      intro item itemMem
      rcases List.mem_map.mp itemMem with ⟨allocation, allocationMem, rfl⟩
      rcases List.mem_filter.mp allocationMem with ⟨listed, ofRow⟩
      have ofRow := of_decide_eq_true ofRow
      rcases (sound.allocationsFit allocation listed).joined with ⟨other, otherMem, otherId,
        invoice, invoiceMem, invoiceId, money, moneyMem, moneyId, directions, counterparty⟩
      have sameRow := List.inj_on_of_nodup_map sound.reconciliationIds otherMem member
        (otherId.trans ofRow)
      rw [sameRow] at directions
      refine ⟨invoice, invoiceMem, invoiceId, money, moneyMem, moneyId, ?_, counterparty,
        standing allocation listed ofRow invoice invoiceMem invoiceId⟩
      exact Prod.ext_iff.mp directions
    case invoicesOpen =>
      intro invoice listed _
      rw [Ledger.repeated, requested_linesOf ledger row.id _ (·.invoice) fun _ => rfl]
      exact room.1 invoice listed
    case transactionsOpen =>
      intro money listed _
      rw [Ledger.repeated, requested_linesOf ledger row.id _ (·.transaction) fun _ => rfl]
      exact room.2 money listed
    case whole => simp [Ledger.repeated]
    case expectedInvoices => simp [Ledger.repeated]
    case expectedTransactions => simp [Ledger.repeated]

end Reverse

/--
Reversing a reconciliation in any reachable ledger gives back exactly what it allocated,
works only once, and lets its lines be reconciled again.
-/
theorem reversal_is_inverse (site : Installation) (directory : Directory)
    (operations : List Operation) {row : Reconciliation}
    (member : row ∈ (run site directory operations).reconciliations)
    (notReversed : (run site directory operations).isReversed row.id = false) {actor : Actor}
    (finance : actor.IsFinance) {reason : String} (given : strip reason ≠ "") (now : ℤ) :
    ∃ after, reverseReconciliation actor row.id (some reason) now
        (run site directory operations) = .ok after ∧
      GivesBack (run site directory operations) row now after ∧
      (∀ (later : List Operation) (actor : Actor) (reason : Option String) (now : ℤ),
        (∃ error, reverseReconciliation actor row.id reason now (runFrom site after later) =
          .error error) ∧
        Operation.step site (runFrom site after later)
          (.reverseReconciliation actor row.id reason now) = runFrom site after later) ∧
      ∀ (actor : Actor), actor.IsFinance → ∀ (note : String) (uuid : Uuid),
        (∀ other ∈ after.reconciliations, other.id ≠ uuid) → ∀ now,
          ((∃ again, createReconciliation (after.repeated row actor note) uuid now after =
            .ok again) ↔
          ∀ allocation ∈ after.allocations, allocation.reconciliation = row.id →
            ∀ invoice ∈ after.invoices, invoice.id = allocation.invoice →
              invoice.status ≠ .void ∧ invoice.status ≠ .red) := by
  have sound := run_sound site directory operations
  have recorded := run_recorded site directory operations
  have found : (run site directory operations).reconciliation? row.id = some row :=
    (find?_eq_some_iff sound.reconciliationIds).mpr ⟨member, rfl⟩
  have reversed : reverseReconciliation actor row.id (some reason) now
      (run site directory operations) = .ok ((run site directory operations).insertReversal
        ⟨row.id, actor.id, strip reason, now⟩) :=
    reverseReconciliation_eq_ok.mpr ⟨finance, reason, rfl, given, row, found, notReversed, rfl⟩
  have gives := givesBack sound member notReversed actor.id (strip reason) now
  have soundAfter : ((run site directory operations).insertReversal
      ⟨row.id, actor.id, strip reason, now⟩).Sound :=
    sound.insertReversal ⟨row, member, rfl⟩ notReversed
  have recordedAfter : ((run site directory operations).insertReversal
      ⟨row.id, actor.id, strip reason, now⟩).Recorded := ⟨recorded.allocated, recorded.batchKnown⟩
  have onRecord : ((run site directory operations).insertReversal
      ⟨row.id, actor.id, strip reason, now⟩).isReversed row.id = true := by
    rw [Ledger.isReversed_insertReversal, decide_eq_true rfl, Bool.or_true]
  refine ⟨_, reversed, gives, ?_, ?_⟩
  · intro later actor' reason' now'
    have fails := reverse_again_fails (isReversed_runFrom site onRecord later) actor' reason' now'
    refine ⟨fails, ?_⟩
    rcases fails with ⟨error, failed⟩
    simp only [Operation.step, Operation.perform, failed]
  · intro actor' finance' note uuid fresh now'
    apply repeated_ok_iff soundAfter recordedAfter member _ finance' note fresh now'
    constructor
    · intro invoice listed
      rw [gives.byService.1]
      apply le_add_of_nonneg_left
      exact sub_nonneg.mpr (sound.invoicesWithin invoice listed)
    · intro money listed
      rw [gives.byService.2]
      apply le_add_of_nonneg_left
      exact sub_nonneg.mpr (sound.transactionsWithin money listed)

namespace Sample

/-- A part of the payment is reconciled with the invoice. -/
def reconcilePart : Operation :=
  .createReconciliation ⟨finance, some .purchasePayment,
    [⟨1102, 1204, .decimal (Decimal.ofCents 6000)⟩], "", some .direct, none, none, none, true⟩ 91 0

def partRow : Reconciliation :=
  ⟨91, .purchasePayment, .direct, 1, none, "", 0⟩

end Sample

/-- A reconciliation of 60.00 is given back. -/
theorem reversal_gives_back_part :
    ∃ after, reverseReconciliation Sample.finance 91 (some "错误") 5
        (run (Sample.pairSite "正常") Sample.directory (Sample.pairImports ++ [Sample.reconcilePart])) =
          .ok after ∧
      GivesBack (run (Sample.pairSite "正常") Sample.directory
        (Sample.pairImports ++ [Sample.reconcilePart])) Sample.partRow 5 after := by
  have facts : Sample.partRow ∈ (run (Sample.pairSite "正常") Sample.directory
        (Sample.pairImports ++ [Sample.reconcilePart])).reconciliations ∧
      (run (Sample.pairSite "正常") Sample.directory
        (Sample.pairImports ++ [Sample.reconcilePart])).isReversed Sample.partRow.id = false ∧
      Sample.finance.IsFinance ∧ strip "错误" ≠ "" := by
    decide +kernel
  rcases facts with ⟨member, notReversed, finance, given⟩
  rcases reversal_is_inverse _ _ _ member notReversed finance given 5 with
    ⟨after, reversed, gives, -, -⟩
  exact ⟨after, reversed, gives⟩

end Finrec
