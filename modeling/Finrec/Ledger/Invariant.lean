import Finrec.Ledger.Moves

/-!
# No over-allocation

`Ledger.Sound` is the invariant of the ledger: keys are unique, allocations
join matching records, a reconciliation is reversed at most once, and the
active allocations of a record never add up to more than its amount.  Every
move preserves it.

The bound on sums needs the other parts.  A new record has no allocation,
because allocations name existing records; a new reconciliation is not
reversed, because reversals name existing reconciliations; and a reversal only
lowers sums, because amounts are positive.
-/

namespace Finrec

open Totals

namespace Ledger

/-- An allocation joins an existing invoice and an existing transaction that match. -/
structure AllocationFits (ledger : Ledger) (allocation : ReconciliationAllocation) : Prop where
  positive : 0 < allocation.amount
  joined : ∃ row ∈ ledger.reconciliations, row.id = allocation.reconciliation ∧
    ∃ invoice ∈ ledger.invoices, invoice.id = allocation.invoice ∧
      ∃ money ∈ ledger.transactions, money.id = allocation.transaction ∧
        (invoice.direction, money.direction) = directionsFor row.direction ∧
        money.counterparty = some invoice.counterparty

structure Sound (ledger : Ledger) : Prop where
  invoiceIds : (ledger.invoices.map (·.id)).Nodup
  transactionIds : (ledger.transactions.map (·.id)).Nodup
  reconciliationIds : (ledger.reconciliations.map (·.id)).Nodup
  invoicesInRange : ∀ invoice ∈ ledger.invoices,
    0 < invoice.totalAmount ∧ invoice.totalAmount < 10 ^ 18
  transactionsInRange : ∀ money ∈ ledger.transactions,
    0 < money.amount ∧ money.amount < 10 ^ 18
  linked : ∀ row ∈ ledger.reconciliations,
    row.settlementBatch.isSome = true ↔ row.mode = .batch
  reversalsKnown : ∀ reversal ∈ ledger.reversals,
    ∃ row ∈ ledger.reconciliations, row.id = reversal.original
  reversedOnce : (ledger.reversals.map (·.original)).Nodup
  allocationsFit : ∀ allocation ∈ ledger.allocations, ledger.AllocationFits allocation
  invoicesWithin : ∀ invoice ∈ ledger.invoices,
    ledger.activeAmount (·.invoice) invoice.id ≤ invoice.totalAmount
  transactionsWithin : ∀ money ∈ ledger.transactions,
    ledger.activeAmount (·.transaction) money.id ≤ money.amount

theorem isReversed_eq_true {ledger : Ledger} {id : Uuid} :
    ledger.isReversed id = true ↔ ∃ reversal ∈ ledger.reversals, reversal.original = id := by
  simp [isReversed]

/-- Sums of active allocations only depend on the allocations and the reversals. -/
theorem activeAmount_congr {ledger ledger' : Ledger}
    (allocations : ledger'.allocations = ledger.allocations)
    (reversals : ledger'.reversals = ledger.reversals) (key : ReconciliationAllocation → Uuid)
    (id : Uuid) : ledger'.activeAmount key id = ledger.activeAmount key id := by
  simp only [activeAmount, isActive, isReversed, allocations, reversals]

@[simp]
theorem activeAmount_recordAudit (ledger : Ledger) (actor : Uuid) (action targetType : String)
    (target : Uuid) (changes : AuditChanges) (now : ℤ) (key : ReconciliationAllocation → Uuid)
    (id : Uuid) :
    (ledger.recordAudit actor action targetType target changes now).activeAmount key id =
      ledger.activeAmount key id :=
  activeAmount_congr rfl rfl key id

namespace Sound

variable {ledger : Ledger}

theorem empty (directory : Directory) : (Ledger.empty directory).Sound := by
  constructor <;> simp [Ledger.empty]

theorem activeAmount_nonneg (sound : ledger.Sound) (key : ReconciliationAllocation → Uuid)
    (id : Uuid) : 0 ≤ ledger.activeAmount key id :=
  total_nonneg fun allocation member => (sound.allocationsFit allocation member).positive.le

/-- No allocation names a record that does not exist. -/
theorem activeAmount_eq_zero {key : ReconciliationAllocation → Uuid} {id : Uuid}
    (unnamed : ∀ allocation ∈ ledger.allocations, key allocation ≠ id) :
    ledger.activeAmount key id = 0 := by
  apply total_eq_zero
  intro allocation member
  simp [unnamed allocation member]

theorem not_isReversed_of_fresh (sound : ledger.Sound) {id : Uuid}
    (fresh : ∀ row ∈ ledger.reconciliations, row.id ≠ id) : ledger.isReversed id = false := by
  by_contra reversed
  rw [Bool.not_eq_false, isReversed_eq_true] at reversed
  rcases reversed with ⟨reversal, member, original⟩
  rcases sound.reversalsKnown reversal member with ⟨row, rowMem, known⟩
  exact fresh row rowMem (known.trans original)

/-- Writing rows that the invariant does not read keeps it. -/
theorem of_same_rows {ledger' : Ledger} (sound : ledger.Sound)
    (invoices : ledger'.invoices = ledger.invoices)
    (transactions : ledger'.transactions = ledger.transactions)
    (reconciliations : ledger'.reconciliations = ledger.reconciliations)
    (allocations : ledger'.allocations = ledger.allocations)
    (reversals : ledger'.reversals = ledger.reversals) : ledger'.Sound where
  invoiceIds := by rw [invoices]; exact sound.invoiceIds
  transactionIds := by rw [transactions]; exact sound.transactionIds
  reconciliationIds := by rw [reconciliations]; exact sound.reconciliationIds
  invoicesInRange := by rw [invoices]; exact sound.invoicesInRange
  transactionsInRange := by rw [transactions]; exact sound.transactionsInRange
  linked := by rw [reconciliations]; exact sound.linked
  reversalsKnown := by rw [reversals, reconciliations]; exact sound.reversalsKnown
  reversedOnce := by rw [reversals]; exact sound.reversedOnce
  allocationsFit := by
    rw [allocations]
    intro allocation member
    rcases sound.allocationsFit allocation member with ⟨positive, joined⟩
    refine ⟨positive, ?_⟩
    rw [reconciliations, invoices, transactions]
    exact joined
  invoicesWithin := by
    rw [invoices]
    intro invoice member
    rw [activeAmount_congr allocations reversals]
    exact sound.invoicesWithin invoice member
  transactionsWithin := by
    rw [transactions]
    intro money member
    rw [activeAmount_congr allocations reversals]
    exact sound.transactionsWithin money member

theorem invoice?_eq_some_iff (sound : ledger.Sound) {id : Uuid} {invoice : Invoice} :
    ledger.invoice? id = some invoice ↔ invoice ∈ ledger.invoices ∧ invoice.id = id :=
  find?_eq_some_iff sound.invoiceIds

theorem transaction?_eq_some_iff (sound : ledger.Sound) {id : Uuid} {money : MoneyTransaction} :
    ledger.transaction? id = some money ↔ money ∈ ledger.transactions ∧ money.id = id :=
  find?_eq_some_iff sound.transactionIds

/-! ### Import moves -/

theorem addInvoice (sound : ledger.Sound) {invoice : Invoice}
    (insertable : ledger.InvoiceInsertable invoice) : (ledger.addInvoice invoice).Sound where
  invoiceIds := by
    simp only [Ledger.addInvoice, List.map_append, List.map_cons, List.map_nil]
    rw [List.nodup_append]
    refine ⟨sound.invoiceIds, List.nodup_singleton _, ?_⟩
    intro id member id' member'
    rw [List.mem_singleton] at member'
    rcases List.mem_map.mp member with ⟨row, rowMem, rfl⟩
    rw [member']
    exact insertable.freshId row rowMem
  transactionIds := sound.transactionIds
  reconciliationIds := sound.reconciliationIds
  invoicesInRange row member := by
    rcases List.mem_append.mp member with old | new
    · exact sound.invoicesInRange row old
    · rw [List.mem_singleton.mp new]
      exact insertable.inRange
  transactionsInRange := sound.transactionsInRange
  linked := sound.linked
  reversalsKnown := sound.reversalsKnown
  reversedOnce := sound.reversedOnce
  allocationsFit allocation member := by
    rcases sound.allocationsFit allocation member with
      ⟨positive, row, rowMem, rowId, old, oldMem, rest⟩
    exact ⟨positive, row, rowMem, rowId, old, List.mem_append_left _ oldMem, rest⟩
  invoicesWithin row member := by
    rcases List.mem_append.mp member with old | new
    · exact sound.invoicesWithin row old
    · rw [List.mem_singleton.mp new]
      have unnamed : ∀ allocation ∈ ledger.allocations, allocation.invoice ≠ invoice.id := by
        intro allocation allocationMem
        rcases (sound.allocationsFit allocation allocationMem).joined with
          ⟨-, -, -, old, oldMem, oldId, -⟩
        rw [← oldId]
        exact insertable.freshId old oldMem
      have zero : (ledger.addInvoice invoice).activeAmount (·.invoice) invoice.id = 0 :=
        activeAmount_eq_zero unnamed
      rw [zero]
      exact insertable.inRange.1.le
  transactionsWithin := sound.transactionsWithin

theorem addTransaction (sound : ledger.Sound) {money : MoneyTransaction}
    (insertable : ledger.TransactionInsertable money) : (ledger.addTransaction money).Sound where
  invoiceIds := sound.invoiceIds
  transactionIds := by
    simp only [Ledger.addTransaction, List.map_append, List.map_cons, List.map_nil]
    rw [List.nodup_append]
    refine ⟨sound.transactionIds, List.nodup_singleton _, ?_⟩
    intro id member id' member'
    rw [List.mem_singleton] at member'
    rcases List.mem_map.mp member with ⟨row, rowMem, rfl⟩
    rw [member']
    exact insertable.freshId row rowMem
  reconciliationIds := sound.reconciliationIds
  invoicesInRange := sound.invoicesInRange
  transactionsInRange row member := by
    rcases List.mem_append.mp member with old | new
    · exact sound.transactionsInRange row old
    · rw [List.mem_singleton.mp new]
      exact insertable.inRange
  linked := sound.linked
  reversalsKnown := sound.reversalsKnown
  reversedOnce := sound.reversedOnce
  allocationsFit allocation member := by
    rcases sound.allocationsFit allocation member with
      ⟨positive, row, rowMem, rowId, invoice, invoiceMem, invoiceId, old, oldMem, rest⟩
    exact ⟨positive, row, rowMem, rowId, invoice, invoiceMem, invoiceId, old,
      List.mem_append_left _ oldMem, rest⟩
  invoicesWithin := sound.invoicesWithin
  transactionsWithin row member := by
    rcases List.mem_append.mp member with old | new
    · exact sound.transactionsWithin row old
    · rw [List.mem_singleton.mp new]
      have unnamed : ∀ allocation ∈ ledger.allocations, allocation.transaction ≠ money.id := by
        intro allocation allocationMem
        rcases (sound.allocationsFit allocation allocationMem).joined with
          ⟨-, -, -, -, -, -, old, oldMem, oldId, -⟩
        rw [← oldId]
        exact insertable.freshId old oldMem
      have zero : (ledger.addTransaction money).activeAmount (·.transaction) money.id = 0 :=
        activeAmount_eq_zero unnamed
      rw [zero]
      exact insertable.inRange.1.le

theorem updateInvoiceStatus (sound : ledger.Sound) (existing : Invoice) (status : InvoiceStatus)
    (batch : Uuid) (row : StagedRow) (actor : Uuid) (now : ℤ) :
    (ledger.updateInvoiceStatus existing status batch row actor now).Sound := by
  have invoicesEq : (ledger.updateInvoiceStatus existing status batch row actor now).invoices =
      ledger.invoices.map (Invoice.withStatus existing.id status) := rfl
  constructor
  case invoiceIds =>
    rw [invoicesEq, List.map_map]
    simpa [Function.comp_def] using sound.invoiceIds
  case transactionIds => exact sound.transactionIds
  case reconciliationIds => exact sound.reconciliationIds
  case invoicesInRange =>
    rw [invoicesEq]
    simpa using sound.invoicesInRange
  case transactionsInRange => exact sound.transactionsInRange
  case linked => exact sound.linked
  case reversalsKnown => exact sound.reversalsKnown
  case reversedOnce => exact sound.reversedOnce
  case allocationsFit =>
    intro allocation member
    rcases sound.allocationsFit allocation member with
      ⟨positive, reconciliation, reconciliationMem, rowId, invoice, invoiceMem, invoiceId, money,
        moneyMem, moneyId, directions, counterparty⟩
    refine ⟨positive, reconciliation, reconciliationMem, rowId,
      invoice.withStatus existing.id status, ?_, by simpa using invoiceId, money, moneyMem,
      moneyId, ?_, ?_⟩
    · rw [invoicesEq]
      exact List.mem_map_of_mem invoiceMem
    · rw [Invoice.withStatus_direction]
      exact directions
    · rw [Invoice.withStatus_counterparty]
      exact counterparty
  case invoicesWithin =>
    rw [invoicesEq]
    intro invoice member
    rcases List.mem_map.mp member with ⟨old, oldMem, rfl⟩
    rw [Invoice.withStatus_id, Invoice.withStatus_totalAmount]
    exact sound.invoicesWithin old oldMem
  case transactionsWithin => exact sound.transactionsWithin

theorem of_importMove {stamps : ℤ → Prop} {after : Ledger} (sound : ledger.Sound)
    (move : ImportMove stamps ledger after) : after.Sound := by
  cases move with
  | addInvoice invoice insertable => exact sound.addInvoice insertable
  | addTransaction money insertable => exact sound.addTransaction insertable
  | setStatus existing status batch row actor now =>
      exact sound.updateInvoiceStatus existing status batch row actor now
  | saveRow row change => exact sound.of_same_rows rfl rfl rfl rfl rfl
  | addSnapshot snapshot => exact sound.of_same_rows rfl rfl rfl rfl rfl
  | saveBatch batch => exact sound.of_same_rows rfl rfl rfl rfl rfl
  | auditConfirmed actor batch result now => exact sound.of_same_rows rfl rfl rfl rfl rfl

/-! ### Reconciling and reversing -/

theorem activeAmount_insertReconciliation (sound : ledger.Sound) {row : Reconciliation}
    {lines : List AllocationLine} (fresh : ∀ other ∈ ledger.reconciliations, other.id ≠ row.id)
    (key : ReconciliationAllocation → Uuid) (id : Uuid) :
    (ledger.insertReconciliation row lines).activeAmount key id =
      ledger.activeAmount key id +
        total (fun line => decide (key (allocationRow row.id line) = id)) (·.amount) lines := by
  have notReversed := sound.not_isReversed_of_fresh fresh
  have sameActive : ∀ allocation, (ledger.insertReconciliation row lines).isActive allocation =
      ledger.isActive allocation := fun _ => rfl
  have allocationsEq : (ledger.insertReconciliation row lines).allocations =
      ledger.allocations ++ lines.map (allocationRow row.id) := rfl
  simp only [activeAmount, sameActive, allocationsEq, total_append, total_map]
  congr 1
  apply total_congr
  intro line _
  have active : ledger.isActive (allocationRow row.id line) = true := by
    simp [isActive, allocationRow, notReversed]
  simp [active]

theorem invoiceAmount_insertReconciliation (sound : ledger.Sound) {row : Reconciliation}
    {lines : List AllocationLine} (fresh : ∀ other ∈ ledger.reconciliations, other.id ≠ row.id)
    (id : Uuid) :
    (ledger.insertReconciliation row lines).activeAmount (·.invoice) id =
      ledger.activeAmount (·.invoice) id + requestedInvoiceAmount lines id :=
  sound.activeAmount_insertReconciliation fresh (·.invoice) id

theorem transactionAmount_insertReconciliation (sound : ledger.Sound) {row : Reconciliation}
    {lines : List AllocationLine} (fresh : ∀ other ∈ ledger.reconciliations, other.id ≠ row.id)
    (id : Uuid) :
    (ledger.insertReconciliation row lines).activeAmount (·.transaction) id =
      ledger.activeAmount (·.transaction) id + requestedTransactionAmount lines id :=
  sound.activeAmount_insertReconciliation fresh (·.transaction) id

theorem insertReconciliation (sound : ledger.Sound) {row : Reconciliation}
    {lines : List AllocationLine} (checked : Reconcilable ledger row lines) :
    (ledger.insertReconciliation row lines).Sound := by
  constructor
  case invoiceIds => exact sound.invoiceIds
  case transactionIds => exact sound.transactionIds
  case reconciliationIds =>
    simp only [Ledger.insertReconciliation, recordAudit, List.map_append, List.map_cons,
      List.map_nil]
    rw [List.nodup_append]
    refine ⟨sound.reconciliationIds, List.nodup_singleton _, ?_⟩
    intro id member id' member'
    rw [List.mem_singleton] at member'
    rcases List.mem_map.mp member with ⟨other, otherMem, rfl⟩
    rw [member']
    exact checked.fresh other otherMem
  case invoicesInRange => exact sound.invoicesInRange
  case transactionsInRange => exact sound.transactionsInRange
  case linked =>
    intro other member
    rcases List.mem_append.mp member with old | new
    · exact sound.linked other old
    · rw [List.mem_singleton.mp new]
      exact checked.linked
  case reversalsKnown =>
    intro reversal member
    rcases sound.reversalsKnown reversal member with ⟨other, otherMem, known⟩
    exact ⟨other, List.mem_append_left _ otherMem, known⟩
  case reversedOnce => exact sound.reversedOnce
  case allocationsFit =>
    intro allocation member
    rcases List.mem_append.mp member with old | new
    · rcases sound.allocationsFit allocation old with ⟨positive, other, otherMem, rest⟩
      exact ⟨positive, other, List.mem_append_left _ otherMem, rest⟩
    · rcases List.mem_map.mp new with ⟨line, lineMem, rfl⟩
      have fits := checked.fits line lineMem
      refine ⟨fits.positive, row, List.mem_append_right _ (List.mem_singleton_self row), rfl,
        line.invoice, fits.invoiceMem, rfl, line.transaction, fits.transactionMem, rfl, ?_,
        fits.counterparty⟩
      exact Prod.ext fits.directions.1 fits.directions.2
  case invoicesWithin =>
    intro invoice member
    rw [sound.invoiceAmount_insertReconciliation checked.fresh]
    by_cases touched : ∃ line ∈ lines, line.invoice.id = invoice.id
    · rcases touched with ⟨line, lineMem, sameId⟩
      have sameInvoice := List.inj_on_of_nodup_map sound.invoiceIds
        (checked.fits line lineMem).invoiceMem member sameId
      have within := checked.invoicesOpen line lineMem
      rw [sameInvoice] at within
      omega
    · have untouched : requestedInvoiceAmount lines invoice.id = 0 := by
        apply total_eq_zero
        intro line lineMem
        exact decide_eq_false fun sameId => touched ⟨line, lineMem, sameId⟩
      rw [untouched]
      have within := sound.invoicesWithin invoice member
      omega
  case transactionsWithin =>
    intro money member
    rw [sound.transactionAmount_insertReconciliation checked.fresh]
    by_cases touched : ∃ line ∈ lines, line.transaction.id = money.id
    · rcases touched with ⟨line, lineMem, sameId⟩
      have sameMoney := List.inj_on_of_nodup_map sound.transactionIds
        (checked.fits line lineMem).transactionMem member sameId
      have within := checked.transactionsOpen line lineMem
      rw [sameMoney] at within
      omega
    · have untouched : requestedTransactionAmount lines money.id = 0 := by
        apply total_eq_zero
        intro line lineMem
        exact decide_eq_false fun sameId => touched ⟨line, lineMem, sameId⟩
      rw [untouched]
      have within := sound.transactionsWithin money member
      omega

/-- A reversal can only lower the active amount of a record. -/
theorem activeAmount_insertReversal_le (sound : ledger.Sound) (row : ReconciliationReversal)
    (key : ReconciliationAllocation → Uuid) (id : Uuid) :
    (ledger.insertReversal row).activeAmount key id ≤ ledger.activeAmount key id := by
  apply total_le_total
  · intro allocation member
    exact (sound.allocationsFit allocation member).positive.le
  · intro allocation _ selected
    simp only [Bool.and_eq_true, isActive, Bool.not_eq_true', isReversed, Ledger.insertReversal,
      recordAudit, List.any_append, Bool.or_eq_false_iff] at selected ⊢
    exact ⟨selected.1, selected.2.1⟩

theorem insertReversal (sound : ledger.Sound) {row : ReconciliationReversal}
    (original : ∃ reconciliation ∈ ledger.reconciliations, reconciliation.id = row.original)
    (notReversed : ledger.isReversed row.original = false) :
    (ledger.insertReversal row).Sound := by
  constructor
  case invoiceIds => exact sound.invoiceIds
  case transactionIds => exact sound.transactionIds
  case reconciliationIds => exact sound.reconciliationIds
  case invoicesInRange => exact sound.invoicesInRange
  case transactionsInRange => exact sound.transactionsInRange
  case linked => exact sound.linked
  case reversalsKnown =>
    intro reversal member
    rcases List.mem_append.mp member with old | new
    · exact sound.reversalsKnown reversal old
    · rw [List.mem_singleton.mp new]
      exact original
  case reversedOnce =>
    simp only [Ledger.insertReversal, recordAudit, List.map_append, List.map_cons, List.map_nil]
    rw [List.nodup_append]
    refine ⟨sound.reversedOnce, List.nodup_singleton _, ?_⟩
    intro id member id' member' same
    rw [List.mem_singleton] at member'
    rcases List.mem_map.mp member with ⟨reversal, reversalMem, originalId⟩
    have reversed : ledger.isReversed row.original = true :=
      isReversed_eq_true.mpr ⟨reversal, reversalMem, by rw [originalId, same, member']⟩
    rw [reversed] at notReversed
    exact Bool.noConfusion notReversed
  case allocationsFit => exact fun allocation member =>
    ⟨(sound.allocationsFit allocation member).positive,
      (sound.allocationsFit allocation member).joined⟩
  case invoicesWithin =>
    intro invoice member
    exact (sound.activeAmount_insertReversal_le row _ _).trans (sound.invoicesWithin invoice member)
  case transactionsWithin =>
    intro money member
    exact (sound.activeAmount_insertReversal_le row _ _).trans
      (sound.transactionsWithin money member)

/-- Every move keeps the invariant. -/
theorem of_move {stamps : ℤ → Prop} {after : Ledger} (sound : ledger.Sound)
    (move : LedgerMove stamps ledger after) : after.Sound := by
  cases move with
  | maintain directory => exact sound.of_same_rows rfl rfl rfl rfl rfl
  | stage request sha256 batch rows => exact sound.of_same_rows rfl rfl rfl rfl rfl
  | imports move => exact sound.of_importMove move
  | reconcile row lines checked => exact sound.insertReconciliation checked
  | reverse row original notReversed => exact sound.insertReversal original notReversed
  | draft row invoices transactions now checked => exact sound.of_same_rows rfl rfl rfl rfl rfl
  | settle batch => exact sound.of_same_rows rfl rfl rfl rfl rfl

end Sound

end Ledger

/-- The invariant holds after every run. -/
theorem run_sound (site : Installation) (directory : Directory) (operations : List Operation) :
    (run site directory operations).Sound :=
  run_induction _ (.empty directory) (fun sound move => sound.of_move move) operations

/-! ## Where allocations come from -/

namespace Operation

/-- The lines that an operation asks to allocate. -/
def allocationInputs : Operation → List AllocationInput
  | createReconciliation request _ _ => request.allocations
  | confirmSettlementBatch _ _ allocations _ _ _ => allocations
  | _ => []

end Operation

/-- An allocation that a line of a request asked for, on an invoice that was normal. -/
def AllocatedFrom (ledger : Ledger) (items : List AllocationInput)
    (allocation : ReconciliationAllocation) : Prop :=
  (∃ invoice ∈ ledger.invoices, invoice.id = allocation.invoice ∧ invoice.status = .normal) ∧
    ∃ item ∈ items, item.invoiceId = allocation.invoice ∧
      item.transactionId = allocation.transaction ∧
      ∃ number, item.amount = .decimal number ∧ number.IsCents allocation.amount

theorem createReconciliation_allocations {request : ReconciliationRequest} {uuid : Uuid} {now : ℤ}
    {ledger after : Ledger} (succeeded : createReconciliation request uuid now ledger = .ok after) :
    ∃ new, after.allocations = ledger.allocations ++ new ∧
      ∀ allocation ∈ new, AllocatedFrom ledger request.allocations allocation := by
  rw [createReconciliation_eq_ok] at succeeded
  rcases succeeded with ⟨direction, mode, lines, checked, rfl⟩
  refine ⟨lines.map (Ledger.allocationRow uuid), rfl, ?_⟩
  intro allocation member
  rcases List.mem_map.mp member with ⟨line, lineMem, rfl⟩
  rcases exists_item checked.allocations.each lineMem with ⟨item, itemMem, lineChecked⟩
  have fits := lineChecked.fits
  rcases lineChecked.amount with ⟨number, amountEq, -, isCents, -⟩
  exact ⟨⟨line.invoice, fits.invoiceMem, rfl, fits.normal⟩, item, itemMem,
    lineChecked.invoice_mem.2.symm, lineChecked.transaction_mem.2.symm, number, amountEq, isCents⟩

theorem importMoves_allocations {stamps : ℤ → Prop} {ledger after : Ledger}
    (moves : ImportMoves stamps ledger after) : after.allocations = ledger.allocations := by
  induction moves with
  | refl => rfl
  | tail _ move ih =>
      rw [← ih]
      cases move <;> rfl

/-- An operation only appends allocations, each of which one of its lines asked for. -/
theorem step_allocations (site : Installation) (ledger : Ledger) (operation : Operation) :
    ∃ new, (operation.step site ledger).allocations = ledger.allocations ++ new ∧
      ∀ allocation ∈ new, AllocatedFrom ledger operation.allocationInputs allocation := by
  have unchanged {after : Ledger} (same : after.allocations = ledger.allocations) :
      ∃ new, after.allocations = ledger.allocations ++ new ∧
        ∀ allocation ∈ new, AllocatedFrom ledger operation.allocationInputs allocation :=
    ⟨[], by simpa using same, by simp⟩
  simp only [Operation.step]
  split
  case h_2 => exact unchanged rfl
  rename_i after succeeded
  cases operation with
  | maintain directory =>
      cases succeeded
      exact unchanged rfl
  | stageUpload request =>
      rcases perform_stageUpload succeeded with ⟨batch, staged⟩
      rcases stageUpload_eq_ok staged with ⟨parser, sourceKind, rows, state, -, same⟩
      rw [show after = _ from congrArg Prod.fst same]
      exact unchanged rfl
  | confirmBatch request =>
      rcases perform_confirmBatch succeeded with ⟨result, confirmed⟩
      have moves : ImportMoves (fun _ => True) ledger after :=
        confirmBatch_moves (fun _ => trivial) trivial confirmed
      exact unchanged (importMoves_allocations moves)
  | createReconciliation request uuid now => exact createReconciliation_allocations succeeded
  | reverseReconciliation actor id reason now =>
      simp only [Operation.perform, reverseReconciliation_eq_ok] at succeeded
      rcases succeeded with ⟨-, text, -, -, original, -, -, rfl⟩
      exact unchanged rfl
  | createSettlementBatch request uuid now =>
      simp only [Operation.perform, createSettlementBatch_eq_ok] at succeeded
      rcases succeeded with ⟨direction, invoices, transactions, -, rfl⟩
      exact unchanged rfl
  | confirmSettlementBatch id actor allocations version uuid now =>
      simp only [Operation.perform, confirmSettlementBatch_eq_ok] at succeeded
      rcases succeeded with ⟨-, batch, -, -, -, created, createdEq, rfl⟩
      exact createReconciliation_allocations createdEq

/-- An allocation joins an input invoice with an outflow, or an output invoice with an inflow. -/
def Ledger.JoinsMatching (ledger : Ledger) (allocation : ReconciliationAllocation) : Prop :=
  ∃ invoice ∈ ledger.invoices, invoice.id = allocation.invoice ∧
    ∃ money ∈ ledger.transactions, money.id = allocation.transaction ∧
      (invoice.direction = .input ∧ money.direction = .outflow ∨
        invoice.direction = .output ∧ money.direction = .inflow) ∧
      money.counterparty = some invoice.counterparty

theorem Ledger.AllocationFits.joinsMatching {ledger : Ledger}
    {allocation : ReconciliationAllocation} (fits : ledger.AllocationFits allocation) :
    ledger.JoinsMatching allocation := by
  rcases fits.joined with ⟨row, -, -, invoice, invoiceMem, invoiceId, money, moneyMem, moneyId,
    directions, counterparty⟩
  refine ⟨invoice, invoiceMem, invoiceId, money, moneyMem, moneyId, ?_, counterparty⟩
  cases direction : row.direction with
  | purchasePayment =>
      simp only [direction, directionsFor, Prod.mk.injEq] at directions
      exact .inl directions
  | salesReceipt =>
      simp only [direction, directionsFor, Prod.mk.injEq] at directions
      exact .inr directions

/--
No over-allocation in any reachable ledger, and every step keeps the record of the
earlier allocations and adds only what its own lines ask for.
-/
theorem no_over_allocation (site : Installation) (directory : Directory)
    (operations : List Operation) :
    let ledger := run site directory operations
    (∀ invoice ∈ ledger.invoices,
        0 ≤ ledger.activeAmount (·.invoice) invoice.id ∧
          ledger.activeAmount (·.invoice) invoice.id ≤ invoice.totalAmount) ∧
      (∀ money ∈ ledger.transactions,
        0 ≤ ledger.activeAmount (·.transaction) money.id ∧
          ledger.activeAmount (·.transaction) money.id ≤ money.amount) ∧
      (∀ allocation ∈ ledger.allocations,
        0 < allocation.amount ∧ ledger.JoinsMatching allocation) ∧
      (ledger.reversals.map (·.original)).Nodup ∧
      (∀ row ∈ ledger.reconciliations,
        row.mode = .batch ↔ row.settlementBatch.isSome = true) ∧
      (∀ operation, ∃ new,
        (Operation.step site ledger operation).allocations = ledger.allocations ++ new ∧
          ∀ allocation ∈ new, AllocatedFrom ledger operation.allocationInputs allocation) ∧
      ∀ (operation : Operation) error, operation.perform site ledger = .error error →
        operation.step site ledger = ledger := by
  intro ledger
  have sound : ledger.Sound := run_sound site directory operations
  refine ⟨?_, ?_, ?_, sound.reversedOnce, ?_, step_allocations site ledger, ?_⟩
  · intro invoice member
    exact ⟨sound.activeAmount_nonneg _ _, sound.invoicesWithin invoice member⟩
  · intro money member
    exact ⟨sound.activeAmount_nonneg _ _, sound.transactionsWithin money member⟩
  · intro allocation member
    have fits := sound.allocationsFit allocation member
    exact ⟨fits.positive, fits.joinsMatching⟩
  · intro row member
    exact (sound.linked row member).symm
  · intro operation error failed
    simp only [Operation.step, failed]

end Finrec
