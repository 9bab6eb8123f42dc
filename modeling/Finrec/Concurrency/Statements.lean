import Finrec.Concurrency.Locks
import Finrec.Reconciliation.Settlements

/-!
# The statements of the reconciliation services

`create_reconciliation`, `reverse_reconciliation` and `confirm_settlement_batch`
as the transactions they are: which rows they lock, and in which order they lock
and read.  A `select_for_update()` locks the rows that are visible when it
starts and reads each one when its lock is granted.  Rows that a transaction
writes one after another are one write here: nobody sees them before the commit.

Alone, each transaction does what the service does.
-/

namespace Finrec

open Checks RowLocks RowLocks.Transaction TableChanges Totals

/-- The order in which rows without an order are found. -/
structure ScanOrder : Type 1 where
  order : {Row : Type} → List Row → List Row
  perm : ∀ {Row : Type} (rows : List Row), (order rows).Perm rows

theorem ScanOrder.mem_order (scan : ScanOrder) {Row : Type} {rows : List Row} {row : Row} :
    row ∈ scan.order rows ↔ row ∈ rows :=
  (scan.perm rows).mem_iff

/-- `Invoice.objects.select_for_update().filter(id__in=ids)`. -/
def lockInvoices (scan : ScanOrder) (ids : List Uuid) :
    Transaction RowLock Ledger (List Invoice) :=
  selectForUpdate
    (fun ledger => scan.order
      ((ledger.invoices.filter fun invoice => decide (invoice.id ∈ ids)).map (·.id)))
    .invoice fun id ledger => ledger.invoice? id

/-- `MoneyTransaction.objects.select_for_update().filter(id__in=ids)`. -/
def lockTransactions (scan : ScanOrder) (ids : List Uuid) :
    Transaction RowLock Ledger (List MoneyTransaction) :=
  selectForUpdate
    (fun ledger => scan.order
      ((ledger.transactions.filter fun money => decide (money.id ∈ ids)).map (·.id)))
    .transaction fun id ledger => ledger.transaction? id

/-- `Reconciliation.objects.select_for_update().filter(id__in=ids)`. -/
def lockReconciliations (scan : ScanOrder) (ids : List Uuid) :
    Transaction RowLock Ledger (List Reconciliation) :=
  selectForUpdate
    (fun ledger => scan.order
      ((ledger.reconciliations.filter fun row => decide (row.id ∈ ids)).map (·.id)))
    .reconciliation fun id ledger => ledger.reconciliation? id

/-- `ReconciliationAllocation.objects.select_for_update()` with a filter; these rows never change. -/
def lockAllocations (scan : ScanOrder) (select : ReconciliationAllocation → Bool) :
    Transaction RowLock Ledger (List ReconciliationAllocation) :=
  selectForUpdate (fun ledger => scan.order (ledger.allocations.filter select)) .allocation
    fun row _ => some row

/-- The allocation is on one of the invoices or of the transactions. -/
def touches (invoiceIds transactionIds : List Uuid) (allocation : ReconciliationAllocation) : Bool :=
  decide (allocation.invoice ∈ invoiceIds ∨ allocation.transaction ∈ transactionIds)

/-- `_lock_existing_reconciliations`. -/
def lockExistingReconciliations (scan : ScanOrder) (invoiceIds transactionIds : List Uuid) :
    Transaction RowLock Ledger Unit := do
  let allocations ← lockAllocations scan (touches invoiceIds transactionIds)
  let _ ← lockReconciliations scan (allocations.map (·.reconciliation))
  return ()

/-- `_allocated_amounts`: zero for a record without active allocations. -/
def allocatedAmounts (key : ReconciliationAllocation → Uuid) (ids : List Uuid) (ledger : Ledger) :
    Uuid → ℤ :=
  fun id => if id ∈ ids then ledger.activeAmount key id else 0

/--
The part of `create_reconciliation` after it has locked the records.  The sums
are read inside `_validate_allocations`, whose first loop reads nothing.
-/
def reconcileLocked (scan : ScanOrder) (request : ReconciliationRequest) (uuid : Uuid) (now : ℤ)
    (direction : ReconciliationDirection) (mode : ReconciliationMode) (invoices : List Invoice)
    (transactions : List MoneyTransaction) : Transaction RowLock Ledger Unit := do
  let invoiceIds := request.allocations.map (·.invoiceId)
  let transactionIds := request.allocations.map (·.transactionId)
  lockExistingReconciliations scan invoiceIds transactionIds
  let invoiceAllocated ← ask (allocatedAmounts (·.invoice) invoiceIds)
  let transactionAllocated ← ask (allocatedAmounts (·.transaction) transactionIds)
  let lines ← orRollback (validateAllocations request direction invoices transactions
    invoiceAllocated transactionAllocated)
  let known ← ask fun ledger => decide (∀ id ∈ request.settlementBatch,
    ∃ row ∈ ledger.settlementBatches, row.id = id)
  if known = true then
    claim (.reconciliationId uuid) (fun ledger => ledger.reconciliations.any fun row =>
        decide (row.id = uuid)) rollback
      (save fun ledger => ledger.insertReconciliation
        (reconciliationRow request uuid now direction mode) lines)
  else rollback

/-- `create_reconciliation`. -/
def createTransaction (scan : ScanOrder) (request : ReconciliationRequest) (uuid : Uuid)
    (now : ℤ) : Transaction RowLock Ledger Unit := do
  let (direction, mode) ← orRollback (checkRequest request)
  let invoices ← lockInvoices scan (request.allocations.map (·.invoiceId))
  let transactions ← lockTransactions scan (request.allocations.map (·.transactionId))
  reconcileLocked scan request uuid now direction mode invoices transactions

/-- `reverse_reconciliation`. -/
def reverseTransaction (scan : ScanOrder) (actor : Actor) (id : Uuid) (reason : Option String)
    (now : ℤ) : Transaction RowLock Ledger Unit := do
  orRollback (requireFinanceActor actor "只有财务人员可以执行核销")
  let reason ← orRollback (present (reason.filter fun text => decide (strip text ≠ ""))
    (ServiceError.validation "撤销原因不能为空"))
  let rows ← ask fun ledger => ledger.allocations.filter fun allocation =>
    decide (allocation.reconciliation = id)
  let _ ← lockInvoices scan (rows.map (·.invoice))
  let _ ← lockTransactions scan (rows.map (·.transaction))
  let _ ← lockAllocations scan fun allocation => decide (allocation.reconciliation = id)
  match ← getForUpdate (.reconciliation id) fun ledger => ledger.reconciliation? id with
  | none => rollback
  | some original =>
      if ← ask fun ledger => ledger.isReversed original.id then rollback
      else save fun ledger => ledger.insertReversal ⟨original.id, actor.id, strip reason, now⟩

/-- `invoice_open_amount`. -/
def readInvoiceOpenAmount (id : Uuid) : Transaction RowLock Ledger (Uuid × ℤ) := do
  let found ← ask fun ledger => ledger.invoice? id
  let invoice ← orRollback (present found (ServiceError.doesNotExist "Invoice"))
  let allocated ← ask fun ledger => ledger.activeAmount (·.invoice) id
  return (id, invoice.totalAmount - allocated)

/-- `transaction_open_amount`. -/
def readTransactionOpenAmount (id : Uuid) : Transaction RowLock Ledger (Uuid × ℤ) := do
  let found ← ask fun ledger => ledger.transaction? id
  let money ← orRollback (present found (ServiceError.doesNotExist "MoneyTransaction"))
  let allocated ← ask fun ledger => ledger.activeAmount (·.transaction) id
  return (id, money.amount - allocated)

/-- `externally_occupied` of `_validate_batch_allocations`. -/
def externallyOccupied (batch : Uuid) (invoiceIds transactionIds : List Uuid) (ledger : Ledger) :
    Bool :=
  ledger.allocations.any fun allocation =>
    touches invoiceIds transactionIds allocation && ledger.isExternal batch allocation

/-- `_validate_batch_allocations`. -/
def checkBatchAllocations (scan : ScanOrder) (batch : SettlementBatch)
    (allocations : List AllocationInput) : Transaction RowLock Ledger Unit := do
  let invoiceIds ← ask fun ledger => ledger.batchInvoiceIds batch.id
  let transactionIds ← ask fun ledger => ledger.batchTransactionIds batch.id
  orRollback (validateBatchLines invoiceIds transactionIds allocations)
  let invoices ← lockInvoices scan invoiceIds
  let transactions ← lockTransactions scan transactionIds
  let _ ← orRollback (collect (validateBatchInvoice batch) invoices)
  let _ ← orRollback (collect (validateBatchTransaction batch) transactions)
  let occupied ← ask (externallyOccupied batch.id invoiceIds transactionIds)
  if occupied = true then rollback
  else
    let invoiceOpenAmounts ← each readInvoiceOpenAmount invoiceIds
    let transactionOpenAmounts ← each readTransactionOpenAmount transactionIds
    orRollback (validateBatchOpenAmounts allocations invoiceOpenAmounts transactionOpenAmounts)

/-- `confirm_settlement_batch`. -/
def confirmSettlementTransaction (scan : ScanOrder) (id : Uuid) (actor : Actor)
    (allocations : List AllocationInput) (version : ℤ) (uuid : Uuid) (now : ℤ) :
    Transaction RowLock Ledger Unit := do
  orRollback (requireFinanceActor actor "只有财务人员可以执行核销")
  match ← getForUpdate (.settlementBatch id) fun ledger => ledger.settlementBatch? id with
  | none => rollback
  | some batch =>
      orRollback (validateBatchVersion batch version)
      checkBatchAllocations scan batch allocations
      createTransaction scan (confirmationRequest actor batch allocations) uuid now
      save fun ledger => ledger.setConfirmed batch.id

/-! ## Alone -/

section Lookups

/-- Rows that were read by their keys are found by their keys. -/
theorem find?_filterMap {Row : Type} {key : Row → Uuid} {row : Uuid → Option Row}
    (named : ∀ id found, row id = some found → key found = id) (ids : List Uuid) (id : Uuid) :
    (ids.filterMap row).find? (fun found => decide (key found = id)) =
      if id ∈ ids then row id else none := by
  induction ids with
  | nil => rfl
  | cons first ids ih =>
      cases read : row first with
      | none =>
          rw [List.filterMap_cons_none read, ih]
          by_cases same : id = first
          · subst same
            simp [read]
          · simp [same]
      | some found =>
          rw [List.filterMap_cons_some read, List.find?_cons]
          have ofFirst := named first found read
          by_cases same : id = first
          · subst same
            simp [read, ofFirst]
          · have other : ¬key found = id := by
              rw [ofFirst]
              exact Ne.symm same
            simp only [other, decide_false, ih, List.mem_cons, same, false_or]

/-- The rows of a filter on their keys are found by their keys. -/
theorem find?_filter_ids {Row : Type} (key : Row → Uuid) (ids : List Uuid) (rows : List Row)
    (id : Uuid) :
    (rows.filter fun row => decide (key row ∈ ids)).find? (fun row => decide (key row = id)) =
      if id ∈ ids then rows.find? fun row => decide (key row = id) else none := by
  rw [List.find?_filter]
  by_cases wanted : id ∈ ids
  · rw [if_pos wanted]
    congr 1
    funext row
    by_cases same : key row = id
    · simp [same, wanted]
    · simp [same]
  · rw [if_neg wanted, List.find?_eq_none]
    intro row _
    by_cases same : key row = id
    · simp [same, wanted]
    · simp [same]

/-- The rows that a locking query returns are found as the rows of the table are. -/
theorem find?_locked {Row : Type} (key : Row → Uuid) (scan : ScanOrder) (ids : List Uuid)
    (rows : List Row) (id : Uuid) :
    ((scan.order ((rows.filter fun row => decide (key row ∈ ids)).map key)).filterMap fun wanted =>
        rows.find? fun row => decide (key row = wanted)).find? (fun row => decide (key row = id)) =
      (rows.filter fun row => decide (key row ∈ ids)).find? fun row => decide (key row = id) := by
  rw [find?_filterMap (fun wanted found read => by simpa using List.find?_some read),
    find?_filter_ids]
  by_cases listed : id ∈ (rows.filter fun row => decide (key row ∈ ids)).map key
  · rw [if_pos (scan.mem_order.mpr listed)]
    rcases List.mem_map.mp listed with ⟨row, member, rfl⟩
    rw [if_pos (of_decide_eq_true (List.mem_filter.mp member).2)]
  · rw [if_neg fun member => listed (scan.mem_order.mp member)]
    by_cases wanted : id ∈ ids
    · rw [if_pos wanted, eq_comm, List.find?_eq_none]
      intro row member selected
      have same := of_decide_eq_true selected
      subst same
      exact listed (List.mem_map_of_mem (List.mem_filter.mpr ⟨member, decide_eq_true wanted⟩))
    · rw [if_neg wanted]

end Lookups

theorem Ledger.invoice?_id {ledger : Ledger} {id : Uuid} {invoice : Invoice}
    (found : ledger.invoice? id = some invoice) : invoice.id = id := by
  simpa using List.find?_some found

theorem Ledger.transaction?_id {ledger : Ledger} {id : Uuid} {money : MoneyTransaction}
    (found : ledger.transaction? id = some money) : money.id = id := by
  simpa using List.find?_some found

/-- A request is checked with any rows among which its records are found. -/
theorem AllocationsChecked.of_found {request : ReconciliationRequest}
    {direction : ReconciliationDirection} {invoices invoices' : List Invoice}
    {transactions transactions' : List MoneyTransaction}
    {invoiceAllocated invoiceAllocated' transactionAllocated transactionAllocated' : Uuid → ℤ}
    {lines : List AllocationLine}
    (checked : AllocationsChecked request direction invoices transactions invoiceAllocated
      transactionAllocated lines)
    (invoicesFound : ∀ id, ∀ invoice ∈ invoices.find? fun invoice => decide (invoice.id = id),
      invoices'.find? (fun invoice => decide (invoice.id = id)) = some invoice)
    (transactionsFound : ∀ id, ∀ money ∈ transactions.find? fun money => decide (money.id = id),
      transactions'.find? (fun money => decide (money.id = id)) = some money)
    (sameInvoices : ∀ id ∈ request.allocations.map (·.invoiceId),
      invoiceAllocated' id = invoiceAllocated id)
    (sameTransactions : ∀ id ∈ request.allocations.map (·.transactionId),
      transactionAllocated' id = transactionAllocated id) :
    AllocationsChecked request direction invoices' transactions' invoiceAllocated'
      transactionAllocated' lines := by
  have each : List.Forall₂ (LineChecked direction invoices' transactions') request.allocations
      lines := by
    refine checked.each.imp fun item line lineChecked => ?_
    exact ⟨lineChecked.amount, invoicesFound _ _ lineChecked.invoiceFound,
      transactionsFound _ _ lineChecked.transactionFound, lineChecked.notVoid,
      lineChecked.directions, lineChecked.counterparty⟩
  have invoiceSums : ∀ invoice ∈ touchedInvoices lines,
      invoiceAllocated' invoice.id = invoiceAllocated invoice.id := by
    intro invoice touched
    rcases List.mem_map.mp (List.mem_eraseDups.mp touched) with ⟨line, lineMem, rfl⟩
    rcases exists_item checked.each lineMem with ⟨item, itemMem, lineChecked⟩
    rw [lineChecked.invoice_mem.2]
    exact sameInvoices _ (List.mem_map_of_mem itemMem)
  have transactionSums : ∀ money ∈ touchedTransactions lines,
      transactionAllocated' money.id = transactionAllocated money.id := by
    intro money touched
    rcases List.mem_map.mp (List.mem_eraseDups.mp touched) with ⟨line, lineMem, rfl⟩
    rcases exists_item checked.each lineMem with ⟨item, itemMem, lineChecked⟩
    rw [lineChecked.transaction_mem.2]
    exact sameTransactions _ (List.mem_map_of_mem itemMem)
  refine ⟨each, ?_, ?_, ?_, ?_, ?_⟩
  · intro expected given
    rw [List.map_congr_left fun invoice touched => by rw [invoiceSums invoice touched]]
    exact checked.expectedInvoices expected given
  · intro expected given
    rw [List.map_congr_left fun money touched => by rw [transactionSums money touched]]
    exact checked.expectedTransactions expected given
  · intro invoice touched
    rw [invoiceSums invoice touched]
    exact checked.wholeUnlessPartial invoice touched
  · intro money touched
    rw [transactionSums money touched]
    exact checked.transactionsOpen money touched
  · intro invoice touched
    rw [invoiceSums invoice touched]
    exact checked.invoicesOpen invoice touched

theorem allocatedAmounts_of_mem {key : ReconciliationAllocation → Uuid} {ids : List Uuid}
    {ledger : Ledger} {id : Uuid} (listed : id ∈ ids) :
    allocatedAmounts key ids ledger id = ledger.activeAmount key id :=
  if_pos listed

section Alone

variable {scan : ScanOrder} {ledger after : Ledger}

theorem alone_lockExistingReconciliations_bind (invoiceIds transactionIds : List Uuid)
    {α : Type} (next : Unit → Transaction RowLock Ledger α) :
    (lockExistingReconciliations scan invoiceIds transactionIds >>= next).alone ledger =
      (next ()).alone ledger := by
  simp only [lockExistingReconciliations, lockAllocations, lockReconciliations, bind_assoc,
    alone_selectForUpdate_bind, pure_eq, done_bind]

theorem reconcileLocked_alone {request : ReconciliationRequest} {uuid : Uuid} {now : ℤ}
    {direction : ReconciliationDirection} {mode : ReconciliationMode} {invoices : List Invoice}
    {transactions : List MoneyTransaction} :
    (reconcileLocked scan request uuid now direction mode invoices transactions).alone ledger =
        some ((), after) ↔
      ∃ lines, AllocationsChecked request direction invoices transactions
          (allocatedAmounts (·.invoice) (request.allocations.map (·.invoiceId)) ledger)
          (allocatedAmounts (·.transaction) (request.allocations.map (·.transactionId)) ledger)
          lines ∧
        ledger.CanInsertReconciliation uuid request.settlementBatch ∧
        after = ledger.insertReconciliation (reconciliationRow request uuid now direction mode)
          lines := by
  simp only [reconcileLocked, alone_lockExistingReconciliations_bind, ask_bind, alone_query,
    alone_orRollback_bind, validateAllocations_eq_ok]
  refine exists_congr fun lines => and_congr_right fun _ => ?_
  by_cases known : ∀ id ∈ request.settlementBatch, ∃ row ∈ ledger.settlementBatches, row.id = id
  · rw [if_pos (decide_eq_true known), alone_claim]
    by_cases unused : ∀ row ∈ ledger.reconciliations, row.id ≠ uuid
    · rw [if_neg (by simpa using unused)]
      simp only [save, alone_write, alone_done, Option.some.injEq, Prod.mk.injEq, true_and,
        Ledger.CanInsertReconciliation]
      constructor
      · rintro rfl
        exact ⟨⟨unused, known⟩, rfl⟩
      · rintro ⟨-, rfl⟩
        rfl
    · rw [if_pos (by simpa using unused)]
      simp only [alone_rollback, reduceCtorEq, false_iff]
      rintro ⟨insertable, -⟩
      exact unused insertable.1
  · rw [if_neg (by simpa using known)]
    simp only [alone_rollback, reduceCtorEq, false_iff]
    rintro ⟨insertable, -⟩
    exact known insertable.2

theorem createTransaction_alone {request : ReconciliationRequest} {uuid : Uuid} {now : ℤ} :
    (createTransaction scan request uuid now).alone ledger = some ((), after) ↔
      createReconciliation request uuid now ledger = .ok after := by
  simp only [createTransaction, lockInvoices, lockTransactions, alone_orRollback_bind, Prod.exists,
    alone_selectForUpdate_bind, reconcileLocked_alone, createReconciliation_eq_ok,
    checkRequest_eq_ok]
  constructor
  · rintro ⟨direction, mode, ⟨finance, nonempty, directionGiven, modeGiven, linked⟩, lines, checked,
      insertable, rfl⟩
    refine ⟨direction, mode, lines, ⟨finance, nonempty, directionGiven, modeGiven, linked, ?_,
      insertable⟩, rfl⟩
    refine checked.of_found ?_ ?_ ?_ ?_
    · intro id invoice found
      exact (find?_locked Invoice.id scan _ ledger.invoices id).symm.trans found
    · intro id money found
      exact (find?_locked MoneyTransaction.id scan _ ledger.transactions id).symm.trans found
    · intro id listed
      exact (allocatedAmounts_of_mem listed).symm
    · intro id listed
      exact (allocatedAmounts_of_mem listed).symm
  · rintro ⟨direction, mode, lines, checked, rfl⟩
    refine ⟨direction, mode, ⟨checked.finance, checked.nonempty, checked.directionGiven,
      checked.modeGiven, checked.linked⟩, lines, ?_, checked.insertable, rfl⟩
    refine checked.allocations.of_found ?_ ?_ ?_ ?_
    · intro id invoice found
      exact (find?_locked Invoice.id scan _ ledger.invoices id).trans found
    · intro id money found
      exact (find?_locked MoneyTransaction.id scan _ ledger.transactions id).trans found
    · intro id listed
      exact allocatedAmounts_of_mem listed
    · intro id listed
      exact allocatedAmounts_of_mem listed

theorem reverseTransaction_alone {actor : Actor} {id : Uuid} {reason : Option String} {now : ℤ} :
    (reverseTransaction scan actor id reason now).alone ledger = some ((), after) ↔
      reverseReconciliation actor id reason now ledger = .ok after := by
  simp only [reverseTransaction, lockInvoices, lockTransactions, lockAllocations,
    alone_orRollback_bind, ask_bind, alone_query, alone_selectForUpdate_bind,
    alone_getForUpdate_bind, reverseReconciliation, bind_eq_ok]
  refine exists_congr fun _ => and_congr_right fun _ => exists_congr fun text =>
    and_congr_right fun _ => ?_
  cases found : ledger.reconciliation? id with
  | none => simp
  | some original =>
      cases reversed : ledger.isReversed original.id with
      | true => simp [reversed]
      | false =>
          simp only [alone_query, reversed, present_eq_ok, Option.some.injEq, exists_eq_left',
            require_eq_ok, Bool.false_eq_true, if_false, save, alone_write, alone_done,
            Prod.mk.injEq, true_and, exists_const]
          exact Except.ok.injEq .. ▸ Iff.rfl

theorem invoiceOpenAmount_entry {id : Uuid} {entry : Uuid × ℤ} :
    (invoiceOpenAmount ledger id).map (fun amount => (id, amount)) = .ok entry ↔
      ∃ invoice, ledger.invoice? id = some invoice ∧ entry = (id, ledger.invoiceOpen invoice) := by
  cases read : invoiceOpenAmount ledger id with
  | error error =>
      simp only [Except.map, reduceCtorEq, false_iff]
      rintro ⟨invoice, found, -⟩
      have succeeds := invoiceOpenAmount_eq_ok.mpr ⟨invoice, found, rfl⟩
      rw [read] at succeeds
      cases succeeds
  | ok amount =>
      rcases invoiceOpenAmount_eq_ok.mp read with ⟨invoice, found, rfl⟩
      simp [Except.map, found, eq_comm]

theorem transactionOpenAmount_entry {id : Uuid} {entry : Uuid × ℤ} :
    (transactionOpenAmount ledger id).map (fun amount => (id, amount)) = .ok entry ↔
      ∃ money, ledger.transaction? id = some money ∧ entry = (id, ledger.transactionOpen money) := by
  cases read : transactionOpenAmount ledger id with
  | error error =>
      simp only [Except.map, reduceCtorEq, false_iff]
      rintro ⟨money, found, -⟩
      have succeeds := transactionOpenAmount_eq_ok.mpr ⟨money, found, rfl⟩
      rw [read] at succeeds
      cases succeeds
  | ok amount =>
      rcases transactionOpenAmount_eq_ok.mp read with ⟨money, found, rfl⟩
      simp [Except.map, found, eq_comm]

theorem readInvoiceOpenAmount_alone {id : Uuid} {entry : Uuid × ℤ} :
    (readInvoiceOpenAmount id).alone ledger = some (entry, after) ↔
      (∃ invoice, ledger.invoice? id = some invoice ∧ entry = (id, ledger.invoiceOpen invoice)) ∧
        after = ledger := by
  simp only [readInvoiceOpenAmount, ask_bind, alone_query, alone_orRollback_bind, pure_eq,
    alone_done, present_eq_ok]
  constructor
  · rintro ⟨invoice, found, same⟩
    cases same
    have named := Ledger.invoice?_id found
    exact ⟨⟨invoice, found, by rw [Ledger.invoiceOpen, named]⟩, rfl⟩
  · rintro ⟨⟨invoice, found, rfl⟩, rfl⟩
    have named := Ledger.invoice?_id found
    exact ⟨invoice, found, by rw [Ledger.invoiceOpen, named]⟩

theorem readTransactionOpenAmount_alone {id : Uuid} {entry : Uuid × ℤ} :
    (readTransactionOpenAmount id).alone ledger = some (entry, after) ↔
      (∃ money, ledger.transaction? id = some money ∧
        entry = (id, ledger.transactionOpen money)) ∧ after = ledger := by
  simp only [readTransactionOpenAmount, ask_bind, alone_query, alone_orRollback_bind, pure_eq,
    alone_done, present_eq_ok]
  constructor
  · rintro ⟨money, found, same⟩
    cases same
    have named := Ledger.transaction?_id found
    exact ⟨⟨money, found, by rw [Ledger.transactionOpen, named]⟩, rfl⟩
  · rintro ⟨⟨money, found, rfl⟩, rfl⟩
    have named := Ledger.transaction?_id found
    exact ⟨money, found, by rw [Ledger.transactionOpen, named]⟩

/-- The rows that are locked for a batch are its rows. -/
theorem mem_locked {Row : Type} {key : Row → Uuid} {rows : List Row}
    (distinct : (rows.map key).Nodup) (ids : List Uuid) {row : Row} :
    row ∈ (scan.order ((rows.filter fun row => decide (key row ∈ ids)).map key)).filterMap
        (fun wanted => rows.find? fun row => decide (key row = wanted)) ↔
      row ∈ rows.filter fun row => decide (key row ∈ ids) := by
  rw [List.mem_filterMap]
  constructor
  · rintro ⟨id, member, found⟩
    rcases (find?_eq_some_iff distinct).mp found with ⟨rowMem, rfl⟩
    rcases List.mem_map.mp (scan.mem_order.mp member) with ⟨other, otherMem, same⟩
    rw [List.inj_on_of_nodup_map distinct rowMem (List.mem_filter.mp otherMem).1 same.symm]
    exact otherMem
  · intro member
    exact ⟨key row, scan.mem_order.mpr (List.mem_map_of_mem member),
      (find?_eq_some_iff distinct).mpr ⟨(List.mem_filter.mp member).1, rfl⟩⟩

theorem exists_collect_locked {Row ε β : Type} {key : Row → Uuid} {rows : List Row}
    (scan : ScanOrder) (distinct : (rows.map key).Nodup) (ids : List Uuid)
    (process : Row → Except ε β) : (∃ results, collect process ((scan.order
        ((rows.filter fun row => decide (key row ∈ ids)).map key)).filterMap fun wanted =>
          rows.find? fun row => decide (key row = wanted)) = .ok results) ↔
      ∃ results, collect process (rows.filter fun row => decide (key row ∈ ids)) = .ok results := by
  simp only [exists_collect_eq_ok, mem_locked distinct]

theorem externallyOccupied_eq_false {batch : Uuid} {invoiceIds transactionIds : List Uuid} :
    externallyOccupied batch invoiceIds transactionIds ledger = false ↔
      ∀ allocation ∈ ledger.allocations,
        ¬((allocation.invoice ∈ invoiceIds ∨ allocation.transaction ∈ transactionIds) ∧
          ledger.isExternal batch allocation = true) := by
  simp only [externallyOccupied, touches, List.any_eq_false, Bool.and_eq_true, decide_eq_true_eq]

theorem checkBatchAllocations_alone (sound : ledger.Sound) {batch : SettlementBatch}
    {allocations : List AllocationInput} {next : Unit → Transaction RowLock Ledger Unit} :
    (checkBatchAllocations scan batch allocations >>= next).alone ledger = some ((), after) ↔
      validateBatchAllocations batch allocations ledger = .ok () ∧
        (next ()).alone ledger = some ((), after) := by
  have reads : ((if externallyOccupied batch.id (ledger.batchInvoiceIds batch.id)
        (ledger.batchTransactionIds batch.id) ledger = true then rollback
      else do
        let invoiceOpenAmounts ← each readInvoiceOpenAmount (ledger.batchInvoiceIds batch.id)
        let transactionOpenAmounts ←
          each readTransactionOpenAmount (ledger.batchTransactionIds batch.id)
        orRollback (validateBatchOpenAmounts allocations invoiceOpenAmounts
          transactionOpenAmounts)) >>= next).alone ledger = some ((), after) ↔
      ((∀ allocation ∈ ledger.allocations,
        ¬((allocation.invoice ∈ ledger.batchInvoiceIds batch.id ∨
          allocation.transaction ∈ ledger.batchTransactionIds batch.id) ∧
          ledger.isExternal batch.id allocation = true)) ∧
      ∃ invoiceOpenAmounts, collect (fun id => (invoiceOpenAmount ledger id).map fun amount =>
          (id, amount)) (ledger.batchInvoiceIds batch.id) = .ok invoiceOpenAmounts ∧
        ∃ transactionOpenAmounts, collect (fun id => (transactionOpenAmount ledger id).map
            fun amount => (id, amount)) (ledger.batchTransactionIds batch.id) =
              .ok transactionOpenAmounts ∧
          validateBatchOpenAmounts allocations invoiceOpenAmounts transactionOpenAmounts =
            .ok ()) ∧ (next ()).alone ledger = some ((), after) := by
    rw [← externallyOccupied_eq_false]
    cases externallyOccupied batch.id (ledger.batchInvoiceIds batch.id)
        (ledger.batchTransactionIds batch.id) ledger with
    | true => simp
    | false =>
        simp only [Bool.false_eq_true, if_false, bind_assoc, true_and, collect_eq_ok,
          invoiceOpenAmount_entry, transactionOpenAmount_entry]
        rw [alone_each_bind fun id entry after read => (readInvoiceOpenAmount_alone.mp read).2]
        simp only [readInvoiceOpenAmount_alone, and_true]
        simp only [alone_each_bind fun id entry after read =>
          (readTransactionOpenAmount_alone.mp read).2, readTransactionOpenAmount_alone, and_true,
          alone_orRollback_bind]
        constructor
        · rintro ⟨invoices, invoicesRead, transactions, transactionsRead, ⟨⟩, valid, rest⟩
          exact ⟨⟨invoices, invoicesRead, transactions, transactionsRead, valid⟩, rest⟩
        · rintro ⟨⟨invoices, invoicesRead, transactions, transactionsRead, valid⟩, rest⟩
          exact ⟨invoices, invoicesRead, transactions, transactionsRead, (), valid, rest⟩
  simp only [checkBatchAllocations, lockInvoices, lockTransactions, bind_assoc, ask_bind,
    query_bind, alone_query, alone_orRollback_bind, alone_selectForUpdate_bind,
    validateBatchAllocations, bind_eq_ok, exists_and_right, require_eq_ok]
  have invoices := exists_collect_locked scan sound.invoiceIds
    (ledger.batchInvoiceIds batch.id) (validateBatchInvoice batch)
  have transactions := exists_collect_locked scan sound.transactionIds
    (ledger.batchTransactionIds batch.id) (validateBatchTransaction batch)
  refine (and_congr_right fun _ => and_congr invoices (and_congr transactions reads)).trans ?_
  simp only [exists_const, and_assoc]

theorem confirmSettlementTransaction_alone (sound : ledger.Sound) {id : Uuid} {actor : Actor}
    {allocations : List AllocationInput} {version : ℤ} {uuid : Uuid} {now : ℤ} :
    (confirmSettlementTransaction scan id actor allocations version uuid now).alone ledger =
        some ((), after) ↔
      confirmSettlementBatch id actor allocations version uuid now ledger = .ok after := by
  simp only [confirmSettlementTransaction, confirmSettlementBatch, alone_orRollback_bind,
    alone_getForUpdate_bind, bind_eq_ok]
  refine exists_congr fun _ => and_congr_right fun _ => ?_
  cases found : ledger.settlementBatch? id with
  | none => simp
  | some batch =>
      simp only [present_eq_ok, Option.some.injEq, exists_eq_left', alone_orRollback_bind,
        checkBatchAllocations_alone sound]
      refine exists_congr fun _ => and_congr_right fun _ => ?_
      rw [alone_bind, Option.bind_eq_some_iff]
      constructor
      · rintro ⟨valid, ⟨⟨⟩, created⟩, ran, saved⟩
        cases saved
        exact ⟨(), valid, created, createTransaction_alone.mp ran, rfl⟩
      · rintro ⟨⟨⟩, valid, created, ran, saved⟩
        cases saved
        exact ⟨valid, ((), created), createTransaction_alone.mpr ran, rfl⟩

end Alone

end Finrec
