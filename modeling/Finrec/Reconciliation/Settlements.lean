import Finrec.Reconciliation.Services
import Mathlib.Data.List.Sort

/-!
# Settlement batches

A settlement batch collects the untouched invoices and transactions of one
counterparty in a period as a draft.  Confirming it checks the records again
and creates one reconciliation that uses up all of them.

The period of a transaction is decided twice: the draft takes the local day of
`occurred_at`, the confirmation calls `occurred_at.date()` on the value that
the database returned, which is the day in UTC.
-/

namespace Finrec

open Calendar Checks Totals

/-- Order by a first key and then by a second key. -/
def ByKeys {α : Type} (first second : α → ℤ) (left right : α) : Prop :=
  first left < first right ∨ (first left = first right ∧ second left ≤ second right)

instance {α : Type} (first second : α → ℤ) : DecidableRel (ByKeys first second) :=
  fun _ _ => inferInstanceAs (Decidable (_ ∨ _))

/-- `order_by("issue_date", "id")`. -/
def orderInvoices (invoices : List Invoice) : List Invoice :=
  invoices.insertionSort (ByKeys (fun invoice => invoice.issueDate.toDay) fun invoice => invoice.id)

/-- `order_by("occurred_at", "id")`. -/
def orderTransactions (transactions : List MoneyTransaction) : List MoneyTransaction :=
  transactions.insertionSort (ByKeys (·.occurredAt) fun money => money.id)

namespace Ledger

/-- `Exists(active allocations)` for a row with the given key. -/
def hasActive (ledger : Ledger) (key : ReconciliationAllocation → Uuid) (id : Uuid) : Bool :=
  ledger.allocations.any fun allocation => decide (key allocation = id) && ledger.isActive allocation

/-- The invoices that `create_settlement_batch` locks. -/
def draftInvoices (ledger : Ledger) (counterparty : Uuid) (direction : InvoiceDirection)
    (periodStart periodEnd : ℤ) : List Invoice :=
  orderInvoices (ledger.invoices.filter fun invoice =>
    decide (invoice.counterparty = counterparty ∧ invoice.direction = direction ∧
      invoice.status = .normal ∧ periodStart ≤ invoice.issueDate.toDay ∧
      invoice.issueDate.toDay ≤ periodEnd) && !ledger.hasActive (·.invoice) invoice.id)

/-- The transactions that `create_settlement_batch` locks. -/
def draftTransactions (ledger : Ledger) (zone : Zone) (counterparty : Uuid)
    (direction : MoneyDirection) (periodStart periodEnd : ℤ) : List MoneyTransaction :=
  orderTransactions (ledger.transactions.filter fun money =>
    decide (money.counterparty = some counterparty ∧ money.direction = direction ∧
      periodStart ≤ zone.localDay money.occurredAt ∧
      zone.localDay money.occurredAt ≤ periodEnd) && !ledger.hasActive (·.transaction) money.id)

/-- `open_amount` of `_with_open_amount` for an invoice. -/
def invoiceOpen (ledger : Ledger) (invoice : Invoice) : ℤ :=
  invoice.totalAmount - ledger.activeAmount (·.invoice) invoice.id

/-- `open_amount` of `_with_open_amount` for a transaction. -/
def transactionOpen (ledger : Ledger) (money : MoneyTransaction) : ℤ :=
  money.amount - ledger.activeAmount (·.transaction) money.id

/-- The rows that `create_settlement_batch` writes. -/
def insertSettlementBatch (ledger : Ledger) (row : SettlementBatch) (invoices : List Invoice)
    (transactions : List MoneyTransaction) (now : ℤ) : Ledger :=
  recordAudit
    { ledger with
      settlementBatches := ledger.settlementBatches ++ [row]
      batchInvoices := ledger.batchInvoices ++ invoices.map fun invoice => ⟨row.id, invoice.id⟩
      batchTransactions :=
        ledger.batchTransactions ++ transactions.map fun money => ⟨row.id, money.id⟩ }
    row.createdBy "settlement_batch.created" "SettlementBatch" row.id
    (.settlementBatchCreated invoices.length transactions.length) now

/-- `SettlementBatchInvoice.objects.filter(batch=batch)`, as invoice keys. -/
def batchInvoiceIds (ledger : Ledger) (batch : Uuid) : List Uuid :=
  (ledger.batchInvoices.filter fun item => decide (item.batch = batch)).map (·.invoice)

/-- `SettlementBatchTransaction.objects.filter(batch=batch)`, as transaction keys. -/
def batchTransactionIds (ledger : Ledger) (batch : Uuid) : List Uuid :=
  (ledger.batchTransactions.filter fun item => decide (item.batch = batch)).map (·.transaction)

/-- The settlement batch of the reconciliation of an allocation. -/
def allocationBatch (ledger : Ledger) (allocation : ReconciliationAllocation) : Option Uuid :=
  (ledger.reconciliation? allocation.reconciliation).bind (·.settlementBatch)

/-- An active allocation of another origin than the batch. -/
def isExternal (ledger : Ledger) (batch : Uuid) (allocation : ReconciliationAllocation) : Bool :=
  ledger.isActive allocation && decide (ledger.allocationBatch allocation ≠ some batch)

/-- The rows of the ledger after `batch.save(update_fields=["status", "version"])`. -/
def setConfirmed (ledger : Ledger) (batch : Uuid) : Ledger :=
  { ledger with
    settlementBatches := ledger.settlementBatches.map fun row =>
      if row.id = batch then { row with status := .confirmed, version := row.version + 1 }
      else row }

end Ledger

/-- `_directions_for` of the settlement module. -/
def settlementDirectionsFor (direction : Option ReconciliationDirection) :
    Except ServiceError (ReconciliationDirection × InvoiceDirection × MoneyDirection) :=
  match direction with
  | some .purchasePayment => .ok (.purchasePayment, .input, .outflow)
  | some .salesReceipt => .ok (.salesReceipt, .output, .inflow)
  | none => .error (.validation "结算批次方向不合法")

/-- The keyword arguments of `create_settlement_batch`. -/
structure SettlementRequest where
  actor : Actor
  counterpartyId : Uuid
  direction : Option ReconciliationDirection
  periodStart : ℤ
  periodEnd : ℤ

/-- `create_settlement_batch`. -/
def createSettlementBatch (zone : Zone) (request : SettlementRequest) (uuid : Uuid) (now : ℤ)
    (ledger : Ledger) : Except ServiceError Ledger := do
  requireFinanceActor request.actor "只有财务人员可以执行核销"
  require (request.periodStart ≤ request.periodEnd) (.validation "开始日期不能晚于结束日期")
  let (direction, invoiceDirection, moneyDirection) ← settlementDirectionsFor request.direction
  let counterparty ← present (ledger.counterparty? request.counterpartyId)
    (.validation "往来单位不存在")
  let invoices := (ledger.draftInvoices counterparty.id invoiceDirection request.periodStart
    request.periodEnd).filter fun invoice => decide (0 < ledger.invoiceOpen invoice)
  require (invoices ≠ []) (.validation "结算期间内没有可核销的发票")
  let transactions := (ledger.draftTransactions zone counterparty.id moneyDirection
    request.periodStart request.periodEnd).filter fun money =>
      decide (0 < ledger.transactionOpen money)
  require (transactions ≠ []) (.validation "结算期间内没有可核销的资金")
  require (∀ row ∈ ledger.settlementBatches, row.id ≠ uuid) .integrity
  return ledger.insertSettlementBatch
    ⟨uuid, counterparty.id, direction, request.periodStart, request.periodEnd, .draft, 1,
      request.actor.id⟩ invoices transactions now

/-- `invoice_open_amount`. -/
def invoiceOpenAmount (ledger : Ledger) (id : Uuid) : Except ServiceError ℤ := do
  let invoice ← present (ledger.invoice? id) (.doesNotExist "Invoice")
  return ledger.invoiceOpen invoice

/-- `transaction_open_amount`. -/
def transactionOpenAmount (ledger : Ledger) (id : Uuid) : Except ServiceError ℤ := do
  let money ← present (ledger.transaction? id) (.doesNotExist "MoneyTransaction")
  return ledger.transactionOpen money

/-- `_validate_batch_version`. -/
def validateBatchVersion (batch : SettlementBatch) (version : ℤ) : Except ServiceError Unit := do
  require (batch.status ≠ .confirmed) (.validation "结算批次不能重复确认")
  require (batch.status = .draft) (.validation "结算批次状态不允许确认")
  require (version = batch.version) (.validation "结算批次版本已过期")

/-- `_validate_batch_records` for one invoice. -/
def validateBatchInvoice (batch : SettlementBatch) (invoice : Invoice) :
    Except ServiceError Unit := do
  require (invoice.counterparty = batch.counterparty) (.validation "结算批次交易对方不匹配")
  require (invoice.direction = (directionsFor batch.direction).1)
    (.validation "结算批次方向不匹配")
  require (batch.periodStart ≤ invoice.issueDate.toDay ∧
    invoice.issueDate.toDay ≤ batch.periodEnd) (.validation "发票不在结算期间内")

/-- `_validate_batch_records` for one transaction; `occurred_at.date()` is the day in UTC. -/
def validateBatchTransaction (batch : SettlementBatch) (money : MoneyTransaction) :
    Except ServiceError Unit := do
  require (money.counterparty = some batch.counterparty) (.validation "结算批次交易对方不匹配")
  require (money.direction = (directionsFor batch.direction).2)
    (.validation "结算批次方向不匹配")
  require (batch.periodStart ≤ Zone.utc.localDay money.occurredAt ∧
    Zone.utc.localDay money.occurredAt ≤ batch.periodEnd) (.validation "资金不在结算期间内")

/-- `left + right` on the values of a request.  An int would be added, and then refused by
`create_reconciliation`. -/
def addAmounts : Amount → Amount → Except ServiceError Amount
  | .other, _ => .error .type
  | _, .other => .error .type
  | .nan, _ => .ok .nan
  | _, .nan => .ok .nan
  | .infinite left, .infinite right =>
      if left = right then .ok (.infinite left) else .error .decimalOperation
  | .infinite negative, .decimal _ => .ok (.infinite negative)
  | .decimal _, .infinite negative => .ok (.infinite negative)
  | .decimal left, .decimal right => .ok (.decimal (left + right))

/-- The total of the lines of one record, as `_validate_allocation_totals` adds them up. -/
def lineTotal (key : AllocationInput → Uuid) (allocations : List AllocationInput) (id : Uuid) :
    Except ServiceError Amount :=
  ((allocations.filter fun item => decide (key item = id)).map (·.amount)).foldlM addAmounts
    (.decimal (Decimal.ofCents 0))

/-- One side of `_validate_allocation_totals`. -/
def validateAllocationTotals (key : AllocationInput → Uuid) (allocations : List AllocationInput) :
    List (Uuid × ℤ) → Except ServiceError Unit
  | [] => .ok ()
  | (id, openAmount) :: rest => do
      let sum ← lineTotal key allocations id
      require (sum.Equals openAmount) (.validation "结算批次核销金额不一致")
      validateAllocationTotals key allocations rest

/-- The checks of `_validate_batch_allocations` before it locks the records. -/
def validateBatchLines (invoiceIds transactionIds : List Uuid)
    (allocations : List AllocationInput) : Except ServiceError Unit := do
  require ((allocations.map fun item => (item.invoiceId, item.transactionId)).Nodup)
    (.validation "结算批次核销明细不能重复")
  require (invoiceIds ≠ []) (.validation "结算批次缺少发票明细")
  require (transactionIds ≠ []) (.validation "结算批次缺少资金明细")
  require (allocations ≠ []) (.validation "结算批次核销明细不能为空")
  require (∀ item ∈ allocations, item.invoiceId ∈ invoiceIds) (.validation "发票不属于结算批次")
  require (∀ item ∈ allocations, item.transactionId ∈ transactionIds)
    (.validation "资金不属于结算批次")
  require ((∀ id ∈ invoiceIds, id ∈ allocations.map (·.invoiceId)) ∧
    ∀ id ∈ transactionIds, id ∈ allocations.map (·.transactionId))
    (.validation "结算批次明细不完整")

/-- The checks of `_validate_batch_allocations` on the open amounts it read. -/
def validateBatchOpenAmounts (allocations : List AllocationInput)
    (invoiceOpenAmounts transactionOpenAmounts : List (Uuid × ℤ)) : Except ServiceError Unit := do
  require (∀ entry ∈ invoiceOpenAmounts, 0 < entry.2) (.validation "结算批次包含无可核销金额的发票")
  require (∀ entry ∈ transactionOpenAmounts, 0 < entry.2)
    (.validation "结算批次包含无可核销金额的资金")
  validateAllocationTotals (·.invoiceId) allocations invoiceOpenAmounts
  validateAllocationTotals (·.transactionId) allocations transactionOpenAmounts

/-- `_validate_batch_allocations`. -/
def validateBatchAllocations (batch : SettlementBatch) (allocations : List AllocationInput)
    (ledger : Ledger) : Except ServiceError Unit := do
  let invoiceIds := ledger.batchInvoiceIds batch.id
  let transactionIds := ledger.batchTransactionIds batch.id
  validateBatchLines invoiceIds transactionIds allocations
  let _ ← collect (validateBatchInvoice batch)
    (ledger.invoices.filter fun invoice => decide (invoice.id ∈ invoiceIds))
  let _ ← collect (validateBatchTransaction batch)
    (ledger.transactions.filter fun money => decide (money.id ∈ transactionIds))
  require (∀ allocation ∈ ledger.allocations,
      ¬((allocation.invoice ∈ invoiceIds ∨ allocation.transaction ∈ transactionIds) ∧
        ledger.isExternal batch.id allocation = true))
    (.validation "结算批次明细已被其他核销占用")
  let invoiceOpenAmounts ← collect
    (fun id => (invoiceOpenAmount ledger id).map fun amount => (id, amount)) invoiceIds
  let transactionOpenAmounts ← collect
    (fun id => (transactionOpenAmount ledger id).map fun amount => (id, amount)) transactionIds
  validateBatchOpenAmounts allocations invoiceOpenAmounts transactionOpenAmounts

/-- The call of `create_reconciliation` inside `confirm_settlement_batch`. -/
def confirmationRequest (actor : Actor) (batch : SettlementBatch)
    (allocations : List AllocationInput) : ReconciliationRequest where
  actor := actor
  direction := some batch.direction
  allocations := allocations
  note := ""
  mode := some .batch
  settlementBatch := some batch.id
  expectedInvoiceOpenAmounts := none
  expectedTransactionOpenAmounts := none
  allowPartial := true

/-- `confirm_settlement_batch`, with the key and the time of the reconciliation it creates. -/
def confirmSettlementBatch (id : Uuid) (actor : Actor) (allocations : List AllocationInput)
    (version : ℤ) (uuid : Uuid) (now : ℤ) (ledger : Ledger) : Except ServiceError Ledger := do
  requireFinanceActor actor "只有财务人员可以执行核销"
  let batch ← present (ledger.settlementBatch? id) (.doesNotExist "SettlementBatch")
  validateBatchVersion batch version
  validateBatchAllocations batch allocations ledger
  let ledger ← createReconciliation (confirmationRequest actor batch allocations) uuid now ledger
  return ledger.setConfirmed batch.id

/-! ## What a successful call has checked -/

/-- What a successful `create_settlement_batch` has checked. -/
structure SettlementChecked (zone : Zone) (request : SettlementRequest) (uuid : Uuid)
    (ledger : Ledger) (direction : ReconciliationDirection) (invoices : List Invoice)
    (transactions : List MoneyTransaction) : Prop where
  finance : request.actor.IsFinance
  ordered : request.periodStart ≤ request.periodEnd
  directionGiven : request.direction = some direction
  counterparty : ∃ row, ledger.counterparty? request.counterpartyId = some row
  invoicesEq : invoices = (ledger.draftInvoices request.counterpartyId (directionsFor direction).1
    request.periodStart request.periodEnd).filter fun invoice =>
      decide (0 < ledger.invoiceOpen invoice)
  transactionsEq : transactions = (ledger.draftTransactions zone request.counterpartyId
    (directionsFor direction).2 request.periodStart request.periodEnd).filter fun money =>
      decide (0 < ledger.transactionOpen money)
  invoicesFound : invoices ≠ []
  transactionsFound : transactions ≠ []
  fresh : ∀ row ∈ ledger.settlementBatches, row.id ≠ uuid

/-- The row that `create_settlement_batch` inserts. -/
def settlementBatchRow (request : SettlementRequest) (uuid : Uuid)
    (direction : ReconciliationDirection) : SettlementBatch :=
  ⟨uuid, request.counterpartyId, direction, request.periodStart, request.periodEnd, .draft, 1,
    request.actor.id⟩

theorem settlementDirectionsFor_eq_ok {given : Option ReconciliationDirection}
    {direction : ReconciliationDirection} {invoiceDirection : InvoiceDirection}
    {moneyDirection : MoneyDirection} :
    settlementDirectionsFor given = .ok (direction, invoiceDirection, moneyDirection) ↔
      given = some direction ∧ (invoiceDirection, moneyDirection) = directionsFor direction := by
  cases given with
  | none => simp [settlementDirectionsFor]
  | some given =>
      cases given with
      | purchasePayment =>
          simp only [settlementDirectionsFor, Except.ok.injEq, Prod.mk.injEq, Option.some.injEq]
          constructor
          · rintro ⟨rfl, rfl, rfl⟩
            exact ⟨rfl, rfl⟩
          · rintro ⟨rfl, same⟩
            cases same
            exact ⟨rfl, rfl, rfl⟩
      | salesReceipt =>
          simp only [settlementDirectionsFor, Except.ok.injEq, Prod.mk.injEq, Option.some.injEq]
          constructor
          · rintro ⟨rfl, rfl, rfl⟩
            exact ⟨rfl, rfl⟩
          · rintro ⟨rfl, same⟩
            cases same
            exact ⟨rfl, rfl, rfl⟩

theorem counterparty?_id {ledger : Ledger} {id : Uuid} {row : Counterparty}
    (found : ledger.counterparty? id = some row) : row.id = id := by
  simpa [Ledger.counterparty?] using List.find?_some found

theorem createSettlementBatch_eq_ok {zone : Zone} {request : SettlementRequest} {uuid : Uuid}
    {now : ℤ} {ledger after : Ledger} :
    createSettlementBatch zone request uuid now ledger = .ok after ↔
      ∃ direction invoices transactions,
        SettlementChecked zone request uuid ledger direction invoices transactions ∧
          after = ledger.insertSettlementBatch (settlementBatchRow request uuid direction)
            invoices transactions now := by
  simp only [createSettlementBatch, bind_eq_ok, requireFinanceActor_eq_ok, require_eq_ok,
    present_eq_ok]
  constructor
  · rintro ⟨-, finance, -, ordered, ⟨direction, invoiceDirection, moneyDirection⟩, directions,
      counterparty, found, -, invoicesFound, -, transactionsFound, -, fresh, same⟩
    rw [settlementDirectionsFor_eq_ok] at directions
    rcases directions with ⟨given, directionsEq⟩
    have counterpartyId := counterparty?_id found
    cases same
    rw [counterpartyId] at invoicesFound transactionsFound
    have invoiceDirectionEq : invoiceDirection = (directionsFor direction).1 := by
      rw [← directionsEq]
    have moneyDirectionEq : moneyDirection = (directionsFor direction).2 := by
      rw [← directionsEq]
    subst invoiceDirectionEq moneyDirectionEq
    refine ⟨direction, _, _, ⟨finance, ordered, given, ⟨counterparty, found⟩, rfl, rfl,
      invoicesFound, transactionsFound, fresh⟩, ?_⟩
    rw [counterpartyId]
    rfl
  · rintro ⟨direction, invoices, transactions, checked, rfl⟩
    rcases checked with ⟨finance, ordered, given, ⟨counterparty, found⟩, rfl, rfl, invoicesFound,
      transactionsFound, fresh⟩
    have counterpartyId := counterparty?_id found
    refine ⟨(), finance, (), ordered, (direction, directionsFor direction),
      settlementDirectionsFor_eq_ok.mpr ⟨given, rfl⟩, counterparty, found, (), ?_, (), ?_, (),
      fresh, ?_⟩
    · rw [counterpartyId]
      exact invoicesFound
    · rw [counterpartyId]
      exact transactionsFound
    · rw [counterpartyId]
      rfl

theorem validateBatchVersion_eq_ok {batch : SettlementBatch} {version : ℤ} {result : Unit} :
    validateBatchVersion batch version = .ok result ↔
      batch.status = .draft ∧ version = batch.version := by
  simp only [validateBatchVersion, bind_eq_ok, require_eq_ok]
  constructor
  · rintro ⟨-, -, -, draft, current⟩
    exact ⟨draft, current⟩
  · rintro ⟨draft, current⟩
    exact ⟨(), by simp [draft], (), draft, current⟩

theorem invoiceOpenAmount_eq_ok {ledger : Ledger} {id : Uuid} {amount : ℤ} :
    invoiceOpenAmount ledger id = .ok amount ↔
      ∃ invoice, ledger.invoice? id = some invoice ∧ amount = ledger.invoiceOpen invoice := by
  simp only [invoiceOpenAmount, bind_eq_ok, present_eq_ok]
  constructor
  · rintro ⟨invoice, found, same⟩
    cases same
    exact ⟨invoice, found, rfl⟩
  · rintro ⟨invoice, found, rfl⟩
    exact ⟨invoice, found, rfl⟩

theorem transactionOpenAmount_eq_ok {ledger : Ledger} {id : Uuid} {amount : ℤ} :
    transactionOpenAmount ledger id = .ok amount ↔
      ∃ money, ledger.transaction? id = some money ∧ amount = ledger.transactionOpen money := by
  simp only [transactionOpenAmount, bind_eq_ok, present_eq_ok]
  constructor
  · rintro ⟨money, found, same⟩
    cases same
    exact ⟨money, found, rfl⟩
  · rintro ⟨money, found, rfl⟩
    exact ⟨money, found, rfl⟩

/-- What `_validate_batch_records` asks of an invoice. -/
def BatchInvoiceFits (batch : SettlementBatch) (invoice : Invoice) : Prop :=
  invoice.counterparty = batch.counterparty ∧
    invoice.direction = (directionsFor batch.direction).1 ∧
    batch.periodStart ≤ invoice.issueDate.toDay ∧ invoice.issueDate.toDay ≤ batch.periodEnd

/-- What `_validate_batch_records` asks of a transaction, the period apart. -/
def BatchTransactionFits (batch : SettlementBatch) (money : MoneyTransaction) : Prop :=
  money.counterparty = some batch.counterparty ∧
    money.direction = (directionsFor batch.direction).2

/-- The day of a transaction in UTC lies in the period of the batch. -/
def UtcDayWithin (batch : SettlementBatch) (money : MoneyTransaction) : Prop :=
  batch.periodStart ≤ Zone.utc.localDay money.occurredAt ∧
    Zone.utc.localDay money.occurredAt ≤ batch.periodEnd

instance (batch : SettlementBatch) (money : MoneyTransaction) :
    Decidable (UtcDayWithin batch money) :=
  inferInstanceAs (Decidable (_ ∧ _))

theorem validateBatchInvoice_eq_ok {batch : SettlementBatch} {invoice : Invoice} {result : Unit} :
    validateBatchInvoice batch invoice = .ok result ↔ BatchInvoiceFits batch invoice := by
  simp only [validateBatchInvoice, bind_eq_ok, require_eq_ok, exists_const, BatchInvoiceFits]

theorem validateBatchTransaction_eq_ok {batch : SettlementBatch} {money : MoneyTransaction}
    {result : Unit} :
    validateBatchTransaction batch money = .ok result ↔
      BatchTransactionFits batch money ∧ UtcDayWithin batch money := by
  simp only [validateBatchTransaction, bind_eq_ok, require_eq_ok, exists_const,
    BatchTransactionFits, UtcDayWithin, and_assoc]

theorem validateAllocationTotals_eq_ok {key : AllocationInput → Uuid}
    {allocations : List AllocationInput} {amounts : List (Uuid × ℤ)} {result : Unit} :
    validateAllocationTotals key allocations amounts = .ok result ↔
      ∀ entry ∈ amounts, ∃ sum, lineTotal key allocations entry.1 = .ok sum ∧
        sum.Equals entry.2 := by
  induction amounts with
  | nil => simp [validateAllocationTotals]
  | cons entry rest ih =>
      simp only [validateAllocationTotals, bind_eq_ok, require_eq_ok, ih, exists_const,
        List.mem_cons, forall_eq_or_imp]
      constructor
      · rintro ⟨sum, totalEq, equals, tail⟩
        exact ⟨⟨sum, totalEq, equals⟩, tail⟩
      · rintro ⟨⟨sum, totalEq, equals⟩, tail⟩
        exact ⟨sum, totalEq, equals, tail⟩

/-- The lines of a record use up its open amount, which is positive. -/
def Settles (key : AllocationInput → Uuid) (allocations : List AllocationInput) (id : Uuid)
    (openAmount : ℤ) : Prop :=
  0 < openAmount ∧ ∃ sum, lineTotal key allocations id = .ok sum ∧ sum.Equals openAmount

/-- What `_validate_batch_allocations` establishes. -/
structure BatchChecked (batch : SettlementBatch) (allocations : List AllocationInput)
    (ledger : Ledger) : Prop where
  distinct : (allocations.map fun item => (item.invoiceId, item.transactionId)).Nodup
  invoicesNonempty : ledger.batchInvoiceIds batch.id ≠ []
  transactionsNonempty : ledger.batchTransactionIds batch.id ≠ []
  nonempty : allocations ≠ []
  invoicesWithin : ∀ item ∈ allocations, item.invoiceId ∈ ledger.batchInvoiceIds batch.id
  transactionsWithin :
    ∀ item ∈ allocations, item.transactionId ∈ ledger.batchTransactionIds batch.id
  invoicesCovered :
    ∀ id ∈ ledger.batchInvoiceIds batch.id, id ∈ allocations.map (·.invoiceId)
  transactionsCovered :
    ∀ id ∈ ledger.batchTransactionIds batch.id, id ∈ allocations.map (·.transactionId)
  invoicesFit : ∀ invoice ∈ ledger.invoices, invoice.id ∈ ledger.batchInvoiceIds batch.id →
    BatchInvoiceFits batch invoice
  transactionsFit : ∀ money ∈ ledger.transactions,
    money.id ∈ ledger.batchTransactionIds batch.id →
      BatchTransactionFits batch money ∧ UtcDayWithin batch money
  unoccupied : ∀ allocation ∈ ledger.allocations,
    ¬((allocation.invoice ∈ ledger.batchInvoiceIds batch.id ∨
      allocation.transaction ∈ ledger.batchTransactionIds batch.id) ∧
      ledger.isExternal batch.id allocation = true)
  invoicesSettled : ∀ id ∈ ledger.batchInvoiceIds batch.id,
    ∃ invoice, ledger.invoice? id = some invoice ∧
      Settles (·.invoiceId) allocations id (ledger.invoiceOpen invoice)
  transactionsSettled : ∀ id ∈ ledger.batchTransactionIds batch.id,
    ∃ money, ledger.transaction? id = some money ∧
      Settles (·.transactionId) allocations id (ledger.transactionOpen money)

/-- Reading one amount for each key succeeds when every key has one that passes the checks. -/
theorem exists_amounts_iff {read : Uuid → Except ServiceError ℤ} (holds : Uuid → ℤ → Prop)
    {ids : List Uuid} :
    (∃ amounts, collect (fun id => (read id).map fun amount => (id, amount)) ids = .ok amounts ∧
        ∀ entry ∈ amounts, holds entry.1 entry.2) ↔
      ∀ id ∈ ids, ∃ amount, read id = .ok amount ∧ holds id amount := by
  simp only [collect_eq_ok]
  constructor
  · rintro ⟨amounts, each, checked⟩ id member
    induction each with
    | nil => simp at member
    | @cons first entry rest amounts head tail ih =>
        rcases List.mem_cons.mp member with rfl | later
        · cases value : read id with
          | error error => simp [value, Except.map] at head
          | ok amount =>
              simp only [value, Except.map, Except.ok.injEq] at head
              subst head
              exact ⟨amount, rfl, checked _ (List.mem_cons_self ..)⟩
        · exact ih (fun other otherMem => checked other (List.mem_cons_of_mem _ otherMem)) later
  · intro each
    induction ids with
    | nil => exact ⟨[], .nil, by simp⟩
    | cons id rest ih =>
        rcases each id (List.mem_cons_self ..) with ⟨amount, found, holdsHead⟩
        rcases ih fun other member => each other (List.mem_cons_of_mem _ member) with
          ⟨amounts, tail, holdsTail⟩
        refine ⟨(id, amount) :: amounts, .cons (by simp [found, Except.map]) tail, ?_⟩
        intro entry member
        rcases List.mem_cons.mp member with rfl | later
        · exact holdsHead
        · exact holdsTail entry later

theorem validateBatchAllocations_eq_ok {batch : SettlementBatch}
    {allocations : List AllocationInput} {ledger : Ledger} {result : Unit} :
    validateBatchAllocations batch allocations ledger = .ok result ↔
      BatchChecked batch allocations ledger := by
  simp only [validateBatchAllocations, validateBatchLines, validateBatchOpenAmounts, bind_eq_ok,
    require_eq_ok, validateAllocationTotals_eq_ok]
  constructor
  · rintro ⟨⟨⟩, ⟨-, distinct, -, invoicesNonempty, -, transactionsNonempty, -, nonempty, -,
      invoicesWithin, -, transactionsWithin, covered⟩, fitted, invoicesFit, fitted',
      transactionsFit, -, unoccupied, invoiceAmounts, invoiceRead, moneyAmounts, moneyRead, -,
      invoicesPositive, -, transactionsPositive, -, invoiceTotals, transactionTotals⟩
    have invoicesSettled := (exists_amounts_iff (Settles (·.invoiceId) allocations)).mp
      ⟨invoiceAmounts, invoiceRead,
        fun entry member => ⟨invoicesPositive entry member, invoiceTotals entry member⟩⟩
    have transactionsSettled := (exists_amounts_iff (Settles (·.transactionId) allocations)).mp
      ⟨moneyAmounts, moneyRead,
        fun entry member => ⟨transactionsPositive entry member, transactionTotals entry member⟩⟩
    have eachInvoice := exists_collect_eq_ok.mp ⟨fitted, invoicesFit⟩
    have eachTransaction := exists_collect_eq_ok.mp ⟨fitted', transactionsFit⟩
    refine ⟨distinct, invoicesNonempty, transactionsNonempty, nonempty, invoicesWithin,
      transactionsWithin, covered.1, covered.2, ?_, ?_, unoccupied, ?_, ?_⟩
    · intro invoice member within
      rcases eachInvoice invoice (List.mem_filter.mpr ⟨member, decide_eq_true within⟩) with
        ⟨done, valid⟩
      exact validateBatchInvoice_eq_ok.mp valid
    · intro money member within
      rcases eachTransaction money (List.mem_filter.mpr ⟨member, decide_eq_true within⟩) with
        ⟨done, valid⟩
      exact validateBatchTransaction_eq_ok.mp valid
    · intro id member
      rcases invoicesSettled id member with ⟨amount, read, settled⟩
      rcases invoiceOpenAmount_eq_ok.mp read with ⟨invoice, found, rfl⟩
      exact ⟨invoice, found, settled⟩
    · intro id member
      rcases transactionsSettled id member with ⟨amount, read, settled⟩
      rcases transactionOpenAmount_eq_ok.mp read with ⟨money, found, rfl⟩
      exact ⟨money, found, settled⟩
  · intro checked
    rcases exists_collect_eq_ok.mpr (fun invoice member =>
      ⟨(), validateBatchInvoice_eq_ok.mpr (checked.invoicesFit invoice
        (List.mem_filter.mp member).1 (of_decide_eq_true (List.mem_filter.mp member).2))⟩) with
      ⟨fitted, invoicesFit⟩
    rcases exists_collect_eq_ok.mpr (fun money member =>
      ⟨(), validateBatchTransaction_eq_ok.mpr (checked.transactionsFit money
        (List.mem_filter.mp member).1 (of_decide_eq_true (List.mem_filter.mp member).2))⟩) with
      ⟨fitted', transactionsFit⟩
    rcases (exists_amounts_iff (Settles (·.invoiceId) allocations)).mpr (fun id member => by
      rcases checked.invoicesSettled id member with ⟨invoice, found, settled⟩
      exact ⟨_, invoiceOpenAmount_eq_ok.mpr ⟨invoice, found, rfl⟩, settled⟩) with
      ⟨invoiceAmounts, invoiceRead, invoiceChecked⟩
    rcases (exists_amounts_iff (Settles (·.transactionId) allocations)).mpr (fun id member => by
      rcases checked.transactionsSettled id member with ⟨money, found, settled⟩
      exact ⟨_, transactionOpenAmount_eq_ok.mpr ⟨money, found, rfl⟩, settled⟩) with
      ⟨moneyAmounts, moneyRead, moneyChecked⟩
    exact ⟨(), ⟨(), checked.distinct, (), checked.invoicesNonempty, (),
      checked.transactionsNonempty, (), checked.nonempty, (), checked.invoicesWithin, (),
      checked.transactionsWithin, checked.invoicesCovered, checked.transactionsCovered⟩, fitted,
      invoicesFit, fitted', transactionsFit, (), checked.unoccupied, invoiceAmounts, invoiceRead,
      moneyAmounts, moneyRead, (), fun entry member => (invoiceChecked entry member).1, (),
      fun entry member => (moneyChecked entry member).1, (),
      fun entry member => (invoiceChecked entry member).2,
      fun entry member => (moneyChecked entry member).2⟩

theorem confirmSettlementBatch_eq_ok {id : Uuid} {actor : Actor}
    {allocations : List AllocationInput} {version : ℤ} {uuid : Uuid} {now : ℤ}
    {ledger after : Ledger} :
    confirmSettlementBatch id actor allocations version uuid now ledger = .ok after ↔
      actor.IsFinance ∧ ∃ batch, ledger.settlementBatch? id = some batch ∧
        (batch.status = .draft ∧ version = batch.version) ∧
        BatchChecked batch allocations ledger ∧
        ∃ created, createReconciliation (confirmationRequest actor batch allocations) uuid now
            ledger = .ok created ∧ after = created.setConfirmed batch.id := by
  simp only [confirmSettlementBatch, bind_eq_ok, requireFinanceActor_eq_ok, present_eq_ok,
    validateBatchVersion_eq_ok, validateBatchAllocations_eq_ok]
  constructor
  · rintro ⟨-, finance, batch, found, -, draft, -, validated, created, createdEq, same⟩
    cases same
    exact ⟨finance, batch, found, draft, validated, created, createdEq, rfl⟩
  · rintro ⟨finance, batch, found, draft, validated, created, createdEq, rfl⟩
    exact ⟨(), finance, batch, found, (), draft, (), validated, created, createdEq, rfl⟩

end Finrec
