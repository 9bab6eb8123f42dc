import Finrec.Ledger.Models
import Finrec.Lib.Checks

/-!
# Creating and reversing reconciliations

`createReconciliation` and `reverseReconciliation` are the two services that
write reconciliations.  Each is a function from a ledger to a new ledger or to
an error; an error is a rolled back transaction and leaves the ledger as it
was.  The row locks that the services take belong to the concurrent model; run
alone, they do not change what is read.

Amounts of a request are arbitrary values.  Once a line has passed its checks
its amount is an exact number of hundredths, and all sums are sums of
hundredths.  The `decimal` module would round a sum beyond 28 digits; such a
sum exceeds every open amount, so both decide alike.
-/

namespace Finrec

open Checks Totals

/-- A value given where the services expect a `Decimal`. -/
inductive Amount where
  | decimal (number : Decimal)
  | infinite (negative : Bool)
  | nan
  | other
deriving DecidableEq, Repr

/-- A value of an expected map.  An int or a float is no `Decimal`, and is compared with one by its
number. -/
inductive ExpectedAmount where
  | amount (value : Amount)
  | number (value : ℚ)
deriving DecidableEq, Repr

structure AllocationInput where
  invoiceId : Uuid
  transactionId : Uuid
  amount : Amount
deriving DecidableEq, Repr

/-- The keyword arguments of `create_reconciliation`; a value outside a choice is `none`. -/
structure ReconciliationRequest where
  actor : Actor
  direction : Option ReconciliationDirection
  allocations : List AllocationInput
  note : String
  mode : Option ReconciliationMode
  settlementBatch : Option Uuid
  expectedInvoiceOpenAmounts : Option (List (Uuid × ExpectedAmount))
  expectedTransactionOpenAmounts : Option (List (Uuid × ExpectedAmount))
  allowPartial : Bool

/-- A line of a request that passed its checks, with the rows it names. -/
structure AllocationLine where
  invoice : Invoice
  transaction : MoneyTransaction
  amount : ℤ

/-- Thousands separators, on the reversed digits. -/
def groupThousands : List Char → List Char
  | a :: b :: c :: d :: rest => a :: b :: c :: ',' :: groupThousands (d :: rest)
  | rest => rest

/-- `f"{amount:,.2f}"`. -/
def moneyText (cents : ℤ) : String :=
  let whole := Digits.natural (cents.natAbs / 100)
  String.ofList ((if cents < 0 then ['-'] else []) ++
    (groupThousands whole.reverse).reverse ++ '.' :: Digits.padded 2 (cents.natAbs % 100))

/-- The checks of a line on its amount alone, with the hundredths they leave. -/
def checkedAmount : Amount → Except ServiceError ℤ
  | .other => .error (.validation "核销金额必须使用 Decimal")
  | .nan => .error .decimalOperation
  | .infinite true => .error (.validation "核销金额必须大于零")
  | .infinite false => .error .decimalOperation
  | .decimal number =>
      if number.coefficient ≤ 0 then .error (.validation "核销金额必须大于零")
      else if 10 ^ 28 ≤ number.roundedCents then .error .decimalOperation
      else if number.IsCents number.roundedCents then .ok number.roundedCents
      else .error (.validation "核销金额最多保留两位小数")

/-- `_directions_for`. -/
def directionsFor : ReconciliationDirection → InvoiceDirection × MoneyDirection
  | .purchasePayment => (.input, .outflow)
  | .salesReceipt => (.output, .inflow)

/-- The body of the first loop of `_validate_allocations`. -/
def validateLine (direction : ReconciliationDirection) (invoices : List Invoice)
    (transactions : List MoneyTransaction) (item : AllocationInput) :
    Except ServiceError AllocationLine := do
  let amount ← checkedAmount item.amount
  let invoice ← present (invoices.find? fun invoice => decide (invoice.id = item.invoiceId))
    (.validation "发票不存在")
  let money ← present (transactions.find? fun money => decide (money.id = item.transactionId))
    (.validation "资金不存在")
  require (invoice.status ≠ .void ∧ invoice.status ≠ .red) (.validation "作废或红冲发票不能核销")
  require (invoice.direction = (directionsFor direction).1 ∧
    money.direction = (directionsFor direction).2) (.validation "核销方向与发票或资金方向不匹配")
  require (money.counterparty = some invoice.counterparty) (.validation "发票和资金交易对方不一致")
  return ⟨invoice, money, amount⟩

/-- The amount of a request on one invoice, over all its lines. -/
def requestedInvoiceAmount (lines : List AllocationLine) (id : Uuid) : ℤ :=
  total (fun line => decide (line.invoice.id = id)) (·.amount) lines

/-- The amount of a request on one transaction, over all its lines. -/
def requestedTransactionAmount (lines : List AllocationLine) (id : Uuid) : ℤ :=
  total (fun line => decide (line.transaction.id = id)) (·.amount) lines

/-- The value of a request equals a number of hundredths. -/
def Amount.Equals : Amount → ℤ → Prop
  | .decimal number, cents => number.IsCents cents
  | _, _ => False

instance (amount : Amount) (cents : ℤ) : Decidable (amount.Equals cents) :=
  match amount with
  | .decimal number => inferInstanceAs (Decidable (number.IsCents cents))
  | .infinite _ => inferInstanceAs (Decidable False)
  | .nan => inferInstanceAs (Decidable False)
  | .other => inferInstanceAs (Decidable False)

/-- The expected value equals a number of hundredths. -/
def ExpectedAmount.Equals : ExpectedAmount → ℤ → Prop
  | .amount value, cents => value.Equals cents
  | .number value, cents => value * 100 = cents

instance (expected : ExpectedAmount) (cents : ℤ) : Decidable (expected.Equals cents) :=
  match expected with
  | .amount value => inferInstanceAs (Decidable (value.Equals cents))
  | .number value => inferInstanceAs (Decidable (value * 100 = (cents : ℚ)))

/-- An expected map has the keys and the values of the current open amounts. -/
def ExpectedMatches (expected : List (Uuid × ExpectedAmount)) (current : List (Uuid × ℤ)) : Prop :=
  (∀ entry ∈ expected, entry.1 ∈ current.map (·.1)) ∧
    ∀ entry ∈ current, ∃ amount ∈ expected.lookup entry.1, amount.Equals entry.2

instance (expected : List (Uuid × ExpectedAmount)) (current : List (Uuid × ℤ)) :
    Decidable (ExpectedMatches expected current) :=
  inferInstanceAs (Decidable (_ ∧ _))

/-- `_validate_expected_open_amounts`. -/
def validateExpectedOpenAmounts (expected : Option (List (Uuid × ExpectedAmount)))
    (current : List (Uuid × ℤ)) : Except ServiceError Unit :=
  match expected with
  | none => .ok ()
  | some expected =>
      require (ExpectedMatches expected current) (.validation "页面数据已过期，请刷新后重试")

/-- The invoices that the lines touch, in the order of their first line. -/
def touchedInvoices (lines : List AllocationLine) : List Invoice :=
  (lines.map (·.invoice)).eraseDups

/-- The transactions that the lines touch, in the order of their first line. -/
def touchedTransactions (lines : List AllocationLine) : List MoneyTransaction :=
  (lines.map (·.transaction)).eraseDups

/--
`_validate_allocations`.  The two functions give the amounts already allocated
to an invoice and to a transaction, which the source reads in between.
-/
def validateAllocations (request : ReconciliationRequest) (direction : ReconciliationDirection)
    (invoices : List Invoice) (transactions : List MoneyTransaction)
    (invoiceAllocated transactionAllocated : Uuid → ℤ) :
    Except ServiceError (List AllocationLine) := do
  let lines ← collect (validateLine direction invoices transactions) request.allocations
  let invoiceOpen (invoice : Invoice) := invoice.totalAmount - invoiceAllocated invoice.id
  let transactionOpen (money : MoneyTransaction) := money.amount - transactionAllocated money.id
  validateExpectedOpenAmounts request.expectedInvoiceOpenAmounts
    ((touchedInvoices lines).map fun invoice => (invoice.id, invoiceOpen invoice))
  validateExpectedOpenAmounts request.expectedTransactionOpenAmounts
    ((touchedTransactions lines).map fun money => (money.id, transactionOpen money))
  requireAll
    (fun invoice => request.allowPartial = true ∨
      invoiceOpen invoice - requestedInvoiceAmount lines invoice.id ≤ 0)
    (fun invoice => .validation ("本次核销后仍剩余 " ++
      moneyText (invoiceOpen invoice - requestedInvoiceAmount lines invoice.id) ++
      " 元，请明确确认部分核销。"))
    (touchedInvoices lines)
  requireAll (fun money => requestedTransactionAmount lines money.id ≤ transactionOpen money)
    (fun _ => .validation "资金可核销金额不足") (touchedTransactions lines)
  requireAll (fun invoice => requestedInvoiceAmount lines invoice.id ≤ invoiceOpen invoice)
    (fun _ => .validation "发票可核销金额不足") (touchedInvoices lines)
  return lines

/-- The checks of `create_reconciliation` on its arguments alone. -/
def checkRequest (request : ReconciliationRequest) :
    Except ServiceError (ReconciliationDirection × ReconciliationMode) := do
  requireFinanceActor request.actor "只有财务人员可以执行核销"
  require (request.allocations ≠ []) (.validation "核销明细不能为空")
  let direction ← present request.direction (.validation "核销方向不合法")
  let mode ← present request.mode (.validation "核销方式不合法")
  require (¬(request.settlementBatch.isSome = true ∧ mode ≠ .batch))
    (.validation "结算批次只能用于批次核销")
  require (¬(request.settlementBatch = none ∧ mode = .batch))
    (.validation "批次核销必须关联结算批次")
  return (direction, mode)

namespace Ledger

/-- The allocation row of a line. -/
def allocationRow (uuid : Uuid) (line : AllocationLine) : ReconciliationAllocation :=
  ⟨uuid, line.invoice.id, line.transaction.id, line.amount⟩

/-- The rows that `create_reconciliation` writes. -/
def insertReconciliation (ledger : Ledger) (row : Reconciliation) (lines : List AllocationLine) :
    Ledger :=
  recordAudit
    { ledger with
      reconciliations := ledger.reconciliations ++ [row]
      allocations := ledger.allocations ++ lines.map (allocationRow row.id) }
    row.createdBy "reconciliation.created" "Reconciliation" row.id
    (.reconciliationCreated lines.length) row.createdAt

/-- The rows that `reverse_reconciliation` writes. -/
def insertReversal (ledger : Ledger) (row : ReconciliationReversal) : Ledger :=
  recordAudit { ledger with reversals := ledger.reversals ++ [row] }
    row.reversedBy "reconciliation.reversed" "Reconciliation" row.original
    (.reconciliationReversed row.reason) row.createdAt

/-- The key of a new reconciliation is unused and its settlement batch exists. -/
def CanInsertReconciliation (ledger : Ledger) (uuid : Uuid) (batch : Option Uuid) : Prop :=
  (∀ row ∈ ledger.reconciliations, row.id ≠ uuid) ∧
    ∀ id ∈ batch, ∃ row ∈ ledger.settlementBatches, row.id = id

instance (ledger : Ledger) (uuid : Uuid) (batch : Option Uuid) :
    Decidable (ledger.CanInsertReconciliation uuid batch) :=
  inferInstanceAs (Decidable (_ ∧ _))

/-- `Invoice.objects.filter(id__in=invoice_ids)` for the invoices of a request. -/
def requestInvoices (ledger : Ledger) (allocations : List AllocationInput) : List Invoice :=
  ledger.invoices.filter fun invoice => decide (invoice.id ∈ allocations.map (·.invoiceId))

/-- `MoneyTransaction.objects.filter(id__in=transaction_ids)` for those of a request. -/
def requestTransactions (ledger : Ledger) (allocations : List AllocationInput) :
    List MoneyTransaction :=
  ledger.transactions.filter fun money => decide (money.id ∈ allocations.map (·.transactionId))

end Ledger

/-- `create_reconciliation`, with the key and the time that the new row gets. -/
def createReconciliation (request : ReconciliationRequest) (uuid : Uuid) (now : ℤ)
    (ledger : Ledger) : Except ServiceError Ledger := do
  let (direction, mode) ← checkRequest request
  let lines ← validateAllocations request direction
    (ledger.requestInvoices request.allocations) (ledger.requestTransactions request.allocations)
    (ledger.activeAmount (·.invoice)) (ledger.activeAmount (·.transaction))
  require (ledger.CanInsertReconciliation uuid request.settlementBatch) .integrity
  return ledger.insertReconciliation
    ⟨uuid, direction, mode, request.actor.id, request.settlementBatch, request.note, now⟩ lines

/-- White space as `str.strip` and `str.split` see it. -/
def isPythonSpace (character : Char) : Bool :=
  let code := character.toNat
  decide ((9 ≤ code ∧ code ≤ 13) ∨ (28 ≤ code ∧ code ≤ 32) ∨ code = 0x85 ∨ code = 0xA0 ∨
    code = 0x1680 ∨ (0x2000 ≤ code ∧ code ≤ 0x200A) ∨ code = 0x2028 ∨ code = 0x2029 ∨
    code = 0x202F ∨ code = 0x205F ∨ code = 0x3000)

/-- `str.strip`. -/
def strip (text : String) : String :=
  String.ofList
    (((text.toList.dropWhile isPythonSpace).reverse.dropWhile isPythonSpace).reverse)

/-- `reverse_reconciliation`; a reason that is not a text is `none`. -/
def reverseReconciliation (actor : Actor) (id : Uuid) (reason : Option String) (now : ℤ)
    (ledger : Ledger) : Except ServiceError Ledger := do
  requireFinanceActor actor "只有财务人员可以执行核销"
  let reason ← present (reason.filter fun text => decide (strip text ≠ ""))
    (.validation "撤销原因不能为空")
  let original ← present (ledger.reconciliation? id) (.doesNotExist "Reconciliation")
  require (ledger.isReversed original.id = false) (.validation "该核销已经撤销")
  return ledger.insertReversal ⟨original.id, actor.id, strip reason, now⟩

/-! ## What a successful call has checked -/

theorem checkedAmount_eq_ok {amount : Amount} {cents : ℤ} :
    checkedAmount amount = .ok cents ↔
      ∃ number, amount = .decimal number ∧ 0 < number.coefficient ∧ number.IsCents cents ∧
        cents < 10 ^ 28 := by
  cases amount with
  | other => simp [checkedAmount]
  | nan => simp [checkedAmount]
  | infinite negative => cases negative <;> simp [checkedAmount]
  | decimal number =>
      simp only [checkedAmount, Amount.decimal.injEq, exists_eq_left']
      split_ifs with nonpositive large exactly
      · simp only [false_iff]
        rintro ⟨positive, -⟩
        omega
      · simp only [false_iff]
        rintro ⟨-, isCents, small⟩
        rw [Decimal.roundedCents_eq isCents] at large
        omega
      · constructor
        · intro same
          cases same
          exact ⟨by omega, exactly, by omega⟩
        · rintro ⟨-, isCents, -⟩
          rw [Decimal.roundedCents_eq isCents]
      · simp only [false_iff]
        rintro ⟨-, isCents, -⟩
        rw [Decimal.roundedCents_eq isCents] at exactly
        exact exactly isCents

/-- A positive decimal is a positive number of hundredths. -/
theorem cents_pos {number : Decimal} {cents : ℤ} (positive : 0 < number.coefficient)
    (isCents : number.IsCents cents) : 0 < cents := by
  simp only [Decimal.IsCents] at isCents
  have scale : (0 : ℤ) < 10 ^ number.places := by positivity
  have product : 0 < cents * 10 ^ number.places := by omega
  exact (mul_pos_iff_of_pos_right scale).mp product

/-- What the first loop of `_validate_allocations` establishes for an item and its line. -/
structure LineChecked (direction : ReconciliationDirection) (invoices : List Invoice)
    (transactions : List MoneyTransaction) (item : AllocationInput) (line : AllocationLine) :
    Prop where
  amount : ∃ number, item.amount = .decimal number ∧ 0 < number.coefficient ∧
    number.IsCents line.amount ∧ line.amount < 10 ^ 28
  invoiceFound : invoices.find? (fun invoice => decide (invoice.id = item.invoiceId)) =
    some line.invoice
  transactionFound : transactions.find? (fun money => decide (money.id = item.transactionId)) =
    some line.transaction
  notVoid : line.invoice.status ≠ .void ∧ line.invoice.status ≠ .red
  directions : line.invoice.direction = (directionsFor direction).1 ∧
    line.transaction.direction = (directionsFor direction).2
  counterparty : line.transaction.counterparty = some line.invoice.counterparty

theorem validateLine_eq_ok {direction : ReconciliationDirection} {invoices : List Invoice}
    {transactions : List MoneyTransaction} {item : AllocationInput} {line : AllocationLine} :
    validateLine direction invoices transactions item = .ok line ↔
      LineChecked direction invoices transactions item line := by
  simp only [validateLine, bind_eq_ok, present_eq_ok, require_eq_ok, checkedAmount_eq_ok]
  constructor
  · rintro ⟨amount, positive, invoice, invoiceFound, money, moneyFound, -, notVoid, -, directions,
      -, counterparty, same⟩
    cases same
    exact ⟨positive, invoiceFound, moneyFound, notVoid, directions, counterparty⟩
  · rintro ⟨positive, invoiceFound, moneyFound, notVoid, directions, counterparty⟩
    exact ⟨line.amount, positive, line.invoice, invoiceFound, line.transaction, moneyFound, (),
      notVoid, (), directions, (), counterparty, rfl⟩

namespace LineChecked

variable {direction : ReconciliationDirection} {invoices : List Invoice}
  {transactions : List MoneyTransaction} {item : AllocationInput} {line : AllocationLine}

theorem amount_pos (checked : LineChecked direction invoices transactions item line) :
    0 < line.amount := by
  rcases checked.amount with ⟨number, -, positive, isCents, -⟩
  exact cents_pos positive isCents

theorem invoice_mem (checked : LineChecked direction invoices transactions item line) :
    line.invoice ∈ invoices ∧ line.invoice.id = item.invoiceId :=
  ⟨List.mem_of_find?_eq_some checked.invoiceFound,
    by simpa using List.find?_some checked.invoiceFound⟩

theorem transaction_mem (checked : LineChecked direction invoices transactions item line) :
    line.transaction ∈ transactions ∧ line.transaction.id = item.transactionId :=
  ⟨List.mem_of_find?_eq_some checked.transactionFound,
    by simpa using List.find?_some checked.transactionFound⟩

end LineChecked

/-- What `_validate_allocations` establishes. -/
structure AllocationsChecked (request : ReconciliationRequest)
    (direction : ReconciliationDirection) (invoices : List Invoice)
    (transactions : List MoneyTransaction) (invoiceAllocated transactionAllocated : Uuid → ℤ)
    (lines : List AllocationLine) : Prop where
  each : List.Forall₂ (LineChecked direction invoices transactions) request.allocations lines
  expectedInvoices : ∀ expected ∈ request.expectedInvoiceOpenAmounts,
    ExpectedMatches expected ((touchedInvoices lines).map fun invoice =>
      (invoice.id, invoice.totalAmount - invoiceAllocated invoice.id))
  expectedTransactions : ∀ expected ∈ request.expectedTransactionOpenAmounts,
    ExpectedMatches expected ((touchedTransactions lines).map fun money =>
      (money.id, money.amount - transactionAllocated money.id))
  wholeUnlessPartial : ∀ invoice ∈ touchedInvoices lines, request.allowPartial = true ∨
    invoice.totalAmount - invoiceAllocated invoice.id -
      requestedInvoiceAmount lines invoice.id ≤ 0
  transactionsOpen : ∀ money ∈ touchedTransactions lines,
    requestedTransactionAmount lines money.id ≤ money.amount - transactionAllocated money.id
  invoicesOpen : ∀ invoice ∈ touchedInvoices lines,
    requestedInvoiceAmount lines invoice.id ≤
      invoice.totalAmount - invoiceAllocated invoice.id

theorem validateExpectedOpenAmounts_eq_ok {expected : Option (List (Uuid × ExpectedAmount))}
    {current : List (Uuid × ℤ)} {result : Unit} :
    validateExpectedOpenAmounts expected current = .ok result ↔
      ∀ amounts ∈ expected, ExpectedMatches amounts current := by
  cases expected with
  | none => simp [validateExpectedOpenAmounts]
  | some amounts => simp [validateExpectedOpenAmounts]

theorem validateAllocations_eq_ok {request : ReconciliationRequest}
    {direction : ReconciliationDirection} {invoices : List Invoice}
    {transactions : List MoneyTransaction} {invoiceAllocated transactionAllocated : Uuid → ℤ}
    {lines : List AllocationLine} :
    validateAllocations request direction invoices transactions invoiceAllocated
        transactionAllocated = .ok lines ↔
      AllocationsChecked request direction invoices transactions invoiceAllocated
        transactionAllocated lines := by
  simp only [validateAllocations, bind_eq_ok, collect_eq_ok, validateLine_eq_ok,
    validateExpectedOpenAmounts_eq_ok, requireAll_eq_ok]
  constructor
  · rintro ⟨found, each, -, expectedInvoices, -, expectedTransactions, -, whole, -,
      transactionsOpen, -, invoicesOpen, same⟩
    cases same
    exact ⟨each, expectedInvoices, expectedTransactions, whole, transactionsOpen, invoicesOpen⟩
  · rintro ⟨each, expectedInvoices, expectedTransactions, whole, transactionsOpen, invoicesOpen⟩
    exact ⟨lines, each, (), expectedInvoices, (), expectedTransactions, (), whole, (),
      transactionsOpen, (), invoicesOpen, rfl⟩

theorem checkRequest_eq_ok {request : ReconciliationRequest}
    {direction : ReconciliationDirection} {mode : ReconciliationMode} :
    checkRequest request = .ok (direction, mode) ↔
      request.actor.IsFinance ∧ request.allocations ≠ [] ∧ request.direction = some direction ∧
        request.mode = some mode ∧ (request.settlementBatch.isSome = true ↔ mode = .batch) := by
  simp only [checkRequest, bind_eq_ok, requireFinanceActor_eq_ok, require_eq_ok, present_eq_ok]
  constructor
  · rintro ⟨-, finance, -, nonempty, found, directionEq, foundMode, modeEq, -, batchOnly, -,
      batchNeeded, same⟩
    cases same
    refine ⟨finance, nonempty, directionEq, modeEq, fun isSome => ?_, fun isBatch => ?_⟩
    · by_contra notBatch
      exact batchOnly ⟨isSome, notBatch⟩
    · by_contra missing
      exact batchNeeded ⟨by simpa using missing, isBatch⟩
  · rintro ⟨finance, nonempty, directionEq, modeEq, linked⟩
    refine ⟨(), finance, (), nonempty, direction, directionEq, mode, modeEq, (), ?_, (), ?_, rfl⟩
    · rintro ⟨isSome, notBatch⟩
      exact notBatch (linked.mp isSome)
    · rintro ⟨missing, isBatch⟩
      have isSome := linked.mpr isBatch
      simp [missing] at isSome

/-- What a successful `create_reconciliation` has checked of its arguments and of the ledger. -/
structure ReconciliationChecked (request : ReconciliationRequest) (uuid : Uuid) (ledger : Ledger)
    (direction : ReconciliationDirection) (mode : ReconciliationMode)
    (lines : List AllocationLine) : Prop where
  finance : request.actor.IsFinance
  nonempty : request.allocations ≠ []
  directionGiven : request.direction = some direction
  modeGiven : request.mode = some mode
  linked : request.settlementBatch.isSome = true ↔ mode = .batch
  allocations : AllocationsChecked request direction
    (ledger.requestInvoices request.allocations) (ledger.requestTransactions request.allocations)
    (ledger.activeAmount (·.invoice)) (ledger.activeAmount (·.transaction)) lines
  insertable : ledger.CanInsertReconciliation uuid request.settlementBatch

/-- The row that `create_reconciliation` inserts. -/
def reconciliationRow (request : ReconciliationRequest) (uuid : Uuid) (now : ℤ)
    (direction : ReconciliationDirection) (mode : ReconciliationMode) : Reconciliation :=
  ⟨uuid, direction, mode, request.actor.id, request.settlementBatch, request.note, now⟩

theorem createReconciliation_eq_ok {request : ReconciliationRequest} {uuid : Uuid} {now : ℤ}
    {ledger after : Ledger} :
    createReconciliation request uuid now ledger = .ok after ↔
      ∃ direction mode lines, ReconciliationChecked request uuid ledger direction mode lines ∧
        after = ledger.insertReconciliation
          (reconciliationRow request uuid now direction mode) lines := by
  simp only [createReconciliation, bind_eq_ok, validateAllocations_eq_ok, require_eq_ok]
  constructor
  · rintro ⟨⟨direction, mode⟩, checked, lines, allocations, -, insertable, same⟩
    rw [checkRequest_eq_ok] at checked
    rcases checked with ⟨finance, nonempty, directionEq, modeEq, linked⟩
    cases same
    exact ⟨direction, mode, lines,
      ⟨finance, nonempty, directionEq, modeEq, linked, allocations, insertable⟩, rfl⟩
  · rintro ⟨direction, mode, lines, checked, rfl⟩
    refine ⟨(direction, mode), ?_, lines, checked.allocations, (), checked.insertable, rfl⟩
    rw [checkRequest_eq_ok]
    exact ⟨checked.finance, checked.nonempty, checked.directionGiven, checked.modeGiven,
      checked.linked⟩

theorem reverseReconciliation_eq_ok {actor : Actor} {id : Uuid} {reason : Option String} {now : ℤ}
    {ledger after : Ledger} :
    reverseReconciliation actor id reason now ledger = .ok after ↔
      actor.IsFinance ∧ ∃ text, reason = some text ∧ strip text ≠ "" ∧
        ∃ original, ledger.reconciliation? id = some original ∧
          ledger.isReversed original.id = false ∧
          after = ledger.insertReversal ⟨original.id, actor.id, strip text, now⟩ := by
  simp only [reverseReconciliation, bind_eq_ok, requireFinanceActor_eq_ok, present_eq_ok,
    require_eq_ok, Option.filter_eq_some_iff, decide_eq_true_eq]
  constructor
  · rintro ⟨-, finance, text, ⟨given, notBlank⟩, original, found, -, notReversed, same⟩
    cases same
    exact ⟨finance, text, given, notBlank, original, found, notReversed, rfl⟩
  · rintro ⟨finance, text, given, notBlank, original, found, notReversed, rfl⟩
    exact ⟨(), finance, text, ⟨given, notBlank⟩, original, found, (), notReversed, rfl⟩

end Finrec
