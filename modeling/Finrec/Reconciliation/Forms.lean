import Finrec.Lib.Patterns
import Finrec.Reconciliation.Acceptance
import Finrec.Reconciliation.Presenters

/-!
# The form of a direct reconciliation

`direct_confirm` reads the posted texts through `DirectReconciliationForm` and
hands the result to `create_reconciliation`.  A form lists all its errors; here
it stops at the first one, which does not change what is accepted.
-/

namespace Finrec

open Checks

/-- `str(id)` of a key. -/
def uuidText (id : Uuid) : String :=
  String.ofList (Patterns.Uuid.ofNat id).text

/-- A key of 128 bits. -/
def IsUuid (id : Uuid) : Prop :=
  id < 2 ^ 128

instance (id : Uuid) : Decidable (IsUuid id) :=
  inferInstanceAs (Decidable (_ < _))

/-- `UUID(text)`. -/
def readUuid (text : String) : Option Uuid :=
  (Patterns.Uuid.parse? text.toList).map (·.toNat)

/-- What is posted to `direct_confirm`; the values of a repeated name stand in their order. -/
structure DirectSubmission where
  invoiceId : Option String
  note : Option String
  partialConfirm : Option String
  expectedInvoiceOpen : Option String
  transactionId : List String
  amount : List String
  expectedTransactionOpen : List String
deriving DecidableEq, Repr

/-- `MAX_MONEY`, in hundredths. -/
def maxMoney : ℤ :=
  999999999999999999

/-- `_clean_amount`; `Decimal` is read from its plain texts. -/
def cleanAmount (value : String) : Except String Decimal := do
  let amount ← present (Decimal.ofPlain? value.toList) "核销金额格式不合法"
  require (0 < amount.coefficient) "核销金额必须大于零"
  require (amount.coefficient * 100 ≤ maxMoney * 10 ^ amount.places) "核销金额超出允许范围"
  require (amount.places ≤ 2) "核销金额最多保留两位小数"
  return amount

/-- `_clean_uuid`. -/
def cleanUuid (value label : String) : Except String Uuid :=
  present (readUuid value) (label ++ "不合法")

/-- A required text; Django strips it first. -/
def requiredText (value : Option String) (message : String) : Except String String :=
  present ((value.map strip).filter fun text => decide (text ≠ "")) message

/-- The field `note`. -/
def cleanNote (value : Option String) : Except String String := do
  let note := strip (value.getD "")
  require (note.length ≤ 1000) "备注不能超过 1000 个字符"
  require (Char.ofNat 0 ∉ note.toList) "Null characters are not allowed."
  return note

/-- The field `partial_confirm`, a checkbox. -/
def cleanCheckbox (value : Option String) : Bool :=
  match value with
  | none => false
  | some text => decide (text ≠ "" ∧ text.toLower ≠ "false")

/-- A row of `allocation_rows`. -/
structure CleanRow where
  transactionId : Uuid
  amount : Decimal
  expectedOpen : Decimal
deriving DecidableEq, Repr

/-- The body of the loop of `DirectReconciliationForm.clean`. -/
def cleanRow (values : String × String × String) : Except String CleanRow := do
  let transactionId ← cleanUuid values.1 "资金流水"
  let amount ← cleanAmount values.2.1
  let expectedOpen ← cleanAmount values.2.2
  return ⟨transactionId, amount, expectedOpen⟩

/-- The `cleaned_data` of a `DirectReconciliationForm`. -/
structure DirectForm where
  invoiceId : Uuid
  note : String
  partialConfirm : Bool
  expectedInvoiceOpen : Decimal
  allocationRows : List CleanRow

/-- `DirectReconciliationForm(data)`, when it is valid. -/
def directReconciliationForm (data : DirectSubmission) : Except String DirectForm := do
  let invoiceText ← requiredText data.invoiceId "请选择发票"
  let invoiceId ← present (readUuid invoiceText) "发票编号不合法"
  let note ← cleanNote data.note
  let expectedText ← requiredText data.expectedInvoiceOpen "页面数据已过期，请刷新后重试"
  require (data.transactionId ≠ [] ∧ data.transactionId.length = data.amount.length ∧
    data.amount.length = data.expectedTransactionOpen.length) "核销明细不能为空"
  let rows ← collect cleanRow
    (data.transactionId.zip (data.amount.zip data.expectedTransactionOpen))
  require (rows.map (·.transactionId)).Nodup "资金流水不能重复"
  let expectedInvoiceOpen ← cleanAmount expectedText
  return ⟨invoiceId, note, cleanCheckbox data.partialConfirm, expectedInvoiceOpen, rows⟩

namespace DirectForm

/-- `allocation_inputs`. -/
def allocationInputs (form : DirectForm) : List AllocationInput :=
  form.allocationRows.map fun row => ⟨form.invoiceId, row.transactionId, .decimal row.amount⟩

/-- `expected_invoice_open_amounts`. -/
def expectedInvoiceOpenAmounts (form : DirectForm) : List (Uuid × ExpectedAmount) :=
  [(form.invoiceId, .amount (.decimal form.expectedInvoiceOpen))]

/-- `expected_transaction_open_amounts`. -/
def expectedTransactionOpenAmounts (form : DirectForm) : List (Uuid × ExpectedAmount) :=
  form.allocationRows.map fun row => (row.transactionId, .amount (.decimal row.expectedOpen))

/-- The arguments that `direct_confirm` gives to `create_reconciliation`. -/
def request (form : DirectForm) (actor : Actor) (invoice : Invoice) : ReconciliationRequest where
  actor := actor
  direction := some (directionOf invoice.direction)
  allocations := form.allocationInputs
  note := form.note
  mode := some .direct
  settlementBatch := none
  expectedInvoiceOpenAmounts := some form.expectedInvoiceOpenAmounts
  expectedTransactionOpenAmounts := some form.expectedTransactionOpenAmounts
  allowPartial := form.partialConfirm

end DirectForm

/-- `direct_confirm`, with the key and the time that the new reconciliation gets. -/
def directConfirm (actor : Actor) (data : DirectSubmission) (uuid : Uuid) (now : ℤ)
    (ledger : Ledger) : Except ServiceError Ledger :=
  match directReconciliationForm data with
  | .error message => .error (.validation message)
  | .ok form => do
      let invoice ← present (ledger.invoice? form.invoiceId) (.validation "发票不存在")
      createReconciliation (form.request actor invoice) uuid now ledger

/-! ## What the form accepts -/

@[simp]
theorem readUuid_uuidText {id : Uuid} (isUuid : IsUuid id) : readUuid (uuidText id) = some id := by
  rw [readUuid, uuidText, String.toList_ofList, Patterns.Uuid.parse?_text, Option.map_some,
    Patterns.Uuid.toNat_ofNat isUuid]

theorem cleanUuid_uuidText {id : Uuid} (isUuid : IsUuid id) (label : String) :
    cleanUuid (uuidText id) label = .ok id := by
  simp [cleanUuid, readUuid_uuidText isUuid]

/-- A positive amount in range is read back from the text that shows it. -/
theorem cleanAmount_moneyInput {cents : ℤ} (positive : 0 < cents) (inRange : cents ≤ maxMoney) :
    cleanAmount (moneyInput cents) = .ok (Decimal.ofCents cents) := by
  have read : Decimal.ofPlain? (moneyInput cents).toList = some (Decimal.ofCents cents) := by
    rw [moneyInput, String.toList_ofList, Decimal.ofPlain?_plain]
  simp only [cleanAmount, bind_eq_ok, present_eq_ok, require_eq_ok]
  refine ⟨_, read, (), positive, (), ?_, (), le_rfl, rfl⟩
  simp only [Decimal.ofCents]
  omega

end Finrec
