import Finrec.Imports.Types
import Finrec.Lib.Groups
import Finrec.Lib.Ordinals
import Finrec.Reporting.OpenAmounts

/-!
# Supplier accounts

The account of a supplier is shown in four ways: entry by entry with a running
balance, as one summary, as a row of the table of all suppliers, and in the
totals of that table.  The queries pick the records as of a day; each view goes
over them in a loop of its own.
-/

namespace Finrec

open Calendar Checks

/-- `_cutoff`: the day after the last one has no date. -/
def reportCutoff (zone : Zone) (asOf : Date) : Except ServiceError ℤ := do
  require (asOf.toDay < lastDay) .overflow
  return zone.cutoff asOf.toDay

theorem reportCutoff_of_lt {asOf : Date} (early : asOf.toDay < lastDay) (zone : Zone) :
    reportCutoff zone asOf = .ok (zone.cutoff asOf.toDay) := by
  rw [reportCutoff, require, if_pos early]
  rfl

theorem reportCutoff_of_not_lt {asOf : Date} (late : ¬asOf.toDay < lastDay) (zone : Zone) :
    reportCutoff zone asOf = .error .overflow := by
  rw [reportCutoff, require, if_neg late]
  rfl

/-- An annotated row of `_supplier_invoice_records`. -/
structure SupplierInvoiceRecord where
  invoice : Invoice
  counterparty : Counterparty
  allocatedAmount : ℤ
  openAmount : ℤ
  currentOpenAmount : ℤ

/-- An annotated row of `_supplier_payment_records`, with its day in the local time. -/
structure SupplierPaymentRecord where
  payment : MoneyTransaction
  counterparty : Counterparty
  localDay : ℤ
  allocatedAmount : ℤ
  openAmount : ℤ

structure SupplierSummaryRow where
  counterpartyId : Uuid
  counterpartyName : String
  invoicedAmount : ℤ
  paidAmount : ℤ
  balance : ℤ
  invoiceOpenAmount : ℤ
  paymentOpenAmount : ℤ
  latestActivityOn : Option ℤ
deriving DecidableEq

structure SupplierSummaryTotals where
  supplierCount : ℕ
  invoicedAmount : ℤ
  paidAmount : ℤ
  balance : ℤ
deriving DecidableEq

inductive SupplierLedgerKind where
  | invoice
  | payment
deriving DecidableEq

/-- The channel of an invoice is empty. -/
structure SupplierLedgerRow where
  kind : SupplierLedgerKind
  referenceId : Uuid
  occurredOn : ℤ
  reference : String
  channel : Option MoneyChannel
  increase : ℤ
  decrease : ℤ
  runningBalance : ℤ
  allocatedAmount : ℤ
  openAmount : ℤ
  importBatchId : Uuid
  sourceFileId : Option Uuid
  canReconcile : Bool
deriving DecidableEq

namespace Ledger

/-- `_source_file_id`. -/
def sourceFileId (ledger : Ledger) (batch : Uuid) : Option Uuid :=
  (ledger.sourceFiles.find? fun file => decide (file.batch = batch)).map (·.id)

/-- `future_status_change` of `_supplier_invoice_records`. -/
def statusChangesAfter (ledger : Ledger) (cutoff : ℤ) (invoice : Uuid) : Bool :=
  ledger.auditLog.any fun entry => decide (entry.action = "invoice.status_changed" ∧
    entry.targetType = "Invoice" ∧ entry.targetId = invoice ∧ cutoff ≤ entry.createdAt)

/-- The record of an invoice that `_supplier_invoice_records` selects. -/
def supplierInvoiceRecord (ledger : Ledger) (cutoff asOf : ℤ) (invoice : Invoice) :
    Option SupplierInvoiceRecord := do
  let counterparty ← ledger.counterparty? invoice.counterparty
  if invoice.direction = .input ∧ invoice.issueDate.toDay ≤ asOf ∧ counterparty.isSupplier ∧
      (invoice.status = .normal ∨ ledger.statusChangesAfter cutoff invoice.id) then
    some ⟨invoice, counterparty, ledger.historicalAmount cutoff (·.invoice) invoice.id,
      invoice.totalAmount - ledger.historicalAmount cutoff (·.invoice) invoice.id,
      ledger.currentInvoiceOpen invoice⟩
  else none

/-- The record of a transaction that `_supplier_payment_records` selects. -/
def supplierPaymentRecord (ledger : Ledger) (zone : Zone) (cutoff : ℤ) (money : MoneyTransaction) :
    Option SupplierPaymentRecord := do
  let counterparty ← money.counterparty.bind ledger.counterparty?
  if money.direction = .outflow ∧ money.occurredAt < cutoff ∧ counterparty.isSupplier then
    some ⟨money, counterparty, zone.localDay money.occurredAt,
      ledger.historicalAmount cutoff (·.transaction) money.id,
      money.amount - ledger.historicalAmount cutoff (·.transaction) money.id⟩
  else none

end Ledger

/-- The filters on the name and on the key of a counterparty. -/
def selectsSupplier (env : Env) (search : String) (counterpartyId : Option Uuid)
    (counterparty : Counterparty) : Bool :=
  (decide (search = "") || env.icontains counterparty.name search) &&
    counterpartyId.all fun id => decide (counterparty.id = id)

/-- `order_by("issue_date", "id")`. -/
def SupplierInvoiceRecord.Precedes (left right : SupplierInvoiceRecord) : Prop :=
  left.invoice.issueDate.toDay < right.invoice.issueDate.toDay ∨
    (left.invoice.issueDate.toDay = right.invoice.issueDate.toDay ∧
      left.invoice.id ≤ right.invoice.id)

instance : DecidableRel SupplierInvoiceRecord.Precedes :=
  fun _ _ => inferInstanceAs (Decidable (_ ∨ _))

/-- `order_by("occurred_at", "id")`. -/
def SupplierPaymentRecord.Precedes (left right : SupplierPaymentRecord) : Prop :=
  left.payment.occurredAt < right.payment.occurredAt ∨
    (left.payment.occurredAt = right.payment.occurredAt ∧ left.payment.id ≤ right.payment.id)

instance : DecidableRel SupplierPaymentRecord.Precedes :=
  fun _ _ => inferInstanceAs (Decidable (_ ∨ _))

namespace Ledger

/-- `_supplier_invoice_records`. -/
def supplierInvoiceRecords (ledger : Ledger) (env : Env) (asOf : Date) (search : String)
    (counterpartyId : Option Uuid) : Except ServiceError (List SupplierInvoiceRecord) := do
  let cutoff ← reportCutoff env.zone asOf
  return ((ledger.invoices.filterMap (ledger.supplierInvoiceRecord cutoff asOf.toDay)).filter
    fun record => selectsSupplier env search counterpartyId record.counterparty).insertionSort
      SupplierInvoiceRecord.Precedes

/-- `_supplier_payment_records`. -/
def supplierPaymentRecords (ledger : Ledger) (env : Env) (asOf : Date) (search : String)
    (counterpartyId : Option Uuid) : Except ServiceError (List SupplierPaymentRecord) := do
  let cutoff ← reportCutoff env.zone asOf
  return ((ledger.transactions.filterMap (ledger.supplierPaymentRecord env.zone cutoff)).filter
    fun record => selectsSupplier env search counterpartyId record.counterparty).insertionSort
      SupplierPaymentRecord.Precedes

end Ledger

/-! ## Summaries -/

namespace SupplierSummaryRow

/-- `_empty_supplier_summary`. -/
def empty (counterpartyId : Uuid) (counterpartyName : String) : SupplierSummaryRow :=
  ⟨counterpartyId, counterpartyName, 0, 0, 0, 0, 0, none⟩

/-- `_latest_activity`. -/
def latestActivity (current : Option ℤ) (candidate : ℤ) : ℤ :=
  match current with
  | none => candidate
  | some day => if day < candidate then candidate else day

/-- The body of the first loop of `_supplier_summary_rows`. -/
def addInvoice (record : SupplierInvoiceRecord) (summary : SupplierSummaryRow) :
    SupplierSummaryRow :=
  { summary with
    invoicedAmount := summary.invoicedAmount + record.invoice.totalAmount
    balance := summary.balance + record.invoice.totalAmount
    invoiceOpenAmount := summary.invoiceOpenAmount + record.openAmount
    latestActivityOn :=
      some (latestActivity summary.latestActivityOn record.invoice.issueDate.toDay) }

/-- The body of the second loop of `_supplier_summary_rows`. -/
def addPayment (record : SupplierPaymentRecord) (summary : SupplierSummaryRow) :
    SupplierSummaryRow :=
  { summary with
    paidAmount := summary.paidAmount + record.payment.amount
    balance := summary.balance - record.payment.amount
    paymentOpenAmount := summary.paymentOpenAmount + record.openAmount
    latestActivityOn := some (latestActivity summary.latestActivityOn record.localDay) }

/-- The sort key of `_supplier_summary_rows`; a key text orders as its number does. -/
def Precedes (left right : SupplierSummaryRow) : Prop :=
  left.counterpartyName < right.counterpartyName ∨
    (left.counterpartyName = right.counterpartyName ∧ left.counterpartyId ≤ right.counterpartyId)

instance : DecidableRel Precedes :=
  fun _ _ => inferInstanceAs (Decidable (_ ∨ _))

end SupplierSummaryRow

/-- `rows_by_counterparty` after both loops. -/
def rowsByCounterparty (invoices : List SupplierInvoiceRecord)
    (payments : List SupplierPaymentRecord) : List (Uuid × SupplierSummaryRow) :=
  Groups.gather (fun record => record.counterparty.id)
    (fun record => .empty record.counterparty.id record.counterparty.name)
    SupplierSummaryRow.addPayment
    (Groups.gather (fun record => record.counterparty.id)
      (fun record => .empty record.counterparty.id record.counterparty.name)
      SupplierSummaryRow.addInvoice [] invoices) payments

/-- `_supplier_summary_rows`. -/
def supplierSummaryRows (invoices : List SupplierInvoiceRecord)
    (payments : List SupplierPaymentRecord) : List SupplierSummaryRow :=
  ((rowsByCounterparty invoices payments).map (·.2)).insertionSort SupplierSummaryRow.Precedes

namespace Ledger

/-- `supplier_summaries_as_of`. -/
def supplierSummariesAsOf (ledger : Ledger) (env : Env) (asOf : Date) (search : String) :
    Except ServiceError (List SupplierSummaryRow) := do
  let invoices ← ledger.supplierInvoiceRecords env asOf (strip search) none
  let payments ← ledger.supplierPaymentRecords env asOf (strip search) none
  return supplierSummaryRows invoices payments

/-- `supplier_summary_as_of`. -/
def supplierSummaryAsOf (ledger : Ledger) (env : Env) (counterpartyId : Uuid) (asOf : Date) :
    Except ServiceError SupplierSummaryRow := do
  let supplier ← present ((ledger.counterparty? counterpartyId).filter (·.isSupplier))
    (.doesNotExist "Counterparty")
  let invoices ← ledger.supplierInvoiceRecords env asOf "" (some counterpartyId)
  let payments ← ledger.supplierPaymentRecords env asOf "" (some counterpartyId)
  return (supplierSummaryRows invoices payments).headD (.empty supplier.id supplier.name)

end Ledger

/-- `supplier_summary_totals`. -/
def supplierSummaryTotals (rows : List SupplierSummaryRow) : SupplierSummaryTotals where
  supplierCount := rows.length
  invoicedAmount := (rows.map (·.invoicedAmount)).sum
  paidAmount := (rows.map (·.paidAmount)).sum
  balance := (rows.map (·.balance)).sum

/-! ## The ledger of a supplier -/

namespace SupplierLedgerRow

def ofInvoice (ledger : Ledger) (record : SupplierInvoiceRecord) : SupplierLedgerRow where
  kind := .invoice
  referenceId := record.invoice.id
  occurredOn := record.invoice.issueDate.toDay
  reference := record.invoice.invoiceNumber
  channel := none
  increase := record.invoice.totalAmount
  decrease := 0
  runningBalance := 0
  allocatedAmount := record.allocatedAmount
  openAmount := record.openAmount
  importBatchId := record.invoice.importBatch
  sourceFileId := ledger.sourceFileId record.invoice.importBatch
  canReconcile := decide (record.invoice.status = .normal ∧ 0 < record.currentOpenAmount)

def ofPayment (ledger : Ledger) (record : SupplierPaymentRecord) : SupplierLedgerRow where
  kind := .payment
  referenceId := record.payment.id
  occurredOn := record.localDay
  reference :=
    if record.payment.transactionId = "" then record.payment.fingerprint
    else record.payment.transactionId
  channel := some record.payment.channel
  increase := 0
  decrease := record.payment.amount
  runningBalance := 0
  allocatedAmount := record.allocatedAmount
  openAmount := record.openAmount
  importBatchId := record.payment.importBatch
  sourceFileId := ledger.sourceFileId record.payment.importBatch
  canReconcile := false

/-- Invoices stand before payments. -/
def rank (row : SupplierLedgerRow) : ℕ :=
  if row.kind = .invoice then 0 else 1

/-- The sort key of `supplier_ledger_as_of`. -/
def Precedes (left right : SupplierLedgerRow) : Prop :=
  left.occurredOn < right.occurredOn ∨ (left.occurredOn = right.occurredOn ∧
    (left.rank < right.rank ∨ (left.rank = right.rank ∧ left.referenceId ≤ right.referenceId)))

instance : DecidableRel Precedes :=
  fun _ _ => inferInstanceAs (Decidable (_ ∨ _))

/-- What an entry adds to the balance. -/
def change (row : SupplierLedgerRow) : ℤ :=
  row.increase - row.decrease

/-- The last loop of `supplier_ledger_as_of`. -/
def withRunningBalances : ℤ → List SupplierLedgerRow → List SupplierLedgerRow
  | _, [] => []
  | balance, row :: rest =>
      { row with runningBalance := balance + row.change } ::
        withRunningBalances (balance + row.change) rest

end SupplierLedgerRow

namespace Ledger

/-- `supplier_ledger_as_of`. -/
def supplierLedgerAsOf (ledger : Ledger) (env : Env) (counterpartyId : Uuid) (asOf : Date) :
    Except ServiceError (List SupplierLedgerRow) := do
  let invoices ← ledger.supplierInvoiceRecords env asOf "" (some counterpartyId)
  let payments ← ledger.supplierPaymentRecords env asOf "" (some counterpartyId)
  return SupplierLedgerRow.withRunningBalances 0
    ((invoices.map (SupplierLedgerRow.ofInvoice ledger) ++
      payments.map (SupplierLedgerRow.ofPayment ledger)).insertionSort SupplierLedgerRow.Precedes)

end Ledger

end Finrec
