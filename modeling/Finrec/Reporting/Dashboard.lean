import Finrec.Reporting.Suppliers

/-!
# The dashboard

The figures of a month: the open invoices as of its last day in buckets of age
and of due date, the cash flow of each of its days, and the balances.  The
exceptions name the open items that have become stale.
-/

namespace Finrec

open Calendar Checks

/-! ## Open invoices -/

/-- `AGING_LABELS`. -/
def agingLabels : List String :=
  ["0-30", "31-60", "61-90", "90+"]

/-- `aging_bucket`. -/
def agingBucket (baseDate asOf : ℤ) : String :=
  let days := max (asOf - baseDate) 0
  if days ≤ 30 then "0-30"
  else if days ≤ 60 then "31-60"
  else if days ≤ 90 then "61-90"
  else "90+"

structure OpenInvoiceRow where
  invoiceId : Uuid
  counterpartyName : String
  issueDate : Date
  dueDate : Option Date
  openAmount : ℤ
  agingBucket : String
  importBatchId : Uuid
  sourceFileId : Option Uuid
deriving DecidableEq

/-- `due_date or issue_date`. -/
def OpenInvoiceRow.baseDay (row : OpenInvoiceRow) : ℤ :=
  (row.dueDate.getD row.issueDate).toDay

/-- `invoice.due_date or invoice.issue_date`. -/
def Invoice.baseDay (invoice : Invoice) : ℤ :=
  (invoice.dueDate.getD invoice.issueDate).toDay

namespace Ledger

def counterpartyName (ledger : Ledger) (id : Uuid) : String :=
  ((ledger.counterparty? id).map (·.name)).getD ""

/-- The open amount of an invoice before a cutoff. -/
def invoiceOpenAt (ledger : Ledger) (cutoff : ℤ) (invoice : Invoice) : ℤ :=
  invoice.totalAmount - ledger.historicalAmount cutoff (·.invoice) invoice.id

/-- The filters of `_open_invoice_rows`. -/
def IsOpenInvoice (ledger : Ledger) (cutoff asOf : ℤ) (direction : InvoiceDirection)
    (invoice : Invoice) : Prop :=
  invoice.direction = direction ∧ invoice.issueDate.toDay ≤ asOf ∧ invoice.status = .normal ∧
    0 < ledger.invoiceOpenAt cutoff invoice

instance (ledger : Ledger) (cutoff asOf : ℤ) (direction : InvoiceDirection) (invoice : Invoice) :
    Decidable (ledger.IsOpenInvoice cutoff asOf direction invoice) :=
  inferInstanceAs (Decidable (_ ∧ _))

def openInvoiceRow (ledger : Ledger) (cutoff asOf : ℤ) (invoice : Invoice) : OpenInvoiceRow where
  invoiceId := invoice.id
  counterpartyName := ledger.counterpartyName invoice.counterparty
  issueDate := invoice.issueDate
  dueDate := invoice.dueDate
  openAmount := ledger.invoiceOpenAt cutoff invoice
  agingBucket := agingBucket invoice.baseDay asOf
  importBatchId := invoice.importBatch
  sourceFileId := ledger.sourceFileId invoice.importBatch

/-- `_open_invoice_rows`. -/
def openInvoiceRows (ledger : Ledger) (zone : Zone) (direction : InvoiceDirection) (asOf : Date) :
    Except ServiceError (List OpenInvoiceRow) := do
  let cutoff ← reportCutoff zone asOf
  return ((ledger.invoices.filter fun invoice =>
    decide (ledger.IsOpenInvoice cutoff asOf.toDay direction invoice)).insertionSort
      fun left right => left.issueDate.toDay < right.issueDate.toDay ∨
        (left.issueDate.toDay = right.issueDate.toDay ∧ left.id ≤ right.id)).map
          (ledger.openInvoiceRow cutoff asOf.toDay)

/-- `receivables_as_of`. -/
def receivablesAsOf (ledger : Ledger) (zone : Zone) (asOf : Date) :
    Except ServiceError (List OpenInvoiceRow) :=
  ledger.openInvoiceRows zone .output asOf

/-- `payables_as_of`. -/
def payablesAsOf (ledger : Ledger) (zone : Zone) (asOf : Date) :
    Except ServiceError (List OpenInvoiceRow) :=
  ledger.openInvoiceRows zone .input asOf

end Ledger

/-! ## Exceptions -/

inductive ExceptionType where
  | receivableOpen
  | payableOpen
  | inflowUnmatched
  | outflowUnmatched
  | counterpartyUnknown
  | reconciliationDifference
  | duplicateImport
  | redWithActiveAllocation
  | staleOpenItem
  | historyIncomplete
deriving DecidableEq

structure ExceptionItem where
  type : ExceptionType
  referenceId : Uuid
  occurredOn : Option ℤ
  counterpartyName : String
  amount : Option ℤ
  detail : String
deriving DecidableEq

/-- An item of `_open_invoice_exceptions`. -/
def openInvoiceItem (type : ExceptionType) (row : OpenInvoiceRow) : ExceptionItem :=
  ⟨type, row.invoiceId, some row.issueDate.toDay, row.counterpartyName, some row.openAmount,
    "账龄 " ++ row.agingBucket⟩

namespace Ledger

/-- `_open_invoice_exceptions`. -/
def openInvoiceExceptions (ledger : Ledger) (zone : Zone) (asOf : Date) :
    Except ServiceError (List ExceptionItem) := do
  let receivables ← ledger.receivablesAsOf zone asOf
  let payables ← ledger.payablesAsOf zone asOf
  return receivables.map (openInvoiceItem .receivableOpen) ++
    payables.map (openInvoiceItem .payableOpen)

/-- `_open_money`, with the open amounts. -/
def openMoney (ledger : Ledger) (zone : Zone) (asOf : Date) :
    Except ServiceError (List (MoneyTransaction × ℤ)) := do
  let cutoff ← reportCutoff zone asOf
  return (((ledger.transactions.filter fun money => decide (money.occurredAt < cutoff)).map
    fun money => (money, money.amount - ledger.historicalAmount cutoff (·.transaction) money.id)).filter
      fun row => decide (0 < row.2)).insertionSort fun left right =>
        left.1.occurredAt < right.1.occurredAt ∨
          (left.1.occurredAt = right.1.occurredAt ∧ left.1.id ≤ right.1.id)

/-- The first loop of `_stale_exceptions`. -/
def staleInvoices (ledger : Ledger) (asOf : ℤ) (invoiceItems : List ExceptionItem) :
    List ExceptionItem :=
  let openItems := invoiceItems.filter fun item =>
    decide (item.type = .receivableOpen ∨ item.type = .payableOpen)
  ledger.invoices.filterMap fun invoice =>
    -- a later item of the same key replaces an earlier one
    match openItems.reverse.find? fun item => decide (item.referenceId = invoice.id) with
    | none => none
    | some openItem =>
        if 91 ≤ asOf - invoice.baseDay then
          some ⟨.staleOpenItem, invoice.id, some invoice.baseDay,
            ledger.counterpartyName invoice.counterparty, openItem.amount, "票据超过 90 天未核销"⟩
        else none

/-- The second loop of `_stale_exceptions`. -/
def staleMoney (ledger : Ledger) (zone : Zone) (asOf : ℤ) (openMoney : List (MoneyTransaction × ℤ)) :
    List ExceptionItem :=
  openMoney.filterMap fun row =>
    let occurredOn := zone.localDay row.1.occurredAt
    if 91 ≤ asOf - occurredOn then
      some ⟨.staleOpenItem, row.1.id, some occurredOn,
        ((row.1.counterparty.bind ledger.counterparty?).map (·.name)).getD "未识别单位", some row.2,
        "资金超过 90 天未核销"⟩
    else none

/-- `_stale_exceptions`, with the arguments that `exception_items` passes. -/
def staleExceptions (ledger : Ledger) (zone : Zone) (asOf : Date) :
    Except ServiceError (List ExceptionItem) := do
  let invoiceItems ← ledger.openInvoiceExceptions zone asOf
  let openMoney ← ledger.openMoney zone asOf
  return ledger.staleInvoices asOf.toDay invoiceItems ++ ledger.staleMoney zone asOf.toDay openMoney

end Ledger

/-! ## The figures of a month -/

/-- `DUE_LABELS`. -/
def dueLabels : List String :=
  ["已逾期", "7日内", "8-30日", "30日以上"]

/-- `_due_label`. -/
def dueLabel (dueDate : Option Date) (issueDate asOf : Date) : String :=
  let days := (dueDate.getD issueDate).toDay - asOf.toDay
  if days < 0 then "已逾期"
  else if days ≤ 7 then "7日内"
  else if days ≤ 30 then "8-30日"
  else "30日以上"

structure DailyCashflow where
  date : ℤ
  inflow : ℤ
  outflow : ℤ
deriving DecidableEq

/-- An `AgingBucket` or a `DueBucket`. -/
structure Bucket where
  label : String
  amount : ℤ
deriving DecidableEq

/-- `DashboardPayload` without the counts of the exceptions. -/
structure DashboardPayload where
  currentFunds : Option ℤ
  monthInflow : ℤ
  monthOutflow : ℤ
  receivables : ℤ
  overdueReceivables : ℤ
  payables : ℤ
  dueWithin7Days : ℤ
  dailyCashflow : List DailyCashflow
  receivableAging : List Bucket
  payableDueBuckets : List Bucket
  dataIncomplete : Bool
  incompleteBatchIds : List Uuid
deriving DecidableEq

theorem monthStart_valid (month : Date) :
    (1 ≤ month.year ∧ month.year ≤ 9999) ∧ (1 ≤ month.month ∧ month.month ≤ 12) ∧
      (1 ≤ 1 ∧ 1 ≤ daysInMonth month.year month.month) :=
  ⟨month.valid.1, month.valid.2.1, Nat.le_refl 1, one_le_daysInMonth month.year month.month⟩

theorem monthEnd_valid (month : Date) :
    (1 ≤ month.year ∧ month.year ≤ 9999) ∧ (1 ≤ month.month ∧ month.month ≤ 12) ∧
      (1 ≤ daysInMonth month.year month.month ∧
        daysInMonth month.year month.month ≤ daysInMonth month.year month.month) :=
  ⟨month.valid.1, month.valid.2.1, one_le_daysInMonth month.year month.month, Nat.le_refl _⟩

/-- The first day of `_month_bounds`. -/
def monthStart (month : Date) : Date :=
  ⟨month.year, month.month, 1, monthStart_valid month⟩

/-- The last day of `_month_bounds`. -/
def monthEnd (month : Date) : Date :=
  ⟨month.year, month.month, daysInMonth month.year month.month, monthEnd_valid month⟩

/-- The days from one to another. -/
def daysBetween (first last : ℤ) : List ℤ :=
  (List.range (last + 1 - first).toNat).map fun offset : ℕ => first + offset

/-- The cutoff of the day before the first one. -/
def cutoffBefore (zone : Zone) (start : Date) : Except ServiceError ℤ := do
  require (1 < start.toDay) .overflow
  return zone.cutoff (start.toDay - 1)

namespace Ledger

/-- `totals` of `_cashflow`: the amounts of each day and direction. -/
def cashflowTotals (ledger : Ledger) (zone : Zone) (low high : ℤ) :
    List ((ℤ × MoneyDirection) × ℤ) :=
  Groups.gather (fun money => (zone.localDay money.occurredAt, money.direction)) (fun _ => 0)
    (fun money total => total + money.amount) []
    (ledger.transactions.filter fun money =>
      decide (low ≤ money.occurredAt ∧ money.occurredAt < high))

/-- `_cashflow`. -/
def cashflow (ledger : Ledger) (zone : Zone) (start last : Date) :
    Except ServiceError (List DailyCashflow) := do
  let low ← cutoffBefore zone start
  let high ← reportCutoff zone last
  let totals := ledger.cashflowTotals zone low high
  return (daysBetween start.toDay last.toDay).map fun day =>
    ⟨day, (Groups.value? totals (day, .inflow)).getD 0,
      (Groups.value? totals (day, .outflow)).getD 0⟩

/-- The balance of the newest snapshot of an account before a cutoff. -/
def latestBalance (ledger : Ledger) (cutoff : ℤ) (account : Uuid) : Option ℤ :=
  ((ledger.snapshots.filter fun snapshot =>
    decide (snapshot.account = account ∧ snapshot.asOf < cutoff)).insertionSort
      fun left right => right.asOf ≤ left.asOf).head?.map (·.balance)

/-- `_current_funds`. -/
def currentFunds (ledger : Ledger) (cutoff : ℤ) : Option ℤ × Bool :=
  let balances := (ledger.directory.accounts.filter (·.active)).map fun account =>
    ledger.latestBalance cutoff account.id
  let known := balances.filterMap id
  (if known = [] then none else some known.sum, balances.any (·.isNone))

end Ledger

/-- The totals of rows under labels that all start with zero. -/
def labelTotals (labels : List String) (label : OpenInvoiceRow → String)
    (rows : List OpenInvoiceRow) : List Bucket :=
  let totals := Groups.gather label (fun _ => 0) (fun row total => total + row.openAmount)
    (labels.map fun label => (label, 0)) rows
  labels.map fun label => ⟨label, (Groups.value? totals label).getD 0⟩

namespace Ledger

/-- `dashboard_payload`. -/
def dashboardPayload (ledger : Ledger) (zone : Zone) (month : Date) :
    Except ServiceError DashboardPayload := do
  let start := monthStart month
  let asOf := monthEnd month
  let dailyCashflow ← ledger.cashflow zone start asOf
  let receivables ← ledger.receivablesAsOf zone asOf
  let payables ← ledger.payablesAsOf zone asOf
  let receivableAging := labelTotals agingLabels (·.agingBucket) receivables
  let payableDueBuckets := labelTotals dueLabels
    (fun row => dueLabel row.dueDate row.issueDate asOf) payables
  let cutoff ← reportCutoff zone asOf
  let incompleteBatchIds := ((ledger.importBatches.filter fun batch =>
    decide (batch.status = .partlyCompleted ∧ batch.createdAt < cutoff)).insertionSort
      fun left right => left.createdAt < right.createdAt ∨
        (left.createdAt = right.createdAt ∧ left.id ≤ right.id)).map (·.id)
  let coverageIncomplete := ledger.directory.coverage.any fun period =>
    decide (period.year ≤ asOf.year ∧ (period.status = .partlyCovered ∨ period.status = .missing))
  let (currentFunds, accountIncomplete) := ledger.currentFunds cutoff
  return {
    currentFunds := currentFunds
    monthInflow := (dailyCashflow.map (·.inflow)).sum
    monthOutflow := (dailyCashflow.map (·.outflow)).sum
    receivables := (receivables.map (·.openAmount)).sum
    overdueReceivables := ((receivables.filter fun row =>
      decide (row.baseDay < asOf.toDay)).map (·.openAmount)).sum
    payables := (payables.map (·.openAmount)).sum
    dueWithin7Days := ((payableDueBuckets.find? fun bucket =>
      decide (bucket.label = "7日内")).map (·.amount)).getD 0
    dailyCashflow := dailyCashflow
    receivableAging := receivableAging
    payableDueBuckets := payableDueBuckets
    dataIncomplete := !incompleteBatchIds.isEmpty || coverageIncomplete || accountIncomplete
    incompleteBatchIds := incompleteBatchIds }

end Ledger

end Finrec
