import Finrec.Ledger.Invariant

/-!
# Open amounts of the reports

The reports annotate a record with two open amounts.  The current one leaves
out the allocations of reversed reconciliations.  The historical one is as of
the end of a day: it counts the allocations of reconciliations that were
created before the cutoff and not reversed before it.
-/

namespace Finrec

open Calendar Totals

namespace Ledger

/-- The reversal of a reconciliation. -/
def reversal? (ledger : Ledger) (reconciliation : Uuid) : Option ReconciliationReversal :=
  ledger.reversals.find? fun reversal => decide (reversal.original = reconciliation)

/-- `_historically_valid_allocation`. -/
def historicallyValid (ledger : Ledger) (cutoff : ℤ) (allocation : ReconciliationAllocation) :
    Bool :=
  match ledger.reconciliation? allocation.reconciliation with
  | none => false
  | some row =>
      decide (row.createdAt < cutoff) &&
        match ledger.reversal? row.id with
        | none => true
        | some reversal => decide (cutoff ≤ reversal.createdAt)

/-- `allocated_amount` of `_with_historical_open_amount` for the rows whose key is `id`. -/
def historicalAmount (ledger : Ledger) (cutoff : ℤ) (key : ReconciliationAllocation → Uuid)
    (id : Uuid) : ℤ :=
  total (fun allocation => decide (key allocation = id) &&
    ledger.historicallyValid cutoff allocation) (·.amount) ledger.allocations

/-- `current_allocated_amount` of `_with_current_open_amount` for the rows whose key is `id`. -/
def currentAmount (ledger : Ledger) (key : ReconciliationAllocation → Uuid) (id : Uuid) : ℤ :=
  total (fun allocation => decide (key allocation = id) &&
    (ledger.reversal? allocation.reconciliation).isNone) (·.amount) ledger.allocations

/-- `open_amount` of `_with_historical_open_amount` for an invoice. -/
def historicalInvoiceOpen (ledger : Ledger) (zone : Zone) (asOf : ℤ) (invoice : Invoice) : ℤ :=
  invoice.totalAmount - ledger.historicalAmount (zone.cutoff asOf) (·.invoice) invoice.id

/-- `open_amount` of `_with_historical_open_amount` for a transaction. -/
def historicalTransactionOpen (ledger : Ledger) (zone : Zone) (asOf : ℤ)
    (money : MoneyTransaction) : ℤ :=
  money.amount - ledger.historicalAmount (zone.cutoff asOf) (·.transaction) money.id

/-- `current_open_amount` of `_with_current_open_amount` for an invoice. -/
def currentInvoiceOpen (ledger : Ledger) (invoice : Invoice) : ℤ :=
  invoice.totalAmount - ledger.currentAmount (·.invoice) invoice.id

/-- `current_open_amount` of `_with_current_open_amount` for a transaction. -/
def currentTransactionOpen (ledger : Ledger) (money : MoneyTransaction) : ℤ :=
  money.amount - ledger.currentAmount (·.transaction) money.id

variable {ledger : Ledger}

theorem isNone_reversal? (ledger : Ledger) (id : Uuid) :
    (ledger.reversal? id).isNone = !ledger.isReversed id := by
  simp only [reversal?, isReversed]
  induction ledger.reversals with
  | nil => rfl
  | cons reversal rest ih =>
      by_cases same : reversal.original = id
      · simp [same]
      · simpa [List.find?_cons, same] using ih

/-- The reports and the services read the same current amount. -/
theorem currentAmount_eq (ledger : Ledger) (key : ReconciliationAllocation → Uuid) (id : Uuid) :
    ledger.currentAmount key id = ledger.activeAmount key id := by
  simp only [currentAmount, activeAmount, isActive, isNone_reversal?]

theorem currentInvoiceOpen_eq (ledger : Ledger) (invoice : Invoice) :
    ledger.currentInvoiceOpen invoice = ledger.invoiceOpen invoice := by
  simp only [currentInvoiceOpen, invoiceOpen, currentAmount_eq]

theorem currentTransactionOpen_eq (ledger : Ledger) (money : MoneyTransaction) :
    ledger.currentTransactionOpen money = ledger.transactionOpen money := by
  simp only [currentTransactionOpen, transactionOpen, currentAmount_eq]

end Ledger

end Finrec
