import Finrec.Reporting.Suppliers

/-!
# The views of a supplier's account agree

A summary is what the records of its supplier make, in whatever order they come,
and the row of a supplier in the table is the summary of the records that the
queries select for it alone.  A running balance is a partial sum of the same
records, so all views say the same.
-/

namespace Finrec

open Calendar Checks

/-! ## Running balances -/

namespace SupplierLedgerRow

theorem withRunningBalances_map {β : Type} (column : SupplierLedgerRow → β)
    (kept : ∀ row balance, column { row with runningBalance := balance } = column row) (balance : ℤ)
    (rows : List SupplierLedgerRow) :
    (withRunningBalances balance rows).map column = rows.map column := by
  induction rows generalizing balance with
  | nil => rfl
  | cons row rest ih => rw [withRunningBalances, List.map_cons, List.map_cons, kept, ih]

/-- Each running balance is the sum of the changes so far. -/
theorem runningBalance_eq {balance : ℤ} {rows : List SupplierLedgerRow} {index : ℕ}
    {entry : SupplierLedgerRow} (found : (withRunningBalances balance rows)[index]? = some entry) :
    entry.runningBalance = balance + ((rows.take (index + 1)).map change).sum := by
  induction rows generalizing balance index with
  | nil => simp [withRunningBalances] at found
  | cons row rest ih =>
      cases index with
      | zero =>
          simp only [withRunningBalances, List.getElem?_cons_zero, Option.some.injEq] at found
          simp [← found]
      | succ index =>
          rw [withRunningBalances, List.getElem?_cons_succ] at found
          rw [ih found, List.take_succ_cons, List.map_cons, List.sum_cons, add_assoc]

/-- The last running balance is the sum of all changes. -/
theorem getLast?_withRunningBalances (balance : ℤ) (rows : List SupplierLedgerRow) :
    ((withRunningBalances balance rows).getLast?.map (·.runningBalance)).getD balance =
      balance + (rows.map change).sum := by
  induction rows generalizing balance with
  | nil => simp [withRunningBalances]
  | cons row rest ih =>
      have last := ih (balance + row.change)
      rw [withRunningBalances, List.getLast?_cons, Option.map_some, Option.getD_some, List.map_cons,
        List.sum_cons, ← add_assoc, ← last]
      cases (withRunningBalances (balance + row.change) rest).getLast? <;> rfl

end SupplierLedgerRow

/-! ## The row of one supplier -/

namespace SupplierSummaryRow

variable {counterparty : Counterparty} {invoices invoices' : List SupplierInvoiceRecord}
  {payments payments' : List SupplierPaymentRecord}

/-- The summary of a supplier that records make, one after another. -/
def tally (counterparty : Counterparty) (invoices : List SupplierInvoiceRecord)
    (payments : List SupplierPaymentRecord) : SupplierSummaryRow :=
  payments.foldl (fun row record => addPayment record row)
    (invoices.foldl (fun row record => addInvoice record row)
      (empty counterparty.id counterparty.name))

theorem latestActivity_comm (current : Option ℤ) (first second : ℤ) :
    latestActivity (some (latestActivity current first)) second =
      latestActivity (some (latestActivity current second)) first := by
  cases current <;> simp only [latestActivity] <;> split_ifs <;> omega

instance : RightCommutative fun (row : SupplierSummaryRow) (record : SupplierInvoiceRecord) =>
    addInvoice record row where
  right_comm row first second := by
    simp only [addInvoice, mk.injEq, true_and, Option.some.injEq]
    exact ⟨add_right_comm .., add_right_comm .., add_right_comm .., latestActivity_comm ..⟩

instance : RightCommutative fun (row : SupplierSummaryRow) (record : SupplierPaymentRecord) =>
    addPayment record row where
  right_comm row first second := by
    simp only [addPayment, mk.injEq, true_and, Option.some.injEq]
    exact ⟨add_right_comm .., sub_right_comm .., add_right_comm .., latestActivity_comm ..⟩

/-- The order of the records makes no difference to a summary. -/
theorem tally_perm (counterparty : Counterparty) (sameInvoices : invoices.Perm invoices')
    (samePayments : payments.Perm payments') :
    tally counterparty invoices payments = tally counterparty invoices' payments' := by
  unfold tally
  rw [sameInvoices.foldl_eq, samePayments.foldl_eq]

theorem foldl_addInvoice (row : SupplierSummaryRow) :
    let after := invoices.foldl (fun row record => addInvoice record row) row
    after.balance = row.balance + (invoices.map (·.invoice.totalAmount)).sum ∧
      after.invoiceOpenAmount = row.invoiceOpenAmount + (invoices.map (·.openAmount)).sum ∧
      after.paymentOpenAmount = row.paymentOpenAmount := by
  induction invoices generalizing row with
  | nil => simp
  | cons record rest ih =>
      rcases ih (addInvoice record row) with ⟨balance, invoiceOpen, paymentOpen⟩
      simp only [List.foldl_cons, List.map_cons, List.sum_cons]
      rw [balance, invoiceOpen, paymentOpen]
      simp only [addInvoice, add_assoc, and_self]

theorem foldl_addPayment (row : SupplierSummaryRow) :
    let after := payments.foldl (fun row record => addPayment record row) row
    after.balance = row.balance - (payments.map (·.payment.amount)).sum ∧
      after.invoiceOpenAmount = row.invoiceOpenAmount ∧
      after.paymentOpenAmount = row.paymentOpenAmount + (payments.map (·.openAmount)).sum := by
  induction payments generalizing row with
  | nil => simp
  | cons record rest ih =>
      rcases ih (addPayment record row) with ⟨balance, invoiceOpen, paymentOpen⟩
      simp only [List.foldl_cons, List.map_cons, List.sum_cons]
      rw [balance, invoiceOpen, paymentOpen]
      simp only [addPayment, add_assoc, sub_sub, and_self]

/-- The figures of a summary. -/
theorem tally_eq (counterparty : Counterparty) (invoices : List SupplierInvoiceRecord)
    (payments : List SupplierPaymentRecord) :
    (tally counterparty invoices payments).balance =
        (invoices.map (·.invoice.totalAmount)).sum - (payments.map (·.payment.amount)).sum ∧
      (tally counterparty invoices payments).invoiceOpenAmount =
        (invoices.map (·.openAmount)).sum ∧
      (tally counterparty invoices payments).paymentOpenAmount =
        (payments.map (·.openAmount)).sum := by
  unfold tally
  rcases @foldl_addInvoice invoices (empty counterparty.id counterparty.name) with
    ⟨balance, invoiceOpen, paymentOpen⟩
  rcases @foldl_addPayment payments (invoices.foldl (fun row record => addInvoice record row)
    (empty counterparty.id counterparty.name)) with ⟨balance', invoiceOpen', paymentOpen'⟩
  rw [balance', invoiceOpen', paymentOpen', balance, invoiceOpen, paymentOpen]
  simp [empty]

end SupplierSummaryRow

section Rows

variable {counterparty : Counterparty} {invoices : List SupplierInvoiceRecord}
  {payments : List SupplierPaymentRecord}

/-- What holds of the first row of every supplier and survives both loops holds of all rows. -/
theorem forall_rowsByCounterparty {holds : Uuid → SupplierSummaryRow → Prop}
    (ofInvoice : ∀ record ∈ invoices,
      holds record.counterparty.id (.empty record.counterparty.id record.counterparty.name))
    (ofPayment : ∀ record ∈ payments,
      holds record.counterparty.id (.empty record.counterparty.id record.counterparty.name))
    (keepsInvoice : ∀ record key row, holds key row → holds key (.addInvoice record row))
    (keepsPayment : ∀ record key row, holds key row → holds key (.addPayment record row)) :
    ∀ group ∈ rowsByCounterparty invoices payments, holds group.1 group.2 := by
  apply Groups.forall_gather
  · apply Groups.forall_gather
    · simp
    · exact ofInvoice
    · exact fun record _ row => keepsInvoice record _ row
  · exact ofPayment
  · exact fun record _ row => keepsPayment record _ row

theorem rowsByCounterparty_named (invoices : List SupplierInvoiceRecord)
    (payments : List SupplierPaymentRecord) :
    ((rowsByCounterparty invoices payments).map (·.1)).Nodup ∧
      ∀ group ∈ rowsByCounterparty invoices payments, group.2.counterpartyId = group.1 := by
  refine ⟨Groups.nodup_gather (Groups.nodup_gather List.nodup_nil), ?_⟩
  let named : Uuid → SupplierSummaryRow → Prop := fun key row => row.counterpartyId = key
  exact @forall_rowsByCounterparty _ _ named (fun _ _ => rfl) (fun _ _ => rfl)
    (fun _ _ _ same => same) (fun _ _ _ same => same)

/-- The group of a supplier is the tally of its records, if it has any. -/
theorem lookup_rowsByCounterparty
    (ofInvoice : ∀ record ∈ invoices, record.counterparty.id = counterparty.id →
      record.counterparty = counterparty)
    (ofPayment : ∀ record ∈ payments, record.counterparty.id = counterparty.id →
      record.counterparty = counterparty) :
    (rowsByCounterparty invoices payments).lookup counterparty.id =
      if invoices.filter (fun record => decide (record.counterparty.id = counterparty.id)) = [] ∧
          payments.filter (fun record => decide (record.counterparty.id = counterparty.id)) = []
      then none
      else some (SupplierSummaryRow.tally counterparty
        (invoices.filter fun record => decide (record.counterparty.id = counterparty.id))
        (payments.filter fun record => decide (record.counterparty.id = counterparty.id))) := by
  have startInvoice : ∀ record ∈ invoices.filter
      (fun record => decide (record.counterparty.id = counterparty.id)),
      SupplierSummaryRow.empty record.counterparty.id record.counterparty.name =
        .empty counterparty.id counterparty.name := by
    intro record member
    rcases List.mem_filter.mp member with ⟨listed, same⟩
    rw [ofInvoice record listed (of_decide_eq_true same)]
  have startPayment : ∀ record ∈ payments.filter
      (fun record => decide (record.counterparty.id = counterparty.id)),
      SupplierSummaryRow.empty record.counterparty.id record.counterparty.name =
        .empty counterparty.id counterparty.name := by
    intro record member
    rcases List.mem_filter.mp member with ⟨listed, same⟩
    rw [ofPayment record listed (of_decide_eq_true same)]
  rw [rowsByCounterparty, Groups.lookup_gather, Groups.lookup_gather, List.lookup_nil]
  by_cases noInvoices : invoices.filter
      (fun record => decide (record.counterparty.id = counterparty.id)) = []
  · rw [noInvoices, List.foldl_nil]
    by_cases noPayments : payments.filter
        (fun record => decide (record.counterparty.id = counterparty.id)) = []
    · rw [noPayments, if_pos ⟨rfl, rfl⟩, List.foldl_nil]
    · rw [if_neg (fun none => noPayments none.2), Groups.foldl_some startPayment (.inl noPayments)]
      rfl
  · rw [if_neg (fun none => noInvoices none.1), Groups.foldl_some startInvoice (.inl noInvoices),
      Groups.foldl_some startPayment (.inr rfl)]
    rfl

/-- The rows of the table that are of one supplier. -/
theorem filter_supplierSummaryRows (id : Uuid) :
    (supplierSummaryRows invoices payments).filter (fun row => decide (row.counterpartyId = id)) =
      ((rowsByCounterparty invoices payments).lookup id).toList := by
  rcases rowsByCounterparty_named invoices payments with ⟨distinct, named⟩
  have sorted := (List.perm_insertionSort SupplierSummaryRow.Precedes
    ((rowsByCounterparty invoices payments).map (·.2))).filter
      (fun row => decide (row.counterpartyId = id))
  rw [Groups.filter_values distinct named] at sorted
  cases found : (rowsByCounterparty invoices payments).lookup id with
  | none =>
      rw [found] at sorted
      exact List.perm_nil.mp sorted
  | some row =>
      rw [found] at sorted
      exact List.perm_singleton.mp sorted

end Rows

/-! ## All views of one supplier -/

section Views

variable {ledger : Ledger} {env : Env} {supplier : Counterparty} {cutoff asOf : ℤ}

theorem eq_of_counterparty? {counterparty : Counterparty} {id : Uuid}
    (found : ledger.counterparty? supplier.id = some supplier)
    (located : ledger.counterparty? id = some counterparty) (same : counterparty.id = supplier.id) :
    counterparty = supplier := by
  have key := counterparty?_id located
  rw [← key, same, found, Option.some.injEq] at located
  exact located.symm

/-- A record of a supplier carries the supplier. -/
theorem counterparty_of_invoiceRecord {record : SupplierInvoiceRecord}
    (found : ledger.counterparty? supplier.id = some supplier)
    (listed : record ∈ ledger.invoices.filterMap (ledger.supplierInvoiceRecord cutoff asOf))
    (same : record.counterparty.id = supplier.id) : record.counterparty = supplier := by
  rcases List.mem_filterMap.mp listed with ⟨invoice, -, isRecord⟩
  simp only [Ledger.supplierInvoiceRecord, Option.bind_eq_bind, Option.bind_eq_some_iff] at isRecord
  rcases isRecord with ⟨counterparty, located, chosen⟩
  split_ifs at chosen
  cases chosen
  exact eq_of_counterparty? found located same

theorem counterparty_of_paymentRecord {zone : Zone} {record : SupplierPaymentRecord}
    (found : ledger.counterparty? supplier.id = some supplier)
    (listed : record ∈ ledger.transactions.filterMap (ledger.supplierPaymentRecord zone cutoff))
    (same : record.counterparty.id = supplier.id) : record.counterparty = supplier := by
  rcases List.mem_filterMap.mp listed with ⟨money, -, isRecord⟩
  simp only [Ledger.supplierPaymentRecord, Option.bind_eq_bind, Option.bind_eq_some_iff] at isRecord
  rcases isRecord with ⟨counterparty, ⟨id, -, located⟩, chosen⟩
  split_ifs at chosen
  cases chosen
  exact eq_of_counterparty? found located same

/-- The supplier is in the table that a search gives. -/
def FoundBy (env : Env) (search : String) (supplier : Counterparty) : Prop :=
  strip search = "" ∨ env.icontains supplier.name (strip search)

instance (env : Env) (search : String) (supplier : Counterparty) :
    Decidable (FoundBy env search supplier) :=
  inferInstanceAs (Decidable (_ ∨ _))

section Records

variable {invoices : List SupplierInvoiceRecord} {payments : List SupplierPaymentRecord}

/-- The records that a search selects, of one supplier. -/
theorem filter_selectsSupplier {α : Type} {counterparty : α → Counterparty} {records : List α}
    (ofSupplier : ∀ record ∈ records, (counterparty record).id = supplier.id →
      counterparty record = supplier) (search : String) :
    (records.filter fun record =>
        selectsSupplier env (strip search) none (counterparty record)).filter
          (fun record => decide ((counterparty record).id = supplier.id)) =
      if FoundBy env search supplier then
        records.filter fun record => decide ((counterparty record).id = supplier.id)
      else [] := by
  rw [List.filter_filter]
  split_ifs with found
  · apply List.filter_congr
    intro record member
    by_cases same : (counterparty record).id = supplier.id
    · rw [ofSupplier record member same]
      simpa [selectsSupplier, FoundBy] using found
    · simp [same]
  · rw [List.filter_eq_nil_iff]
    intro record member
    by_cases same : (counterparty record).id = supplier.id
    · rw [ofSupplier record member same]
      simpa [selectsSupplier, FoundBy] using found
    · simp [same]

theorem selectsSupplier_one (counterparty : Counterparty) (id : Uuid) :
    selectsSupplier env "" (some id) counterparty = decide (counterparty.id = id) := by
  simp [selectsSupplier]

/-- The rows of a table of records that are all of one supplier. -/
theorem supplierSummaryRows_one
    (ofInvoice : ∀ record ∈ invoices, record.counterparty = supplier)
    (ofPayment : ∀ record ∈ payments, record.counterparty = supplier) :
    supplierSummaryRows invoices payments =
      if invoices = [] ∧ payments = [] then []
      else [SupplierSummaryRow.tally supplier invoices payments] := by
  have noOther : ∀ row ∈ supplierSummaryRows invoices payments,
      decide (row.counterpartyId = supplier.id) = true := by
    intro row member
    rw [supplierSummaryRows, List.mem_insertionSort] at member
    rcases List.mem_map.mp member with ⟨group, groupMem, rfl⟩
    rw [decide_eq_true_eq]
    let named : Uuid → SupplierSummaryRow → Prop := fun _ row => row.counterpartyId = supplier.id
    exact @forall_rowsByCounterparty _ _ named
      (fun record listed => congrArg Counterparty.id (ofInvoice record listed))
      (fun record listed => congrArg Counterparty.id (ofPayment record listed))
      (fun _ _ _ same => same) (fun _ _ _ same => same) group groupMem
  have allInvoices : invoices.filter
      (fun record => decide (record.counterparty.id = supplier.id)) = invoices :=
    List.filter_eq_self.mpr fun record member =>
      decide_eq_true (congrArg Counterparty.id (ofInvoice record member))
  have allPayments : payments.filter
      (fun record => decide (record.counterparty.id = supplier.id)) = payments :=
    List.filter_eq_self.mpr fun record member =>
      decide_eq_true (congrArg Counterparty.id (ofPayment record member))
  rw [← List.filter_eq_self.mpr noOther, filter_supplierSummaryRows, lookup_rowsByCounterparty
    (fun record member _ => ofInvoice record member)
    (fun record member _ => ofPayment record member), allInvoices, allPayments]
  split_ifs <;> rfl

end Records

/-- The records that the queries select before the filters on the counterparty. -/
def Ledger.allInvoiceRecords (ledger : Ledger) (env : Env) (asOf : Date) :
    List SupplierInvoiceRecord :=
  ledger.invoices.filterMap (ledger.supplierInvoiceRecord (env.zone.cutoff asOf.toDay) asOf.toDay)

def Ledger.allPaymentRecords (ledger : Ledger) (env : Env) (asOf : Date) :
    List SupplierPaymentRecord :=
  ledger.transactions.filterMap
    (ledger.supplierPaymentRecord env.zone (env.zone.cutoff asOf.toDay))

/-- The views of a supplier's account agree. -/
structure SupplierViews (env : Env) (supplier : Counterparty) (search : String)
    (entries : List SupplierLedgerRow) (summary : SupplierSummaryRow)
    (rows : List SupplierSummaryRow) : Prop where
  running : ∀ (index : ℕ) (entry : SupplierLedgerRow), entries[index]? = some entry →
    entry.runningBalance =
      ((entries.take (index + 1)).map fun entry => entry.increase - entry.decrease).sum
  balance : (entries.getLast?.map (·.runningBalance)).getD 0 = summary.balance
  invoiceOpen : ((entries.filter fun entry => decide (entry.kind = .invoice)).map
    (·.openAmount)).sum = summary.invoiceOpenAmount
  paymentOpen : ((entries.filter fun entry => decide (entry.kind = .payment)).map
    (·.openAmount)).sum = summary.paymentOpenAmount
  row : rows.filter (fun row => decide (row.counterpartyId = supplier.id)) =
    if entries ≠ [] ∧ FoundBy env search supplier then [summary] else []
  totals : supplierSummaryTotals rows = ⟨rows.length, (rows.map (·.invoicedAmount)).sum,
    (rows.map (·.paidAmount)).sum, (rows.map (·.balance)).sum⟩
  totalBalance : (supplierSummaryTotals rows).balance =
    (supplierSummaryTotals rows).invoicedAmount - (supplierSummaryTotals rows).paidAmount

section Agreement

variable {invoices : List SupplierInvoiceRecord} {payments : List SupplierPaymentRecord}

/-- The entries before their running balances are known. -/
def ledgerRows (ledger : Ledger) (invoices : List SupplierInvoiceRecord)
    (payments : List SupplierPaymentRecord) : List SupplierLedgerRow :=
  (invoices.map (SupplierLedgerRow.ofInvoice ledger) ++
    payments.map (SupplierLedgerRow.ofPayment ledger)).insertionSort SupplierLedgerRow.Precedes

theorem ledgerRows_perm (ledger : Ledger) (invoices : List SupplierInvoiceRecord)
    (payments : List SupplierPaymentRecord) :
    (ledgerRows ledger invoices payments).Perm (invoices.map (SupplierLedgerRow.ofInvoice ledger) ++
      payments.map (SupplierLedgerRow.ofPayment ledger)) := List.perm_insertionSort _ _

theorem sum_change_ledgerRows : ((ledgerRows ledger invoices payments).map
    SupplierLedgerRow.change).sum =
      (invoices.map (·.invoice.totalAmount)).sum - (payments.map (·.payment.amount)).sum := by
  rw [((ledgerRows_perm ledger invoices payments).map _).sum_eq, List.map_append, List.sum_append,
    List.map_map, List.map_map]
  have ofInvoice : SupplierLedgerRow.change ∘ SupplierLedgerRow.ofInvoice ledger =
      fun record => record.invoice.totalAmount := by
    funext record
    exact sub_zero _
  have ofPayment : SupplierLedgerRow.change ∘ SupplierLedgerRow.ofPayment ledger =
      fun record => -record.payment.amount := by
    funext record
    exact zero_sub _
  rw [ofInvoice, ofPayment, sub_eq_add_neg, List.sum_neg, List.map_map]
  rfl

/-- The open amounts of the entries of a kind. -/
theorem sum_open_entries (kind : SupplierLedgerKind) :
    (((SupplierLedgerRow.withRunningBalances 0 (ledgerRows ledger invoices payments)).filter
      fun entry => decide (entry.kind = kind)).map (·.openAmount)).sum =
      if kind = .invoice then (invoices.map (·.openAmount)).sum
      else (payments.map (·.openAmount)).sum := by
  have pairs : (SupplierLedgerRow.withRunningBalances 0 (ledgerRows ledger invoices payments)).map
      (fun entry => (entry.kind, entry.openAmount)) =
        (ledgerRows ledger invoices payments).map fun entry => (entry.kind, entry.openAmount) :=
    SupplierLedgerRow.withRunningBalances_map _ (fun _ _ => rfl) _ _
  have split (rows : List SupplierLedgerRow) :
      (rows.filter fun entry => decide (entry.kind = kind)).map (·.openAmount) =
        ((rows.map fun entry => (entry.kind, entry.openAmount)).filter
          fun pair => decide (pair.1 = kind)).map (·.2) := by
    rw [List.filter_map, List.map_map]
    rfl
  rw [split, pairs, ← split]
  rw [(((ledgerRows_perm ledger invoices payments).filter _).map _).sum_eq, List.filter_append,
    List.map_append, List.sum_append, List.filter_map, List.filter_map, List.map_map, List.map_map]
  cases kind <;> simp [Function.comp_def, SupplierLedgerRow.ofInvoice, SupplierLedgerRow.ofPayment]

theorem eq_nil_iff_of_perm {α : Type} {left right : List α} (perm : left.Perm right) :
    left = [] ↔ right = [] := by
  rw [← List.length_eq_zero_iff, perm.length_eq, List.length_eq_zero_iff]

theorem entries_eq_nil : SupplierLedgerRow.withRunningBalances 0
    (ledgerRows ledger invoices payments) = [] ↔ invoices = [] ∧ payments = [] := by
  have perm := ledgerRows_perm ledger invoices payments
  have length : (SupplierLedgerRow.withRunningBalances 0
      (ledgerRows ledger invoices payments)).length = invoices.length + payments.length := by
    have same := congrArg List.length (SupplierLedgerRow.withRunningBalances_map
      SupplierLedgerRow.kind (fun _ _ => rfl) 0 (ledgerRows ledger invoices payments))
    rw [List.length_map, List.length_map, perm.length_eq, List.length_append, List.length_map,
      List.length_map] at same
    exact same
  rw [← List.length_eq_zero_iff, length, Nat.add_eq_zero_iff, List.length_eq_zero_iff,
    List.length_eq_zero_iff]

/-- Every row's balance is what it was invoiced less what was paid. -/
theorem totalBalance_supplierSummaryRows (invoices : List SupplierInvoiceRecord)
    (payments : List SupplierPaymentRecord) :
    (supplierSummaryTotals (supplierSummaryRows invoices payments)).balance =
      (supplierSummaryTotals (supplierSummaryRows invoices payments)).invoicedAmount -
        (supplierSummaryTotals (supplierSummaryRows invoices payments)).paidAmount := by
  have each : ∀ row ∈ supplierSummaryRows invoices payments,
      row.balance = row.invoicedAmount + -row.paidAmount := by
    intro row member
    rw [supplierSummaryRows, List.mem_insertionSort] at member
    rcases List.mem_map.mp member with ⟨group, groupMem, rfl⟩
    let settled : Uuid → SupplierSummaryRow → Prop :=
      fun _ row => row.balance = row.invoicedAmount + -row.paidAmount
    refine @forall_rowsByCounterparty _ _ settled (fun _ _ => rfl) (fun _ _ => rfl) ?_ ?_ group
      groupMem
    · intro record _ row same
      simp only [settled, SupplierSummaryRow.addInvoice] at same ⊢
      omega
    · intro record _ row same
      simp only [settled, SupplierSummaryRow.addPayment] at same ⊢
      omega
  simp only [supplierSummaryTotals]
  rw [List.map_congr_left each, List.sum_map_add, sub_eq_add_neg, List.sum_neg, List.map_map]
  rfl

end Agreement

section Queries

variable {asOf : Date}

theorem supplierInvoiceRecords_of_lt (early : asOf.toDay < lastDay) (ledger : Ledger) (env : Env)
    (search : String) (id : Option Uuid) :
    ledger.supplierInvoiceRecords env asOf search id =
      .ok (((ledger.allInvoiceRecords env asOf).filter fun record =>
        selectsSupplier env search id record.counterparty).insertionSort
          SupplierInvoiceRecord.Precedes) := by
  rw [Ledger.supplierInvoiceRecords, reportCutoff_of_lt early]
  rfl

theorem supplierPaymentRecords_of_lt (early : asOf.toDay < lastDay) (ledger : Ledger) (env : Env)
    (search : String) (id : Option Uuid) :
    ledger.supplierPaymentRecords env asOf search id =
      .ok (((ledger.allPaymentRecords env asOf).filter fun record =>
        selectsSupplier env search id record.counterparty).insertionSort
          SupplierPaymentRecord.Precedes) := by
  rw [Ledger.supplierPaymentRecords, reportCutoff_of_lt early]
  rfl

/-- The records of one supplier, before they are ordered. -/
def Ledger.invoiceRecordsOf (ledger : Ledger) (env : Env) (asOf : Date) (id : Uuid) :
    List SupplierInvoiceRecord :=
  (ledger.allInvoiceRecords env asOf).filter fun record => decide (record.counterparty.id = id)

def Ledger.paymentRecordsOf (ledger : Ledger) (env : Env) (asOf : Date) (id : Uuid) :
    List SupplierPaymentRecord :=
  (ledger.allPaymentRecords env asOf).filter fun record => decide (record.counterparty.id = id)

theorem mem_invoiceRecordsOf {record : SupplierInvoiceRecord}
    (found : ledger.counterparty? supplier.id = some supplier)
    (member : record ∈ ledger.invoiceRecordsOf env asOf supplier.id) :
    record.counterparty = supplier := by
  rcases List.mem_filter.mp member with ⟨listed, same⟩
  exact counterparty_of_invoiceRecord found listed (of_decide_eq_true same)

theorem mem_paymentRecordsOf {record : SupplierPaymentRecord}
    (found : ledger.counterparty? supplier.id = some supplier)
    (member : record ∈ ledger.paymentRecordsOf env asOf supplier.id) :
    record.counterparty = supplier := by
  rcases List.mem_filter.mp member with ⟨listed, same⟩
  exact counterparty_of_paymentRecord found listed (of_decide_eq_true same)

theorem supplierLedgerAsOf_of_lt (early : asOf.toDay < lastDay) (ledger : Ledger) (env : Env)
    (id : Uuid) :
    ledger.supplierLedgerAsOf env id asOf = .ok (SupplierLedgerRow.withRunningBalances 0
      (ledgerRows ledger
        ((ledger.invoiceRecordsOf env asOf id).insertionSort SupplierInvoiceRecord.Precedes)
        ((ledger.paymentRecordsOf env asOf id).insertionSort SupplierPaymentRecord.Precedes))) := by
  rw [Ledger.supplierLedgerAsOf, supplierInvoiceRecords_of_lt early,
    supplierPaymentRecords_of_lt early]
  simp only [selectsSupplier_one]
  rfl

theorem supplierSummaryAsOf_of_lt (early : asOf.toDay < lastDay)
    (found : ledger.counterparty? supplier.id = some supplier)
    (isSupplier : supplier.isSupplier = true) :
    ledger.supplierSummaryAsOf env supplier.id asOf = .ok (SupplierSummaryRow.tally supplier
      (ledger.invoiceRecordsOf env asOf supplier.id)
      (ledger.paymentRecordsOf env asOf supplier.id)) := by
  have known : (ledger.counterparty? supplier.id).filter (·.isSupplier) = some supplier := by
    rw [found, Option.filter_some, if_pos isSupplier]
  rw [Ledger.supplierSummaryAsOf, known, supplierInvoiceRecords_of_lt early,
    supplierPaymentRecords_of_lt early]
  simp only [selectsSupplier_one]
  rw [← Ledger.invoiceRecordsOf, ← Ledger.paymentRecordsOf]
  have invoices := List.perm_insertionSort SupplierInvoiceRecord.Precedes
    (ledger.invoiceRecordsOf env asOf supplier.id)
  have payments := List.perm_insertionSort SupplierPaymentRecord.Precedes
    (ledger.paymentRecordsOf env asOf supplier.id)
  rw [← SupplierSummaryRow.tally_perm supplier invoices payments]
  simp only [present, bind, Except.bind, pure, Except.pure]
  rw [supplierSummaryRows_one
    (fun record member => mem_invoiceRecordsOf found (invoices.mem_iff.mp member))
    (fun record member => mem_paymentRecordsOf found (payments.mem_iff.mp member))]
  split_ifs with empty
  · rw [empty.1, empty.2]
    rfl
  · rfl

theorem supplierSummariesAsOf_of_lt (early : asOf.toDay < lastDay) (ledger : Ledger) (env : Env)
    (search : String) :
    ledger.supplierSummariesAsOf env asOf search = .ok (supplierSummaryRows
      (((ledger.allInvoiceRecords env asOf).filter fun record =>
        selectsSupplier env (strip search) none record.counterparty).insertionSort
          SupplierInvoiceRecord.Precedes)
      (((ledger.allPaymentRecords env asOf).filter fun record =>
        selectsSupplier env (strip search) none record.counterparty).insertionSort
          SupplierPaymentRecord.Precedes)) := by
  rw [Ledger.supplierSummariesAsOf, supplierInvoiceRecords_of_lt early,
    supplierPaymentRecords_of_lt early]
  rfl

/-- The row of a supplier in the table of a search. -/
theorem filter_supplierSummaries (found : ledger.counterparty? supplier.id = some supplier)
    (search : String) :
    (supplierSummaryRows
      (((ledger.allInvoiceRecords env asOf).filter fun record =>
        selectsSupplier env (strip search) none record.counterparty).insertionSort
          SupplierInvoiceRecord.Precedes)
      (((ledger.allPaymentRecords env asOf).filter fun record =>
        selectsSupplier env (strip search) none record.counterparty).insertionSort
          SupplierPaymentRecord.Precedes)).filter
            (fun row => decide (row.counterpartyId = supplier.id)) =
      if (ledger.invoiceRecordsOf env asOf supplier.id = [] ∧
          ledger.paymentRecordsOf env asOf supplier.id = []) ∨ ¬FoundBy env search supplier then []
      else [SupplierSummaryRow.tally supplier (ledger.invoiceRecordsOf env asOf supplier.id)
        (ledger.paymentRecordsOf env asOf supplier.id)] := by
  have ofInvoice : ∀ record ∈ ledger.allInvoiceRecords env asOf,
      record.counterparty.id = supplier.id → record.counterparty = supplier :=
    fun record listed same => counterparty_of_invoiceRecord found listed same
  have ofPayment : ∀ record ∈ ledger.allPaymentRecords env asOf,
      record.counterparty.id = supplier.id → record.counterparty = supplier :=
    fun record listed same => counterparty_of_paymentRecord found listed same
  have invoices := (List.perm_insertionSort SupplierInvoiceRecord.Precedes
    ((ledger.allInvoiceRecords env asOf).filter fun record =>
      selectsSupplier env (strip search) none record.counterparty)).filter
        fun record => decide (record.counterparty.id = supplier.id)
  have payments := (List.perm_insertionSort SupplierPaymentRecord.Precedes
    ((ledger.allPaymentRecords env asOf).filter fun record =>
      selectsSupplier env (strip search) none record.counterparty)).filter
        fun record => decide (record.counterparty.id = supplier.id)
  rw [filter_selectsSupplier ofInvoice] at invoices
  rw [filter_selectsSupplier ofPayment] at payments
  rw [filter_supplierSummaryRows, lookup_rowsByCounterparty]
  · by_cases searched : FoundBy env search supplier
    · rw [if_pos searched] at invoices payments
      rw [← Ledger.invoiceRecordsOf] at invoices
      rw [← Ledger.paymentRecordsOf] at payments
      rw [SupplierSummaryRow.tally_perm supplier invoices payments]
      simp only [searched, not_true_eq_false, or_false, eq_nil_iff_of_perm invoices,
        eq_nil_iff_of_perm payments]
      split_ifs <;> rfl
    · rw [if_neg searched] at invoices payments
      rw [invoices.eq_nil, payments.eq_nil]
      simp [searched]
  · intro record member same
    have listed := (List.perm_insertionSort SupplierInvoiceRecord.Precedes _).mem_iff.mp member
    exact ofInvoice record (List.mem_filter.mp listed).1 same
  · intro record member same
    have listed := (List.perm_insertionSort SupplierPaymentRecord.Precedes _).mem_iff.mp member
    exact ofPayment record (List.mem_filter.mp listed).1 same

/-- Before the last day of the calendar the four views of a supplier's account agree: each running
balance is the sum of the entries so far, the last one is the balance of the summary, the open
amounts add up, the table has the summary as the only row of the supplier if there is an entry, and
the totals are the sums of the columns.  On the last day the reports overflow. -/
theorem supplier_views_agree (ledger : Ledger) (env : Env) (supplier : Counterparty) (asOf : Date)
    (search : String) (found : ledger.counterparty? supplier.id = some supplier)
    (isSupplier : supplier.isSupplier = true) :
    (asOf.toDay = lastDay ∧ ledger.supplierLedgerAsOf env supplier.id asOf = .error .overflow ∧
      ledger.supplierSummaryAsOf env supplier.id asOf = .error .overflow ∧
      ledger.supplierSummariesAsOf env asOf search = .error .overflow) ∨
    ∃ entries summary rows, ledger.supplierLedgerAsOf env supplier.id asOf = .ok entries ∧
      ledger.supplierSummaryAsOf env supplier.id asOf = .ok summary ∧
      ledger.supplierSummariesAsOf env asOf search = .ok rows ∧
      SupplierViews env supplier search entries summary rows := by
  by_cases early : asOf.toDay < lastDay
  · have invoices := List.perm_insertionSort SupplierInvoiceRecord.Precedes
      (ledger.invoiceRecordsOf env asOf supplier.id)
    have payments := List.perm_insertionSort SupplierPaymentRecord.Precedes
      (ledger.paymentRecordsOf env asOf supplier.id)
    rcases SupplierSummaryRow.tally_eq supplier (ledger.invoiceRecordsOf env asOf supplier.id)
      (ledger.paymentRecordsOf env asOf supplier.id) with ⟨balance, invoiceOpen, paymentOpen⟩
    refine .inr ⟨_, _, _, supplierLedgerAsOf_of_lt early ledger env supplier.id,
      supplierSummaryAsOf_of_lt early found isSupplier,
      supplierSummariesAsOf_of_lt early ledger env search, ?_⟩
    constructor
    case running =>
      intro index entry at?
      have sum := SupplierLedgerRow.runningBalance_eq at?
      rw [zero_add] at sum
      rw [sum, List.map_take, List.map_take]
      congr 2
      exact (SupplierLedgerRow.withRunningBalances_map SupplierLedgerRow.change
        (fun _ _ => rfl) 0 _).symm
    case balance =>
      rw [SupplierLedgerRow.getLast?_withRunningBalances, zero_add, sum_change_ledgerRows, balance,
        (invoices.map _).sum_eq, (payments.map _).sum_eq]
    case invoiceOpen => rw [sum_open_entries, if_pos rfl, invoiceOpen, (invoices.map _).sum_eq]
    case paymentOpen =>
      rw [sum_open_entries, if_neg (by decide), paymentOpen, (payments.map _).sum_eq]
    case row =>
      rw [filter_supplierSummaries found]
      simp only [ne_eq, entries_eq_nil, eq_nil_iff_of_perm invoices, eq_nil_iff_of_perm payments]
      by_cases searched : FoundBy env search supplier
      · simp only [searched, not_true_eq_false, or_false, and_true, ite_not]
      · simp only [searched, not_false_eq_true, or_true, and_false, if_true, if_false]
    case totals => rfl
    case totalBalance => exact totalBalance_supplierSummaryRows _ _
  · left
    have isLast : asOf.toDay = lastDay := le_antisymm asOf.toDay_bounds.2 (not_lt.mp early)
    have noRecords (search : String) (id : Option Uuid) :
        ledger.supplierInvoiceRecords env asOf search id = .error .overflow := by
      rw [Ledger.supplierInvoiceRecords, reportCutoff_of_not_lt early]
      rfl
    have known : (ledger.counterparty? supplier.id).filter (·.isSupplier) = some supplier := by
      rw [found, Option.filter_some, if_pos isSupplier]
    refine ⟨isLast, ?_, ?_, ?_⟩
    · rw [Ledger.supplierLedgerAsOf, noRecords]
      rfl
    · rw [Ledger.supplierSummaryAsOf, known, noRecords]
      rfl
    · rw [Ledger.supplierSummariesAsOf, noRecords]
      rfl

end Queries

end Views

namespace Sample

def mill : Counterparty :=
  ⟨7, "Mill", "Mill", "MILL", false, true, true⟩

def secondDay : Date := ⟨2026, 1, 2, by decide, by decide, by decide, by decide⟩

/-- An invoice of the mill and a payment to it of the next day. -/
def millLedger : Ledger :=
  { Ledger.empty directory with
    invoices := [⟨21, .input, "I1", "MILL", "OWN", secondDay, none, 12000, .normal, 7, 11, 2⟩]
    transactions := [⟨31, 5, .bank, .outflow, (secondDay.toDay + 1) * 86400000000, 5000, none, "T1",
      "F1", some 7, "Mill", "", 12, 4⟩] }

def tenthDay : Date := ⟨2026, 1, 10, by decide, by decide, by decide, by decide⟩

end Sample

theorem supplier_views_agree_mill : ∃ entries summary rows,
    Sample.millLedger.supplierLedgerAsOf (Sample.env [] []) 7 Sample.tenthDay = .ok entries ∧
      Sample.millLedger.supplierSummaryAsOf (Sample.env [] []) 7 Sample.tenthDay = .ok summary ∧
      Sample.millLedger.supplierSummariesAsOf (Sample.env [] []) Sample.tenthDay "" = .ok rows ∧
      SupplierViews (Sample.env [] []) Sample.mill "" entries summary rows :=
  (supplier_views_agree Sample.millLedger (Sample.env [] []) Sample.mill Sample.tenthDay "" rfl
    rfl).resolve_left fun last => absurd last.1 (by decide)

end Finrec
