import Finrec.Lib.Links
import Finrec.Reporting.ClosedDays
import Finrec.Reporting.Dashboard

/-!
# What a supplier is owed

Three figures tell of the debt to a supplier as of a day: the open amounts of the
payables, the open amounts of the summary and its balance.  They select invoices
in different ways and count allocations from different sides, so they differ by
what only one of them sees.
-/

namespace Finrec

open Calendar Totals

namespace Ledger

variable {ledger : Ledger} {supplier : Counterparty} {cutoff asOf : ℤ}

/-- The summary of a supplier counts the invoice. -/
def countsInvoice (ledger : Ledger) (cutoff asOf : ℤ) (supplier : Uuid) (invoice : Invoice) :
    Bool :=
  decide (invoice.counterparty = supplier ∧ invoice.direction = .input ∧
    invoice.issueDate.toDay ≤ asOf ∧
      (invoice.status = .normal ∨ ledger.statusChangesAfter cutoff invoice.id))

/-- The summary of a supplier counts the payment. -/
def countsPayment (cutoff : ℤ) (supplier : Uuid) (money : MoneyTransaction) : Bool :=
  decide (money.counterparty = some supplier ∧ money.direction = .outflow ∧
    money.occurredAt < cutoff)

theorem any_supplierInvoiceRecord (found : ledger.counterparty? supplier.id = some supplier)
    (isSupplier : supplier.isSupplier = true) (invoice : Invoice) :
    ((ledger.supplierInvoiceRecord cutoff asOf invoice).any fun record =>
      decide (record.counterparty.id = supplier.id)) =
        ledger.countsInvoice cutoff asOf supplier.id invoice := by
  by_cases ofSupplier : invoice.counterparty = supplier.id
  · simp only [supplierInvoiceRecord, countsInvoice, ofSupplier, found, Option.bind_eq_bind,
      Option.bind_some, isSupplier, true_and]
    split_ifs with selected
    · simpa using selected
    · simpa using selected
  · have other : ledger.countsInvoice cutoff asOf supplier.id invoice = false := by
      simp [countsInvoice, ofSupplier]
    rw [other, supplierInvoiceRecord]
    cases located : ledger.counterparty? invoice.counterparty with
    | none => rfl
    | some counterparty =>
        have differs : counterparty.id ≠ supplier.id := by
          rw [counterparty?_id located]
          exact ofSupplier
        simp only [Option.bind_eq_bind, Option.bind_some]
        split_ifs
        · simpa using differs
        · rfl

theorem any_supplierPaymentRecord (found : ledger.counterparty? supplier.id = some supplier)
    (isSupplier : supplier.isSupplier = true) (zone : Zone) (money : MoneyTransaction) :
    ((ledger.supplierPaymentRecord zone cutoff money).any fun record =>
      decide (record.counterparty.id = supplier.id)) =
        countsPayment cutoff supplier.id money := by
  by_cases ofSupplier : money.counterparty = some supplier.id
  · simp only [supplierPaymentRecord, countsPayment, ofSupplier, Option.bind_eq_bind,
      Option.bind_some, found, isSupplier, true_and]
    split_ifs with selected
    · simpa using selected
    · simpa using selected
  · have other : countsPayment cutoff supplier.id money = false := by
      simp [countsPayment, ofSupplier]
    rw [other, supplierPaymentRecord]
    cases located : money.counterparty.bind ledger.counterparty? with
    | none => rfl
    | some counterparty =>
        rcases Option.bind_eq_some_iff.mp located with ⟨id, named, known⟩
        have differs : counterparty.id ≠ supplier.id := by
          rw [counterparty?_id known]
          intro same
          exact ofSupplier (named.trans (congrArg some same))
        simp only [Option.bind_eq_bind, Option.bind_some]
        split_ifs
        · simpa using differs
        · rfl

/-- The figures of a supplier's summary as totals over the tables. -/
theorem exists_summary {env : Env} {day : Date} (early : day.toDay < lastDay)
    (found : ledger.counterparty? supplier.id = some supplier)
    (isSupplier : supplier.isSupplier = true) :
    ∃ summary, ledger.supplierSummaryAsOf env supplier.id day = .ok summary ∧
      summary.balance =
        total (ledger.countsInvoice (env.zone.cutoff day.toDay) day.toDay supplier.id)
          (·.totalAmount) ledger.invoices -
        total (countsPayment (env.zone.cutoff day.toDay) supplier.id) (·.amount)
          ledger.transactions ∧
      summary.invoiceOpenAmount =
        total (ledger.countsInvoice (env.zone.cutoff day.toDay) day.toDay supplier.id)
          (ledger.historicalInvoiceOpen env.zone day.toDay) ledger.invoices ∧
      summary.paymentOpenAmount =
        total (countsPayment (env.zone.cutoff day.toDay) supplier.id)
          (ledger.historicalTransactionOpen env.zone day.toDay) ledger.transactions := by
  have invoiceFigure {figure : SupplierInvoiceRecord → ℤ} {amount : Invoice → ℤ}
      (figures : ∀ invoice record, ledger.supplierInvoiceRecord (env.zone.cutoff day.toDay)
        day.toDay invoice = some record → figure record = amount invoice) :
      ((ledger.invoiceRecordsOf env day supplier.id).map figure).sum =
        total (ledger.countsInvoice (env.zone.cutoff day.toDay) day.toDay supplier.id) amount
          ledger.invoices := by
    rw [invoiceRecordsOf, allInvoiceRecords, sum_filterMap_filter figures]
    simp only [any_supplierInvoiceRecord found isSupplier]
  have paymentFigure {figure : SupplierPaymentRecord → ℤ} {amount : MoneyTransaction → ℤ}
      (figures : ∀ money record, ledger.supplierPaymentRecord env.zone
        (env.zone.cutoff day.toDay) money = some record → figure record = amount money) :
      ((ledger.paymentRecordsOf env day supplier.id).map figure).sum =
        total (countsPayment (env.zone.cutoff day.toDay) supplier.id) amount
          ledger.transactions := by
    rw [paymentRecordsOf, allPaymentRecords, sum_filterMap_filter figures]
    simp only [any_supplierPaymentRecord found isSupplier]
  rcases SupplierSummaryRow.tally_eq supplier (ledger.invoiceRecordsOf env day supplier.id)
    (ledger.paymentRecordsOf env day supplier.id) with ⟨balance, invoiceOpen, paymentOpen⟩
  refine ⟨_, supplierSummaryAsOf_of_lt early found isSupplier, ?_, ?_, ?_⟩
  · rw [balance]
    congr 1
    · apply invoiceFigure
      intro invoice record selected
      rw [invoice_of_supplierInvoiceRecord selected]
    · apply paymentFigure
      intro money record selected
      rw [payment_of_supplierPaymentRecord selected]
  · rw [invoiceOpen]
    apply invoiceFigure
    intro invoice record selected
    simp only [supplierInvoiceRecord, Option.bind_eq_bind, Option.bind_eq_some_iff] at selected
    rcases selected with ⟨counterparty, -, selected⟩
    split_ifs at selected
    cases selected
    rfl
  · rw [paymentOpen]
    apply paymentFigure
    intro money record selected
    simp only [supplierPaymentRecord, Option.bind_eq_bind, Option.bind_eq_some_iff] at selected
    rcases selected with ⟨counterparty, -, selected⟩
    split_ifs at selected
    cases selected
    rfl

/-! ## Payables -/

/-- The rows whose invoice is of the supplier. -/
def payablesOf (ledger : Ledger) (supplier : Uuid) (rows : List OpenInvoiceRow) :
    List OpenInvoiceRow :=
  rows.filter fun row =>
    (ledger.invoice? row.invoiceId).any fun invoice => decide (invoice.counterparty = supplier)

theorem sum_payablesOf (sound : ledger.Sound) {zone : Zone} {day : Date}
    (early : day.toDay < lastDay) {rows : List OpenInvoiceRow}
    (read : ledger.payablesAsOf zone day = .ok rows) (supplier : Uuid) :
    ((ledger.payablesOf supplier rows).map (·.openAmount)).sum =
      total (fun invoice => decide (ledger.IsOpenInvoice (zone.cutoff day.toDay) day.toDay .input
        invoice) && decide (invoice.counterparty = supplier))
        (ledger.historicalInvoiceOpen zone day.toDay) ledger.invoices := by
  rw [payablesAsOf, openInvoiceRows, reportCutoff_of_lt early] at read
  rw [← Except.ok.inj read, payablesOf, List.filter_map, List.map_map, total]
  have sorted := List.perm_insertionSort
    (fun left right : Invoice => left.issueDate.toDay < right.issueDate.toDay ∨
      (left.issueDate.toDay = right.issueDate.toDay ∧ left.id ≤ right.id))
    (ledger.invoices.filter fun invoice =>
      decide (ledger.IsOpenInvoice (zone.cutoff day.toDay) day.toDay .input invoice))
  rw [((sorted.filter _).map _).sum_eq, List.filter_filter]
  have same : ∀ invoice ∈ ledger.invoices,
      (((fun row : OpenInvoiceRow => (ledger.invoice? row.invoiceId).any fun invoice =>
          decide (invoice.counterparty = supplier)) ∘
            ledger.openInvoiceRow (zone.cutoff day.toDay) day.toDay) invoice &&
        decide (ledger.IsOpenInvoice (zone.cutoff day.toDay) day.toDay .input invoice)) =
      (decide (ledger.IsOpenInvoice (zone.cutoff day.toDay) day.toDay .input invoice) &&
        decide (invoice.counterparty = supplier)) := by
    intro invoice member
    have found : ledger.invoice? invoice.id = some invoice :=
      sound.invoice?_eq_some_iff.mpr ⟨member, rfl⟩
    simp only [Function.comp_apply, openInvoiceRow, found, Option.any_some]
    rw [Bool.and_comm]
  rw [List.filter_congr same]
  rfl

/-- An invoice that the summary counts and that is not normal any more. -/
def countsEnded (ledger : Ledger) (cutoff asOf : ℤ) (supplier : Uuid) (invoice : Invoice) : Bool :=
  ledger.countsInvoice cutoff asOf supplier invoice && decide (invoice.status ≠ .normal)

/-- The summary sees the payables and what was open of invoices that ended since. -/
theorem total_countsInvoice {zone : Zone} {day : ℤ}
    (nonneg : ∀ invoice ∈ ledger.invoices, 0 ≤ ledger.historicalInvoiceOpen zone day invoice)
    (supplier : Uuid) :
    total (ledger.countsInvoice (zone.cutoff day) day supplier)
        (ledger.historicalInvoiceOpen zone day) ledger.invoices =
      total (fun invoice => decide (ledger.IsOpenInvoice (zone.cutoff day) day .input invoice) &&
        decide (invoice.counterparty = supplier)) (ledger.historicalInvoiceOpen zone day)
          ledger.invoices +
      total (ledger.countsEnded (zone.cutoff day) day supplier)
        (ledger.historicalInvoiceOpen zone day) ledger.invoices := by
  rw [total_split (ledger.countsInvoice (zone.cutoff day) day supplier)
    fun invoice => decide (invoice.status = .normal)]
  have ended : total (fun invoice => ledger.countsInvoice (zone.cutoff day) day supplier invoice &&
        !decide (invoice.status = .normal)) (ledger.historicalInvoiceOpen zone day)
        ledger.invoices =
      total (ledger.countsEnded (zone.cutoff day) day supplier)
        (ledger.historicalInvoiceOpen zone day) ledger.invoices := by
    apply total_congr
    intro invoice _
    simp only [countsEnded, ne_eq, decide_not]
  rw [ended]
  congr 1
  -- normal invoices with nothing open add nothing
  rw [total_split (fun invoice => ledger.countsInvoice (zone.cutoff day) day supplier invoice &&
    decide (invoice.status = .normal)) fun invoice =>
      decide (0 < ledger.historicalInvoiceOpen zone day invoice)]
  have nothing : total (fun invoice =>
      (ledger.countsInvoice (zone.cutoff day) day supplier invoice &&
        decide (invoice.status = .normal)) &&
          !decide (0 < ledger.historicalInvoiceOpen zone day invoice))
      (ledger.historicalInvoiceOpen zone day) ledger.invoices = 0 := by
    rw [total_eq_zero_iff_of_nonneg nonneg]
    intro invoice member selected
    have notOpen : ¬0 < ledger.historicalInvoiceOpen zone day invoice := by
      simpa using (Bool.and_eq_true_iff.mp selected).2
    have bound := nonneg invoice member
    omega
  rw [nothing, add_zero]
  apply total_congr
  intro invoice _
  rw [Bool.eq_iff_iff]
  simp only [countsInvoice, Bool.and_eq_true, decide_eq_true_eq]
  constructor
  · rintro ⟨⟨⟨ofSupplier, direction, dated, -⟩, normal⟩, isOpen⟩
    exact ⟨⟨direction, dated, normal, isOpen⟩, ofSupplier⟩
  · rintro ⟨⟨direction, dated, normal, isOpen⟩, ofSupplier⟩
    exact ⟨⟨⟨ofSupplier, direction, dated, .inl normal⟩, normal⟩, isOpen⟩

/-! ## Allocations seen from one side only -/

section Sides

variable {zone : Zone} {day : ℤ}

/-- The allocation is valid at the cutoff and its invoice counts, but not its payment. -/
def countsOnlyInvoice (ledger : Ledger) (cutoff asOf : ℤ) (supplier : Uuid)
    (allocation : ReconciliationAllocation) : Bool :=
  Links.names (·.invoice) (·.id) (ledger.countsInvoice cutoff asOf supplier) ledger.invoices
      allocation &&
    !Links.names (·.transaction) (·.id) (countsPayment cutoff supplier) ledger.transactions
      allocation && ledger.historicallyValid cutoff allocation

/-- The allocation is valid at the cutoff and its payment counts, but not its invoice. -/
def countsOnlyPayment (ledger : Ledger) (cutoff asOf : ℤ) (supplier : Uuid)
    (allocation : ReconciliationAllocation) : Bool :=
  Links.names (·.transaction) (·.id) (countsPayment cutoff supplier) ledger.transactions
      allocation &&
    !Links.names (·.invoice) (·.id) (ledger.countsInvoice cutoff asOf supplier) ledger.invoices
      allocation && ledger.historicallyValid cutoff allocation

/-- What is open on the two sides of the account, from what was invoiced and paid. -/
theorem Sound.open_sides (sound : ledger.Sound) (zone : Zone) (day : ℤ) (supplier : Uuid) :
    total (ledger.countsInvoice (zone.cutoff day) day supplier)
        (ledger.historicalInvoiceOpen zone day) ledger.invoices -
      total (countsPayment (zone.cutoff day) supplier)
        (ledger.historicalTransactionOpen zone day) ledger.transactions =
    total (ledger.countsInvoice (zone.cutoff day) day supplier) (·.totalAmount) ledger.invoices -
      total (countsPayment (zone.cutoff day) supplier) (·.amount) ledger.transactions -
    (total (ledger.countsOnlyInvoice (zone.cutoff day) day supplier) (·.amount)
        ledger.allocations -
      total (ledger.countsOnlyPayment (zone.cutoff day) day supplier) (·.amount)
        ledger.allocations) := by
  let validInvoice := fun allocation : ReconciliationAllocation =>
    Links.names (·.invoice) (·.id) (ledger.countsInvoice (zone.cutoff day) day supplier)
      ledger.invoices allocation && ledger.historicallyValid (zone.cutoff day) allocation
  let validPayment := fun allocation : ReconciliationAllocation =>
    Links.names (·.transaction) (·.id) (countsPayment (zone.cutoff day) supplier)
      ledger.transactions allocation && ledger.historicallyValid (zone.cutoff day) allocation
  have invoiceSide : total (ledger.countsInvoice (zone.cutoff day) day supplier)
      (fun invoice => ledger.historicalAmount (zone.cutoff day) (·.invoice) invoice.id)
        ledger.invoices = total validInvoice (·.amount) ledger.allocations :=
    Links.total_linked _ _ _ sound.invoiceIds
  have paymentSide : total (countsPayment (zone.cutoff day) supplier)
      (fun money => ledger.historicalAmount (zone.cutoff day) (·.transaction) money.id)
        ledger.transactions = total validPayment (·.amount) ledger.allocations :=
    Links.total_linked _ _ _ sound.transactionIds
  have sides : total validInvoice (·.amount) ledger.allocations -
        total validPayment (·.amount) ledger.allocations =
      total (ledger.countsOnlyInvoice (zone.cutoff day) day supplier) (·.amount)
          ledger.allocations -
        total (ledger.countsOnlyPayment (zone.cutoff day) day supplier) (·.amount)
          ledger.allocations :=
    Links.total_sub_total _ _ _ _ _
  have invoiceOpen : total (ledger.countsInvoice (zone.cutoff day) day supplier)
        (ledger.historicalInvoiceOpen zone day) ledger.invoices =
      total (ledger.countsInvoice (zone.cutoff day) day supplier) (·.totalAmount)
          ledger.invoices - total validInvoice (·.amount) ledger.allocations := by
    rw [← invoiceSide, ← total_sub_right]
    rfl
  have paymentOpen : total (countsPayment (zone.cutoff day) supplier)
        (ledger.historicalTransactionOpen zone day) ledger.transactions =
      total (countsPayment (zone.cutoff day) supplier) (·.amount) ledger.transactions -
        total validPayment (·.amount) ledger.allocations := by
    rw [← paymentSide, ← total_sub_right]
    rfl
  rw [invoiceOpen, paymentOpen, ← sides]
  omega

end Sides

/-- Allocations of the supplier that are valid at the cutoff join records that both count. -/
def SettlesWithin (ledger : Ledger) (cutoff asOf : ℤ) (supplier : Uuid) : Prop :=
  ∀ allocation ∈ ledger.allocations, ledger.historicallyValid cutoff allocation = true →
    ∀ invoice ∈ ledger.invoices, invoice.id = allocation.invoice →
      invoice.counterparty = supplier → invoice.issueDate.toDay ≤ asOf ∧
        (invoice.status = .normal ∨ ledger.statusChangesAfter cutoff invoice.id = true) ∧
        ∀ money ∈ ledger.transactions, money.id = allocation.transaction →
          money.occurredAt < cutoff

theorem direction_input_iff {direction : ReconciliationDirection} {invoice : Invoice}
    {money : MoneyTransaction}
    (directions : (invoice.direction, money.direction) = directionsFor direction) :
    invoice.direction = .input ↔ money.direction = .outflow := by
  cases direction with
  | purchasePayment =>
      cases Prod.mk.inj directions with
      | intro left right => exact iff_of_true left right
  | salesReceipt =>
      cases Prod.mk.inj directions with
      | intro left right =>
          rw [left, right]
          decide

/-- An allocation within is seen from both sides or from none. -/
theorem SettlesWithin.names_eq (within : ledger.SettlesWithin cutoff asOf supplier.id)
    (sound : ledger.Sound) {allocation : ReconciliationAllocation}
    (member : allocation ∈ ledger.allocations)
    (valid : ledger.historicallyValid cutoff allocation = true) :
    Links.names (·.invoice) (·.id) (ledger.countsInvoice cutoff asOf supplier.id) ledger.invoices
        allocation =
      Links.names (·.transaction) (·.id) (countsPayment cutoff supplier.id) ledger.transactions
        allocation := by
  rcases (sound.allocationsFit allocation member).joined with
    ⟨row, -, -, invoice, invoiceMem, invoiceId, money, moneyMem, moneyId, directions, matched⟩
  rw [Links.names_of_key sound.invoiceIds invoiceMem invoiceId,
    Links.names_of_key sound.transactionIds moneyMem moneyId, countsInvoice, countsPayment]
  by_cases ofSupplier : invoice.counterparty = supplier.id
  · rcases within allocation member valid invoice invoiceMem invoiceId ofSupplier with
      ⟨dated, counted, paid⟩
    have paidBefore := paid money moneyMem moneyId
    simp only [ofSupplier, matched, dated, counted, paidBefore, true_and, and_true,
      direction_input_iff directions]
  · have other : money.counterparty ≠ some supplier.id := by
      rw [matched]
      exact fun same => ofSupplier (Option.some.inj same)
    simp only [ofSupplier, other, false_and]

theorem SettlesWithin.one_sided (within : ledger.SettlesWithin cutoff asOf supplier.id)
    (sound : ledger.Sound) :
    total (ledger.countsOnlyInvoice cutoff asOf supplier.id) (·.amount) ledger.allocations = 0 ∧
      total (ledger.countsOnlyPayment cutoff asOf supplier.id) (·.amount) ledger.allocations =
        0 := by
  refine ⟨?_, ?_⟩
  · apply total_eq_zero
    intro allocation member
    cases valid : ledger.historicallyValid cutoff allocation with
    | false => rw [countsOnlyInvoice, valid, Bool.and_false]
    | true =>
        rw [countsOnlyInvoice, within.names_eq sound member valid, Bool.and_not_self,
          Bool.false_and]
  · apply total_eq_zero
    intro allocation member
    cases valid : ledger.historicallyValid cutoff allocation with
    | false => rw [countsOnlyPayment, valid, Bool.and_false]
    | true =>
        rw [countsOnlyPayment, within.names_eq sound member valid, Bool.and_not_self,
          Bool.false_and]

end Ledger

/-- The payables of a supplier and its summary tell the same debt, but for what was open of
invoices that have been annulled since: the summary still counts them as of the day, the payables
do not. -/
theorem payables_match_summary (site : Installation) (directory : Directory) (asOf : Date)
    (earlier later : List Operation)
    (before : ∀ operation ∈ earlier, operation.Stamped (· < site.env.zone.cutoff asOf.toDay))
    (after : ∀ operation ∈ later, operation.Stamped (site.env.zone.cutoff asOf.toDay ≤ ·))
    (early : asOf.toDay < lastDay) {supplier : Counterparty}
    (found : (run site directory (earlier ++ later)).counterparty? supplier.id = some supplier)
    (isSupplier : supplier.isSupplier = true) :
    let ledger := run site directory (earlier ++ later)
    ∃ rows summary, ledger.payablesAsOf site.env.zone asOf = .ok rows ∧
      ledger.supplierSummaryAsOf site.env supplier.id asOf = .ok summary ∧
      summary.invoiceOpenAmount = ((ledger.payablesOf supplier.id rows).map (·.openAmount)).sum +
        total (ledger.countsEnded (site.env.zone.cutoff asOf.toDay) asOf.toDay supplier.id)
          (ledger.historicalInvoiceOpen site.env.zone asOf.toDay) ledger.invoices ∧
      (summary.invoiceOpenAmount =
          ((ledger.payablesOf supplier.id rows).map (·.openAmount)).sum ↔
        ∀ invoice ∈ ledger.invoices,
          ledger.countsEnded (site.env.zone.cutoff asOf.toDay) asOf.toDay supplier.id invoice =
            true → ledger.historicalInvoiceOpen site.env.zone asOf.toDay invoice = 0) := by
  intro ledger
  have sound : ledger.Sound := run_sound site directory (earlier ++ later)
  have nonneg : ∀ invoice ∈ ledger.invoices,
      0 ≤ ledger.historicalInvoiceOpen site.env.zone asOf.toDay invoice := by
    intro invoice member
    have past := historicalInvoiceOpen_run before after member
    rw [past.1]
    exact past.2.1
  have read : ∃ rows, ledger.payablesAsOf site.env.zone asOf = .ok rows := by
    rw [Ledger.payablesAsOf, Ledger.openInvoiceRows, reportCutoff_of_lt early]
    exact ⟨_, rfl⟩
  rcases read with ⟨rows, read⟩
  rcases Ledger.exists_summary early found isSupplier with ⟨summary, shown, -, invoiceOpen, -⟩
  have split : summary.invoiceOpenAmount =
      ((ledger.payablesOf supplier.id rows).map (·.openAmount)).sum +
        total (ledger.countsEnded (site.env.zone.cutoff asOf.toDay) asOf.toDay supplier.id)
          (ledger.historicalInvoiceOpen site.env.zone asOf.toDay) ledger.invoices := by
    rw [invoiceOpen, Ledger.total_countsInvoice nonneg, Ledger.sum_payablesOf sound early read]
  refine ⟨rows, summary, read, shown, split, ?_⟩
  rw [← total_eq_zero_iff_of_nonneg nonneg, split]
  omega

namespace Sample

/-- The invoice is in a second file as annulled. -/
def annulledSite : Installation :=
  site [invoiceBook [invoiceCells "I1" tenth "100.00" "正常"],
      invoiceBook [invoiceCells "I1" tenth "100.00" "作废"]]
    [statement [paymentCells tenth 43200000000 "100.00" "900.00"]]

/-- At midnight the reconciliation is given back and the second file is imported. -/
def annulling : List Operation :=
  [giveBack, stageInvoices 1 13 63906422400000000, confirm 13 63906422400000000]

theorem annulling_stamped : ∀ operation ∈ annulling,
    operation.Stamped (annulledSite.env.zone.cutoff tenth.toDay ≤ ·) := by
  intro operation member time draws
  have isMidnight : time = 63906422400000000 := by
    simp only [annulling, List.mem_cons, List.not_mem_nil, or_false] at member
    rcases member with rfl | rfl | rfl
    · exact draws
    · simpa [Operation.Draws, stageInvoices, stage] using draws
    · simpa [Operation.Draws, confirm] using draws
  rw [isMidnight]
  exact le_of_eq cutoff_tenth

end Sample

/-- A day whose invoice was annulled afterwards, with 40.00 open on the day. -/
theorem payables_match_summary_annulled :
    let ledger := run Sample.annulledSite Sample.directory (Sample.closedDay ++ Sample.annulling)
    ∃ rows summary, ledger.payablesAsOf Sample.annulledSite.env.zone Sample.tenth = .ok rows ∧
      ledger.supplierSummaryAsOf Sample.annulledSite.env 7 Sample.tenth = .ok summary ∧
      summary.invoiceOpenAmount =
        ((ledger.payablesOf 7 rows).map (·.openAmount)).sum + 4000 := by
  intro ledger
  have early : (0 : ℤ) < Sample.annulledSite.env.zone.cutoff Sample.tenth.toDay := by
    rw [show Sample.annulledSite.env.zone.cutoff Sample.tenth.toDay = 63906422400000000 from
      Sample.cutoff_tenth]
    decide
  have found : ledger.counterparty? Sample.mill.id = some Sample.mill := by
    decide +kernel
  have ended : total (ledger.countsEnded
      (Sample.annulledSite.env.zone.cutoff Sample.tenth.toDay) Sample.tenth.toDay Sample.mill.id)
      (ledger.historicalInvoiceOpen Sample.annulledSite.env.zone Sample.tenth.toDay)
      ledger.invoices = 4000 := by
    decide +kernel
  rcases payables_match_summary _ _ _ _ _ (Sample.closedDay_stamped early)
    Sample.annulling_stamped (by decide) found rfl with ⟨rows, summary, read, shown, split, -⟩
  refine ⟨rows, summary, read, shown, ?_⟩
  rw [split, ended]
  rfl

/-- The balance of a supplier is what is open of its invoices less what is open of its payments, up
to the allocations that only one side sees; where all allocations are within the day, it is exactly
that. -/
theorem balance_identity (site : Installation) (directory : Directory)
    (operations : List Operation) {asOf : Date} (early : asOf.toDay < lastDay)
    {supplier : Counterparty}
    (found : (run site directory operations).counterparty? supplier.id = some supplier)
    (isSupplier : supplier.isSupplier = true) :
    let ledger := run site directory operations
    ∃ summary, ledger.supplierSummaryAsOf site.env supplier.id asOf = .ok summary ∧
      summary.balance = summary.invoiceOpenAmount - summary.paymentOpenAmount +
        (total (ledger.countsOnlyInvoice (site.env.zone.cutoff asOf.toDay) asOf.toDay supplier.id)
          (·.amount) ledger.allocations -
        total (ledger.countsOnlyPayment (site.env.zone.cutoff asOf.toDay) asOf.toDay supplier.id)
          (·.amount) ledger.allocations) ∧
      (ledger.SettlesWithin (site.env.zone.cutoff asOf.toDay) asOf.toDay supplier.id →
        summary.balance = summary.invoiceOpenAmount - summary.paymentOpenAmount) := by
  intro ledger
  have sound : ledger.Sound := run_sound site directory operations
  have known : ledger.counterparty? supplier.id = some supplier := found
  rcases Ledger.exists_summary early known isSupplier with
    ⟨summary, shown, balance, invoiceOpen, paymentOpen⟩
  have sides := sound.open_sides site.env.zone asOf.toDay supplier.id
  refine ⟨summary, shown, ?_, fun within => ?_⟩
  · omega
  · have oneSided := within.one_sided sound
    omega

/-- An invoice of 100.00 and a payment of 100.00, of which 60.00 are reconciled. -/
theorem balance_identity_part :
    let ledger := run (Sample.pairSite "正常") Sample.directory Sample.closedDay
    ∃ summary,
      ledger.supplierSummaryAsOf (Sample.pairSite "正常").env 7 Sample.tenth = .ok summary ∧
      summary.balance = summary.invoiceOpenAmount - summary.paymentOpenAmount := by
  intro ledger
  have facts : (run (Sample.pairSite "正常") Sample.directory Sample.closedDay).counterparty?
        Sample.mill.id = some Sample.mill ∧
      (ledger.invoices.all fun invoice => decide (invoice.issueDate.toDay ≤ Sample.tenth.toDay ∧
        invoice.status = .normal)) = true ∧
      (ledger.transactions.all fun money => decide (money.occurredAt <
        (Sample.pairSite "正常").env.zone.cutoff Sample.tenth.toDay)) = true := by
    decide +kernel
  rcases facts with ⟨found, invoices, payments⟩
  have early : Sample.tenth.toDay < lastDay := by decide
  rcases balance_identity _ _ _ early found rfl with ⟨summary, shown, -, within⟩
  refine ⟨summary, shown, within ?_⟩
  intro allocation _ _ invoice member _ _
  have counted := of_decide_eq_true (List.all_eq_true.mp invoices invoice member)
  refine ⟨counted.1, .inl counted.2, fun money moneyMem _ => ?_⟩
  exact of_decide_eq_true (List.all_eq_true.mp payments money moneyMem)

end Finrec
