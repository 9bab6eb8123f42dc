import Finrec.Reporting.Dashboard

/-!
# The figures of the dashboard are conserved

The buckets of the open invoices and the days of the cash flow are totals over
parts of the same records.  Every open invoice is in one bucket and every
transaction of the month on one of its days, so the parts add up to the whole.
-/

namespace Finrec

open Calendar Checks Totals

/-! ## Buckets -/

section Buckets

variable {labels : List String} {label : OpenInvoiceRow → String} {rows : List OpenInvoiceRow}

/-- The total of a label is that of its rows. -/
theorem labelTotals_eq : labelTotals labels label rows = labels.map fun wanted =>
    ⟨wanted, total (fun row => decide (label row = wanted) && true) (·.openAmount) rows⟩ := by
  have zero (wanted : String) :
      (Groups.value? (labels.map fun label => (label, (0 : ℤ))) wanted).getD 0 = 0 := by
    unfold Groups.value?
    induction labels with
    | nil => rfl
    | cons first rest ih =>
        rw [List.map_cons, List.lookup_cons]
        cases wanted == first with
        | true => rfl
        | false => exact ih
  unfold labelTotals
  apply List.map_congr_left
  intro wanted _
  rw [Bucket.mk.injEq]
  refine ⟨rfl, ?_⟩
  rw [Groups.getD_lookup_gather_add, zero, zero_add, total]
  simp only [Bool.and_true]

/-- The totals of distinct labels that cover the rows add up to the total of the rows. -/
theorem sum_labelTotals (distinct : labels.Nodup) (covered : ∀ row ∈ rows, label row ∈ labels) :
    ((labelTotals labels label rows).map (·.amount)).sum = (rows.map (·.openAmount)).sum := by
  rw [labelTotals_eq, List.map_map]
  have sum := sum_totals_eq_total label (fun _ => true) (·.openAmount) rows distinct
  rw [Function.comp_def, sum, total]
  congr 2
  rw [List.filter_eq_self]
  intro row member
  simpa using covered row member

end Buckets

theorem agingBucket_mem (baseDate asOf : ℤ) : agingBucket baseDate asOf ∈ agingLabels := by
  unfold agingBucket agingLabels
  dsimp only
  split_ifs <;> simp

theorem dueLabel_mem (dueDate : Option Date) (issueDate asOf : Date) :
    dueLabel dueDate issueDate asOf ∈ dueLabels := by
  unfold dueLabel dueLabels
  dsimp only
  split_ifs <;> simp

/-- An item is in the oldest bucket after more than ninety days. -/
theorem agingBucket_eq_oldest {baseDate asOf : ℤ} :
    agingBucket baseDate asOf = "90+" ↔ 91 ≤ asOf - baseDate := by
  unfold agingBucket
  dsimp only
  split_ifs with first second third
  · simp only [show ("0-30" : String) ≠ "90+" by decide, false_iff]
    omega
  · simp only [show ("31-60" : String) ≠ "90+" by decide, false_iff]
    omega
  · simp only [show ("61-90" : String) ≠ "90+" by decide, false_iff]
    omega
  · simp only [true_iff]
    omega

/-! ## Days -/

theorem mem_daysBetween {first last day : ℤ} :
    day ∈ daysBetween first last ↔ first ≤ day ∧ day ≤ last := by
  unfold daysBetween
  rw [List.mem_map]
  constructor
  · rintro ⟨offset, member, rfl⟩
    rw [List.mem_range] at member
    omega
  · rintro ⟨low, high⟩
    refine ⟨(day - first).toNat, ?_, by omega⟩
    rw [List.mem_range]
    omega

theorem nodup_daysBetween (first last : ℤ) : (daysBetween first last).Nodup := by
  apply List.Nodup.map _ List.nodup_range
  intro left right same
  exact Int.ofNat.inj (add_left_cancel same)

section Cashflow

variable {ledger : Ledger} {zone : Zone} {start last : Date}

/-- The amounts of the transactions of a direction on a day. -/
def Ledger.movedOn (ledger : Ledger) (zone : Zone) (direction : MoneyDirection) (day : ℤ) : ℤ :=
  total (fun money => decide (zone.localDay money.occurredAt = day) &&
    decide (money.direction = direction)) (·.amount) ledger.transactions

/-- The instants between the cutoffs are those of the days of the month. -/
theorem between_cutoffs (zone : Zone) (start last instant : ℤ) :
    zone.cutoff (start - 1) ≤ instant ∧ instant < zone.cutoff last ↔
      start ≤ zone.localDay instant ∧ zone.localDay instant ≤ last := by
  rw [zone.lt_cutoff_iff, Zone.cutoff, sub_add_cancel, zone.dayStart_le_iff]

theorem getD_cashflowTotals (direction : MoneyDirection) {first last day : ℤ}
    (inMonth : first ≤ day ∧ day ≤ last) :
    (Groups.value? (ledger.cashflowTotals zone (zone.cutoff (first - 1)) (zone.cutoff last))
      (day, direction)).getD 0 = ledger.movedOn zone direction day := by
  rw [Ledger.cashflowTotals, Groups.getD_lookup_gather_add, List.filter_filter]
  simp only [Groups.value?, List.lookup_nil, Option.getD_none, zero_add, Ledger.movedOn, total]
  congr 2
  apply List.filter_congr
  intro money _
  simp only [between_cutoffs]
  by_cases sameDay : zone.localDay money.occurredAt = day
  · simp [sameDay, inMonth]
  · simp [sameDay]

theorem cashflow_of_inside (after : 1 < start.toDay) (before : last.toDay < lastDay) :
    ledger.cashflow zone start last = .ok ((daysBetween start.toDay last.toDay).map fun day =>
      ⟨day, ledger.movedOn zone .inflow day, ledger.movedOn zone .outflow day⟩) := by
  rw [Ledger.cashflow, cutoffBefore, require, if_pos after, reportCutoff_of_lt before]
  apply congrArg Except.ok
  apply List.map_congr_left
  intro day member
  rw [mem_daysBetween] at member
  rw [getD_cashflowTotals .inflow member, getD_cashflowTotals .outflow member]

/-- The amounts of the days of the month add up to those of its transactions. -/
theorem sum_movedOn (ledger : Ledger) (zone : Zone) (direction : MoneyDirection) (first last : ℤ) :
    ((daysBetween first last).map (ledger.movedOn zone direction)).sum =
      total (fun money => decide (first ≤ zone.localDay money.occurredAt ∧
        zone.localDay money.occurredAt ≤ last) && decide (money.direction = direction)) (·.amount)
          ledger.transactions := by
  unfold Ledger.movedOn
  rw [sum_totals_eq_total (fun money => zone.localDay money.occurredAt)
    (fun money => decide (money.direction = direction)) (·.amount) ledger.transactions
    (nodup_daysBetween first last)]
  apply total_congr
  intro money _
  simp only [mem_daysBetween]

end Cashflow

/-! ## Stale invoices -/

section Stale

variable {ledger : Ledger} {zone : Zone} {asOf : Date}

/-- The open invoices of a direction. -/
theorem mem_openInvoiceRows (early : asOf.toDay < lastDay) {direction : InvoiceDirection}
    {rows : List OpenInvoiceRow} (read : ledger.openInvoiceRows zone direction asOf = .ok rows)
    {row : OpenInvoiceRow} : row ∈ rows ↔ ∃ invoice ∈ ledger.invoices,
      ledger.IsOpenInvoice (zone.cutoff asOf.toDay) asOf.toDay direction invoice ∧
        row = ledger.openInvoiceRow (zone.cutoff asOf.toDay) asOf.toDay invoice := by
  rw [Ledger.openInvoiceRows, reportCutoff_of_lt early] at read
  rw [← Except.ok.inj read, List.mem_map]
  simp only [List.mem_insertionSort, List.mem_filter, decide_eq_true_eq, and_assoc]
  constructor
  · rintro ⟨invoice, member, isOpen, rfl⟩
    exact ⟨invoice, member, isOpen, rfl⟩
  · rintro ⟨invoice, member, isOpen, rfl⟩
    exact ⟨invoice, member, isOpen, rfl⟩

/-- The rows are those of the invoices of a direction that are open on a day, one for each. -/
structure RowsOfOpen (ledger : Ledger) (zone : Zone) (direction : InvoiceDirection) (asOf : Date)
    (rows : List OpenInvoiceRow) : Prop where
  isOpen : ∀ row, row ∈ rows ↔ ∃ invoice ∈ ledger.invoices,
    (invoice.direction = direction ∧ invoice.status = .normal ∧
      invoice.issueDate.toDay ≤ asOf.toDay ∧
      0 < invoice.totalAmount -
        ledger.historicalAmount (zone.cutoff asOf.toDay) (·.invoice) invoice.id) ∧
      row = ledger.openInvoiceRow (zone.cutoff asOf.toDay) asOf.toDay invoice
  once : (rows.map (·.invoiceId)).Nodup

theorem rowsOfOpen_openInvoiceRows (early : asOf.toDay < lastDay)
    (distinct : (ledger.invoices.map (·.id)).Nodup) {direction : InvoiceDirection}
    {rows : List OpenInvoiceRow} (read : ledger.openInvoiceRows zone direction asOf = .ok rows) :
    RowsOfOpen ledger zone direction asOf rows where
  isOpen row := by
    rw [mem_openInvoiceRows early read]
    constructor
    · rintro ⟨invoice, member, ⟨isDirection, issued, normal, rest⟩, same⟩
      exact ⟨invoice, member, ⟨isDirection, normal, issued, rest⟩, same⟩
    · rintro ⟨invoice, member, ⟨isDirection, normal, issued, rest⟩, same⟩
      exact ⟨invoice, member, ⟨isDirection, issued, normal, rest⟩, same⟩
  once := by
    rw [Ledger.openInvoiceRows, reportCutoff_of_lt early] at read
    rw [← Except.ok.inj read, List.map_map]
    have sorted := (List.perm_insertionSort (fun left right : Invoice =>
      left.issueDate.toDay < right.issueDate.toDay ∨
        (left.issueDate.toDay = right.issueDate.toDay ∧ left.id ≤ right.id))
      (ledger.invoices.filter fun invoice => decide
        (ledger.IsOpenInvoice (zone.cutoff asOf.toDay) asOf.toDay direction invoice))).map (·.id)
    exact sorted.nodup_iff.mpr (distinct.sublist (List.filter_sublist.map _))

/-- The rows of the open invoices of both directions. -/
structure OpenRows (ledger : Ledger) (zone : Zone) (asOf : Date)
    (receivables payables : List OpenInvoiceRow) : Prop where
  receivablesRead : ledger.receivablesAsOf zone asOf = .ok receivables
  payablesRead : ledger.payablesAsOf zone asOf = .ok payables

variable {receivables payables : List OpenInvoiceRow}

theorem OpenRows.exists_invoice (early : asOf.toDay < lastDay)
    (rows : OpenRows ledger zone asOf receivables payables) {row : OpenInvoiceRow}
    (member : row ∈ receivables ++ payables) : ∃ invoice ∈ ledger.invoices,
      row = ledger.openInvoiceRow (zone.cutoff asOf.toDay) asOf.toDay invoice := by
  rcases List.mem_append.mp member with receivable | payable
  · rcases (mem_openInvoiceRows early rows.receivablesRead).mp receivable with
      ⟨invoice, invoiceMem, -, same⟩
    exact ⟨invoice, invoiceMem, same⟩
  · rcases (mem_openInvoiceRows early rows.payablesRead).mp payable with
      ⟨invoice, invoiceMem, -, same⟩
    exact ⟨invoice, invoiceMem, same⟩

/-- The open items that the stale ones are picked from. -/
def openItems (receivables payables : List OpenInvoiceRow) : List ExceptionItem :=
  receivables.map (openInvoiceItem .receivableOpen) ++ payables.map (openInvoiceItem .payableOpen)

theorem OpenRows.openInvoiceExceptions (rows : OpenRows ledger zone asOf receivables payables) :
    ledger.openInvoiceExceptions zone asOf = .ok (openItems receivables payables) := by
  rw [Ledger.openInvoiceExceptions, rows.receivablesRead, rows.payablesRead]
  rfl

theorem mem_openItems {item : ExceptionItem} (member : item ∈ openItems receivables payables) :
    (item.type = .receivableOpen ∨ item.type = .payableOpen) ∧
      ∃ row ∈ receivables ++ payables, item.referenceId = row.invoiceId ∧
        item.amount = some row.openAmount := by
  rcases List.mem_append.mp member with receivable | payable
  · rcases List.mem_map.mp receivable with ⟨row, rowMem, rfl⟩
    exact ⟨.inl rfl, row, List.mem_append_left _ rowMem, rfl, rfl⟩
  · rcases List.mem_map.mp payable with ⟨row, rowMem, rfl⟩
    exact ⟨.inr rfl, row, List.mem_append_right _ rowMem, rfl, rfl⟩

theorem exists_openItem {row : OpenInvoiceRow} (member : row ∈ receivables ++ payables) :
    ∃ item ∈ openItems receivables payables, item.referenceId = row.invoiceId := by
  rcases List.mem_append.mp member with receivable | payable
  · exact ⟨_, List.mem_append_left _ (List.mem_map_of_mem receivable), rfl⟩
  · exact ⟨_, List.mem_append_right _ (List.mem_map_of_mem payable), rfl⟩

/-- The open item that is found under the key of an invoice is that of its row. -/
theorem OpenRows.find_openItem (early : asOf.toDay < lastDay)
    (rows : OpenRows ledger zone asOf receivables payables)
    (distinct : (ledger.invoices.map (·.id)).Nodup) {invoice : Invoice}
    (invoiceMem : invoice ∈ ledger.invoices) {item : ExceptionItem}
    (found : (openItems receivables payables).reverse.find?
      (fun item => decide (item.referenceId = invoice.id)) = some item) :
    ∃ row ∈ receivables ++ payables, item.amount = some row.openAmount ∧
      row = ledger.openInvoiceRow (zone.cutoff asOf.toDay) asOf.toDay invoice := by
  have member := List.mem_reverse.mp (List.mem_of_find?_eq_some found)
  have reference := List.find?_some found
  rw [decide_eq_true_eq] at reference
  rcases (mem_openItems member).2 with ⟨row, rowMem, ofRow, amount⟩
  rcases rows.exists_invoice early rowMem with ⟨other, otherMem, same⟩
  have sameId : other.id = invoice.id := by
    rw [← reference, ofRow, same]
    rfl
  have sameInvoice := List.inj_on_of_nodup_map distinct otherMem invoiceMem sameId
  exact ⟨row, rowMem, amount, sameInvoice ▸ same⟩

/-- An invoice is stale when its row is in the oldest bucket. -/
theorem OpenRows.staleInvoices_iff (early : asOf.toDay < lastDay)
    (rows : OpenRows ledger zone asOf receivables payables)
    (distinct : (ledger.invoices.map (·.id)).Nodup) (id : Uuid) (amount : ℤ) :
    (∃ item ∈ ledger.staleInvoices asOf.toDay (openItems receivables payables),
        item.referenceId = id ∧ item.amount = some amount) ↔
      ∃ row ∈ receivables ++ payables, row.invoiceId = id ∧ row.openAmount = amount ∧
        row.agingBucket = "90+" := by
  have allOpen : (openItems receivables payables).filter (fun item =>
      decide (item.type = .receivableOpen ∨ item.type = .payableOpen)) =
        openItems receivables payables := by
    rw [List.filter_eq_self]
    exact fun item member => decide_eq_true (mem_openItems member).1
  simp only [Ledger.staleInvoices, allOpen, List.mem_filterMap]
  constructor
  · rintro ⟨item, ⟨invoice, invoiceMem, chosen⟩, rfl, isAmount⟩
    cases found : (openItems receivables payables).reverse.find?
        (fun item => decide (item.referenceId = invoice.id)) with
    | none => simp [found] at chosen
    | some openItem =>
        simp only [found] at chosen
        split_ifs at chosen with old
        cases chosen
        rcases rows.find_openItem early distinct invoiceMem found with ⟨row, rowMem, ofRow, same⟩
        refine ⟨row, rowMem, ?_, ?_, ?_⟩
        · rw [same]
          rfl
        · exact Option.some.inj (ofRow.symm.trans isAmount)
        · rw [same]
          exact agingBucket_eq_oldest.mpr old
  · rintro ⟨row, rowMem, rfl, rfl, oldest⟩
    rcases rows.exists_invoice early rowMem with ⟨invoice, invoiceMem, same⟩
    have sameId : row.invoiceId = invoice.id := by
      rw [same]
      rfl
    have old : 91 ≤ asOf.toDay - invoice.baseDay := by
      rw [same] at oldest
      exact agingBucket_eq_oldest.mp oldest
    rcases exists_openItem rowMem with ⟨item, itemMem, reference⟩
    cases found : (openItems receivables payables).reverse.find?
        (fun item => decide (item.referenceId = invoice.id)) with
    | none =>
        have missed := List.find?_eq_none.mp found item (List.mem_reverse.mpr itemMem)
        simp [reference, sameId] at missed
    | some openItem =>
        rcases rows.find_openItem early distinct invoiceMem found with ⟨other, -, ofOther, isOther⟩
        refine ⟨⟨.staleOpenItem, invoice.id, some invoice.baseDay,
          ledger.counterpartyName invoice.counterparty, openItem.amount, "票据超过 90 天未核销"⟩,
          ⟨invoice, invoiceMem, ?_⟩, sameId.symm, ?_⟩
        · simp only [found]
          rw [if_pos old]
        · rw [same, ← isOther]
          exact ofOther

/-- No invoice is listed twice. -/
theorem nodup_staleInvoices (distinct : (ledger.invoices.map (·.id)).Nodup) (asOf : ℤ)
    (items : List ExceptionItem) :
    ((ledger.staleInvoices asOf items).map (·.referenceId)).Nodup := by
  have sub : List.Sublist ((ledger.staleInvoices asOf items).map (·.referenceId))
      (ledger.invoices.map (·.id)) := by
    unfold Ledger.staleInvoices
    dsimp only
    induction ledger.invoices with
    | nil => exact .slnil
    | cons invoice rest ih =>
        rw [List.filterMap_cons]
        split
        · exact ih.cons _
        · rename_i item chosen
          have reference : item.referenceId = invoice.id := by
            split at chosen
            · cases chosen
            · split_ifs at chosen
              cases chosen
              rfl
          rw [List.map_cons, List.map_cons, reference]
          exact ih.cons_cons _
  exact distinct.sublist sub

/-- The stale invoices of the exceptions are told from the stale transactions by their text. -/
theorem OpenRows.staleExceptions (early : asOf.toDay < lastDay)
    (rows : OpenRows ledger zone asOf receivables payables) :
    ∃ stale, ledger.staleExceptions zone asOf = .ok stale ∧
      stale.filter (fun item => decide (item.detail = "票据超过 90 天未核销")) =
        ledger.staleInvoices asOf.toDay (openItems receivables payables) := by
  have money : ∃ openMoney, ledger.openMoney zone asOf = .ok openMoney := by
    rw [Ledger.openMoney, reportCutoff_of_lt early]
    exact ⟨_, rfl⟩
  rcases money with ⟨openMoney, read⟩
  refine ⟨ledger.staleInvoices asOf.toDay (openItems receivables payables) ++
    ledger.staleMoney zone asOf.toDay openMoney, ?_, ?_⟩
  · rw [Ledger.staleExceptions, rows.openInvoiceExceptions, read]
    rfl
  · have invoices : ∀ item ∈ ledger.staleInvoices asOf.toDay (openItems receivables payables),
        decide (item.detail = "票据超过 90 天未核销") = true := by
      intro item member
      rcases List.mem_filterMap.mp member with ⟨invoice, -, chosen⟩
      split at chosen
      · cases chosen
      · split_ifs at chosen
        cases chosen
        rfl
    have transactions : ∀ item ∈ ledger.staleMoney zone asOf.toDay openMoney,
        ¬decide (item.detail = "票据超过 90 天未核销") = true := by
      intro item member
      rcases List.mem_filterMap.mp member with ⟨row, -, chosen⟩
      dsimp only at chosen
      split_ifs at chosen
      cases chosen
      change ¬decide ("资金超过 90 天未核销" = "票据超过 90 天未核销") = true
      decide
    rw [List.filter_append, List.filter_eq_self.mpr invoices, List.filter_eq_nil_iff.mpr transactions,
      List.append_nil]

end Stale

/-! ## The whole dashboard -/

/-- The figures of a month add up: those of the buckets to those of the open invoices, those of the
days to those of the transactions; and the stale invoices are those in the oldest bucket. -/
structure DashboardConserved (ledger : Ledger) (zone : Zone) (month : Date)
    (payload : DashboardPayload) (receivables payables : List OpenInvoiceRow)
    (stale : List ExceptionItem) : Prop where
  receivableRows : RowsOfOpen ledger zone .output (monthEnd month) receivables
  payableRows : RowsOfOpen ledger zone .input (monthEnd month) payables
  receivableSum : (payload.receivableAging.map (·.amount)).sum = payload.receivables ∧
    payload.receivables = (receivables.map (·.openAmount)).sum
  payableSum : (payload.payableDueBuckets.map (·.amount)).sum = payload.payables ∧
    payload.payables = (payables.map (·.openAmount)).sum
  agingBuckets : payload.receivableAging = agingLabels.map fun label =>
    ⟨label, total (fun row => decide (row.agingBucket = label)) (·.openAmount) receivables⟩
  dueBuckets : payload.payableDueBuckets = dueLabels.map fun label => ⟨label,
    total (fun row => decide (dueLabel row.dueDate row.issueDate (monthEnd month) = label))
      (·.openAmount) payables⟩
  oneBucket : (∀ row ∈ receivables, agingLabels.count row.agingBucket = 1) ∧
    ∀ row ∈ payables, dueLabels.count (dueLabel row.dueDate row.issueDate (monthEnd month)) = 1
  days : payload.dailyCashflow.map (·.date) =
    daysBetween (monthStart month).toDay (monthEnd month).toDay
  daily : ∀ day ∈ payload.dailyCashflow, day.inflow = ledger.movedOn zone .inflow day.date ∧
    day.outflow = ledger.movedOn zone .outflow day.date
  inflow : payload.monthInflow = (payload.dailyCashflow.map (·.inflow)).sum ∧
    payload.monthInflow = total (fun money => decide ((monthStart month).toDay ≤
      zone.localDay money.occurredAt ∧ zone.localDay money.occurredAt ≤ (monthEnd month).toDay) &&
        decide (money.direction = .inflow)) (·.amount) ledger.transactions
  outflow : payload.monthOutflow = (payload.dailyCashflow.map (·.outflow)).sum ∧
    payload.monthOutflow = total (fun money => decide ((monthStart month).toDay ≤
      zone.localDay money.occurredAt ∧ zone.localDay money.occurredAt ≤ (monthEnd month).toDay) &&
        decide (money.direction = .outflow)) (·.amount) ledger.transactions
  staleInvoices : ∀ id amount, (∃ item ∈ stale, item.detail = "票据超过 90 天未核销" ∧
      item.referenceId = id ∧ item.amount = some amount) ↔
    ∃ row ∈ receivables ++ payables, row.invoiceId = id ∧ row.openAmount = amount ∧
      row.agingBucket = "90+"
  staleOnce : ((stale.filter fun item => decide (item.detail = "票据超过 90 天未核销")).map
    (·.referenceId)).Nodup

theorem openInvoiceRows_of_lt {asOf : Date} (early : asOf.toDay < lastDay) (ledger : Ledger)
    (zone : Zone) (direction : InvoiceDirection) :
    ∃ rows, ledger.openInvoiceRows zone direction asOf = .ok rows := by
  rw [Ledger.openInvoiceRows, reportCutoff_of_lt early]
  exact ⟨_, rfl⟩

theorem labelTotals_total (labels : List String) (label : OpenInvoiceRow → String)
    (rows : List OpenInvoiceRow) : labelTotals labels label rows = labels.map fun wanted =>
      ⟨wanted, total (fun row => decide (label row = wanted)) (·.openAmount) rows⟩ := by
  simp only [labelTotals_eq, Bool.and_true]

/-- Inside the calendar the dashboard is computed from the days and from the open invoices. -/
theorem dashboardPayload_of_inside {ledger : Ledger} {zone : Zone} {month : Date}
    {receivables payables : List OpenInvoiceRow} (after : 1 < (monthStart month).toDay)
    (early : (monthEnd month).toDay < lastDay)
    (rows : OpenRows ledger zone (monthEnd month) receivables payables) :
    ∃ payload, ledger.dashboardPayload zone month = .ok payload ∧
      payload.dailyCashflow = (daysBetween (monthStart month).toDay (monthEnd month).toDay).map
        (fun day => ⟨day, ledger.movedOn zone .inflow day, ledger.movedOn zone .outflow day⟩) ∧
      payload.receivableAging = labelTotals agingLabels (·.agingBucket) receivables ∧
      payload.payableDueBuckets = labelTotals dueLabels
        (fun row => dueLabel row.dueDate row.issueDate (monthEnd month)) payables ∧
      payload.receivables = (receivables.map (·.openAmount)).sum ∧
      payload.payables = (payables.map (·.openAmount)).sum ∧
      payload.monthInflow = (payload.dailyCashflow.map (·.inflow)).sum ∧
      payload.monthOutflow = (payload.dailyCashflow.map (·.outflow)).sum := by
  rw [Ledger.dashboardPayload, cashflow_of_inside after early, rows.receivablesRead,
    rows.payablesRead, reportCutoff_of_lt early]
  exact ⟨_, rfl, rfl, rfl, rfl, rfl, rfl, rfl, rfl⟩

/-- The first and the last month of the calendar have no dashboard. -/
theorem dashboardPayload_of_outside {zone : Zone} {month : Date} (ledger : Ledger)
    (outside : (monthStart month).toDay ≤ 1 ∨ lastDay ≤ (monthEnd month).toDay) :
    ledger.dashboardPayload zone month = .error .overflow := by
  rw [Ledger.dashboardPayload, Ledger.cashflow, cutoffBefore, require]
  by_cases after : 1 < (monthStart month).toDay
  · have late : ¬(monthEnd month).toDay < lastDay := by omega
    rw [if_pos after, reportCutoff_of_not_lt late]
    rfl
  · rw [if_neg after]
    rfl

/-- After every run the dashboard of a month conserves its figures; only for the first and the last
month of the calendar it overflows. -/
theorem dashboard_conserves (site : Installation) (directory : Directory)
    (operations : List Operation) (zone : Zone) (month : Date) :
    (((monthStart month).toDay ≤ 1 ∨ lastDay ≤ (monthEnd month).toDay) ∧
      (run site directory operations).dashboardPayload zone month = .error .overflow) ∨
    ∃ payload receivables payables stale,
      (run site directory operations).dashboardPayload zone month = .ok payload ∧
      (run site directory operations).receivablesAsOf zone (monthEnd month) = .ok receivables ∧
      (run site directory operations).payablesAsOf zone (monthEnd month) = .ok payables ∧
      (run site directory operations).staleExceptions zone (monthEnd month) = .ok stale ∧
      DashboardConserved (run site directory operations) zone month payload receivables payables
        stale := by
  have distinct := (run_sound site directory operations).invoiceIds
  generalize run site directory operations = ledger at distinct
  by_cases outside : (monthStart month).toDay ≤ 1 ∨ lastDay ≤ (monthEnd month).toDay
  · exact .inl ⟨outside, dashboardPayload_of_outside ledger outside⟩
  obtain ⟨after, early⟩ : 1 < (monthStart month).toDay ∧ (monthEnd month).toDay < lastDay := by
    simpa only [not_or, not_le] using outside
  rcases openInvoiceRows_of_lt early ledger zone .output with ⟨receivables, receivablesRead⟩
  rcases openInvoiceRows_of_lt early ledger zone .input with ⟨payables, payablesRead⟩
  have rows : OpenRows ledger zone (monthEnd month) receivables payables :=
    ⟨receivablesRead, payablesRead⟩
  rcases rows.staleExceptions early with ⟨stale, staleRead, ofInvoices⟩
  rcases dashboardPayload_of_inside after early rows with
    ⟨payload, read, days, aging, due, sumReceivables, sumPayables, inflow, outflow⟩
  have agingCovered : ∀ row ∈ receivables, row.agingBucket ∈ agingLabels := by
    intro row member
    rcases rows.exists_invoice early (List.mem_append_left _ member) with ⟨invoice, -, same⟩
    rw [same]
    exact agingBucket_mem _ _
  have dueCovered : ∀ row ∈ payables,
      dueLabel row.dueDate row.issueDate (monthEnd month) ∈ dueLabels :=
    fun row _ => dueLabel_mem _ _ _
  refine .inr ⟨payload, receivables, payables, stale, read, receivablesRead, payablesRead,
    staleRead, ?_⟩
  constructor
  case receivableRows => exact rowsOfOpen_openInvoiceRows early distinct receivablesRead
  case payableRows => exact rowsOfOpen_openInvoiceRows early distinct payablesRead
  case receivableSum =>
    rw [aging, sumReceivables, sum_labelTotals (by decide) agingCovered]
    exact ⟨rfl, rfl⟩
  case payableSum =>
    rw [due, sumPayables, sum_labelTotals (by decide) dueCovered]
    exact ⟨rfl, rfl⟩
  case agingBuckets => rw [aging, labelTotals_total]
  case dueBuckets => rw [due, labelTotals_total]
  case oneBucket =>
    constructor
    · intro row member
      exact List.count_eq_one_of_mem (by decide) (agingCovered row member)
    · intro row member
      exact List.count_eq_one_of_mem (by decide) (dueCovered row member)
  case days => rw [days, List.map_map, Function.comp_def, List.map_id']
  case daily =>
    intro day member
    rw [days] at member
    rcases List.mem_map.mp member with ⟨date, -, rfl⟩
    exact ⟨rfl, rfl⟩
  case inflow =>
    refine ⟨inflow, ?_⟩
    rw [inflow, days, List.map_map, ← sum_movedOn]
    rfl
  case outflow =>
    refine ⟨outflow, ?_⟩
    rw [outflow, days, List.map_map, ← sum_movedOn]
    rfl
  case staleInvoices =>
    intro id amount
    rw [← rows.staleInvoices_iff early distinct, ← ofInvoices]
    simp only [List.mem_filter, decide_eq_true_eq, and_assoc]
  case staleOnce =>
    rw [ofInvoices]
    exact nodup_staleInvoices distinct _ _

end Finrec
