import Finrec.Reporting.History
import Finrec.Reporting.SourceFiles
import Finrec.Reporting.SupplierViews

/-!
# Reports of closed days

A report as of a day is put together from rows that go on changing: invoices are
annulled, reconciliations are made and given back.  What is stamped from the
cutoff of the day on leaves the report alone, but for the flag that offers an
invoice for reconciliation.
-/

namespace Finrec

open Calendar Checks

namespace Ledger

variable {before middle after : Ledger} {cutoff : ℤ}

/-- The invoice was normal at the cutoff, as far as the audit log tells. -/
def CountsAt (ledger : Ledger) (cutoff : ℤ) (invoice : Invoice) : Prop :=
  invoice.status = .normal ∨ ledger.statusChangesAfter cutoff invoice.id = true

theorem statusChangesAfter_eq (ledger : Ledger) (cutoff : ℤ) (invoice : Uuid) :
    ledger.statusChangesAfter cutoff invoice =
      (ledger.statusChanges invoice).any fun entry => decide (cutoff ≤ entry.createdAt) := by
  rw [statusChangesAfter, statusChanges, List.any_filter]
  congr 1
  funext entry
  simp only [← Bool.decide_and, and_assoc]

/-- The later ledger holds the earlier records in their places, and counts the same invoices. -/
structure Continues (cutoff : ℤ) (before after : Ledger) : Prop where
  invoices : ∃ (evolve : Invoice → Invoice) (added : List Invoice),
    after.invoices = before.invoices.map evolve ++ added ∧ ∀ invoice ∈ before.invoices,
      evolve invoice = { invoice with status := (evolve invoice).status } ∧
        (after.CountsAt cutoff (evolve invoice) ↔ before.CountsAt cutoff invoice)
  transactions : before.transactions <+: after.transactions

namespace Continues

theorem refl (ledger : Ledger) : Continues cutoff ledger ledger :=
  ⟨⟨id, [], by simp, fun _ _ => ⟨rfl, Iff.rfl⟩⟩, List.prefix_rfl⟩

theorem trans (earlier : Continues cutoff before middle) (later : Continues cutoff middle after) :
    Continues cutoff before after := by
  rcases earlier.invoices with ⟨first, firstAdded, firstList, firstEach⟩
  rcases later.invoices with ⟨second, secondAdded, secondList, secondEach⟩
  refine ⟨⟨second ∘ first, firstAdded.map second ++ secondAdded, ?_, ?_⟩,
    earlier.transactions.trans later.transactions⟩
  · rw [secondList, firstList, List.map_append, List.map_map, List.append_assoc]
  · intro invoice member
    have middleMem : first invoice ∈ middle.invoices := by
      rw [firstList]
      exact List.mem_append_left _ (List.mem_map_of_mem member)
    rcases firstEach invoice member with ⟨firstFields, firstCounts⟩
    rcases secondEach (first invoice) middleMem with ⟨secondFields, secondCounts⟩
    refine ⟨?_, secondCounts.trans firstCounts⟩
    rw [Function.comp_apply, secondFields, firstFields]

theorem of_move (sound : before.Sound) (move : LedgerMove (cutoff ≤ ·) before after) :
    Continues cutoff before after := by
  have transactions : before.transactions <+: after.transactions := by
    rcases Keyed.transactions_of_move move with same | ⟨money, -, added⟩
    · exact same ▸ List.prefix_rfl
    · exact added ▸ List.prefix_append _ _
  have unchanged {invoice : Invoice}
      (changes : after.statusChanges invoice.id = before.statusChanges invoice.id) :
      after.CountsAt cutoff invoice ↔ before.CountsAt cutoff invoice := by
    rw [CountsAt, CountsAt, statusChangesAfter_eq, statusChangesAfter_eq, changes]
  refine ⟨?_, transactions⟩
  cases move.invoices with
  | kept invoices changes =>
      refine ⟨id, [], by simpa using invoices, ?_⟩
      exact fun invoice _ => ⟨rfl, unchanged (changes invoice.id)⟩
  | added invoice insertable invoices changes =>
      refine ⟨id, [invoice], by simpa using invoices, ?_⟩
      exact fun invoice _ => ⟨rfl, unchanged (changes invoice.id)⟩
  | ended existing status batch row actor now existingMem normal endStatus late invoices changes =>
      refine ⟨Invoice.withStatus existing.id status, [], by simpa using invoices, ?_⟩
      intro invoice member
      refine ⟨Invoice.withStatus_eq _ _ _, ?_⟩
      by_cases same : existing.id = invoice.id
      · have sameRow : existing = invoice :=
          List.inj_on_of_nodup_map sound.invoiceIds existingMem member same
        subst sameRow
        -- the entry of the change tells that it was normal before
        have changed : after.statusChangesAfter cutoff existing.id = true := by
          rw [statusChangesAfter_eq, changes, if_pos rfl, List.any_append]
          simp [statusEntry, late]
        refine iff_of_true (.inr ?_) (.inl normal)
        rw [Invoice.withStatus_id]
        exact changed
      · have kept : invoice.withStatus existing.id status = invoice := by
          simp [Invoice.withStatus, Ne.symm same]
        rw [kept]
        apply unchanged
        rw [changes, if_neg same, List.append_nil]

theorem of_runFrom {site : Installation} {ledger : Ledger} (sound : ledger.Sound)
    {operations : List Operation}
    (late : ∀ operation ∈ operations, operation.Stamped (cutoff ≤ ·)) :
    Continues cutoff ledger (runFrom site ledger operations) := by
  let kept : Ledger → Prop := fun reached => reached.Sound ∧ Continues cutoff ledger reached
  have last : kept (runFrom site ledger operations) := by
    refine runFrom_stamped kept ⟨sound, refl ledger⟩ ?_ late
    rintro before after ⟨soundBefore, continues⟩ move
    exact ⟨moves_sound soundBefore (.single move), continues.trans (of_move soundBefore move)⟩
  exact last.2

end Continues

end Ledger

/-- Nothing that came in later is dated up to the day, and the master data are the same. -/
structure NothingBackdated (before after : Ledger) (zone : Zone) (asOf : Date) : Prop where
  directory : after.directory = before.directory
  invoices : ∀ invoice ∈ after.invoices, invoice.issueDate.toDay ≤ asOf.toDay →
    ∃ old ∈ before.invoices, old.id = invoice.id
  transactions : ∀ money ∈ after.transactions, money.occurredAt < zone.cutoff asOf.toDay →
    ∃ old ∈ before.transactions, old.id = money.id

/-! ## What a report shows of a record -/

/-- An invoice record without what may change after the day. -/
def SupplierInvoiceRecord.closed (record : SupplierInvoiceRecord) : SupplierInvoiceRecord :=
  { record with invoice := { record.invoice with status := .normal }, currentOpenAmount := 0 }

/-- An entry without the offer to reconcile. -/
def SupplierLedgerRow.closed (row : SupplierLedgerRow) : SupplierLedgerRow :=
  { row with canReconcile := false }

section Views

variable {invoices invoices' : List SupplierInvoiceRecord}
  {payments payments' : List SupplierPaymentRecord}

/-- The filters and the order of the query commute with closing. -/
theorem map_closed_query (env : Env) (search : String) (id : Option Uuid)
    (same : invoices.map SupplierInvoiceRecord.closed =
      invoices'.map SupplierInvoiceRecord.closed) :
    ((invoices.filter fun record => selectsSupplier env search id
        record.counterparty).insertionSort SupplierInvoiceRecord.Precedes).map
          SupplierInvoiceRecord.closed =
      ((invoices'.filter fun record => selectsSupplier env search id
        record.counterparty).insertionSort SupplierInvoiceRecord.Precedes).map
          SupplierInvoiceRecord.closed := by
  have closing (records : List SupplierInvoiceRecord) :
      ((records.filter fun record => selectsSupplier env search id
        record.counterparty).insertionSort SupplierInvoiceRecord.Precedes).map
          SupplierInvoiceRecord.closed =
      (((records.map SupplierInvoiceRecord.closed).filter fun record =>
        selectsSupplier env search id record.counterparty).insertionSort
          SupplierInvoiceRecord.Precedes) := by
    have sorted := List.map_insertionSort SupplierInvoiceRecord.Precedes
      SupplierInvoiceRecord.Precedes SupplierInvoiceRecord.closed
      (records.filter fun record => selectsSupplier env search id record.counterparty)
      fun _ _ _ _ => Iff.rfl
    rw [sorted, List.filter_map]
    rfl
  rw [closing, closing, same]

theorem supplierSummaryRows_closed (invoices : List SupplierInvoiceRecord)
    (payments : List SupplierPaymentRecord) :
    supplierSummaryRows (invoices.map SupplierInvoiceRecord.closed) payments =
      supplierSummaryRows invoices payments := by
  rw [supplierSummaryRows, rowsByCounterparty, Groups.gather, Groups.gather, List.foldl_map]
  rfl

/-- Summaries do not show what may change after the day. -/
theorem supplierSummaryRows_congr
    (same : invoices.map SupplierInvoiceRecord.closed =
      invoices'.map SupplierInvoiceRecord.closed) :
    supplierSummaryRows invoices payments = supplierSummaryRows invoices' payments := by
  rw [← supplierSummaryRows_closed invoices, same, supplierSummaryRows_closed]

theorem withRunningBalances_closed (balance : ℤ) (rows : List SupplierLedgerRow) :
    (SupplierLedgerRow.withRunningBalances balance rows).map SupplierLedgerRow.closed =
      SupplierLedgerRow.withRunningBalances balance (rows.map SupplierLedgerRow.closed) := by
  induction rows generalizing balance with
  | nil => rfl
  | cons row rest ih =>
      rw [SupplierLedgerRow.withRunningBalances, List.map_cons, ih, List.map_cons,
        SupplierLedgerRow.withRunningBalances]
      rfl

/-- A closed entry shows the closed record and its source file. -/
theorem ledgerRows_closed (ledger : Ledger) (invoices : List SupplierInvoiceRecord)
    (payments : List SupplierPaymentRecord) :
    (ledgerRows ledger invoices payments).map SupplierLedgerRow.closed =
      (((invoices.map SupplierInvoiceRecord.closed).map fun record =>
          (SupplierLedgerRow.ofInvoice ledger record).closed) ++
        payments.map fun record =>
          (SupplierLedgerRow.ofPayment ledger record).closed).insertionSort
            SupplierLedgerRow.Precedes := by
  have sorted := List.map_insertionSort SupplierLedgerRow.Precedes SupplierLedgerRow.Precedes
    SupplierLedgerRow.closed (invoices.map (SupplierLedgerRow.ofInvoice ledger) ++
      payments.map (SupplierLedgerRow.ofPayment ledger)) fun _ _ _ _ => Iff.rfl
  rw [ledgerRows, sorted, List.map_append, List.map_map, List.map_map, List.map_map]
  rfl

/-- The entries of a supplier in two ledgers. -/
theorem ledgerEntries_closed {before after : Ledger}
    (same : invoices'.map SupplierInvoiceRecord.closed =
      invoices.map SupplierInvoiceRecord.closed)
    (invoiceFiles : ∀ record ∈ invoices, after.sourceFileId record.invoice.importBatch =
      before.sourceFileId record.invoice.importBatch)
    (paymentFiles : ∀ record ∈ payments, after.sourceFileId record.payment.importBatch =
      before.sourceFileId record.payment.importBatch) :
    (SupplierLedgerRow.withRunningBalances 0 (ledgerRows after invoices' payments)).map
        SupplierLedgerRow.closed =
      (SupplierLedgerRow.withRunningBalances 0 (ledgerRows before invoices payments)).map
        SupplierLedgerRow.closed := by
  rw [withRunningBalances_closed, withRunningBalances_closed, ledgerRows_closed,
    ledgerRows_closed, same, List.map_map, List.map_map]
  congr 3
  · apply List.map_congr_left
    intro record member
    simp only [Function.comp_apply, SupplierLedgerRow.ofInvoice, SupplierInvoiceRecord.closed,
      SupplierLedgerRow.closed, invoiceFiles record member]
  · apply List.map_congr_left
    intro record member
    simp only [SupplierLedgerRow.ofPayment, SupplierLedgerRow.closed,
      paymentFiles record member]

end Views

/-! ## Records of the two ledgers -/

section Records

variable {before after : Ledger} {env : Env} {asOf : Date}

/-- What was known of an invoice at the cutoff is known later. -/
theorem supplierInvoiceRecord_closed {cutoff : ℤ} {day : ℤ} {invoice later : Invoice}
    (directory : after.directory = before.directory)
    (amounts : ∀ id, after.historicalAmount cutoff (·.invoice) id =
      before.historicalAmount cutoff (·.invoice) id)
    (fields : later = { invoice with status := later.status })
    (counts : after.CountsAt cutoff later ↔ before.CountsAt cutoff invoice) :
    (after.supplierInvoiceRecord cutoff day later).map SupplierInvoiceRecord.closed =
      (before.supplierInvoiceRecord cutoff day invoice).map SupplierInvoiceRecord.closed := by
  obtain ⟨status, rfl⟩ : ∃ status, later = { invoice with status := status } := ⟨_, fields⟩
  have sameSupplier : after.counterparty? invoice.counterparty =
      before.counterparty? invoice.counterparty := by
    rw [Ledger.counterparty?, directory]
    rfl
  rw [Ledger.CountsAt, Ledger.CountsAt] at counts
  simp only [Ledger.supplierInvoiceRecord, sameSupplier]
  cases before.counterparty? invoice.counterparty with
  | none => rfl
  | some supplier =>
      simp only [Option.bind_eq_bind, Option.bind_some, counts, amounts]
      split_ifs <;> rfl

/-- The invoice records of a closed day. -/
theorem allInvoiceRecords_closed
    (continues : Ledger.Continues (env.zone.cutoff asOf.toDay) before after) (sound : after.Sound)
    (amounts : ∀ id, after.historicalAmount (env.zone.cutoff asOf.toDay) (·.invoice) id =
      before.historicalAmount (env.zone.cutoff asOf.toDay) (·.invoice) id)
    (nothing : NothingBackdated before after env.zone asOf) :
    (after.allInvoiceRecords env asOf).map SupplierInvoiceRecord.closed =
      (before.allInvoiceRecords env asOf).map SupplierInvoiceRecord.closed := by
  rcases continues.invoices with ⟨evolve, added, list, each⟩
  have distinct := sound.invoiceIds
  rw [list, List.map_append, List.map_map, List.nodup_append] at distinct
  -- an invoice that came in later has another key, so it is dated later
  have outside : added.filterMap
      (after.supplierInvoiceRecord (env.zone.cutoff asOf.toDay) asOf.toDay) = [] := by
    rw [List.filterMap_eq_nil_iff]
    intro invoice member
    have tooLate : ¬invoice.issueDate.toDay ≤ asOf.toDay := by
      intro dated
      have listed : invoice ∈ after.invoices := by
        rw [list]
        exact List.mem_append_right _ member
      rcases nothing.invoices invoice listed dated with ⟨old, oldMem, sameId⟩
      refine distinct.2.2 old.id ?_ invoice.id (List.mem_map_of_mem member) sameId
      refine List.mem_map.mpr ⟨old, oldMem, ?_⟩
      rw [Function.comp_apply, (each old oldMem).1]
    rw [Ledger.supplierInvoiceRecord]
    cases after.counterparty? invoice.counterparty with
    | none => rfl
    | some supplier => simp [tooLate]
  rw [Ledger.allInvoiceRecords, Ledger.allInvoiceRecords, list, List.filterMap_append, outside,
    List.append_nil, List.filterMap_map, List.map_filterMap, List.map_filterMap]
  apply List.filterMap_congr
  intro invoice member
  rcases each invoice member with ⟨fields, counts⟩
  exact supplierInvoiceRecord_closed nothing.directory amounts fields counts

theorem supplierPaymentRecord_congr {cutoff : ℤ} (directory : after.directory = before.directory)
    (amounts : ∀ id, after.historicalAmount cutoff (·.transaction) id =
      before.historicalAmount cutoff (·.transaction) id) (zone : Zone) (money : MoneyTransaction) :
    after.supplierPaymentRecord zone cutoff money =
      before.supplierPaymentRecord zone cutoff money := by
  have sameSupplier (id : Uuid) : after.counterparty? id = before.counterparty? id := by
    rw [Ledger.counterparty?, directory]
    rfl
  have suppliers : money.counterparty.bind after.counterparty? =
      money.counterparty.bind before.counterparty? := by
    cases money.counterparty with
    | none => rfl
    | some id => exact sameSupplier id
  rw [Ledger.supplierPaymentRecord, Ledger.supplierPaymentRecord, suppliers]
  simp only [amounts]

/-- The payment records of a closed day. -/
theorem allPaymentRecords_eq
    (continues : Ledger.Continues (env.zone.cutoff asOf.toDay) before after) (sound : after.Sound)
    (amounts : ∀ id, after.historicalAmount (env.zone.cutoff asOf.toDay) (·.transaction) id =
      before.historicalAmount (env.zone.cutoff asOf.toDay) (·.transaction) id)
    (nothing : NothingBackdated before after env.zone asOf) :
    after.allPaymentRecords env asOf = before.allPaymentRecords env asOf := by
  rcases continues.transactions with ⟨added, list⟩
  have distinct := sound.transactionIds
  rw [← list, List.map_append, List.nodup_append] at distinct
  have outside : added.filterMap
      (after.supplierPaymentRecord env.zone (env.zone.cutoff asOf.toDay)) = [] := by
    rw [List.filterMap_eq_nil_iff]
    intro money member
    have tooLate : ¬money.occurredAt < env.zone.cutoff asOf.toDay := by
      intro dated
      have listed : money ∈ after.transactions := by
        rw [← list]
        exact List.mem_append_right _ member
      rcases nothing.transactions money listed dated with ⟨old, oldMem, sameId⟩
      exact distinct.2.2 old.id (List.mem_map_of_mem oldMem) money.id (List.mem_map_of_mem member)
        sameId
    rw [Ledger.supplierPaymentRecord]
    cases money.counterparty.bind after.counterparty? with
    | none => rfl
    | some supplier => simp [tooLate]
  rw [Ledger.allPaymentRecords, Ledger.allPaymentRecords, ← list, List.filterMap_append, outside,
    List.append_nil]
  apply List.filterMap_congr
  intro money member
  exact supplierPaymentRecord_congr nothing.directory amounts env.zone money

theorem invoice_of_supplierInvoiceRecord {ledger : Ledger} {cutoff day : ℤ} {invoice : Invoice}
    {record : SupplierInvoiceRecord}
    (selected : ledger.supplierInvoiceRecord cutoff day invoice = some record) :
    record.invoice = invoice := by
  simp only [Ledger.supplierInvoiceRecord, Option.bind_eq_bind, Option.bind_eq_some_iff] at selected
  rcases selected with ⟨supplier, -, selected⟩
  split_ifs at selected
  cases selected
  rfl

theorem payment_of_supplierPaymentRecord {ledger : Ledger} {zone : Zone} {cutoff : ℤ}
    {money : MoneyTransaction} {record : SupplierPaymentRecord}
    (selected : ledger.supplierPaymentRecord zone cutoff money = some record) :
    record.payment = money := by
  simp only [Ledger.supplierPaymentRecord, Option.bind_eq_bind, Option.bind_eq_some_iff]
    at selected
  rcases selected with ⟨supplier, -, selected⟩
  split_ifs at selected
  cases selected
  rfl

/-- The source files of the records of a report stay. -/
theorem sourceFileId_allInvoiceRecords (filed : before.Filed)
    (grown : before.sourceFiles <+: after.sourceFiles) {record : SupplierInvoiceRecord}
    (member : record ∈ before.allInvoiceRecords env asOf) :
    after.sourceFileId record.invoice.importBatch =
      before.sourceFileId record.invoice.importBatch := by
  rcases List.mem_filterMap.mp member with ⟨invoice, invoiceMem, selected⟩
  rw [invoice_of_supplierInvoiceRecord selected]
  exact (filed.invoices invoice invoiceMem).sourceFileId grown

theorem sourceFileId_allPaymentRecords (filed : before.Filed)
    (grown : before.sourceFiles <+: after.sourceFiles) {record : SupplierPaymentRecord}
    (member : record ∈ before.allPaymentRecords env asOf) :
    after.sourceFileId record.payment.importBatch =
      before.sourceFileId record.payment.importBatch := by
  rcases List.mem_filterMap.mp member with ⟨money, moneyMem, selected⟩
  rw [payment_of_supplierPaymentRecord selected]
  exact (filed.transactions money moneyMem).sourceFileId grown

/-! ## The reports -/

/-- The reports of a day are the same in two ledgers, but for the offers to reconcile. -/
structure SameReports (before after : Ledger) (env : Env) (asOf : Date) : Prop where
  summaries : ∀ search, after.supplierSummariesAsOf env asOf search =
    before.supplierSummariesAsOf env asOf search
  summary : ∀ id, after.supplierSummaryAsOf env id asOf = before.supplierSummaryAsOf env id asOf
  entries : ∀ id, (after.supplierLedgerAsOf env id asOf).map (List.map SupplierLedgerRow.closed) =
    (before.supplierLedgerAsOf env id asOf).map (List.map SupplierLedgerRow.closed)

theorem error_bind {α β : Type} (error : ServiceError) (next : α → Except ServiceError β) :
    ((.error error : Except ServiceError α) >>= next) = .error error := rfl

theorem ok_bind {α β : Type} (value : α) (next : α → Except ServiceError β) :
    ((.ok value : Except ServiceError α) >>= next) = next value := rfl

/-- The day after the last one has no cutoff, in whatever ledger. -/
theorem sameReports_of_not_lt (late : ¬asOf.toDay < lastDay)
    (directory : after.directory = before.directory) : SameReports before after env asOf := by
  have noRecords (ledger : Ledger) (search : String) (id : Option Uuid) :
      ledger.supplierInvoiceRecords env asOf search id = .error .overflow := by
    rw [Ledger.supplierInvoiceRecords, reportCutoff_of_not_lt late]
    rfl
  have sameSupplier (id : Uuid) : after.counterparty? id = before.counterparty? id := by
    rw [Ledger.counterparty?, directory]
    rfl
  constructor
  case summaries =>
    intro search
    simp only [Ledger.supplierSummariesAsOf, noRecords, error_bind]
  case summary =>
    intro id
    simp only [Ledger.supplierSummaryAsOf, noRecords, sameSupplier, error_bind]
  case entries =>
    intro id
    simp only [Ledger.supplierLedgerAsOf, noRecords, error_bind]

theorem sameReports_of_lt (early : asOf.toDay < lastDay)
    (directory : after.directory = before.directory)
    (invoices : (after.allInvoiceRecords env asOf).map SupplierInvoiceRecord.closed =
      (before.allInvoiceRecords env asOf).map SupplierInvoiceRecord.closed)
    (payments : after.allPaymentRecords env asOf = before.allPaymentRecords env asOf)
    (filed : before.Filed) (grown : before.sourceFiles <+: after.sourceFiles) :
    SameReports before after env asOf := by
  have sameSupplier (id : Uuid) : after.counterparty? id = before.counterparty? id := by
    rw [Ledger.counterparty?, directory]
    rfl
  constructor
  case summaries =>
    intro search
    rw [supplierSummariesAsOf_of_lt early, supplierSummariesAsOf_of_lt early, payments]
    congr 1
    exact supplierSummaryRows_congr (map_closed_query env (strip search) none invoices)
  case summary =>
    intro id
    rw [Ledger.supplierSummaryAsOf, Ledger.supplierSummaryAsOf, sameSupplier]
    simp only [supplierInvoiceRecords_of_lt early, supplierPaymentRecords_of_lt early, payments]
    cases (before.counterparty? id).filter (·.isSupplier) with
    | none => simp only [present, error_bind]
    | some supplier =>
        simp only [present, ok_bind]
        rw [supplierSummaryRows_congr (map_closed_query env "" (some id) invoices)]
  case entries =>
    intro id
    rw [Ledger.supplierLedgerAsOf, Ledger.supplierLedgerAsOf]
    simp only [supplierInvoiceRecords_of_lt early, supplierPaymentRecords_of_lt early, payments,
      ok_bind]
    apply congrArg Except.ok
    refine ledgerEntries_closed (map_closed_query env "" (some id) invoices) ?_ ?_
    · intro record member
      rw [List.mem_insertionSort] at member
      exact sourceFileId_allInvoiceRecords filed grown (List.mem_filter.mp member).1
    · intro record member
      rw [List.mem_insertionSort] at member
      exact sourceFileId_allPaymentRecords filed grown (List.mem_filter.mp member).1

end Records

/-- A run that goes on from the cutoff continues the ledger it goes on from. -/
theorem continues_run {site : Installation} {directory : Directory} {asOf : Date}
    {earlier later : List Operation}
    (late : ∀ operation ∈ later, operation.Stamped (site.env.zone.cutoff asOf.toDay ≤ ·)) :
    Ledger.Continues (site.env.zone.cutoff asOf.toDay) (run site directory earlier)
      (run site directory (earlier ++ later)) := by
  rw [run, run, runFrom_append]
  exact .of_runFrom (run_sound site directory earlier) late

/-- Once a day is over, its supplier reports stay: whatever is reconciled, given back, annulled,
staged or settled from the cutoff on, as long as no record dated up to the day comes in and the
master data are the same, changes nothing in them but the offers to reconcile. -/
theorem closed_reports_stable (site : Installation) (directory : Directory) (asOf : Date)
    (earlier later : List Operation)
    (late : ∀ operation ∈ later, operation.Stamped (site.env.zone.cutoff asOf.toDay ≤ ·))
    (nothing : NothingBackdated (run site directory earlier)
      (run site directory (earlier ++ later)) site.env.zone asOf) :
    SameReports (run site directory earlier) (run site directory (earlier ++ later)) site.env
      asOf := by
  have sound := run_sound site directory earlier
  have soundAfter := run_sound site directory (earlier ++ later)
  have split : run site directory (earlier ++ later) =
      runFrom site (run site directory earlier) later := runFrom_append _ _ _ _
  have filed : (run site directory earlier).Filed :=
    (runFrom_filed (.empty directory) (.empty directory) earlier).1
  have grown := (@runFrom_filed site _ filed (run_tallies site directory earlier) later).2
  have continues : Ledger.Continues (site.env.zone.cutoff asOf.toDay) (run site directory earlier)
      (run site directory (earlier ++ later)) := continues_run late
  have amounts (key : ReconciliationAllocation → Uuid) (id : Uuid) :
      (run site directory (earlier ++ later)).historicalAmount (site.env.zone.cutoff asOf.toDay)
        key id = (run site directory earlier).historicalAmount
          (site.env.zone.cutoff asOf.toDay) key id := by
    rw [split]
    exact runFrom_historicalAmount sound late key id
  rw [← split] at grown
  by_cases early : asOf.toDay < lastDay
  · exact sameReports_of_lt early nothing.directory
      (allInvoiceRecords_closed continues soundAfter (amounts _) nothing)
      (allPaymentRecords_eq continues soundAfter (amounts _) nothing) filed grown
  · exact sameReports_of_not_lt early nothing.directory

namespace Sample

/-- A part of the payment was reconciled on the day. -/
def closedDay : List Operation := pairImports ++ [reconcilePart]

/-- The reconciliation is given back at midnight. -/
def giveBack : Operation :=
  .reverseReconciliation finance 91 (some "错误") 63906422400000000

theorem closedDay_stamped {stamps : ℤ → Prop} (zero : stamps 0) :
    ∀ operation ∈ closedDay, operation.Stamped stamps := by
  intro operation member time draws
  have isZero : time = 0 := by
    simp only [closedDay, pairImports, List.cons_append, List.nil_append, List.mem_cons,
      List.not_mem_nil, or_false] at member
    rcases member with rfl | rfl | rfl | rfl | rfl
    · simpa [Operation.Draws, stageInvoices, stage] using draws
    · simpa [Operation.Draws, confirm] using draws
    · simpa [Operation.Draws, stageStatement, stage] using draws
    · simpa [Operation.Draws, confirm] using draws
    · simpa [Operation.Draws, reconcilePart] using draws
  exact isZero ▸ zero

theorem cutoff_tenth : (pairSite "正常").env.zone.cutoff tenth.toDay = 63906422400000000 := by
  decide +kernel

theorem giveBack_stamped : ∀ operation ∈ [giveBack],
    operation.Stamped ((pairSite "正常").env.zone.cutoff tenth.toDay ≤ ·) := by
  intro operation member time draws
  rw [List.mem_singleton] at member
  subst member
  rw [cutoff_tenth, show time = 63906422400000000 from draws]

/-- Giving back adds no record. -/
theorem giveBack_nothingBackdated : NothingBackdated
    (run (pairSite "正常") directory closedDay)
    (run (pairSite "正常") directory (closedDay ++ [giveBack])) (pairSite "正常").env.zone tenth := by
  have succeeds : reverseReconciliation finance 91 (some "错误") 63906422400000000
      (run (pairSite "正常") directory closedDay) =
        .ok ((run (pairSite "正常") directory closedDay).insertReversal
          ⟨91, finance.id, strip "错误", 63906422400000000⟩) := by
    have facts : finance.IsFinance ∧ strip "错误" ≠ "" ∧
        (run (pairSite "正常") directory closedDay).reconciliation? 91 = some partRow ∧
        (run (pairSite "正常") directory closedDay).isReversed partRow.id = false := by
      decide +kernel
    rcases facts with ⟨finance, given, found, notReversed⟩
    exact reverseReconciliation_eq_ok.mpr ⟨finance, _, rfl, given, partRow, found, notReversed, rfl⟩
  have step : run (pairSite "正常") directory (closedDay ++ [giveBack]) =
      (run (pairSite "正常") directory closedDay).insertReversal
        ⟨91, finance.id, strip "错误", 63906422400000000⟩ := by
    rw [run_snoc, Operation.step, giveBack, Operation.perform, succeeds]
  rw [step]
  exact ⟨rfl, fun invoice member _ => ⟨invoice, member, rfl⟩,
    fun money member _ => ⟨money, member, rfl⟩⟩

end Sample

theorem closed_reports_stable_given_back : SameReports
    (run (Sample.pairSite "正常") Sample.directory Sample.closedDay)
    (run (Sample.pairSite "正常") Sample.directory (Sample.closedDay ++ [Sample.giveBack]))
    (Sample.pairSite "正常").env Sample.tenth :=
  closed_reports_stable _ _ _ _ _ Sample.giveBack_stamped Sample.giveBack_nothingBackdated

/-! ## Open amounts of a closed day -/

namespace Ledger

variable {before after ledger : Ledger} {cutoff : ℤ}

/-- An amount that allocations may not exceed, in a ledger that may not know the record yet. -/
theorem Sound.activeAmount_bounds (sound : ledger.Sound) {key : ReconciliationAllocation → Uuid}
    {id : Uuid} {amount : ℤ} (positive : 0 ≤ amount)
    (known : (∃ allocation ∈ ledger.allocations, key allocation = id) →
      ledger.activeAmount key id ≤ amount) :
    0 ≤ ledger.activeAmount key id ∧ ledger.activeAmount key id ≤ amount := by
  refine ⟨sound.activeAmount_nonneg key id, ?_⟩
  by_cases named : ∃ allocation ∈ ledger.allocations, key allocation = id
  · exact known named
  · have unnamed : ∀ allocation ∈ ledger.allocations, key allocation ≠ id :=
      fun allocation member same => named ⟨allocation, member, same⟩
    rw [Sound.activeAmount_eq_zero unnamed]
    exact positive

/-- An invoice of the later ledger was within its bounds already. -/
theorem Continues.invoiceWithin (continues : Continues cutoff before after) (sound : before.Sound)
    (soundAfter : after.Sound) {invoice : Invoice} (member : invoice ∈ after.invoices) :
    0 ≤ before.activeAmount (·.invoice) invoice.id ∧
      before.activeAmount (·.invoice) invoice.id ≤ invoice.totalAmount := by
  apply sound.activeAmount_bounds (soundAfter.invoicesInRange invoice member).1.le
  rintro ⟨allocation, allocationMem, same⟩
  rcases (sound.allocationsFit allocation allocationMem).joined with
    ⟨-, -, -, old, oldMem, oldId, -⟩
  rcases continues.invoices with ⟨evolve, added, list, each⟩
  have fields := (each old oldMem).1
  have listed : evolve old ∈ after.invoices := by
    rw [list]
    exact List.mem_append_left _ (List.mem_map_of_mem oldMem)
  have evolvedId : (evolve old).id = old.id := by rw [fields]
  have evolvedTotal : (evolve old).totalAmount = old.totalAmount := by rw [fields]
  have isThis : evolve old = invoice := by
    apply List.inj_on_of_nodup_map soundAfter.invoiceIds listed member
    rw [evolvedId, oldId, same]
  have within := sound.invoicesWithin old oldMem
  rw [← evolvedId, ← evolvedTotal, isThis] at within
  exact within

theorem Continues.transactionWithin (continues : Continues cutoff before after)
    (sound : before.Sound) (soundAfter : after.Sound) {money : MoneyTransaction}
    (member : money ∈ after.transactions) :
    0 ≤ before.activeAmount (·.transaction) money.id ∧
      before.activeAmount (·.transaction) money.id ≤ money.amount := by
  apply sound.activeAmount_bounds (soundAfter.transactionsInRange money member).1.le
  rintro ⟨allocation, allocationMem, same⟩
  rcases (sound.allocationsFit allocation allocationMem).joined with
    ⟨-, -, -, -, -, -, old, oldMem, oldId, -⟩
  have isThis : old = money := by
    apply List.inj_on_of_nodup_map soundAfter.transactionIds
      (continues.transactions.subset oldMem) member
    rw [oldId, same]
  exact isThis ▸ sound.transactionsWithin old oldMem

end Ledger

section PastAmounts

variable {site : Installation} {directory : Directory} {asOf : Date} {earlier later : List Operation}
  (before : ∀ operation ∈ earlier, operation.Stamped (· < site.env.zone.cutoff asOf.toDay))
  (after : ∀ operation ∈ later, operation.Stamped (site.env.zone.cutoff asOf.toDay ≤ ·))

include before after

theorem historicalInvoiceOpen_run {invoice : Invoice}
    (member : invoice ∈ (run site directory (earlier ++ later)).invoices) :
    (run site directory (earlier ++ later)).historicalInvoiceOpen site.env.zone asOf.toDay
        invoice = (run site directory earlier).invoiceOpen invoice ∧
      0 ≤ (run site directory earlier).invoiceOpen invoice ∧
      (run site directory earlier).invoiceOpen invoice ≤ invoice.totalAmount := by
  have bounds := (continues_run after).invoiceWithin (run_sound site directory earlier)
    (run_sound site directory (earlier ++ later)) member
  rw [Ledger.historicalInvoiceOpen, Ledger.invoiceOpen,
    run_historicalAmount site directory before after]
  omega

theorem historicalTransactionOpen_run {money : MoneyTransaction}
    (member : money ∈ (run site directory (earlier ++ later)).transactions) :
    (run site directory (earlier ++ later)).historicalTransactionOpen site.env.zone asOf.toDay
        money = (run site directory earlier).transactionOpen money ∧
      0 ≤ (run site directory earlier).transactionOpen money ∧
      (run site directory earlier).transactionOpen money ≤ money.amount := by
  have bounds := (continues_run after).transactionWithin (run_sound site directory earlier)
    (run_sound site directory (earlier ++ later)) member
  rw [Ledger.historicalTransactionOpen, Ledger.transactionOpen,
    run_historicalAmount site directory before after]
  omega

end PastAmounts

/-- What a report of a day calls open is what the services called open when the day was over, and
so neither negative nor more than the record. -/
theorem past_open_amounts (site : Installation) (directory : Directory) (asOf : Date)
    (earlier later : List Operation)
    (before : ∀ operation ∈ earlier, operation.Stamped (· < site.env.zone.cutoff asOf.toDay))
    (after : ∀ operation ∈ later, operation.Stamped (site.env.zone.cutoff asOf.toDay ≤ ·)) :
    (∀ invoice ∈ (run site directory (earlier ++ later)).invoices,
      (run site directory (earlier ++ later)).historicalInvoiceOpen site.env.zone asOf.toDay
          invoice = (run site directory earlier).invoiceOpen invoice ∧
        0 ≤ (run site directory earlier).invoiceOpen invoice ∧
        (run site directory earlier).invoiceOpen invoice ≤ invoice.totalAmount) ∧
    ∀ money ∈ (run site directory (earlier ++ later)).transactions,
      (run site directory (earlier ++ later)).historicalTransactionOpen site.env.zone asOf.toDay
          money = (run site directory earlier).transactionOpen money ∧
        0 ≤ (run site directory earlier).transactionOpen money ∧
        (run site directory earlier).transactionOpen money ≤ money.amount :=
  ⟨fun _ member => historicalInvoiceOpen_run before after member,
    fun _ member => historicalTransactionOpen_run before after member⟩

/-- The report of the day shows as open what was open before the reconciliation was given back. -/
theorem past_open_amounts_given_back :
    let before := run (Sample.pairSite "正常") Sample.directory Sample.closedDay
    let after := run (Sample.pairSite "正常") Sample.directory
      (Sample.closedDay ++ [Sample.giveBack])
    (∀ invoice ∈ after.invoices, after.historicalInvoiceOpen (Sample.pairSite "正常").env.zone
      Sample.tenth.toDay invoice = before.invoiceOpen invoice) ∧
    ∀ money ∈ after.transactions, after.historicalTransactionOpen (Sample.pairSite "正常").env.zone
      Sample.tenth.toDay money = before.transactionOpen money := by
  intro before after
  have early : (0 : ℤ) < (Sample.pairSite "正常").env.zone.cutoff Sample.tenth.toDay := by
    rw [Sample.cutoff_tenth]
    decide
  rcases past_open_amounts _ _ _ _ _ (Sample.closedDay_stamped early) Sample.giveBack_stamped with
    ⟨ofInvoices, ofTransactions⟩
  exact ⟨fun invoice member => (ofInvoices invoice member).1,
    fun money member => (ofTransactions money member).1⟩

end Finrec
