import Finrec.Reconciliation.Drafts
import Finrec.Reconciliation.Presenters

/-!
# When a ready settlement can be confirmed

The settlement page calls a draft ready when its plan uses up both sides.  The
confirmation checks more than the page: the day of a transaction in UTC, the
status of an invoice, and that every record still has an open amount.  This
file proves that a ready draft is confirmed exactly when these three hold, and
shows a ready draft that is not.

The plan is an instance of the north-west corner rule, so its lines use up
every record and name no pair twice.
-/

namespace Finrec

open Checks Totals Transport

/-- What the confirmation asks of a ready draft. -/
structure Settleable (ledger : Ledger) (batch : SettlementBatch) : Prop where
  invoices : ∀ invoice ∈ ledger.invoices, invoice.id ∈ ledger.batchInvoiceIds batch.id →
    invoice.status = .normal ∧ 0 < ledger.invoiceOpen invoice
  transactions : ∀ money ∈ ledger.transactions,
    money.id ∈ ledger.batchTransactionIds batch.id →
      UtcDayWithin batch money ∧ 0 < ledger.transactionOpen money

theorem settleable_iff {ledger : Ledger} {batch : SettlementBatch} :
    Settleable ledger batch ↔
      (∀ invoice ∈ ledger.invoices, invoice.id ∈ ledger.batchInvoiceIds batch.id →
        invoice.status = .normal ∧ 0 < ledger.invoiceOpen invoice) ∧
      ∀ money ∈ ledger.transactions, money.id ∈ ledger.batchTransactionIds batch.id →
        UtcDayWithin batch money ∧ 0 < ledger.transactionOpen money :=
  ⟨fun settleable => ⟨settleable.invoices, settleable.transactions⟩,
    fun both => ⟨both.1, both.2⟩⟩

instance (ledger : Ledger) (batch : SettlementBatch) : Decidable (Settleable ledger batch) :=
  decidable_of_iff' _ settleable_iff

/-! ## The records of a batch -/

section Records

variable {ledger : Ledger} {batch : SettlementBatch}

theorem nodup_batchInvoiceIds (fits : ledger.DraftsFit) (id : Uuid) :
    (ledger.batchInvoiceIds id).Nodup := by
  apply List.Nodup.map_on _ (fits.invoicesDistinct.filter _)
  rintro ⟨batch, invoice⟩ member ⟨batch', invoice'⟩ member' same
  have ofBatch := of_decide_eq_true (List.mem_filter.mp member).2
  have ofBatch' := of_decide_eq_true (List.mem_filter.mp member').2
  simp only at ofBatch ofBatch' same
  rw [ofBatch, ofBatch', same]

theorem nodup_batchTransactionIds (fits : ledger.DraftsFit) (id : Uuid) :
    (ledger.batchTransactionIds id).Nodup := by
  apply List.Nodup.map_on _ (fits.transactionsDistinct.filter _)
  rintro ⟨batch, money⟩ member ⟨batch', money'⟩ member' same
  have ofBatch := of_decide_eq_true (List.mem_filter.mp member).2
  have ofBatch' := of_decide_eq_true (List.mem_filter.mp member').2
  simp only at ofBatch ofBatch' same
  rw [ofBatch, ofBatch', same]

theorem exists_batchInvoice (fits : ledger.DraftsFit) (batchMem : batch ∈ ledger.settlementBatches)
    {id : Uuid} (member : id ∈ ledger.batchInvoiceIds batch.id) :
    ∃ invoice ∈ ledger.invoices, invoice.id = id ∧ BatchInvoiceFits batch invoice := by
  rcases List.mem_map.mp member with ⟨item, itemMem, rfl⟩
  rcases List.mem_filter.mp itemMem with ⟨listed, ofBatch⟩
  rcases fits.invoicesFit item listed with ⟨row, rowMem, rowId, invoice, invoiceMem, rest⟩
  have sameBatch := List.inj_on_of_nodup_map fits.batchIds rowMem batchMem
    (rowId.trans (of_decide_eq_true ofBatch))
  rw [sameBatch] at rest
  exact ⟨invoice, invoiceMem, rest⟩

theorem exists_batchTransaction (fits : ledger.DraftsFit)
    (batchMem : batch ∈ ledger.settlementBatches) {id : Uuid}
    (member : id ∈ ledger.batchTransactionIds batch.id) :
    ∃ money ∈ ledger.transactions, money.id = id ∧ BatchTransactionFits batch money := by
  rcases List.mem_map.mp member with ⟨item, itemMem, rfl⟩
  rcases List.mem_filter.mp itemMem with ⟨listed, ofBatch⟩
  rcases fits.transactionsFit item listed with ⟨row, rowMem, rowId, money, moneyMem, rest⟩
  have sameBatch := List.inj_on_of_nodup_map fits.batchIds rowMem batchMem
    (rowId.trans (of_decide_eq_true ofBatch))
  rw [sameBatch] at rest
  exact ⟨money, moneyMem, rest⟩

/-- Reading the records of distinct keys, where each key has one, reads each key once. -/
theorem map_filterMap_key {Record : Type} {read : Uuid → Option Record} {key : Record → Uuid}
    {ids : List Uuid} (found : ∀ id ∈ ids, ∃ record, read id = some record ∧ key record = id) :
    (ids.filterMap read).map key = ids := by
  induction ids with
  | nil => rfl
  | cons id rest ih =>
      rcases found id (List.mem_cons_self ..) with ⟨record, isRead, keyEq⟩
      rw [List.filterMap_cons_some isRead, List.map_cons, keyEq,
        ih fun other member => found other (List.mem_cons_of_mem _ member)]

end Records

/-! ## The plan of a ready draft -/

section Plan

variable {Record : Type} {key : Record → Uuid} {items : List (SettlementItem Record)}

theorem distinct_planRecords (keysNodup : (items.map fun item => key item.record).Nodup) :
    Distinct (planRecords key items) := by
  simpa [Distinct, planRecords, Function.comp_def] using keysNodup

theorem nonneg_planRecords (key : Record → Uuid) (items : List (SettlementItem Record)) :
    Nonneg (planRecords key items) := by
  intro entry member
  rcases List.mem_map.mp member with ⟨item, -, rfl⟩
  simp only [SettlementItem.available]
  split_ifs
  · exact le_rfl
  · exact le_max_right ..

theorem available_eq {item : SettlementItem Record} (free : item.occupied = false)
    (positive : 0 < item.openAmount) : item.available = item.openAmount := by
  simp only [SettlementItem.available, free, Bool.false_eq_true, ↓reduceIte]
  exact max_eq_left positive.le

theorem sum_planRecords (key : Record → Uuid)
    (free : ∀ item ∈ items, item.occupied = false ∧ 0 < item.openAmount) :
    sum (planRecords key items) = freeTotal items := by
  induction items with
  | nil => rfl
  | cons item rest ih =>
      have itemFree := free item (List.mem_cons_self ..)
      have tail := ih fun other member => free other (List.mem_cons_of_mem _ member)
      simp only [sum, planRecords, freeTotal, List.map_cons, List.sum_cons, total_cons] at tail ⊢
      rw [tail, available_eq itemFree.1 itemFree.2, itemFree.1]
      simp

end Plan

section Items

variable {ledger : Ledger} {batch : SettlementBatch}

theorem invoiceItems_keys (sound : ledger.Sound) (fits : ledger.DraftsFit)
    (batchMem : batch ∈ ledger.settlementBatches) :
    ((ledger.invoiceItems batch.id).map fun item => item.record.id).Perm
      (ledger.batchInvoiceIds batch.id) := by
  have readKeys : ((ledger.batchInvoiceIds batch.id).filterMap ledger.invoice?).map Invoice.id =
      ledger.batchInvoiceIds batch.id := by
    apply map_filterMap_key
    intro id member
    rcases exists_batchInvoice fits batchMem member with ⟨invoice, invoiceMem, invoiceId, -⟩
    exact ⟨invoice, sound.invoice?_eq_some_iff.mpr ⟨invoiceMem, invoiceId⟩, invoiceId⟩
  have ordered := (List.perm_insertionSort
    (ByKeys (fun invoice : Invoice => invoice.issueDate.toDay) fun invoice => invoice.id)
    ((ledger.batchInvoiceIds batch.id).filterMap ledger.invoice?)).map Invoice.id
  rw [readKeys] at ordered
  simpa [Ledger.invoiceItems, orderInvoices, Function.comp_def] using ordered

theorem transactionItems_keys (sound : ledger.Sound) (fits : ledger.DraftsFit)
    (batchMem : batch ∈ ledger.settlementBatches) :
    ((ledger.transactionItems batch.id).map fun item => item.record.id).Perm
      (ledger.batchTransactionIds batch.id) := by
  have readKeys :
      ((ledger.batchTransactionIds batch.id).filterMap ledger.transaction?).map
        MoneyTransaction.id = ledger.batchTransactionIds batch.id := by
    apply map_filterMap_key
    intro id member
    rcases exists_batchTransaction fits batchMem member with ⟨money, moneyMem, moneyId, -⟩
    exact ⟨money, sound.transaction?_eq_some_iff.mpr ⟨moneyMem, moneyId⟩, moneyId⟩
  have ordered := (List.perm_insertionSort
    (ByKeys (fun money : MoneyTransaction => money.occurredAt) fun money => money.id)
    ((ledger.batchTransactionIds batch.id).filterMap ledger.transaction?)).map MoneyTransaction.id
  rw [readKeys] at ordered
  simpa [Ledger.transactionItems, orderTransactions, Function.comp_def] using ordered

theorem of_mem_invoiceItems (sound : ledger.Sound) {id : Uuid} {item : SettlementItem Invoice}
    (member : item ∈ ledger.invoiceItems id) :
    item.record ∈ ledger.invoices ∧ item.record.id ∈ ledger.batchInvoiceIds id ∧
      item.openAmount = ledger.invoiceOpen item.record ∧
      item.occupied = ledger.isOccupied id (·.invoice) item.record.id := by
  rcases List.mem_map.mp member with ⟨invoice, invoiceMem, rfl⟩
  rw [orderInvoices, List.mem_insertionSort, List.mem_filterMap] at invoiceMem
  rcases invoiceMem with ⟨other, otherMem, found⟩
  rcases sound.invoice?_eq_some_iff.mp found with ⟨listed, rfl⟩
  exact ⟨listed, otherMem, rfl, rfl⟩

theorem of_mem_transactionItems (sound : ledger.Sound) {id : Uuid}
    {item : SettlementItem MoneyTransaction} (member : item ∈ ledger.transactionItems id) :
    item.record ∈ ledger.transactions ∧ item.record.id ∈ ledger.batchTransactionIds id ∧
      item.openAmount = ledger.transactionOpen item.record ∧
      item.occupied = ledger.isOccupied id (·.transaction) item.record.id := by
  rcases List.mem_map.mp member with ⟨money, moneyMem, rfl⟩
  rw [orderTransactions, List.mem_insertionSort, List.mem_filterMap] at moneyMem
  rcases moneyMem with ⟨other, otherMem, found⟩
  rcases sound.transaction?_eq_some_iff.mp found with ⟨listed, rfl⟩
  exact ⟨listed, otherMem, rfl, rfl⟩

end Items

/-- The cells behind the plan of a batch. -/
def planCells (ledger : Ledger) (batch : Uuid) : List (Transport.Flow Uuid Uuid) :=
  fill (2 * ((ledger.invoiceItems batch).length + (ledger.transactionItems batch).length))
    (planRecords (·.id) (ledger.invoiceItems batch))
    (planRecords (·.id) (ledger.transactionItems batch))

/-- The line of a request for a cell. -/
def cellInput (cell : Transport.Flow Uuid Uuid) : AllocationInput :=
  ⟨cell.supply, cell.demand, .decimal (Decimal.ofCents cell.amount)⟩

theorem asAllocationInputs_plan (ledger : Ledger) (batch : Uuid) :
    asAllocationInputs (settlementContext ledger batch).allocationRows =
      (planCells ledger batch).map cellInput := by
  simp only [settlementContext, allocationPlan, planCells, asAllocationInputs, List.map_map]
  rfl

/-- What makes the cells of a plan a request that settles the batch. -/
structure CellsSettle (ledger : Ledger) (batch : SettlementBatch) (cells : List (Transport.Flow Uuid Uuid)) :
    Prop where
  nonempty : cells ≠ []
  distinct : (cells.map fun cell => (cell.supply, cell.demand)).Nodup
  positive : ∀ cell ∈ cells, 0 < cell.amount
  suppliesWithin : ∀ cell ∈ cells, cell.supply ∈ ledger.batchInvoiceIds batch.id
  demandsWithin : ∀ cell ∈ cells, cell.demand ∈ ledger.batchTransactionIds batch.id
  supplied : ∀ invoice ∈ ledger.invoices, invoice.id ∈ ledger.batchInvoiceIds batch.id →
    supplied cells invoice.id = ledger.invoiceOpen invoice
  demanded : ∀ money ∈ ledger.transactions,
    money.id ∈ ledger.batchTransactionIds batch.id →
      demanded cells money.id = ledger.transactionOpen money

/-- What the page establishes when it calls a draft ready. -/
structure Ready (ledger : Ledger) (batch : Uuid) : Prop where
  nonempty : planCells ledger batch ≠ []
  balanced : freeTotal (ledger.invoiceItems batch) = freeTotal (ledger.transactionItems batch)
  invoicesFree : ∀ item ∈ ledger.invoiceItems batch, item.occupied = false
  transactionsFree : ∀ item ∈ ledger.transactionItems batch, item.occupied = false

theorem ready_of_canConfirm {ledger : Ledger} {batch : Uuid}
    (canConfirm : (settlementContext ledger batch).canConfirm = true) : Ready ledger batch := by
  simp only [settlementContext, allocationPlan, Bool.and_eq_true, Bool.not_eq_true',
    List.isEmpty_eq_false_iff, decide_eq_true_eq, Bool.or_eq_false_iff, List.any_eq_false,
    Bool.not_eq_true, ne_eq, List.map_eq_nil_iff] at canConfirm
  rcases canConfirm with ⟨⟨nonempty, balanced⟩, invoicesFree, transactionsFree⟩
  exact ⟨nonempty, balanced, invoicesFree, transactionsFree⟩

section Settle

variable {ledger : Ledger} {batch : SettlementBatch}

theorem invoicesPositive (sound : ledger.Sound) (settleable : Settleable ledger batch) :
    ∀ item ∈ ledger.invoiceItems batch.id, 0 < item.openAmount := by
  intro item member
  rcases of_mem_invoiceItems sound member with ⟨listed, within, openEq, -⟩
  rw [openEq]
  exact (settleable.invoices _ listed within).2

theorem transactionsPositive (sound : ledger.Sound) (settleable : Settleable ledger batch) :
    ∀ item ∈ ledger.transactionItems batch.id, 0 < item.openAmount := by
  intro item member
  rcases of_mem_transactionItems sound member with ⟨listed, within, openEq, -⟩
  rw [openEq]
  exact (settleable.transactions _ listed within).2

/-- The entry of a record of the batch in the plan holds its whole open amount. -/
theorem mem_planRecords_invoice (sound : ledger.Sound) (fits : ledger.DraftsFit)
    (batchMem : batch ∈ ledger.settlementBatches) (ready : Ready ledger batch.id)
    (settleable : Settleable ledger batch) {invoice : Invoice} (listed : invoice ∈ ledger.invoices)
    (within : invoice.id ∈ ledger.batchInvoiceIds batch.id) :
    (invoice.id, ledger.invoiceOpen invoice) ∈
      planRecords (·.id) (ledger.invoiceItems batch.id) := by
  rw [← (invoiceItems_keys sound fits batchMem).mem_iff] at within
  rcases List.mem_map.mp within with ⟨item, itemMem, sameId⟩
  rcases of_mem_invoiceItems sound itemMem with ⟨itemListed, -, openEq, -⟩
  have sameInvoice := List.inj_on_of_nodup_map sound.invoiceIds itemListed listed sameId
  refine List.mem_map.mpr ⟨item, itemMem, ?_⟩
  change (item.record.id, item.available) = _
  rw [available_eq (ready.invoicesFree item itemMem) (invoicesPositive sound settleable item itemMem),
    openEq, sameInvoice]

theorem mem_planRecords_transaction (sound : ledger.Sound) (fits : ledger.DraftsFit)
    (batchMem : batch ∈ ledger.settlementBatches) (ready : Ready ledger batch.id)
    (settleable : Settleable ledger batch) {money : MoneyTransaction}
    (listed : money ∈ ledger.transactions)
    (within : money.id ∈ ledger.batchTransactionIds batch.id) :
    (money.id, ledger.transactionOpen money) ∈
      planRecords (·.id) (ledger.transactionItems batch.id) := by
  rw [← (transactionItems_keys sound fits batchMem).mem_iff] at within
  rcases List.mem_map.mp within with ⟨item, itemMem, sameId⟩
  rcases of_mem_transactionItems sound itemMem with ⟨itemListed, -, openEq, -⟩
  have sameMoney := List.inj_on_of_nodup_map sound.transactionIds itemListed listed sameId
  refine List.mem_map.mpr ⟨item, itemMem, ?_⟩
  change (item.record.id, item.available) = _
  rw [available_eq (ready.transactionsFree item itemMem)
    (transactionsPositive sound settleable item itemMem), openEq, sameMoney]

/-- The plan of a ready draft uses up every record of the batch. -/
theorem planCells_settle (sound : ledger.Sound) (fits : ledger.DraftsFit)
    (batchMem : batch ∈ ledger.settlementBatches) (ready : Ready ledger batch.id)
    (settleable : Settleable ledger batch) :
    CellsSettle ledger batch (planCells ledger batch.id) := by
  have invoiceKeys := invoiceItems_keys sound fits batchMem
  have transactionKeys := transactionItems_keys sound fits batchMem
  have suppliesNonneg := nonneg_planRecords (·.id) (ledger.invoiceItems batch.id)
  have demandsNonneg := nonneg_planRecords (·.id) (ledger.transactionItems batch.id)
  have suppliesDistinct : Distinct (planRecords (·.id) (ledger.invoiceItems batch.id)) :=
    distinct_planRecords (invoiceKeys.nodup_iff.mpr (nodup_batchInvoiceIds fits _))
  have demandsDistinct : Distinct (planRecords (·.id) (ledger.transactionItems batch.id)) :=
    distinct_planRecords (transactionKeys.nodup_iff.mpr (nodup_batchTransactionIds fits _))
  have balanced : sum (planRecords (·.id) (ledger.invoiceItems batch.id)) =
      sum (planRecords (·.id) (ledger.transactionItems batch.id)) := by
    rw [sum_planRecords _ fun item member =>
        ⟨ready.invoicesFree item member, invoicesPositive sound settleable item member⟩,
      sum_planRecords _ fun item member =>
        ⟨ready.transactionsFree item member, transactionsPositive sound settleable item member⟩]
    exact ready.balanced
  have enough : Enough
      (2 * ((ledger.invoiceItems batch.id).length + (ledger.transactionItems batch.id).length))
      (planRecords (·.id) (ledger.invoiceItems batch.id))
      (planRecords (·.id) (ledger.transactionItems batch.id)) := by
    simp only [Enough, planRecords, List.length_map]
    omega
  have usesUp := fill_balanced suppliesNonneg demandsNonneg suppliesDistinct demandsDistinct enough
    balanced
  have cellOf {cell : Transport.Flow Uuid Uuid} (member : cell ∈ planCells ledger batch.id) :=
    of_mem_fill suppliesNonneg demandsNonneg member
  constructor
  case nonempty => exact ready.nonempty
  case distinct => exact nodup_fill _ suppliesNonneg demandsNonneg suppliesDistinct demandsDistinct
  case positive => exact fun cell member => (cellOf member).1
  case suppliesWithin =>
    intro cell member
    rcases (cellOf member).2.1 with ⟨left, entryMem, -⟩
    rcases List.mem_map.mp entryMem with ⟨item, itemMem, same⟩
    have sameKey : item.record.id = cell.supply := congrArg Prod.fst same
    rw [← sameKey]
    exact (of_mem_invoiceItems sound itemMem).2.1
  case demandsWithin =>
    intro cell member
    rcases (cellOf member).2.2 with ⟨left, entryMem, -⟩
    rcases List.mem_map.mp entryMem with ⟨item, itemMem, same⟩
    have sameKey : item.record.id = cell.demand := congrArg Prod.fst same
    rw [← sameKey]
    exact (of_mem_transactionItems sound itemMem).2.1
  case supplied =>
    intro invoice listed within
    exact usesUp.1 _ (mem_planRecords_invoice sound fits batchMem ready settleable listed within)
  case demanded =>
    intro money listed within
    exact usesUp.2 _ (mem_planRecords_transaction sound fits batchMem ready settleable listed within)

end Settle

/-! ## Confirming the plan -/

theorem foldlM_addAmounts (amounts : List ℤ) {start : Decimal} {cents : ℤ}
    (startIs : start.IsCents cents) :
    ∃ sum, (amounts.map fun amount => Amount.decimal (Decimal.ofCents amount)).foldlM addAmounts
        (.decimal start) = .ok (.decimal sum) ∧ sum.IsCents (cents + amounts.sum) := by
  induction amounts generalizing start cents with
  | nil => exact ⟨start, rfl, by simpa using startIs⟩
  | cons amount rest ih =>
      rcases ih (Decimal.isCents_add startIs (Decimal.isCents_ofCents amount)) with
        ⟨sum, folded, isSum⟩
      refine ⟨sum, ?_, ?_⟩
      · rw [List.map_cons, List.foldlM_cons]
        exact folded
      · rwa [List.sum_cons, ← add_assoc]

section Totals

variable {cells : List (Transport.Flow Uuid Uuid)}

/-- The lines of a record add up to what the cells move. -/
theorem lineTotal_cellInput (key : AllocationInput → Uuid) (cellKey : Transport.Flow Uuid Uuid → Uuid)
    (keyEq : ∀ cell, key (cellInput cell) = cellKey cell) (cells : List (Transport.Flow Uuid Uuid))
    (id : Uuid) :
    ∃ sum, lineTotal key (cells.map cellInput) id = .ok (.decimal sum) ∧
      sum.IsCents (total (fun cell => decide (cellKey cell = id)) (·.amount) cells) := by
  have filtered : ((cells.map cellInput).filter fun item => decide (key item = id)).map
        (·.amount) =
      ((cells.filter fun cell => decide (cellKey cell = id)).map (·.amount)).map
        fun amount => Amount.decimal (Decimal.ofCents amount) := by
    simp only [List.filter_map, List.map_map, Function.comp_def, keyEq]
    rfl
  simp only [lineTotal, filtered]
  have folded := foldlM_addAmounts
    ((cells.filter fun cell => decide (cellKey cell = id)).map (·.amount))
    (Decimal.isCents_ofCents 0)
  rwa [zero_add] at folded

theorem settles_of_supplied {id : Uuid} {openAmount : ℤ} (positive : 0 < openAmount)
    (usesUp : supplied cells id = openAmount) :
    Settles (·.invoiceId) (cells.map cellInput) id openAmount := by
  rcases lineTotal_cellInput (·.invoiceId) Transport.Flow.supply (fun _ => rfl) cells id with
    ⟨sum, sumEq, isSum⟩
  refine ⟨positive, .decimal sum, sumEq, ?_⟩
  rw [← usesUp]
  exact isSum

theorem settles_of_demanded {id : Uuid} {openAmount : ℤ} (positive : 0 < openAmount)
    (usesUp : demanded cells id = openAmount) :
    Settles (·.transactionId) (cells.map cellInput) id openAmount := by
  rcases lineTotal_cellInput (·.transactionId) Transport.Flow.demand (fun _ => rfl) cells id with
    ⟨sum, sumEq, isSum⟩
  refine ⟨positive, .decimal sum, sumEq, ?_⟩
  rw [← usesUp]
  exact isSum

/-- The checked lines of a request for cells move the same amounts as the cells. -/
theorem requested_eq {direction : ReconciliationDirection} {invoices : List Invoice}
    {transactions : List MoneyTransaction} {lines : List AllocationLine}
    (each : List.Forall₂ (LineChecked direction invoices transactions) (cells.map cellInput) lines)
    (id : Uuid) :
    requestedInvoiceAmount lines id = supplied cells id ∧
      requestedTransactionAmount lines id = demanded cells id := by
  induction cells generalizing lines with
  | nil =>
      cases each
      exact ⟨rfl, rfl⟩
  | cons cell rest ih =>
      rcases each with _ | ⟨head, tail⟩
      rename_i line lines
      rcases ih tail with ⟨invoiceTail, transactionTail⟩
      rcases head.amount with ⟨number, amountEq, -, isCents, -⟩
      cases amountEq
      have sameAmount := Decimal.isCents_unique isCents (Decimal.isCents_ofCents cell.amount)
      have sameInvoice : line.invoice.id = cell.supply := head.invoice_mem.2
      have sameMoney : line.transaction.id = cell.demand := head.transaction_mem.2
      simp only [requestedInvoiceAmount, requestedTransactionAmount, supplied, demanded,
        total_cons, sameAmount, sameInvoice, sameMoney] at invoiceTail transactionTail ⊢
      rw [invoiceTail, transactionTail]
      exact ⟨rfl, rfl⟩

end Totals

section Confirm

variable {ledger : Ledger} {batch : SettlementBatch}

theorem positive_of_total {cells : List (Transport.Flow Uuid Uuid)} {select : Transport.Flow Uuid Uuid → Bool}
    (positive : 0 < total select (·.amount) cells) : ∃ cell ∈ cells, select cell = true := by
  by_contra none
  have zero : total select (·.amount) cells = 0 := by
    apply total_eq_zero
    intro cell member
    by_contra selected
    exact none ⟨cell, member, by simpa using selected⟩
  omega

theorem batchChecked_of_cellsSettle (sound : ledger.Sound) (fits : ledger.DraftsFit)
    (batchMem : batch ∈ ledger.settlementBatches) (ready : Ready ledger batch.id)
    (settleable : Settleable ledger batch) {cells : List (Transport.Flow Uuid Uuid)}
    (settle : CellsSettle ledger batch cells) :
    BatchChecked batch (cells.map cellInput) ledger := by
  rcases List.exists_mem_of_ne_nil _ settle.nonempty with ⟨cell, cellMem⟩
  constructor
  case distinct => simpa [List.map_map, Function.comp_def, cellInput] using settle.distinct
  case invoicesNonempty => exact List.ne_nil_of_mem (settle.suppliesWithin cell cellMem)
  case transactionsNonempty => exact List.ne_nil_of_mem (settle.demandsWithin cell cellMem)
  case nonempty => simpa using settle.nonempty
  case invoicesWithin =>
    intro item member
    rcases List.mem_map.mp member with ⟨cell, cellMem, rfl⟩
    exact settle.suppliesWithin cell cellMem
  case transactionsWithin =>
    intro item member
    rcases List.mem_map.mp member with ⟨cell, cellMem, rfl⟩
    exact settle.demandsWithin cell cellMem
  case invoicesCovered =>
    intro id within
    rcases exists_batchInvoice fits batchMem within with ⟨invoice, listed, rfl, -⟩
    have positive := (settleable.invoices invoice listed within).2
    rw [← settle.supplied invoice listed within] at positive
    rcases positive_of_total positive with ⟨cell, cellMem, same⟩
    exact List.mem_map.mpr ⟨cellInput cell, List.mem_map_of_mem cellMem, of_decide_eq_true same⟩
  case transactionsCovered =>
    intro id within
    rcases exists_batchTransaction fits batchMem within with ⟨money, listed, rfl, -⟩
    have positive := (settleable.transactions money listed within).2
    rw [← settle.demanded money listed within] at positive
    rcases positive_of_total positive with ⟨cell, cellMem, same⟩
    exact List.mem_map.mpr ⟨cellInput cell, List.mem_map_of_mem cellMem, of_decide_eq_true same⟩
  case invoicesFit =>
    intro invoice listed within
    rcases exists_batchInvoice fits batchMem within with ⟨other, otherListed, sameId, fitted⟩
    rwa [List.inj_on_of_nodup_map sound.invoiceIds otherListed listed sameId] at fitted
  case transactionsFit =>
    intro money listed within
    rcases exists_batchTransaction fits batchMem within with ⟨other, otherListed, sameId, fitted⟩
    rw [List.inj_on_of_nodup_map sound.transactionIds otherListed listed sameId] at fitted
    exact ⟨fitted, (settleable.transactions money listed within).1⟩
  case unoccupied =>
    rintro allocation allocationMem ⟨ofBatch | ofBatch, external⟩
    · rw [← (invoiceItems_keys sound fits batchMem).mem_iff] at ofBatch
      rcases List.mem_map.mp ofBatch with ⟨item, itemMem, sameId⟩
      have free := ready.invoicesFree item itemMem
      rw [(of_mem_invoiceItems sound itemMem).2.2.2, Ledger.isOccupied, List.any_eq_false] at free
      exact free allocation allocationMem (by simp [sameId, external])
    · rw [← (transactionItems_keys sound fits batchMem).mem_iff] at ofBatch
      rcases List.mem_map.mp ofBatch with ⟨item, itemMem, sameId⟩
      have free := ready.transactionsFree item itemMem
      rw [(of_mem_transactionItems sound itemMem).2.2.2, Ledger.isOccupied, List.any_eq_false] at free
      exact free allocation allocationMem (by simp [sameId, external])
  case invoicesSettled =>
    intro id within
    rcases exists_batchInvoice fits batchMem within with ⟨invoice, listed, rfl, -⟩
    exact ⟨invoice, sound.invoice?_eq_some_iff.mpr ⟨listed, rfl⟩,
      settles_of_supplied (settleable.invoices invoice listed within).2
        (settle.supplied invoice listed within)⟩
  case transactionsSettled =>
    intro id within
    rcases exists_batchTransaction fits batchMem within with ⟨money, listed, rfl, -⟩
    exact ⟨money, sound.transaction?_eq_some_iff.mpr ⟨listed, rfl⟩,
      settles_of_demanded (settleable.transactions money listed within).2
        (settle.demanded money listed within)⟩

/-- A cell never moves more than the total of its invoice. -/
theorem amount_lt (sound : ledger.Sound) {cells : List (Transport.Flow Uuid Uuid)}
    (settle : CellsSettle ledger batch cells) {cell : Transport.Flow Uuid Uuid} (cellMem : cell ∈ cells)
    {invoice : Invoice} (listed : invoice ∈ ledger.invoices) (ofCell : invoice.id = cell.supply) :
    cell.amount < 10 ^ 28 := by
  have part : cell.amount ≤ supplied cells cell.supply :=
    le_total_of_mem (fun other member => (settle.positive other member).le) cellMem (by simp)
  have whole := settle.supplied invoice listed
    (by rw [ofCell]; exact settle.suppliesWithin cell cellMem)
  rw [ofCell, Ledger.invoiceOpen] at whole
  have active := sound.activeAmount_nonneg (·.invoice) invoice.id
  have inRange := (sound.invoicesInRange invoice listed).2
  have small : (10 : ℤ) ^ 18 < 10 ^ 28 := by norm_num
  omega

theorem exists_lines (sound : ledger.Sound) (fits : ledger.DraftsFit)
    (batchMem : batch ∈ ledger.settlementBatches) (settleable : Settleable ledger batch)
    {cells : List (Transport.Flow Uuid Uuid)} (settle : CellsSettle ledger batch cells) :
    ∃ lines, List.Forall₂ (LineChecked batch.direction
      (ledger.requestInvoices (cells.map cellInput))
      (ledger.requestTransactions (cells.map cellInput))) (cells.map cellInput) lines := by
  have each : ∀ item ∈ cells.map cellInput, ∃ line, validateLine batch.direction
      (ledger.requestInvoices (cells.map cellInput))
      (ledger.requestTransactions (cells.map cellInput)) item = .ok line := by
    intro item member
    rcases List.mem_map.mp member with ⟨cell, cellMem, rfl⟩
    rcases exists_batchInvoice fits batchMem (settle.suppliesWithin cell cellMem) with
      ⟨invoice, listed, invoiceId, invoiceFits⟩
    rcases exists_batchTransaction fits batchMem (settle.demandsWithin cell cellMem) with
      ⟨money, moneyListed, moneyId, moneyFits⟩
    have normal := (settleable.invoices invoice listed
      (by rw [invoiceId]; exact settle.suppliesWithin cell cellMem)).1
    refine ⟨⟨invoice, money, cell.amount⟩, validateLine_eq_ok.mpr ?_⟩
    constructor
    case amount =>
      exact ⟨Decimal.ofCents cell.amount, rfl, settle.positive cell cellMem,
        Decimal.isCents_ofCents _, amount_lt sound settle cellMem listed invoiceId⟩
    case invoiceFound =>
      have distinct : ((ledger.requestInvoices (cells.map cellInput)).map Invoice.id).Nodup :=
        (List.filter_sublist.map Invoice.id).nodup sound.invoiceIds
      rw [find?_eq_some_iff distinct]
      refine ⟨List.mem_filter.mpr ⟨listed, decide_eq_true ?_⟩, invoiceId⟩
      exact List.mem_map.mpr ⟨cellInput cell, member, invoiceId.symm⟩
    case transactionFound =>
      have distinct :
          ((ledger.requestTransactions (cells.map cellInput)).map MoneyTransaction.id).Nodup :=
        (List.filter_sublist.map MoneyTransaction.id).nodup sound.transactionIds
      rw [find?_eq_some_iff distinct]
      refine ⟨List.mem_filter.mpr ⟨moneyListed, decide_eq_true ?_⟩, moneyId⟩
      exact List.mem_map.mpr ⟨cellInput cell, member, moneyId.symm⟩
    case notVoid => simp [normal]
    case directions => exact ⟨invoiceFits.2.1, moneyFits.2⟩
    case counterparty =>
      change money.counterparty = some invoice.counterparty
      rw [moneyFits.1, invoiceFits.1]
  rcases exists_collect_eq_ok.mpr each with ⟨lines, collected⟩
  refine ⟨lines, ?_⟩
  simpa only [collect_eq_ok, validateLine_eq_ok] using collected

theorem reconciliationChecked_of_cellsSettle (sound : ledger.Sound) (fits : ledger.DraftsFit)
    (batchMem : batch ∈ ledger.settlementBatches) (settleable : Settleable ledger batch)
    {cells : List (Transport.Flow Uuid Uuid)} (settle : CellsSettle ledger batch cells) {actor : Actor}
    (finance : actor.IsFinance) {uuid : Uuid}
    (fresh : ∀ row ∈ ledger.reconciliations, row.id ≠ uuid) :
    ∃ lines, ReconciliationChecked (confirmationRequest actor batch (cells.map cellInput)) uuid
      ledger batch.direction .batch lines := by
  rcases exists_lines sound fits batchMem settleable settle with ⟨lines, each⟩
  refine ⟨lines, finance, by simpa [confirmationRequest] using settle.nonempty, rfl, rfl,
    by simp [confirmationRequest], ⟨each, by simp [confirmationRequest],
      by simp [confirmationRequest], fun _ _ => .inl rfl, ?_, ?_⟩, fresh, ?_⟩
  · intro money touched
    simp only [touchedTransactions, List.mem_eraseDups, List.mem_map] at touched
    rcases touched with ⟨line, lineMem, rfl⟩
    rcases exists_item each lineMem with ⟨item, itemMem, checked⟩
    rcases List.mem_map.mp itemMem with ⟨cell, cellMem, rfl⟩
    rw [(requested_eq each _).2, settle.demanded _ checked.fits.transactionMem]
    · exact le_rfl
    · rw [checked.transaction_mem.2]
      exact settle.demandsWithin cell cellMem
  · intro invoice touched
    simp only [touchedInvoices, List.mem_eraseDups, List.mem_map] at touched
    rcases touched with ⟨line, lineMem, rfl⟩
    rcases exists_item each lineMem with ⟨item, itemMem, checked⟩
    rcases List.mem_map.mp itemMem with ⟨cell, cellMem, rfl⟩
    rw [(requested_eq each _).1, settle.supplied _ checked.fits.invoiceMem]
    · exact le_rfl
    · rw [checked.invoice_mem.2]
      exact settle.suppliesWithin cell cellMem
  · intro id ofBatch
    cases ofBatch
    exact ⟨batch, batchMem, rfl⟩

/-- A confirmed batch had no red or void invoice and no record without an open amount. -/
theorem settleable_of_confirmed (sound : ledger.Sound) {actor : Actor} {uuid : Uuid}
    {allocations : List AllocationInput} {direction : ReconciliationDirection}
    {mode : ReconciliationMode} {lines : List AllocationLine}
    (checked : BatchChecked batch allocations ledger)
    (reconciled : ReconciliationChecked (confirmationRequest actor batch allocations) uuid ledger
      direction mode lines) : Settleable ledger batch := by
  constructor
  case invoices =>
    intro invoice listed within
    rcases checked.invoicesSettled _ within with ⟨other, found, positive, -⟩
    rcases sound.invoice?_eq_some_iff.mp found with ⟨otherListed, sameId⟩
    have sameInvoice := List.inj_on_of_nodup_map sound.invoiceIds otherListed listed sameId
    rw [sameInvoice] at positive
    refine ⟨?_, positive⟩
    rcases List.mem_map.mp (checked.invoicesCovered _ within) with ⟨item, itemMem, itemId⟩
    rcases List.forall₂_iff_get.mp reconciled.allocations.each with ⟨sameLength, each⟩
    rcases List.mem_iff_getElem.mp itemMem with ⟨index, bound, itemEq⟩
    have lineChecked := each index bound (by rw [← sameLength]; exact bound)
    have fitsLine := lineChecked.fits
    have lineId := lineChecked.invoice_mem.2
    have ofItem : (List.get (confirmationRequest actor batch allocations).allocations
        ⟨index, bound⟩).invoiceId = invoice.id := by
      rw [← itemId, ← itemEq]
      rfl
    rw [← List.inj_on_of_nodup_map sound.invoiceIds fitsLine.invoiceMem listed
      (lineId.trans ofItem)]
    exact fitsLine.normal
  case transactions =>
    intro money listed within
    rcases checked.transactionsSettled _ within with ⟨other, found, positive, -⟩
    rcases sound.transaction?_eq_some_iff.mp found with ⟨otherListed, sameId⟩
    have sameMoney := List.inj_on_of_nodup_map sound.transactionIds otherListed listed sameId
    rw [sameMoney] at positive
    exact ⟨(checked.transactionsFit money listed within).2, positive⟩

end Confirm

/-- A ready draft is confirmed with the page's own plan exactly when it is settleable. -/
theorem confirm_ready_iff (site : Installation) (directory : Directory)
    (operations : List Operation) (batch : SettlementBatch)
    (batchMem : batch ∈ (run site directory operations).settlementBatches)
    (draft : batch.status = .draft)
    (canConfirm :
      (settlementContext (run site directory operations) batch.id).canConfirm = true)
    {actor : Actor} (finance : actor.IsFinance) {uuid : Uuid}
    (fresh : ∀ row ∈ (run site directory operations).reconciliations, row.id ≠ uuid) (now : ℤ) :
    (∃ after, confirmSettlementBatch batch.id actor
        (asAllocationInputs
          (settlementContext (run site directory operations) batch.id).allocationRows)
        batch.version uuid now (run site directory operations) = .ok after) ↔
      Settleable (run site directory operations) batch := by
  have sound := run_sound site directory operations
  have fits := run_draftsFit site directory operations
  have ready := ready_of_canConfirm canConfirm
  have batchFound : (run site directory operations).settlementBatch? batch.id = some batch :=
    (find?_eq_some_iff fits.batchIds).mpr ⟨batchMem, rfl⟩
  rw [asAllocationInputs_plan]
  constructor
  · rintro ⟨after, confirmed⟩
    rw [confirmSettlementBatch_eq_ok] at confirmed
    rcases confirmed with ⟨-, row, found, -, checked, created, createdEq, -⟩
    rw [batchFound, Option.some.injEq] at found
    subst found
    rw [createReconciliation_eq_ok] at createdEq
    rcases createdEq with ⟨direction, mode, lines, reconciled, -⟩
    exact settleable_of_confirmed sound checked reconciled
  · intro settleable
    have settle := planCells_settle sound fits batchMem ready settleable
    rcases reconciliationChecked_of_cellsSettle sound fits batchMem settleable settle finance fresh
      with ⟨lines, reconciled⟩
    refine ⟨_, confirmSettlementBatch_eq_ok.mpr ⟨finance, batch, batchFound, ⟨draft, rfl⟩,
      batchChecked_of_cellsSettle sound fits batchMem ready settleable settle, _,
      createReconciliation_eq_ok.mpr ⟨_, _, lines, reconciled, rfl⟩, rfl⟩⟩

namespace Sample

/-- One invoice and one payment of the same amount, at the given day and time. -/
def settlementSite (issueDate paymentDay : Calendar.Date) (paymentTime : ℕ) : Installation :=
  site [invoiceBook [invoiceCells "I1" issueDate "100.00" "正常"]]
    [statement [paymentCells paymentDay paymentTime "100.00" "900.00"]]

/-- Both are imported and drafted as the settlement of February 2026. -/
def settlementDraft : List Operation :=
  [stageInvoices 0 11 0, confirm 11 0, stageStatement 0 12 0, confirm 12 0,
    .createSettlementBatch ⟨finance, 7, some .purchasePayment, 739648, 739675⟩ 90 0]

def february (day : ℕ) (valid : 1 ≤ day ∧ day ≤ 28) : Calendar.Date :=
  ⟨2026, 2, day, by omega, by omega, valid.1, valid.2.trans (by decide)⟩

def draftRow : SettlementBatch :=
  ⟨90, 7, .purchasePayment, 739648, 739675, .draft, 1, 1⟩

end Sample

/-- A payment of 12 February at noon is in the period in every zone. -/
theorem confirm_ready_noon :
    let ledger := run (Sample.settlementSite (Sample.february 10 (by decide))
      (Sample.february 12 (by decide)) 43200000000) Sample.directory Sample.settlementDraft
    ∃ after, confirmSettlementBatch 90 Sample.finance
      (asAllocationInputs (settlementContext ledger 90).allocationRows) 1 91 0 ledger =
      .ok after := by
  intro ledger
  have facts : Sample.draftRow ∈ ledger.settlementBatches ∧
      (settlementContext ledger Sample.draftRow.id).canConfirm = true ∧
      (∀ row ∈ ledger.reconciliations, row.id ≠ 91) ∧ Settleable ledger Sample.draftRow := by
    decide +kernel
  rcases facts with ⟨batchMem, canConfirm, fresh, settleable⟩
  exact (confirm_ready_iff _ _ _ Sample.draftRow batchMem rfl canConfirm (by decide) fresh 0).mpr
    settleable

/-- A payment of 1 February at seven is on 31 January in UTC. -/
theorem confirm_ready_fails :
    let ledger := run (Sample.settlementSite (Sample.february 10 (by decide))
      (Sample.february 1 (by decide)) 25200000000) Sample.directory Sample.settlementDraft
    Sample.draftRow ∈ ledger.settlementBatches ∧ Sample.draftRow.status = .draft ∧
      (settlementContext ledger 90).canConfirm = true ∧ Sample.finance.IsFinance ∧
      ledger.reconciliations = [] ∧
      error? (confirmSettlementBatch 90 Sample.finance
        (asAllocationInputs (settlementContext ledger 90).allocationRows)
        Sample.draftRow.version 91 0 ledger) = some (.validation "资金不在结算期间内") := by
  decide +kernel

end Finrec
