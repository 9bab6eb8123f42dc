import Finrec.Ledger.Operations

/-!
# The moves of the ledger

Every operation that succeeds is a sequence of moves, each of which writes the
rows of one step together with what was checked before.  Invariants of the
ledger are proved for moves and hold after every run.
-/

namespace Finrec

open Checks

/-- A line that may become an allocation. -/
structure LineFits (ledger : Ledger) (direction : ReconciliationDirection)
    (line : AllocationLine) : Prop where
  positive : 0 < line.amount
  invoiceMem : line.invoice ∈ ledger.invoices
  transactionMem : line.transaction ∈ ledger.transactions
  normal : line.invoice.status = .normal
  directions : line.invoice.direction = (directionsFor direction).1 ∧
    line.transaction.direction = (directionsFor direction).2
  counterparty : line.transaction.counterparty = some line.invoice.counterparty

/-- What was checked before a reconciliation is written. -/
structure Reconcilable (ledger : Ledger) (row : Reconciliation) (lines : List AllocationLine) :
    Prop where
  fresh : ∀ other ∈ ledger.reconciliations, other.id ≠ row.id
  linked : row.settlementBatch.isSome = true ↔ row.mode = .batch
  batchExists : ∀ id ∈ row.settlementBatch, ∃ batch ∈ ledger.settlementBatches, batch.id = id
  fits : ∀ line ∈ lines, LineFits ledger row.direction line
  invoicesOpen : ∀ line ∈ lines, requestedInvoiceAmount lines line.invoice.id ≤
    line.invoice.totalAmount - ledger.activeAmount (·.invoice) line.invoice.id
  transactionsOpen : ∀ line ∈ lines, requestedTransactionAmount lines line.transaction.id ≤
    line.transaction.amount - ledger.activeAmount (·.transaction) line.transaction.id

/-- What was checked before a draft is written. -/
structure Draftable (ledger : Ledger) (row : SettlementBatch) (invoices : List Invoice)
    (transactions : List MoneyTransaction) : Prop where
  fresh : ∀ other ∈ ledger.settlementBatches, other.id ≠ row.id
  invoicesFrom : invoices.Subperm ledger.invoices
  transactionsFrom : transactions.Subperm ledger.transactions
  invoicesFit : ∀ invoice ∈ invoices, BatchInvoiceFits row invoice
  transactionsFit : ∀ money ∈ transactions, BatchTransactionFits row money

inductive LedgerMove (stamps : ℤ → Prop) : Ledger → Ledger → Prop where
  | maintain {ledger : Ledger} (directory : Directory) :
      LedgerMove stamps ledger { ledger with directory := directory }
  | stage {ledger : Ledger} (request : StageRequest) (sha256 : String) (batch : ImportBatch)
      (rows : List PreparedRow) :
      LedgerMove stamps ledger (ledger.insertUpload request sha256 batch rows).1
  | imports {before after : Ledger} (move : ImportMove stamps before after) :
      LedgerMove stamps before after
  | reconcile {ledger : Ledger} (row : Reconciliation) (lines : List AllocationLine)
      (checked : Reconcilable ledger row lines) (stamped : stamps row.createdAt) :
      LedgerMove stamps ledger (ledger.insertReconciliation row lines)
  | reverse {ledger : Ledger} (row : ReconciliationReversal)
      (original : ∃ reconciliation ∈ ledger.reconciliations, reconciliation.id = row.original)
      (notReversed : ledger.isReversed row.original = false) (stamped : stamps row.createdAt) :
      LedgerMove stamps ledger (ledger.insertReversal row)
  | draft {ledger : Ledger} (row : SettlementBatch) (invoices : List Invoice)
      (transactions : List MoneyTransaction) (now : ℤ)
      (checked : Draftable ledger row invoices transactions) :
      LedgerMove stamps ledger (ledger.insertSettlementBatch row invoices transactions now)
  | settle {ledger : Ledger} (batch : Uuid) :
      LedgerMove stamps ledger (ledger.setConfirmed batch)

abbrev LedgerMoves (stamps : ℤ → Prop) : Ledger → Ledger → Prop :=
  Relation.ReflTransGen (LedgerMove stamps)

section Checked

variable {request : ReconciliationRequest} {uuid : Uuid} {now : ℤ} {ledger : Ledger}
  {direction : ReconciliationDirection} {mode : ReconciliationMode} {lines : List AllocationLine}

theorem mem_touchedInvoices {line : AllocationLine} (member : line ∈ lines) :
    line.invoice ∈ touchedInvoices lines := by
  simp only [touchedInvoices, List.mem_eraseDups, List.mem_map]
  exact ⟨line, member, rfl⟩

theorem mem_touchedTransactions {line : AllocationLine} (member : line ∈ lines) :
    line.transaction ∈ touchedTransactions lines := by
  simp only [touchedTransactions, List.mem_eraseDups, List.mem_map]
  exact ⟨line, member, rfl⟩

/-- The item that a checked line came from. -/
theorem exists_item {invoices : List Invoice} {transactions : List MoneyTransaction}
    {items : List AllocationInput}
    (each : List.Forall₂ (LineChecked direction invoices transactions) items lines)
    {line : AllocationLine} (member : line ∈ lines) :
    ∃ item ∈ items, LineChecked direction invoices transactions item line := by
  induction each with
  | nil => simp at member
  | cons head tail ih =>
      rcases List.mem_cons.mp member with rfl | later
      · exact ⟨_, by simp, head⟩
      · rcases ih later with ⟨item, itemMem, checked⟩
        exact ⟨item, by simp [itemMem], checked⟩

theorem LineChecked.fits {item : AllocationInput} {line : AllocationLine}
    {allocations : List AllocationInput}
    (checked : LineChecked direction (ledger.requestInvoices allocations)
      (ledger.requestTransactions allocations) item line) :
    LineFits ledger direction line := by
  refine ⟨checked.amount_pos, (List.mem_filter.mp checked.invoice_mem.1).1,
    (List.mem_filter.mp checked.transaction_mem.1).1, ?_, checked.directions,
    checked.counterparty⟩
  have notVoid := checked.notVoid
  cases status : line.invoice.status with
  | normal => rfl
  | void => exact absurd status notVoid.1
  | red => exact absurd status notVoid.2

theorem ReconciliationChecked.reconcilable
    (checked : ReconciliationChecked request uuid ledger direction mode lines) :
    Reconcilable ledger (reconciliationRow request uuid now direction mode) lines where
  fresh := checked.insertable.1
  linked := checked.linked
  batchExists := checked.insertable.2
  fits line member := by
    rcases exists_item checked.allocations.each member with ⟨item, -, lineChecked⟩
    exact lineChecked.fits
  invoicesOpen line member := checked.allocations.invoicesOpen _ (mem_touchedInvoices member)
  transactionsOpen line member :=
    checked.allocations.transactionsOpen _ (mem_touchedTransactions member)

end Checked

theorem createReconciliation_move {stamps : ℤ → Prop} {request : ReconciliationRequest}
    {uuid : Uuid} {now : ℤ} {ledger after : Ledger} (stamped : stamps now)
    (succeeded : createReconciliation request uuid now ledger = .ok after) :
    LedgerMove stamps ledger after := by
  rw [createReconciliation_eq_ok] at succeeded
  rcases succeeded with ⟨direction, mode, lines, checked, rfl⟩
  exact .reconcile _ _ checked.reconcilable stamped

/-- The records of a draft come from the ledger and match the batch. -/
theorem SettlementChecked.draftable {zone : Calendar.Zone} {request : SettlementRequest}
    {uuid : Uuid} {ledger : Ledger} {direction : ReconciliationDirection}
    {invoices : List Invoice} {transactions : List MoneyTransaction}
    (checked : SettlementChecked zone request uuid ledger direction invoices transactions) :
    Draftable ledger (settlementBatchRow request uuid direction) invoices transactions where
  fresh := checked.fresh
  invoicesFrom := by
    rw [checked.invoicesEq]
    exact (List.filter_sublist.subperm.trans (List.perm_insertionSort _ _).subperm).trans
      List.filter_sublist.subperm
  transactionsFrom := by
    rw [checked.transactionsEq]
    exact (List.filter_sublist.subperm.trans (List.perm_insertionSort _ _).subperm).trans
      List.filter_sublist.subperm
  invoicesFit invoice member := by
    rw [checked.invoicesEq, List.mem_filter, Ledger.draftInvoices, orderInvoices,
      List.mem_insertionSort, List.mem_filter, Bool.and_eq_true, decide_eq_true_eq] at member
    rcases member with ⟨⟨-, ⟨counterparty, invoiceDirection, -, within⟩, -⟩, -⟩
    exact ⟨counterparty, invoiceDirection, within⟩
  transactionsFit money member := by
    rw [checked.transactionsEq, List.mem_filter, Ledger.draftTransactions, orderTransactions,
      List.mem_insertionSort, List.mem_filter, Bool.and_eq_true, decide_eq_true_eq] at member
    rcases member with ⟨⟨-, ⟨counterparty, moneyDirection, -⟩, -⟩, -⟩
    exact ⟨counterparty, moneyDirection⟩

theorem reconciliation?_eq_some {ledger : Ledger} {id : Uuid} {row : Reconciliation}
    (found : ledger.reconciliation? id = some row) : row ∈ ledger.reconciliations ∧ row.id = id :=
  ⟨List.mem_of_find?_eq_some found, by simpa using List.find?_some found⟩

theorem perform_stageUpload {site : Installation} {ledger after : Ledger} {request : StageRequest}
    (succeeded : (Operation.stageUpload request).perform site ledger = .ok after) :
    ∃ batch, stageUpload site.env site.parsers request ledger = .ok (after, batch) := by
  simp only [Operation.perform] at succeeded
  cases staged : stageUpload site.env site.parsers request ledger with
  | error error => simp [staged, Except.map] at succeeded
  | ok result =>
      simp only [staged, Except.map, Except.ok.injEq] at succeeded
      exact ⟨result.2, by rw [← succeeded]⟩

theorem perform_confirmBatch {site : Installation} {ledger after : Ledger}
    {request : ConfirmRequest}
    (succeeded : (Operation.confirmBatch request).perform site ledger = .ok after) :
    ∃ result, confirmBatch site.env request ledger = .ok (after, result) := by
  simp only [Operation.perform] at succeeded
  cases confirmed : confirmBatch site.env request ledger with
  | error error => simp [confirmed, Except.map] at succeeded
  | ok result =>
      simp only [confirmed, Except.map, Except.ok.injEq] at succeeded
      exact ⟨result.2, by rw [← succeeded]⟩

/-- A successful operation is a sequence of moves. -/
theorem perform_moves {site : Installation} {stamps : ℤ → Prop} {ledger after : Ledger}
    {operation : Operation} (stamped : operation.Stamped stamps)
    (succeeded : operation.perform site ledger = .ok after) :
    LedgerMoves stamps ledger after := by
  cases operation with
  | maintain directory =>
      cases succeeded
      exact .single (.maintain directory)
  | stageUpload request =>
      rcases perform_stageUpload succeeded with ⟨batch, staged⟩
      rcases stageUpload_eq_ok staged with ⟨parser, sourceKind, rows, state, -, same⟩
      rw [show after = _ from congrArg Prod.fst same]
      exact .single (.stage _ _ _ _)
  | confirmBatch request =>
      rcases perform_confirmBatch succeeded with ⟨result, confirmed⟩
      have moves := confirmBatch_moves (fun rowNumber => stamped _ (.inl ⟨rowNumber, rfl⟩))
        (stamped _ (.inr (.inr (.inr rfl)))) confirmed
      exact moves.lift id fun _ _ move => .imports move
  | createReconciliation request uuid now =>
      exact .single (createReconciliation_move (stamped _ rfl) succeeded)
  | reverseReconciliation actor id reason now =>
      simp only [Operation.perform, reverseReconciliation_eq_ok] at succeeded
      rcases succeeded with ⟨-, text, -, -, original, found, notReversed, rfl⟩
      exact .single (.reverse _ ⟨original, (reconciliation?_eq_some found).1, rfl⟩ notReversed
        (stamped _ rfl))
  | createSettlementBatch request uuid now =>
      simp only [Operation.perform, createSettlementBatch_eq_ok] at succeeded
      rcases succeeded with ⟨direction, invoices, transactions, checked, rfl⟩
      exact .single (.draft _ _ _ _ checked.draftable)
  | confirmSettlementBatch id actor allocations version uuid now =>
      simp only [Operation.perform, confirmSettlementBatch_eq_ok] at succeeded
      rcases succeeded with ⟨-, batch, -, -, -, created, createdEq, rfl⟩
      exact .tail (.single (createReconciliation_move (stamped _ rfl) createdEq)) (.settle _)

/-- What every move preserves holds after every run. -/
theorem run_induction {site : Installation} {directory : Directory} (holds : Ledger → Prop)
    (start : holds (.empty directory))
    (preserved : ∀ {before after}, holds before → LedgerMove (fun _ => True) before after →
      holds after)
    (operations : List Operation) : holds (run site directory operations) := by
  apply runFrom_induction holds start
  intro before after operation holdsBefore succeeded
  have moves : LedgerMoves (fun _ => True) before after :=
    perform_moves (fun _ _ => trivial) succeeded
  clear succeeded
  induction moves with
  | refl => exact holdsBefore
  | tail _ move ih => exact preserved ih move

end Finrec
