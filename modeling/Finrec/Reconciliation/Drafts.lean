import Finrec.Ledger.Invariant

/-!
# The records of settlement batches

`Ledger.DraftsFit` is the part of the invariant that concerns settlement
batches: the records of a batch exist, match its terms and are listed once.  It
holds as long as records keep their identity and their business fields, which
every move respects.
-/

namespace Finrec

namespace Ledger

structure DraftsFit (ledger : Ledger) : Prop where
  batchIds : (ledger.settlementBatches.map (·.id)).Nodup
  invoicesDistinct : ledger.batchInvoices.Nodup
  transactionsDistinct : ledger.batchTransactions.Nodup
  invoicesFit : ∀ item ∈ ledger.batchInvoices,
    ∃ batch ∈ ledger.settlementBatches, batch.id = item.batch ∧
      ∃ invoice ∈ ledger.invoices, invoice.id = item.invoice ∧ BatchInvoiceFits batch invoice
  transactionsFit : ∀ item ∈ ledger.batchTransactions,
    ∃ batch ∈ ledger.settlementBatches, batch.id = item.batch ∧
      ∃ money ∈ ledger.transactions, money.id = item.transaction ∧
        BatchTransactionFits batch money

/-- The invoices of a ledger are still there, with the fields that a batch looks at. -/
def KeepsInvoices (before after : Ledger) : Prop :=
  ∀ invoice ∈ before.invoices, ∃ kept ∈ after.invoices, kept.id = invoice.id ∧
    kept.counterparty = invoice.counterparty ∧ kept.direction = invoice.direction ∧
    kept.issueDate = invoice.issueDate

theorem KeepsInvoices.of_subset {before after : Ledger}
    (subset : before.invoices ⊆ after.invoices) : before.KeepsInvoices after :=
  fun invoice member => ⟨invoice, subset member, rfl, rfl, rfl, rfl⟩

namespace DraftsFit

variable {ledger after : Ledger}

theorem empty (directory : Directory) : (Ledger.empty directory).DraftsFit := by
  constructor <;> simp [Ledger.empty]

theorem of_kept (fits : ledger.DraftsFit) (keepsInvoices : ledger.KeepsInvoices after)
    (keepsTransactions : ledger.transactions ⊆ after.transactions)
    (batches : after.settlementBatches = ledger.settlementBatches)
    (batchInvoices : after.batchInvoices = ledger.batchInvoices)
    (batchTransactions : after.batchTransactions = ledger.batchTransactions) :
    after.DraftsFit where
  batchIds := by rw [batches]; exact fits.batchIds
  invoicesDistinct := by rw [batchInvoices]; exact fits.invoicesDistinct
  transactionsDistinct := by rw [batchTransactions]; exact fits.transactionsDistinct
  invoicesFit item member := by
    rw [batchInvoices] at member
    rcases fits.invoicesFit item member with
      ⟨batch, batchMem, batchId, invoice, invoiceMem, invoiceId, counterparty, direction, within⟩
    rcases keepsInvoices invoice invoiceMem with
      ⟨kept, keptMem, keptId, keptCounterparty, keptDirection, keptDate⟩
    refine ⟨batch, by rw [batches]; exact batchMem, batchId, kept, keptMem, keptId.trans invoiceId,
      keptCounterparty.trans counterparty, keptDirection.trans direction, ?_⟩
    rw [keptDate]
    exact within
  transactionsFit item member := by
    rw [batchTransactions] at member
    rcases fits.transactionsFit item member with ⟨batch, batchMem, batchId, money, moneyMem, rest⟩
    exact ⟨batch, by rw [batches]; exact batchMem, batchId, money, keepsTransactions moneyMem, rest⟩

theorem of_importMove {stamps : ℤ → Prop} (fits : ledger.DraftsFit)
    (move : ImportMove stamps ledger after) : after.DraftsFit := by
  cases move with
  | addInvoice invoice insertable =>
      exact fits.of_kept (.of_subset (List.subset_append_left ..)) (List.Subset.refl _) rfl rfl rfl
  | addTransaction money insertable =>
      exact fits.of_kept (.of_subset (List.Subset.refl _)) (List.subset_append_left ..) rfl rfl rfl
  | setStatus existing status batch row actor now =>
      have keeps : ledger.KeepsInvoices
          (ledger.updateInvoiceStatus existing status batch row actor now) :=
        fun invoice member =>
          ⟨invoice.withStatus existing.id status, List.mem_map_of_mem member, by simp⟩
      exact fits.of_kept keeps (List.Subset.refl _) rfl rfl rfl
  | saveRow row change =>
      exact fits.of_kept (.of_subset (List.Subset.refl _)) (List.Subset.refl _) rfl rfl rfl
  | addSnapshot snapshot =>
      exact fits.of_kept (.of_subset (List.Subset.refl _)) (List.Subset.refl _) rfl rfl rfl
  | saveBatch batch =>
      exact fits.of_kept (.of_subset (List.Subset.refl _)) (List.Subset.refl _) rfl rfl rfl
  | auditConfirmed actor batch result now =>
      exact fits.of_kept (.of_subset (List.Subset.refl _)) (List.Subset.refl _) rfl rfl rfl

/-- The items of a new draft are distinct from each other and from the items of other batches. -/
theorem nodup_items {Item : Type} {item : Uuid → Item} (batchOf : Item → Uuid) {old : List Item}
    {ids : List Uuid} {id : Uuid} (oldDistinct : old.Nodup) (idsDistinct : ids.Nodup)
    (injective : Function.Injective item) (ofBatch : ∀ record, batchOf (item record) = id)
    (fresh : ∀ other ∈ old, batchOf other ≠ id) : (old ++ ids.map item).Nodup := by
  rw [List.nodup_append]
  refine ⟨oldDistinct, idsDistinct.map injective, ?_⟩
  intro other otherMem new newMem same
  rcases List.mem_map.mp newMem with ⟨record, -, rfl⟩
  apply fresh other otherMem
  rw [same]
  exact ofBatch record

theorem insertSettlementBatch (fits : ledger.DraftsFit) (sound : ledger.Sound)
    {row : SettlementBatch} {invoices : List Invoice} {transactions : List MoneyTransaction}
    (checked : Draftable ledger row invoices transactions) (now : ℤ) :
    (ledger.insertSettlementBatch row invoices transactions now).DraftsFit := by
  constructor
  case batchIds =>
    simp only [Ledger.insertSettlementBatch, recordAudit, List.map_append, List.map_cons,
      List.map_nil]
    rw [List.nodup_append]
    refine ⟨fits.batchIds, List.nodup_singleton _, ?_⟩
    intro id member id' member'
    rw [List.mem_singleton] at member'
    rcases List.mem_map.mp member with ⟨other, otherMem, rfl⟩
    rw [member']
    exact checked.fresh other otherMem
  case invoicesDistinct =>
    have idsDistinct : (invoices.map (·.id)).Nodup := by
      rcases checked.invoicesFrom with ⟨listed, perm, sublist⟩
      exact (perm.map _).nodup_iff.mp ((sublist.map _).nodup sound.invoiceIds)
    have distinct : (ledger.batchInvoices ++ (invoices.map (·.id)).map fun id =>
        (⟨row.id, id⟩ : SettlementBatchInvoice)).Nodup :=
      nodup_items SettlementBatchInvoice.batch fits.invoicesDistinct idsDistinct
      (fun id id' same => by simpa using same) (fun _ => rfl) (fun item member same => by
        rcases fits.invoicesFit item member with ⟨batch, batchMem, batchId, -⟩
        exact checked.fresh batch batchMem (batchId.trans same))
    rwa [List.map_map] at distinct
  case transactionsDistinct =>
    have idsDistinct : (transactions.map (·.id)).Nodup := by
      rcases checked.transactionsFrom with ⟨listed, perm, sublist⟩
      exact (perm.map _).nodup_iff.mp ((sublist.map _).nodup sound.transactionIds)
    have distinct : (ledger.batchTransactions ++ (transactions.map (·.id)).map fun id =>
        (⟨row.id, id⟩ : SettlementBatchTransaction)).Nodup :=
      nodup_items SettlementBatchTransaction.batch fits.transactionsDistinct idsDistinct
      (fun id id' same => by simpa using same) (fun _ => rfl) (fun item member same => by
        rcases fits.transactionsFit item member with ⟨batch, batchMem, batchId, -⟩
        exact checked.fresh batch batchMem (batchId.trans same))
    rwa [List.map_map] at distinct
  case invoicesFit =>
    intro item member
    rcases List.mem_append.mp member with old | new
    · rcases fits.invoicesFit item old with ⟨batch, batchMem, rest⟩
      exact ⟨batch, List.mem_append_left _ batchMem, rest⟩
    · rcases List.mem_map.mp new with ⟨invoice, invoiceMem, rfl⟩
      exact ⟨row, List.mem_append_right _ (List.mem_singleton_self row), rfl, invoice,
        checked.invoicesFrom.subset invoiceMem, rfl, checked.invoicesFit invoice invoiceMem⟩
  case transactionsFit =>
    intro item member
    rcases List.mem_append.mp member with old | new
    · rcases fits.transactionsFit item old with ⟨batch, batchMem, rest⟩
      exact ⟨batch, List.mem_append_left _ batchMem, rest⟩
    · rcases List.mem_map.mp new with ⟨money, moneyMem, rfl⟩
      exact ⟨row, List.mem_append_right _ (List.mem_singleton_self row), rfl, money,
        checked.transactionsFrom.subset moneyMem, rfl, checked.transactionsFit money moneyMem⟩

/-- Confirming a batch changes its status and its version, not its terms. -/
theorem setConfirmed (fits : ledger.DraftsFit) (id : Uuid) : (ledger.setConfirmed id).DraftsFit := by
  have kept : ∀ batch ∈ ledger.settlementBatches,
      ∃ kept ∈ (ledger.setConfirmed id).settlementBatches, kept.id = batch.id ∧
        (∀ invoice, BatchInvoiceFits batch invoice → BatchInvoiceFits kept invoice) ∧
        ∀ money, BatchTransactionFits batch money → BatchTransactionFits kept money := by
    intro batch member
    refine ⟨_, List.mem_map_of_mem member, ?_⟩
    split
    · exact ⟨rfl, fun _ fitted => fitted, fun _ fitted => fitted⟩
    · exact ⟨rfl, fun _ fitted => fitted, fun _ fitted => fitted⟩
  constructor
  case batchIds =>
    have sameIds : (ledger.setConfirmed id).settlementBatches.map (·.id) =
        ledger.settlementBatches.map (·.id) := by
      simp only [Ledger.setConfirmed, List.map_map]
      apply List.map_congr_left
      intro batch _
      simp only [Function.comp_apply]
      split <;> rfl
    rw [sameIds]
    exact fits.batchIds
  case invoicesDistinct => exact fits.invoicesDistinct
  case transactionsDistinct => exact fits.transactionsDistinct
  case invoicesFit =>
    intro item member
    rcases fits.invoicesFit item member with
      ⟨batch, batchMem, batchId, invoice, invoiceMem, invoiceId, fitted⟩
    rcases kept batch batchMem with ⟨row, rowMem, rowId, rowFits, -⟩
    exact ⟨row, rowMem, rowId.trans batchId, invoice, invoiceMem, invoiceId, rowFits _ fitted⟩
  case transactionsFit =>
    intro item member
    rcases fits.transactionsFit item member with
      ⟨batch, batchMem, batchId, money, moneyMem, moneyId, fitted⟩
    rcases kept batch batchMem with ⟨row, rowMem, rowId, -, rowFits⟩
    exact ⟨row, rowMem, rowId.trans batchId, money, moneyMem, moneyId, rowFits _ fitted⟩

theorem of_move {stamps : ℤ → Prop} (fits : ledger.DraftsFit) (sound : ledger.Sound)
    (move : LedgerMove stamps ledger after) : after.DraftsFit := by
  cases move with
  | maintain directory =>
      exact fits.of_kept (.of_subset (List.Subset.refl _)) (List.Subset.refl _) rfl rfl rfl
  | stage request sha256 batch rows =>
      exact fits.of_kept (.of_subset (List.Subset.refl _)) (List.Subset.refl _) rfl rfl rfl
  | imports move => exact fits.of_importMove move
  | reconcile row lines checked =>
      exact fits.of_kept (.of_subset (List.Subset.refl _)) (List.Subset.refl _) rfl rfl rfl
  | reverse row original notReversed =>
      exact fits.of_kept (.of_subset (List.Subset.refl _)) (List.Subset.refl _) rfl rfl rfl
  | draft row invoices transactions now checked =>
      exact fits.insertSettlementBatch sound checked now
  | settle batch => exact fits.setConfirmed batch

end DraftsFit

end Ledger

/-- The records of settlement batches fit them after every run. -/
theorem run_draftsFit (site : Installation) (directory : Directory)
    (operations : List Operation) : (run site directory operations).DraftsFit := by
  let holds (ledger : Ledger) := ledger.Sound ∧ ledger.DraftsFit
  have start : holds (.empty directory) := ⟨.empty directory, .empty directory⟩
  exact (run_induction _ start
    (fun both move => ⟨both.1.of_move move, both.2.of_move both.1 move⟩) operations).2

end Finrec
