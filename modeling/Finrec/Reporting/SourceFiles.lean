import Finrec.Imports.Invariant
import Finrec.Reporting.Suppliers

/-!
# The files that records came from

A batch is staged together with its file, and a record is posted under its
batch.  So every record has a source file, which stays the first one of its
batch whatever is staged later.
-/

namespace Finrec

open Checks

namespace Ledger

variable {ledger after : Ledger} {batch : Uuid}

/-- A file of the batch is kept. -/
def HasFile (ledger : Ledger) (batch : Uuid) : Prop :=
  ∃ file ∈ ledger.sourceFiles, file.batch = batch

theorem HasFile.mono (has : ledger.HasFile batch)
    (grown : ledger.sourceFiles <+: after.sourceFiles) : after.HasFile batch := by
  rcases has with ⟨file, member, ofBatch⟩
  exact ⟨file, grown.subset member, ofBatch⟩

/-- The source file of a batch stays the same. -/
theorem HasFile.sourceFileId (has : ledger.HasFile batch)
    (grown : ledger.sourceFiles <+: after.sourceFiles) :
    after.sourceFileId batch = ledger.sourceFileId batch := by
  rcases grown with ⟨added, grown⟩
  rcases has with ⟨file, member, ofBatch⟩
  have found : (ledger.sourceFiles.find? fun file => decide (file.batch = batch)).isSome := by
    rw [List.find?_isSome]
    exact ⟨file, member, by simpa using ofBatch⟩
  rcases Option.isSome_iff_exists.mp found with ⟨first, firstFound⟩
  rw [Ledger.sourceFileId, Ledger.sourceFileId, ← grown, List.find?_append, firstFound,
    Option.some_or]

/-- Every batch and every record has a file. -/
structure Filed (ledger : Ledger) : Prop where
  batches : ∀ batch ∈ ledger.importBatches, ledger.HasFile batch.id
  invoices : ∀ invoice ∈ ledger.invoices, ledger.HasFile invoice.importBatch
  transactions : ∀ money ∈ ledger.transactions, ledger.HasFile money.importBatch

namespace Filed

theorem empty (directory : Directory) : (Ledger.empty directory).Filed := by
  constructor <;> simp [Ledger.empty]

/-- Records stay filed when those that came in belong to batches with files. -/
theorem of_grown (filed : ledger.Filed) (grown : ledger.sourceFiles <+: after.sourceFiles)
    (batches : ∀ batch ∈ after.importBatches,
      (∃ old ∈ ledger.importBatches, batch.id = old.id) ∨ after.HasFile batch.id)
    (invoices : ∀ invoice ∈ after.invoices,
      (∃ old ∈ ledger.invoices, invoice.importBatch = old.importBatch) ∨
        after.HasFile invoice.importBatch)
    (transactions : ∀ money ∈ after.transactions,
      (∃ old ∈ ledger.transactions, money.importBatch = old.importBatch) ∨
        after.HasFile money.importBatch) : after.Filed := by
  constructor
  case batches =>
    intro batch member
    rcases batches batch member with ⟨old, oldMem, same⟩ | new
    · exact same ▸ (filed.batches old oldMem).mono grown
    · exact new
  case invoices =>
    intro invoice member
    rcases invoices invoice member with ⟨old, oldMem, same⟩ | new
    · exact same ▸ (filed.invoices old oldMem).mono grown
    · exact new
  case transactions =>
    intro money member
    rcases transactions money member with ⟨old, oldMem, same⟩ | new
    · exact same ▸ (filed.transactions old oldMem).mono grown
    · exact new

/-- Operations that touch neither batches nor records nor files. -/
theorem of_same (filed : ledger.Filed) (files : after.sourceFiles = ledger.sourceFiles)
    (batches : after.importBatches = ledger.importBatches)
    (invoices : after.invoices = ledger.invoices)
    (transactions : after.transactions = ledger.transactions) :
    after.Filed ∧ ledger.sourceFiles <+: after.sourceFiles := by
  have grown : ledger.sourceFiles <+: after.sourceFiles := files ▸ List.prefix_rfl
  refine ⟨filed.of_grown grown ?_ ?_ ?_, grown⟩
  · intro batch member
    exact .inl ⟨batch, batches ▸ member, rfl⟩
  · intro invoice member
    exact .inl ⟨invoice, invoices ▸ member, rfl⟩
  · intro money member
    exact .inl ⟨money, transactions ▸ member, rfl⟩

end Filed

end Ledger

/-! ## Confirmations -/

/-- What the loop over the rows of a batch leaves of the files and of the records' batches. -/
structure LoopFiles (batch : Uuid) (base reached : Ledger) : Prop where
  files : reached.sourceFiles = base.sourceFiles
  invoices : ∀ invoice ∈ reached.invoices,
    (∃ old ∈ base.invoices, invoice.importBatch = old.importBatch) ∨ invoice.importBatch = batch
  transactions : ∀ money ∈ reached.transactions,
    (∃ old ∈ base.transactions, money.importBatch = old.importBatch) ∨ money.importBatch = batch

theorem LoopFiles.start (batch : Uuid) (base : Ledger) : LoopFiles batch base base where
  files := rfl
  invoices invoice member := .inl ⟨invoice, member, rfl⟩
  transactions money member := .inl ⟨money, member, rfl⟩

theorem LoopFiles.step {context : ConfirmContext} {base : Ledger} {state next : ConfirmState}
    {row : StagedRow} (kept : LoopFiles context.batch base state.ledger)
    (outcome : RowOutcome context state row next) :
    LoopFiles context.batch base next.ledger := by
  cases outcome with
  | skipped issues => exact kept
  | duplicate normalized existing clean decoded found =>
      exact ⟨kept.files, kept.invoices, kept.transactions⟩
  | conflict normalized existing clean decoded found =>
      exact ⟨kept.files, kept.invoices, kept.transactions⟩
  | statusUpdate normalized existing clean decoded found =>
      refine ⟨kept.files, ?_, kept.transactions⟩
      intro invoice member
      rcases List.mem_map.mp member with ⟨old, oldMem, rfl⟩
      rw [Invoice.withStatus_eq]
      exact kept.invoices old oldMem
  | posted normalized ledger clean decoded found inserted =>
      cases normalized with
      | invoice normalized =>
          rcases Ledger.postInvoice_eq_ok inserted with ⟨counterparty, totalAmount, -, -, -, rfl⟩
          refine ⟨kept.files, ?_, kept.transactions⟩
          intro invoice member
          rcases List.mem_append.mp member with old | new
          · exact kept.invoices invoice old
          · rw [List.mem_singleton.mp new]
            exact .inr rfl
      | transaction normalized =>
          rcases Ledger.postTransaction_eq_ok inserted with
            ⟨account, counterparty, fingerprint, amount, balance, -, -, -, -, -, -, rfl⟩
          refine ⟨kept.files, kept.invoices, ?_⟩
          intro money member
          rcases List.mem_append.mp member with old | new
          · exact kept.transactions money old
          · rw [List.mem_singleton.mp new]
            exact .inr rfl

namespace Ledger.Filed

variable {ledger after : Ledger}

theorem of_confirmBatch {env : Env} {request : ConfirmRequest} {result : ImportResult}
    (filed : ledger.Filed) (tallies : ledger.Tallies)
    (succeeded : confirmBatch env request ledger = .ok (after, result)) :
    after.Filed ∧ ledger.sourceFiles <+: after.sourceFiles := by
  rw [confirmBatch_eq_ok] at succeeded
  rcases succeeded with ⟨-, ⟨batch, -, -, rfl, -⟩ | ⟨batch, state, snapshotted, confirmed, rfl, -⟩⟩
  · exact ⟨filed, List.prefix_rfl⟩
  have batchMem := (importBatch?_eq_some confirmed.batchFound).1
  have loop : LoopFiles batch.id ledger state.ledger := by
    refine foldlM_induction (fun reached _ => LoopFiles batch.id ledger reached.ledger) ?_
      (.start batch.id ledger) confirmed.loop
    intro reached row rest next kept stepped
    exact kept.step (confirmRow_outcome stepped)
  have only := createBalanceSnapshots_eq confirmed.snapshots
  have files : (confirmedLedger request batch state snapshotted).sourceFiles =
      ledger.sourceFiles := by
    rw [show (confirmedLedger request batch state snapshotted).sourceFiles =
      snapshotted.sourceFiles from rfl, only]
    exact loop.files
  have invoices : (confirmedLedger request batch state snapshotted).invoices =
      state.ledger.invoices := by
    rw [show (confirmedLedger request batch state snapshotted).invoices = snapshotted.invoices
      from rfl, only]
  have transactions : (confirmedLedger request batch state snapshotted).transactions =
      state.ledger.transactions := by
    rw [show (confirmedLedger request batch state snapshotted).transactions =
      snapshotted.transactions from rfl, only]
  have grown : ledger.sourceFiles <+:
      (confirmedLedger request batch state snapshotted).sourceFiles := files ▸ List.prefix_rfl
  have ofBatch := (filed.batches batch batchMem).mono grown
  refine ⟨filed.of_grown grown ?_ ?_ ?_, grown⟩
  · intro other member
    rw [confirmed.importBatches tallies] at member
    rcases Tables.mem_update member with ⟨old, -⟩ | ⟨changed, -, -, rfl⟩
    · exact .inl ⟨other, old, rfl⟩
    · exact .inl ⟨batch, batchMem, rfl⟩
  · rw [invoices]
    intro invoice member
    rcases loop.invoices invoice member with old | ofThis
    · exact .inl old
    · exact .inr (ofThis ▸ ofBatch)
  · rw [transactions]
    intro money member
    rcases loop.transactions money member with old | ofThis
    · exact .inl old
    · exact .inr (ofThis ▸ ofBatch)

theorem of_stageUpload {env : Env} {parsers : List Importer} {request : StageRequest}
    {batch : ImportBatch} (filed : ledger.Filed)
    (succeeded : stageUpload env parsers request ledger = .ok (after, batch)) :
    after.Filed ∧ ledger.sourceFiles <+: after.sourceFiles := by
  rcases stageUpload_eq_ok succeeded with ⟨parser, sourceKind, rows, state, -, same⟩
  rw [show after = _ from congrArg Prod.fst same]
  have grown : ledger.sourceFiles <+: (ledger.insertUpload request
      (env.sha256 request.upload.content) (stagedBatch request sourceKind state)
      rows).1.sourceFiles := ⟨_, rfl⟩
  refine ⟨filed.of_grown grown ?_ ?_ ?_, grown⟩
  · intro other member
    rcases List.mem_append.mp member with old | new
    · exact .inl ⟨other, old, rfl⟩
    · rw [List.mem_singleton.mp new]
      refine .inr ⟨_, List.mem_append_right _ (List.mem_singleton_self _), rfl⟩
  · exact fun invoice member => .inl ⟨invoice, member, rfl⟩
  · exact fun money member => .inl ⟨money, member, rfl⟩

theorem perform {site : Installation} {operation : Operation} (filed : ledger.Filed)
    (tallies : ledger.Tallies) (succeeded : operation.perform site ledger = .ok after) :
    after.Filed ∧ ledger.sourceFiles <+: after.sourceFiles := by
  cases operation with
  | maintain directory =>
      cases succeeded
      exact filed.of_same rfl rfl rfl rfl
  | stageUpload request =>
      rcases perform_stageUpload succeeded with ⟨batch, staged⟩
      exact filed.of_stageUpload staged
  | confirmBatch request =>
      rcases perform_confirmBatch succeeded with ⟨result, confirmed⟩
      exact filed.of_confirmBatch tallies confirmed
  | createReconciliation request uuid now =>
      simp only [Operation.perform, createReconciliation_eq_ok] at succeeded
      rcases succeeded with ⟨direction, mode, lines, -, rfl⟩
      exact filed.of_same rfl rfl rfl rfl
  | reverseReconciliation actor id reason now =>
      simp only [Operation.perform, reverseReconciliation_eq_ok] at succeeded
      rcases succeeded with ⟨-, text, -, -, original, -, -, rfl⟩
      exact filed.of_same rfl rfl rfl rfl
  | createSettlementBatch request uuid now =>
      simp only [Operation.perform, createSettlementBatch_eq_ok] at succeeded
      rcases succeeded with ⟨direction, invoices, transactions, -, rfl⟩
      exact filed.of_same rfl rfl rfl rfl
  | confirmSettlementBatch id actor allocations version uuid now =>
      simp only [Operation.perform, confirmSettlementBatch_eq_ok, createReconciliation_eq_ok]
        at succeeded
      rcases succeeded with ⟨-, batch, -, -, -, created, ⟨direction, mode, lines, -, rfl⟩, rfl⟩
      exact filed.of_same rfl rfl rfl rfl

end Ledger.Filed

/-- The files of a ledger stay, and every record has one. -/
theorem runFrom_filed {site : Installation} {ledger : Ledger} (filed : ledger.Filed)
    (tallies : ledger.Tallies) (operations : List Operation) :
    (runFrom site ledger operations).Filed ∧
      ledger.sourceFiles <+: (runFrom site ledger operations).sourceFiles := by
  have kept : (runFrom site ledger operations).Tallies ∧
      (runFrom site ledger operations).Filed ∧
      ledger.sourceFiles <+: (runFrom site ledger operations).sourceFiles := by
    refine runFrom_induction (fun reached => reached.Tallies ∧ reached.Filed ∧
      ledger.sourceFiles <+: reached.sourceFiles) ⟨tallies, filed, List.prefix_rfl⟩ ?_ operations
    rintro before after operation ⟨talliesBefore, filedBefore, grown⟩ succeeded
    rcases filedBefore.perform talliesBefore succeeded with ⟨filedAfter, grew⟩
    exact ⟨perform_tallies talliesBefore succeeded, filedAfter, grown.trans grew⟩
  exact kept.2

end Finrec
