import Finrec.Ledger.Effects
import Finrec.Reconciliation.Acceptance
import Finrec.Reconciliation.Confirmable

/-!
# A confirmed settlement

Confirming a settlement batch uses up every record of the batch and leaves all
other records alone.  Each side of the batch is settled by the same lines, so
the two sides had the same open total.

The confirmation writes one reconciliation for the batch.  It is the only one
as long as nothing else passes the batch to `create_reconciliation`, which
accepts any stored batch; the invariant `SettledOnce` carries this through runs.
-/

namespace Finrec

open Checks Totals

/-! ## The lines of a confirmation -/

section Lines

variable {ledger : Ledger} {batch : SettlementBatch} {allocations : List AllocationInput}

/-- Adding up payments is adding up their hundredths. -/
theorem foldlM_payments {items : List AllocationInput}
    (payments : ∀ item ∈ items, item.amount.IsPayment) {start : Decimal} {cents : ℤ}
    (startIs : start.IsCents cents) :
    ∃ sum, (items.map (·.amount)).foldlM addAmounts (.decimal start) = .ok (.decimal sum) ∧
      sum.IsCents (cents + (items.map (·.amount.cents)).sum) := by
  induction items generalizing start cents with
  | nil => exact ⟨start, rfl, by simpa using startIs⟩
  | cons item rest ih =>
      have payment := payments item (List.mem_cons_self ..)
      rcases Amount.isPayment_iff.mpr ⟨payment.cents_pos, payment.equals⟩ with
        ⟨number, amountEq, -, isCents⟩
      rcases ih (fun other member => payments other (List.mem_cons_of_mem _ member))
        (Decimal.isCents_add startIs isCents) with ⟨sum, folded, isSum⟩
      refine ⟨sum, ?_, ?_⟩
      · rw [List.map_cons, List.foldlM_cons, amountEq]
        exact folded
      · rwa [List.map_cons, List.sum_cons, ← add_assoc]

/-- A record that its lines settle had just what they ask for open. -/
theorem requested_of_settles (payments : ∀ item ∈ allocations, item.amount.IsPayment)
    {key : AllocationInput → Uuid} {id : Uuid} {openAmount : ℤ}
    (settles : Settles key allocations id openAmount) :
    requested key allocations id = openAmount := by
  rcases settles with ⟨-, sum, totalEq, equals⟩
  have ofRecord : ∀ item ∈ allocations.filter fun item => decide (key item = id),
      item.amount.IsPayment := fun item member => payments item (List.mem_filter.mp member).1
  rcases foldlM_payments ofRecord (Decimal.isCents_ofCents 0) with ⟨total, folded, isTotal⟩
  rw [lineTotal, folded, Except.ok.injEq] at totalEq
  subst totalEq
  rw [zero_add] at isTotal
  exact Decimal.isCents_unique isTotal equals

/-- When all lines name one of some records, the totals of the records add up to all lines. -/
theorem sum_requested {Record : Type} {records : List Record} {id : Record → Uuid}
    (distinct : (records.map id).Nodup) {key : AllocationInput → Uuid}
    (named : ∀ item ∈ allocations, key item ∈ records.map id) :
    (records.map fun record => requested key allocations (id record)).sum =
      (allocations.map (·.amount.cents)).sum := by
  have counted := sum_totals_eq_total key (fun _ => true)
    (fun item : AllocationInput => item.amount.cents) allocations distinct
  have every : total (fun item => decide (key item ∈ records.map id) && true)
      (fun item : AllocationInput => item.amount.cents) allocations =
        (allocations.map (·.amount.cents)).sum := by
    rw [total, List.filter_eq_self.mpr]
    intro item member
    simpa using named item member
  rw [every, List.map_map] at counted
  simp only [Bool.and_true] at counted
  exact counted

end Lines

namespace Ledger

/-- The invoices of a batch. -/
def invoicesOf (ledger : Ledger) (batch : Uuid) : List Invoice :=
  ledger.invoices.filter fun invoice => decide (invoice.id ∈ ledger.batchInvoiceIds batch)

/-- The transactions of a batch. -/
def transactionsOf (ledger : Ledger) (batch : Uuid) : List MoneyTransaction :=
  ledger.transactions.filter fun money => decide (money.id ∈ ledger.batchTransactionIds batch)

/-- The reconciliations that refer to a batch. -/
def reconciliationsOf (ledger : Ledger) (batch : Uuid) : List Reconciliation :=
  ledger.reconciliations.filter fun row => decide (row.settlementBatch = some batch)

end Ledger

/-- What the confirmation of a batch does to the ledger. -/
structure SettlesBatch (before : Ledger) (batch : SettlementBatch) (after : Ledger) : Prop where
  invoicesSettled : ∀ id ∈ before.batchInvoiceIds batch.id, invoiceOpenAmount after id = .ok 0
  transactionsSettled :
    ∀ id ∈ before.batchTransactionIds batch.id, transactionOpenAmount after id = .ok 0
  otherInvoices : ∀ id ∉ before.batchInvoiceIds batch.id,
    invoiceOpenAmount after id = invoiceOpenAmount before id
  otherTransactions : ∀ id ∉ before.batchTransactionIds batch.id,
    transactionOpenAmount after id = transactionOpenAmount before id
  balanced : ((before.invoicesOf batch.id).map before.invoiceOpen).sum =
    ((before.transactionsOf batch.id).map before.transactionOpen).sum
  confirmed : { batch with status := .confirmed, version := batch.version + 1 } ∈
    after.settlementBatches
  oneMore : ∃ row, row.settlementBatch = some batch.id ∧
    after.reconciliationsOf batch.id = before.reconciliationsOf batch.id ++ [row]

theorem settlesBatch_of_confirmed {ledger after : Ledger} (sound : ledger.Sound)
    {batch : SettlementBatch} (found : ledger.settlementBatch? batch.id = some batch)
    {actor : Actor} {allocations : List AllocationInput} {version : ℤ} {uuid : Uuid} {now : ℤ}
    (succeeded : confirmSettlementBatch batch.id actor allocations version uuid now ledger =
      .ok after) : SettlesBatch ledger batch after := by
  rw [confirmSettlementBatch_eq_ok] at succeeded
  rcases succeeded with ⟨-, row, rowFound, -, checked, created, createdEq, rfl⟩
  rw [found, Option.some.injEq] at rowFound
  subst rowFound
  have invoiceOpen := invoiceOpenAmount_created sound createdEq
  have transactionOpen := transactionOpenAmount_created sound createdEq
  rcases createReconciliation_eq_ok.mp createdEq with ⟨direction, mode, lines, reconciled, rfl⟩
  have valid := (allocationsChecked_iff sound checked.nonempty reconciled.allocations.each).mp
    reconciled.allocations
  have payments : ∀ item ∈ allocations, item.amount.IsPayment := valid.payments
  have invoiceRequested : ∀ invoice ∈ ledger.invoices,
      invoice.id ∈ ledger.batchInvoiceIds batch.id →
        requested (·.invoiceId) allocations invoice.id = ledger.invoiceOpen invoice := by
    intro invoice listed within
    rcases checked.invoicesSettled _ within with ⟨other, otherFound, settles⟩
    rcases sound.invoice?_eq_some_iff.mp otherFound with ⟨otherListed, sameId⟩
    rw [List.inj_on_of_nodup_map sound.invoiceIds otherListed listed sameId] at settles
    exact requested_of_settles payments settles
  have transactionRequested : ∀ money ∈ ledger.transactions,
      money.id ∈ ledger.batchTransactionIds batch.id →
        requested (·.transactionId) allocations money.id = ledger.transactionOpen money := by
    intro money listed within
    rcases checked.transactionsSettled _ within with ⟨other, otherFound, settles⟩
    rcases sound.transaction?_eq_some_iff.mp otherFound with ⟨otherListed, sameId⟩
    rw [List.inj_on_of_nodup_map sound.transactionIds otherListed listed sameId] at settles
    exact requested_of_settles payments settles
  constructor
  case invoicesSettled =>
    intro id within
    rcases checked.invoicesSettled id within with ⟨invoice, invoiceFound, -⟩
    rcases sound.invoice?_eq_some_iff.mp invoiceFound with ⟨listed, rfl⟩
    have used := invoiceRequested invoice listed within
    have before : invoiceOpenAmount ledger invoice.id = .ok (ledger.invoiceOpen invoice) :=
      invoiceOpenAmount_eq_ok.mpr ⟨invoice, invoiceFound, rfl⟩
    refine (invoiceOpen invoice.id).trans ?_
    rw [before]
    change Except.ok (ledger.invoiceOpen invoice - requested (·.invoiceId) allocations invoice.id) =
      Except.ok 0
    rw [used, sub_self]
  case transactionsSettled =>
    intro id within
    rcases checked.transactionsSettled id within with ⟨money, moneyFound, -⟩
    rcases sound.transaction?_eq_some_iff.mp moneyFound with ⟨listed, rfl⟩
    have used := transactionRequested money listed within
    have before : transactionOpenAmount ledger money.id = .ok (ledger.transactionOpen money) :=
      transactionOpenAmount_eq_ok.mpr ⟨money, moneyFound, rfl⟩
    refine (transactionOpen money.id).trans ?_
    rw [before]
    change Except.ok (ledger.transactionOpen money -
      requested (·.transactionId) allocations money.id) = Except.ok 0
    rw [used, sub_self]
  case otherInvoices =>
    intro id outside
    have unnamed : requested (·.invoiceId) allocations id = 0 :=
      requested_of_unnamed fun item member same =>
        outside (same ▸ checked.invoicesWithin item member)
    refine (invoiceOpen id).trans ?_
    change (invoiceOpenAmount ledger id).map (· - requested (·.invoiceId) allocations id) = _
    rw [unnamed]
    cases invoiceOpenAmount ledger id with
    | error error => rfl
    | ok amount => simp [Except.map]
  case otherTransactions =>
    intro id outside
    have unnamed : requested (·.transactionId) allocations id = 0 :=
      requested_of_unnamed fun item member same =>
        outside (same ▸ checked.transactionsWithin item member)
    refine (transactionOpen id).trans ?_
    change (transactionOpenAmount ledger id).map (· - requested (·.transactionId) allocations id) = _
    rw [unnamed]
    cases transactionOpenAmount ledger id with
    | error error => rfl
    | ok amount => simp [Except.map]
  case balanced =>
    have invoicesDistinct : ((ledger.invoicesOf batch.id).map (·.id)).Nodup :=
      (List.filter_sublist.map _).nodup sound.invoiceIds
    have transactionsDistinct : ((ledger.transactionsOf batch.id).map (·.id)).Nodup :=
      (List.filter_sublist.map _).nodup sound.transactionIds
    have invoicesNamed : ∀ item ∈ allocations,
        item.invoiceId ∈ (ledger.invoicesOf batch.id).map (·.id) := by
      intro item member
      have within := checked.invoicesWithin item member
      rcases checked.invoicesSettled _ within with ⟨invoice, invoiceFound, -⟩
      rcases sound.invoice?_eq_some_iff.mp invoiceFound with ⟨listed, same⟩
      rw [← same] at within ⊢
      exact List.mem_map_of_mem (List.mem_filter.mpr ⟨listed, decide_eq_true within⟩)
    have transactionsNamed : ∀ item ∈ allocations,
        item.transactionId ∈ (ledger.transactionsOf batch.id).map (·.id) := by
      intro item member
      have within := checked.transactionsWithin item member
      rcases checked.transactionsSettled _ within with ⟨money, moneyFound, -⟩
      rcases sound.transaction?_eq_some_iff.mp moneyFound with ⟨listed, same⟩
      rw [← same] at within ⊢
      exact List.mem_map_of_mem (List.mem_filter.mpr ⟨listed, decide_eq_true within⟩)
    have invoiceOpens : (ledger.invoicesOf batch.id).map ledger.invoiceOpen =
        (ledger.invoicesOf batch.id).map fun invoice =>
          requested (·.invoiceId) allocations invoice.id := by
      apply List.map_congr_left
      intro invoice member
      rcases List.mem_filter.mp member with ⟨listed, within⟩
      exact (invoiceRequested invoice listed (of_decide_eq_true within)).symm
    have transactionOpens : (ledger.transactionsOf batch.id).map ledger.transactionOpen =
        (ledger.transactionsOf batch.id).map fun money =>
          requested (·.transactionId) allocations money.id := by
      apply List.map_congr_left
      intro money member
      rcases List.mem_filter.mp member with ⟨listed, within⟩
      exact (transactionRequested money listed (of_decide_eq_true within)).symm
    rw [invoiceOpens, transactionOpens, sum_requested invoicesDistinct invoicesNamed,
      sum_requested transactionsDistinct transactionsNamed]
  case confirmed =>
    have listed : batch ∈ ledger.settlementBatches := List.mem_of_find?_eq_some found
    refine List.mem_map.mpr ⟨batch, listed, ?_⟩
    rw [if_pos rfl]
  case oneMore =>
    refine ⟨reconciliationRow (confirmationRequest actor batch allocations) uuid now direction mode,
      rfl, ?_⟩
    change ((ledger.reconciliations ++ [_]).filter _) = _
    rw [List.filter_append, List.filter_singleton]
    simp [Ledger.reconciliationsOf, reconciliationRow, confirmationRequest]

/-! ## Runs -/

/-- The operation passes no settlement batch to `create_reconciliation` itself. -/
def Operation.LeavesBatches (operation : Operation) : Prop :=
  ∀ request uuid now, operation = .createReconciliation request uuid now →
    request.settlementBatch = none

/-- A draft has no reconciliation yet, and a confirmed batch has one; the version counts. -/
def SettledOnce (ledger : Ledger) : Prop :=
  ∀ batch ∈ ledger.settlementBatches,
    (batch.status = .draft ∧ batch.version = 1 ∧
        (ledger.reconciliationsOf batch.id).length = 0) ∨
      (batch.status = .confirmed ∧ batch.version = 2 ∧
        (ledger.reconciliationsOf batch.id).length = 1)

/-- A batch stays as it is, or the operation confirms it. -/
def KeepsBatch (operation : Operation) (after : Ledger) (batch : SettlementBatch) : Prop :=
  batch ∈ after.settlementBatches ∨
    (∃ actor allocations version uuid now,
      operation = .confirmSettlementBatch batch.id actor allocations version uuid now) ∧
      batch.status = .draft ∧
      { batch with status := .confirmed, version := batch.version + 1 } ∈ after.settlementBatches

section Runs

variable {ledger after : Ledger} {operation : Operation}

theorem length_reconciliationsOf (ledger : Ledger) (row : Reconciliation)
    (lines : List AllocationLine) (id : Uuid) :
    ((ledger.insertReconciliation row lines).reconciliationsOf id).length =
      (ledger.reconciliationsOf id).length + if row.settlementBatch = some id then 1 else 0 := by
  simp only [Ledger.reconciliationsOf, Ledger.insertReconciliation, Ledger.recordAudit,
    List.filter_append, List.length_append, List.filter_singleton]
  by_cases ofBatch : row.settlementBatch = some id
  · simp [ofBatch]
  · simp [ofBatch]

theorem Effect.keepsBatch (batchIds : (ledger.settlementBatches.map (·.id)).Nodup)
    (effect : Effect ledger operation after) {batch : SettlementBatch}
    (member : batch ∈ ledger.settlementBatches) : KeepsBatch operation after batch := by
  cases effect with
  | elsewhere operation same =>
      left
      rw [same.settlementBatches]
      exact member
  | create checked => exact .inl member
  | reverse original notReversed => exact .inl member
  | draft checked => exact .inl (List.mem_append_left _ member)
  | @settle actor allocations version uuid now confirmed direction mode lines found isDraft checked =>
      by_cases same : batch.id = confirmed.id
      · have listed := List.mem_of_find?_eq_some found
        have sameBatch := List.inj_on_of_nodup_map batchIds member listed same
        subst sameBatch
        right
        refine ⟨⟨actor, allocations, version, uuid, now, rfl⟩, isDraft, ?_⟩
        refine List.mem_map.mpr ⟨batch, member, ?_⟩
        rw [if_pos rfl]
      · left
        refine List.mem_map.mpr ⟨batch, member, ?_⟩
        rw [if_neg same]

theorem SettledOnce.of_effect (once : SettledOnce ledger) (recorded : ledger.Recorded)
    (batchIds : (ledger.settlementBatches.map (·.id)).Nodup) (leaves : operation.LeavesBatches)
    (effect : Effect ledger operation after) : SettledOnce after := by
  cases effect with
  | elsewhere operation same =>
      simp only [SettledOnce, Ledger.reconciliationsOf, same.settlementBatches,
        same.reconciliations]
      exact once
  | @create request uuid now direction mode lines checked =>
      intro batch member
      have none : request.settlementBatch ≠ some batch.id := by
        simp [leaves request uuid now rfl]
      rw [length_reconciliationsOf, reconciliationRow, if_neg none]
      exact once batch member
  | reverse original notReversed => exact once
  | draft checked =>
      intro batch member
      rcases List.mem_append.mp member with old | new
      · exact once batch old
      · left
        rw [List.mem_singleton.mp new]
        refine ⟨rfl, rfl, ?_⟩
        -- No reconciliation can refer to a batch before it exists.
        rw [List.length_eq_zero_iff, Ledger.reconciliationsOf, List.filter_eq_nil_iff]
        intro row rowMem ofBatch
        rcases recorded.batchKnown row rowMem _ (of_decide_eq_true ofBatch) with
          ⟨other, otherMem, otherId⟩
        exact checked.fresh other otherMem otherId
  | @settle actor allocations version uuid now confirmed direction mode lines found isDraft checked =>
      intro batch member
      have counted : ((ledger.insertReconciliation (reconciliationRow
          (confirmationRequest actor confirmed allocations) uuid now direction
            mode) lines).setConfirmed confirmed.id).reconciliationsOf batch.id =
          (ledger.insertReconciliation (reconciliationRow
            (confirmationRequest actor confirmed allocations) uuid now direction
              mode) lines).reconciliationsOf batch.id := rfl
      rw [counted, length_reconciliationsOf, reconciliationRow, confirmationRequest]
      simp only [Option.some.injEq]
      rcases List.mem_map.mp member with ⟨old, oldMem, rfl⟩
      have listed := List.mem_of_find?_eq_some found
      by_cases same : old.id = confirmed.id
      · right
        have sameBatch := List.inj_on_of_nodup_map batchIds oldMem listed same
        subst sameBatch
        rcases once old oldMem with ⟨-, version, none⟩ | ⟨isConfirmed, -, -⟩
        · simp [version, none]
        · rw [isDraft] at isConfirmed
          exact SettlementStatus.noConfusion isConfirmed
      · simp only [same, Ne.symm same, ↓reduceIte, add_zero]
        exact once old oldMem

end Runs

/-- What the run needs of a ledger for `SettledOnce` to last. -/
structure Orderly (ledger : Ledger) : Prop where
  sound : ledger.Sound
  drafts : ledger.DraftsFit
  recorded : ledger.Recorded
  once : SettledOnce ledger

theorem Ledger.DraftsFit.perform {site : Installation} {ledger after : Ledger}
    {operation : Operation} (fits : ledger.DraftsFit) (sound : ledger.Sound)
    (succeeded : operation.perform site ledger = .ok after) : after.DraftsFit := by
  have moves : LedgerMoves (fun _ => True) ledger after :=
    perform_moves (fun _ _ => trivial) succeeded
  clear succeeded
  have both : after.Sound ∧ after.DraftsFit := by
    induction moves with
    | refl => exact ⟨sound, fits⟩
    | tail _ move ih => exact ⟨ih.1.of_move move, ih.2.of_move ih.1 move⟩
  exact both.2

theorem runFrom_orderly (site : Installation) {ledger : Ledger} (orderly : Orderly ledger)
    {operations : List Operation} (leaves : ∀ operation ∈ operations, operation.LeavesBatches) :
    Orderly (runFrom site ledger operations) := by
  induction operations generalizing ledger with
  | nil => exact orderly
  | cons operation rest ih =>
      have restLeaves : ∀ other ∈ rest, other.LeavesBatches :=
        fun other member => leaves other (List.mem_cons_of_mem _ member)
      refine ih ?_ restLeaves
      simp only [Operation.step]
      split
      · rename_i after succeeded
        have effect := perform_effect succeeded
        exact ⟨orderly.sound.perform succeeded, orderly.drafts.perform orderly.sound succeeded,
          orderly.recorded.of_effect effect,
          orderly.once.of_effect orderly.recorded orderly.drafts.batchIds
            (leaves operation (List.mem_cons_self ..)) effect⟩
      · exact orderly

theorem orderly_empty (directory : Directory) : Orderly (.empty directory) :=
  ⟨.empty directory, .empty directory, .empty directory, by simp [SettledOnce, Ledger.empty]⟩

/--
A confirmation settles every record of its batch once, and in a run in which only confirmations
pass batches to `create_reconciliation` a batch has a reconciliation exactly when it is confirmed.
-/
theorem confirmed_settles_once (site : Installation) (directory : Directory)
    (operations : List Operation) :
    (∀ batch ∈ (run site directory operations).settlementBatches, batch.status = .draft →
      ∀ actor allocations version uuid now after,
        confirmSettlementBatch batch.id actor allocations version uuid now
          (run site directory operations) = .ok after →
        SettlesBatch (run site directory operations) batch after ∧
          ((∀ operation ∈ operations, operation.LeavesBatches) →
            (after.reconciliationsOf batch.id).length = 1)) ∧
    ((∀ operation ∈ operations, operation.LeavesBatches) →
      ∀ batch ∈ (run site directory operations).settlementBatches,
        ((run site directory operations).reconciliationsOf batch.id).length ≤ 1 ∧
        (((run site directory operations).reconciliationsOf batch.id).length = 1 ↔
          batch.status = .confirmed)) ∧
    ∀ operation, ∀ batch ∈ (run site directory operations).settlementBatches,
      KeepsBatch operation (operation.step site (run site directory operations)) batch := by
  have sound := run_sound site directory operations
  have fits := run_draftsFit site directory operations
  have orderly : (∀ operation ∈ operations, operation.LeavesBatches) →
      Orderly (run site directory operations) :=
    fun leaves => runFrom_orderly site (orderly_empty directory) leaves
  refine ⟨?_, ?_, ?_⟩
  · intro batch member isDraft actor allocations version uuid now after succeeded
    have found : (run site directory operations).settlementBatch? batch.id = some batch :=
      (find?_eq_some_iff fits.batchIds).mpr ⟨member, rfl⟩
    have settles := settlesBatch_of_confirmed sound found succeeded
    refine ⟨settles, ?_⟩
    intro leaves
    rcases settles.oneMore with ⟨row, -, oneMore⟩
    rcases (orderly leaves).once batch member with ⟨-, -, none⟩ | ⟨isConfirmed, -, -⟩
    · rw [oneMore, List.length_append, none]
      rfl
    · rw [isDraft] at isConfirmed
      exact SettlementStatus.noConfusion isConfirmed
  · intro leaves batch member
    rcases (orderly leaves).once batch member with ⟨isDraft, -, none⟩ | ⟨isConfirmed, -, one⟩
    · simp [isDraft, none]
    · simp [isConfirmed, one]
  · intro operation batch member
    simp only [Operation.step]
    split
    · rename_i after succeeded
      exact (perform_effect succeeded).keepsBatch fits.batchIds member
    · exact .inl member

namespace Sample

/-- The batch of a pair, with a part of it reconciled for the batch beside its confirmation. -/
def sharedBatch : List Operation :=
  settlementDraft ++ [.createReconciliation ⟨finance, some .purchasePayment,
    [⟨1102, 1204, .decimal (Decimal.ofCents 6000)⟩], "", some .batch, some 90, none, none, true⟩ 91 0]

end Sample

/-- A batch can be passed to `create_reconciliation` before its confirmation, which adds a second one. -/
theorem confirmed_settles_twice :
    let ledger := run (Sample.settlementSite (Sample.february 10 (by decide))
      (Sample.february 12 (by decide)) 43200000000) Sample.directory Sample.sharedBatch
    Sample.draftRow ∈ ledger.settlementBatches ∧ Sample.draftRow.status = .draft ∧
      ((confirmSettlementBatch 90 Sample.finance
        [⟨1102, 1204, .decimal (Decimal.ofCents 4000)⟩] 1 92 0 ledger).toOption.map fun after =>
          (after.reconciliationsOf 90).length) = some 2 := by
  decide +kernel

end Finrec
