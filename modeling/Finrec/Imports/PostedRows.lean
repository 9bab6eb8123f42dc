import Finrec.Imports.Balances
import Finrec.Imports.Overlaps

/-!
# Posted rows and the balances they offer

Every posted row of a batch has its transaction and every transaction its row.
So the balances that the rows of a bank batch offer can be read off the
transactions: the one chosen for an account is that of its latest transaction,
and of several at one instant the one of the first row.  Rows in between that
were not posted and rows of other accounts make no difference.
-/

namespace Finrec

open Checks

/-! ## Posted rows and their transactions -/

/-- The row was posted as the transaction. -/
structure StagedRow.PostedAs (directory : Directory) (row : StagedRow) (money : MoneyTransaction) :
    Prop where
  clean : row.issues = []
  isPosted : row.postedAt.isSome
  sourceRow : money.sourceRow = row.rowNumber
  document : ∃ normalized, deserializeNormalized row.normalizedData = some (.transaction normalized) ∧
    (∃ account, (resolveFundingAccount directory normalized).value = some account ∧
      account.id = money.account) ∧
    money.occurredAt = normalized.occurredAt.instant ∧ money.channel = normalized.channel ∧
    Ledger.storedBalance normalized.balanceAfter = .ok money.balanceAfter

namespace Ledger

/-- The posted rows of a batch and its transactions belong together, but for the rows of invoices. -/
structure PostsBatch (ledger : Ledger) (batch : Uuid) : Prop where
  ofMoney : ∀ money ∈ ledger.transactions, money.importBatch = batch →
    ∃ row ∈ ledger.stagedRows, row.batch = batch ∧ row.PostedAs ledger.directory money
  ofRow : ∀ row ∈ ledger.stagedRows, row.batch = batch → row.postedAt.isSome →
    row.document?.isSome ∨ ∃ money ∈ ledger.transactions, money.importBatch = batch ∧
      row.PostedAs ledger.directory money

/-- Every transaction came with a batch that is confirmed. -/
def Entered (ledger : Ledger) : Prop :=
  ∀ money ∈ ledger.transactions, ∃ batch ∈ ledger.importBatches,
    batch.id = money.importBatch ∧ batch.confirmedAt.isSome

end Ledger

section Loop

variable {context : ConfirmContext} {batch : ImportBatch} {base before after : Ledger}
  {state next : ConfirmState} {row : StagedRow} {change : StagedRow → StagedRow}

/-- What a step of the loop makes of its row. -/
inductive RowPosting (batch : Uuid) (row : StagedRow) (change : StagedRow → StagedRow)
    (before after : Ledger) : Prop where
  | kept (same : after.transactions = before.transactions)
      (unposted : (change row).postedAt = row.postedAt)
  | invoice (same : after.transactions = before.transactions) (isInvoice : row.document?.isSome)
  | money (money : MoneyTransaction) (added : after.transactions = before.transactions ++ [money])
      (ofBatch : money.importBatch = batch) (posted : (change row).PostedAs before.directory money)

/-- A step of the loop changes its row and no other, and leaves the snapshots and the directory. -/
structure PostingStep (batch : Uuid) (row : StagedRow) (before after : Ledger)
    (change : StagedRow → StagedRow) : Prop where
  rows : after.stagedRows = Tables.update (·.id) row.id change before.stagedRows
  keeps : ∀ other, (change other).batch = other.batch ∧
    (change other).normalizedData = other.normalizedData
  snapshots : after.snapshots = before.snapshots
  directory : after.directory = before.directory
  posting : RowPosting batch row change before after

theorem RowOutcome.posting (outcome : RowOutcome context state row next) :
    ∃ change, PostingStep context.batch row state.ledger next.ledger change := by
  cases outcome with
  | skipped issues =>
      refine ⟨id, ?_, fun _ => ⟨rfl, rfl⟩, rfl, rfl, .kept rfl rfl⟩
      simp [Tables.update]
  | duplicate normalized existing clean decoded found =>
      exact ⟨StagedRow.asDuplicate, rfl, fun _ => ⟨rfl, rfl⟩, rfl, rfl, .kept rfl rfl⟩
  | conflict normalized existing clean decoded found =>
      exact ⟨StagedRow.withIssue _, rfl, fun _ => ⟨rfl, rfl⟩, rfl, rfl, .kept rfl rfl⟩
  | statusUpdate normalized existing clean decoded found =>
      refine ⟨StagedRow.asPosted _, rfl, fun _ => ⟨rfl, rfl⟩, rfl, rfl, .invoice rfl ?_⟩
      rw [StagedRow.document?_eq_some.mpr decoded]
      rfl
  | posted normalized ledger clean decoded found inserted =>
      cases normalized with
      | invoice normalized =>
          rcases Ledger.postInvoice_eq_ok inserted with ⟨counterparty, totalAmount, -, -, -, rfl⟩
          refine ⟨StagedRow.asPosted _, rfl, fun _ => ⟨rfl, rfl⟩, rfl, rfl, .invoice rfl ?_⟩
          rw [StagedRow.document?_eq_some.mpr decoded]
          rfl
      | transaction normalized =>
          rcases Ledger.postTransaction_eq_ok inserted with
            ⟨account, counterparty, fingerprint, amount, balance, resolved, -, -, -, stored, -, rfl⟩
          refine ⟨StagedRow.asPosted _, rfl, fun _ => ⟨rfl, rfl⟩, rfl, rfl, .money _ rfl rfl ?_⟩
          exact ⟨clean, rfl, rfl, normalized, decoded, ⟨account, resolved, rfl⟩, rfl, rfl, stored⟩

/-- A posted row has another key than the row of the step. -/
theorem id_ne_of_isPosted {rows : List StagedRow} {other : StagedRow}
    (distinct : (rows.map (·.id)).Nodup) (member : row ∈ rows) (unposted : row.postedAt = none)
    (otherMem : other ∈ rows) (isPosted : other.postedAt.isSome) : other.id ≠ row.id := by
  intro same
  rw [List.inj_on_of_nodup_map distinct otherMem member same, unposted] at isPosted
  cases isPosted

theorem Ledger.PostsBatch.step {id : Uuid} (posts : before.PostsBatch id)
    (posting : PostingStep id row before after change)
    (distinct : (before.stagedRows.map (·.id)).Nodup) (member : row ∈ before.stagedRows)
    (ofBatch : row.batch = id) (unposted : row.postedAt = none) : after.PostsBatch id where
  ofMoney := by
    have old : ∀ money ∈ before.transactions, money.importBatch = id →
        ∃ other ∈ after.stagedRows, other.batch = id ∧ other.PostedAs after.directory money := by
      intro money moneyMem inBatch
      rcases posts.ofMoney money moneyMem inBatch with ⟨other, otherMem, otherBatch, posted⟩
      refine ⟨other, ?_, otherBatch, posting.directory ▸ posted⟩
      rw [posting.rows]
      apply Tables.mem_update_of_ne otherMem
      exact id_ne_of_isPosted distinct member unposted otherMem posted.isPosted
    cases posting.posting with
    | kept same _ => exact same ▸ old
    | invoice same _ => exact same ▸ old
    | money money added inBatch posted =>
        rw [added]
        intro other otherMem otherBatch
        rcases List.mem_append.mp otherMem with early | last
        · exact old other early otherBatch
        · rw [List.mem_singleton.mp last]
          refine ⟨change row, ?_, (posting.keeps row).1.trans ofBatch, posting.directory ▸ posted⟩
          rw [posting.rows]
          exact Tables.change_mem_update change member
  ofRow := by
    intro other otherMem otherBatch isPosted
    rw [posting.rows] at otherMem
    have monotone : ∀ money ∈ before.transactions, money ∈ after.transactions := by
      intro money moneyMem
      cases posting.posting with
      | kept same _ => exact same ▸ moneyMem
      | invoice same _ => exact same ▸ moneyMem
      | money money added _ _ => exact added ▸ List.mem_append_left _ moneyMem
    rcases Tables.mem_update otherMem with ⟨old, -⟩ | ⟨changed, changedMem, sameId, rfl⟩
    · refine (posts.ofRow other old otherBatch isPosted).imp_right ?_
      rintro ⟨money, moneyMem, inBatch, posted⟩
      exact ⟨money, monotone money moneyMem, inBatch, posting.directory ▸ posted⟩
    · have same := List.inj_on_of_nodup_map distinct changedMem member sameId
      subst same
      cases posting.posting with
      | kept _ same =>
          rw [same, unposted] at isPosted
          cases isPosted
      | invoice _ isInvoice =>
          refine .inl ?_
          unfold StagedRow.document? at isInvoice ⊢
          rw [(posting.keeps changed).2]
          exact isInvoice
      | money money added inBatch posted =>
          refine .inr ⟨money, ?_, inBatch, posting.directory ▸ posted⟩
          rw [added]
          exact List.mem_append_right _ (List.mem_singleton_self money)

/-- What the loop keeps, besides its counts. -/
structure LoopPosts (id : Uuid) (base reached : Ledger) : Prop where
  posts : reached.PostsBatch id
  snapshots : reached.snapshots = base.snapshots
  directory : reached.directory = base.directory
  entered : ∀ money ∈ reached.transactions, money ∈ base.transactions ∨ money.importBatch = id
  monotone : ∀ money ∈ base.transactions, money ∈ reached.transactions

theorem LoopPosts.step {id : Uuid} (kept : LoopPosts id base before)
    (posting : PostingStep id row before after change)
    (distinct : (before.stagedRows.map (·.id)).Nodup) (member : row ∈ before.stagedRows)
    (ofBatch : row.batch = id) (unposted : row.postedAt = none) : LoopPosts id base after where
  posts := kept.posts.step posting distinct member ofBatch unposted
  snapshots := posting.snapshots.trans kept.snapshots
  directory := posting.directory.trans kept.directory
  entered := by
    cases posting.posting with
    | kept same _ => exact same ▸ kept.entered
    | invoice same _ => exact same ▸ kept.entered
    | money money added inBatch _ =>
        rw [added]
        intro other otherMem
        rcases List.mem_append.mp otherMem with early | last
        · exact kept.entered other early
        · exact .inr (List.mem_singleton.mp last ▸ inBatch)
  monotone := by
    intro money moneyMem
    have before := kept.monotone money moneyMem
    cases posting.posting with
    | kept same _ => exact same ▸ before
    | invoice same _ => exact same ▸ before
    | money _ added _ _ => exact added ▸ List.mem_append_left _ before

/-- Before a batch is confirmed, it has neither transactions nor posted rows. -/
theorem LoopPosts.start (tallies : base.Tallies) (entered : base.Entered)
    (member : batch ∈ base.importBatches) (unconfirmed : batch.confirmedAt = none) :
    LoopPosts batch.id base base := by
  refine ⟨⟨?_, ?_⟩, rfl, rfl, fun money => .inl, fun money => id⟩
  · intro money moneyMem inBatch
    rcases entered money moneyMem with ⟨other, otherMem, sameId, isConfirmed⟩
    have same := List.inj_on_of_nodup_map tallies.keyed.batchIds otherMem member
      (sameId.trans inBatch)
    rw [same, unconfirmed] at isConfirmed
    cases isConfirmed
  · intro row rowMem ofBatch isPosted
    have none := ((tallies.tallied batch member).staged unconfirmed).2
    have selected := List.countP_eq_zero.mp none row rowMem
    simp [ofBatch, isPosted] at selected

theorem LoopPosts.loop (tallies : base.Tallies) (entered : base.Entered)
    (member : batch ∈ base.importBatches) (unconfirmed : batch.confirmedAt = none)
    (isBatch : context.batch = batch.id)
    (succeeded : (base.pendingRows batch.id).foldlM (confirmRow context) ⟨base, 0, 0⟩ =
      .ok state) : LoopPosts batch.id base state.ledger := by
  have tallied := tallies.tallied batch member
  refine (foldlM_induction (fun reached rest => LoopTally batch base reached rest ∧
    LoopPosts batch.id base reached.ledger) ?_ ⟨.start tallies.keyed tallied unconfirmed,
      .start tallies entered member unconfirmed⟩ succeeded).2
  rintro reached row rest next ⟨tally, kept⟩ stepped
  refine ⟨tally.step tallies.keyed stepped, ?_⟩
  rcases (confirmRow_outcome stepped).posting with ⟨change, posting⟩
  rw [isBatch] at posting
  apply kept.step posting
  · rw [tally.keys]
    exact tallies.keyed.rowIds
  · exact tally.rows.member row List.mem_cons_self
  · exact tally.rows.ofBatch row List.mem_cons_self
  · exact (tally.rows.untouched row List.mem_cons_self).1

end Loop

/-! ## The rows of a source -/

/-- A valid row of a source is of its kind, and on a bank statement it has a balance. -/
def Normalized.FromSource (sourceKind : SourceKind) : Normalized → Prop
  | .invoice _ => sourceKind.channel? = none
  | .transaction money => sourceKind.channel? = some money.channel ∧ money.Balanced

/-- The documents of a batch are of the kind of its source. -/
def Ledger.Sourced (ledger : Ledger) : Prop :=
  ∀ entry ∈ ledger.documents, ∀ batch ∈ ledger.importBatches, batch.id = entry.1.1 →
    ∀ normalized, deserializeNormalized entry.2 = some normalized →
      normalized.FromSource batch.sourceKind

section Sources

variable {env : Env} {ledger after : Ledger}

theorem fromSource_of_clean {directory : Directory} {sourceKind : SourceKind} {parsed : ParsedRow}
    {normalized : Normalized} (isNormalized : parsed.normalized = some normalized)
    (balanced : ∀ money, normalized = .transaction money → money.Balanced)
    (clean : rowIssues env directory sourceKind parsed = []) : normalized.FromSource sourceKind := by
  have valid := (List.append_eq_nil_iff.mp clean).2
  unfold validateParsedRow at valid
  rw [isNormalized] at valid
  cases normalized with
  | invoice invoice =>
      simp only at valid
      split_ifs at valid with isInvoice
      · rcases isInvoice with rfl | rfl
        · rfl
        · rfl
      · simp at valid
  | transaction money =>
      simp only at valid
      split_ifs at valid with isMoney
      · refine ⟨?_, balanced money rfl⟩
        have validated := (List.append_eq_nil_iff.mp valid).2
        simp only [validateTransaction, List.append_eq_nil_iff] at validated
        by_contra differs
        simp [issueUnless, differs] at validated
      · simp at valid

theorem Ledger.Sourced.of_stageUpload {request : StageRequest} {batch : ImportBatch}
    (keyed : ledger.ImportKeyed) (sourced : ledger.Sourced)
    (succeeded : stageUpload env (defaultParsers env) request ledger = .ok (after, batch)) :
    after.Sourced := by
  rcases stagedFile_of_stageUpload succeeded with ⟨_, parser, prepared, state, -, detected, file⟩
  intro entry placed other otherMem sameId normalized decoded
  rcases List.mem_map.mp placed with ⟨row, member, rfl⟩
  rw [file.adds.rows] at member
  rw [file.adds.batches] at otherMem
  rcases List.mem_append.mp member with old | new
  · rcases keyed.rowsKnown row old with ⟨known, knownMem, knownId⟩
    rcases List.mem_append.mp otherMem with oldBatch | newBatch
    · exact sourced _ (List.mem_map_of_mem old) other oldBatch sameId normalized decoded
    · rw [List.mem_singleton.mp newBatch] at sameId
      exact absurd (knownId.trans sameId.symm) (file.adds.freshBatch known knownMem)
  · have ofBatch := file.adds.ofBatch row new
    rcases List.mem_append.mp otherMem with oldBatch | newBatch
    · exact absurd (sameId.trans ofBatch) (file.adds.freshBatch other oldBatch)
    · rw [List.mem_singleton.mp newBatch]
      rcases List.mem_map.mp new with ⟨preparedRow, preparedMem, rfl⟩
      rcases prepareLoop_document file.loop preparedMem decoded with
        ⟨parsed, parsedMem, isNormalized, clean⟩
      apply fromSource_of_clean isNormalized _ clean
      rintro money rfl
      exact defaultParsers_balanced (mem_of_detect detected) parsedMem isNormalized

theorem Ledger.Sourced.of_confirmBatch {request : ConfirmRequest} {result : ImportResult}
    (tallies : ledger.Tallies) (sourced : ledger.Sourced)
    (succeeded : confirmBatch env request ledger = .ok (after, result)) : after.Sourced := by
  rw [confirmBatch_eq_ok] at succeeded
  rcases succeeded with ⟨-, ⟨batch, -, -, rfl, -⟩ | ⟨batch, state, snapshotted, confirmed, rfl, -⟩⟩
  · exact sourced
  intro entry placed other otherMem sameId normalized decoded
  rw [confirmed.documents] at placed
  rw [confirmed.importBatches tallies] at otherMem
  rcases mem_saveBatch otherMem with ⟨oldBatch, -⟩ | rfl
  · exact sourced entry placed other oldBatch sameId normalized decoded
  · exact sourced entry placed batch (importBatch?_eq_some confirmed.batchFound).1 sameId normalized
      decoded

theorem Ledger.Sourced.of_same (sourced : ledger.Sourced) (same : SameImports ledger after) :
    after.Sourced := by
  unfold Sourced Ledger.documents
  rw [same.rows, same.batches]
  exact sourced

end Sources

/-! ## The latest transaction of an account in a batch -/

namespace Ledger

/-- The latest transaction of its account in the batch; of several at one instant, the one of the
first row. -/
structure LatestOf (ledger : Ledger) (batch : Uuid) (money : MoneyTransaction) : Prop where
  member : money ∈ ledger.transactions
  ofBatch : money.importBatch = batch
  latest : ∀ other ∈ ledger.transactions, other.importBatch = batch →
    other.account = money.account → other.occurredAt < money.occurredAt ∨
      (other.occurredAt = money.occurredAt ∧ money.sourceRow ≤ other.sourceRow)

/-- What the rows and the transactions of a bank batch have in common. -/
structure BankBatch (ledger : Ledger) (batch : Uuid) : Prop where
  posts : ledger.PostsBatch batch
  documented : (ledger.documents.map (·.1)).Nodup
  sourced : ∀ row ∈ ledger.stagedRows, row.batch = batch → ∀ normalized,
    deserializeNormalized row.normalizedData = some normalized → normalized.FromSource .bank

/-- The balances that the posted rows of a batch offer. -/
def offeredBalances (ledger : Ledger) (batch : Uuid) : List SnapshotCandidate :=
  (orderRows (ledger.stagedRows.filter fun row =>
    decide (row.batch = batch) && row.postedAt.isSome)).filterMap
      (snapshotCandidate ledger.directory)

end Ledger

/-- The balance is the one of the transaction. -/
structure SnapshotCandidate.IsOf (candidate : SnapshotCandidate) (money : MoneyTransaction) :
    Prop where
  account : candidate.account = money.account
  occurredAt : candidate.occurredAt = money.occurredAt
  rowNumber : candidate.rowNumber = money.sourceRow
  balance : money.balanceAfter = some candidate.balance.roundedCents
  small : |candidate.balance.roundedCents| < 10 ^ 18

section Candidates

variable {ledger after : Ledger} {batch : Uuid} {candidate other : SnapshotCandidate}
  {money : MoneyTransaction} {row : StagedRow}

theorem Ledger.mem_offeredBalances : candidate ∈ ledger.offeredBalances batch ↔
    ∃ row ∈ ledger.stagedRows, row.batch = batch ∧ row.postedAt.isSome ∧
      snapshotCandidate ledger.directory row = some candidate := by
  simp [offeredBalances, orderRows, and_assoc]

theorem snapshotCandidate_eq_some {directory : Directory} :
    snapshotCandidate directory row = some candidate ↔
      row.issues = [] ∧ ∃ normalized, deserializeNormalized row.normalizedData =
          some (.transaction normalized) ∧ normalized.balanceAfter = some candidate.balance ∧
        (∃ account, (resolveFundingAccount directory normalized).value = some account ∧
          account.id = candidate.account) ∧
        candidate.occurredAt = normalized.occurredAt.instant ∧
        candidate.rowNumber = row.rowNumber := by
  rcases candidate with ⟨account, occurredAt, rowNumber, balance⟩
  unfold snapshotCandidate
  by_cases clean : row.issues = []
  · simp only [clean, ne_eq, not_true_eq_false, if_false, true_and]
    cases decoded : deserializeNormalized row.normalizedData with
    | none => simp
    | some normalized =>
        cases normalized with
        | invoice normalized => simp
        | transaction normalized =>
            simp only [Option.bind_eq_bind, Option.bind_eq_some_iff, Option.some.injEq,
              SnapshotCandidate.mk.injEq, Normalized.transaction.injEq]
            constructor
            · rintro ⟨_, found, other, resolved, rfl, rfl, rfl, rfl⟩
              exact ⟨normalized, rfl, found, ⟨other, resolved, rfl⟩, rfl, rfl⟩
            · rintro ⟨_, rfl, found, ⟨other, resolved, rfl⟩, rfl, rfl⟩
              exact ⟨balance, found, other, resolved, rfl, rfl, rfl, rfl⟩
  · simp [clean]

theorem Normalized.FromSource.balance {normalized : NormalizedTransactionRow}
    (sourced : (Normalized.transaction normalized).FromSource .bank) :
    normalized.channel = .bank ∧ ∃ balance, normalized.balanceAfter = some balance ∧
      |balance.roundedCents| < 10 ^ 18 := by
  have isBank : normalized.channel = .bank := (Option.some.inj sourced.1).symm
  rcases sourced.2 isBank with ⟨balance, found, fits⟩
  refine ⟨isBank, balance, found, ?_⟩
  exact fits.roundedCents_le.trans_lt (by decide)

/-- The posted row of a bank transaction offers the balance of the transaction. -/
theorem StagedRow.PostedAs.isOf {directory : Directory} (posted : row.PostedAs directory money)
    (sourced : ∀ normalized, deserializeNormalized row.normalizedData = some normalized →
      normalized.FromSource .bank) :
    money.channel = .bank ∧
      ∃ candidate, snapshotCandidate directory row = some candidate ∧ candidate.IsOf money := by
  rcases posted.document with
    ⟨normalized, decoded, ⟨account, resolved, sameAccount⟩, instant, channel, stored⟩
  rcases (sourced _ decoded).balance with ⟨isBank, balance, found, small⟩
  refine ⟨channel.trans isBank, ⟨account.id, normalized.occurredAt.instant, row.rowNumber, balance⟩,
    ?_, sameAccount, instant.symm, posted.sourceRow.symm, ?_, small⟩
  · exact snapshotCandidate_eq_some.mpr ⟨posted.clean, normalized, decoded, found,
      ⟨account, resolved, rfl⟩, rfl, rfl⟩
  · have fits : storedCents balance = .ok balance.roundedCents := if_neg (not_le.mpr small)
    rw [found, Ledger.storedBalance, fits] at stored
    exact (Except.ok.inj stored).symm

namespace Ledger.BankBatch

/-- Every transaction of the batch offers its balance. -/
theorem exists_offer (bank : ledger.BankBatch batch) (member : money ∈ ledger.transactions)
    (ofBatch : money.importBatch = batch) :
    ∃ candidate ∈ ledger.offeredBalances batch, candidate.IsOf money := by
  rcases bank.posts.ofMoney money member ofBatch with ⟨row, rowMem, rowBatch, posted⟩
  rcases (posted.isOf (bank.sourced row rowMem rowBatch)).2 with ⟨candidate, offered, isOf⟩
  exact ⟨candidate, mem_offeredBalances.mpr ⟨row, rowMem, rowBatch, posted.isPosted, offered⟩, isOf⟩

/-- Every offer is of a transaction of the batch. -/
theorem exists_money (bank : ledger.BankBatch batch)
    (offered : candidate ∈ ledger.offeredBalances batch) :
    ∃ money ∈ ledger.transactions, money.importBatch = batch ∧ candidate.IsOf money := by
  rcases mem_offeredBalances.mp offered with ⟨row, rowMem, rowBatch, isPosted, isCandidate⟩
  rcases bank.posts.ofRow row rowMem rowBatch isPosted with isInvoice | ⟨money, member, ofBatch, posted⟩
  · rcases (snapshotCandidate_eq_some.mp isCandidate).2 with ⟨normalized, decoded, -⟩
    rcases Option.isSome_iff_exists.mp isInvoice with ⟨invoice, isInvoice⟩
    rw [StagedRow.document?_eq_some, decoded] at isInvoice
    cases isInvoice
  · rcases (posted.isOf (bank.sourced row rowMem rowBatch)).2 with ⟨other, found, isOf⟩
    rw [isCandidate, Option.some.injEq] at found
    exact ⟨money, member, ofBatch, found ▸ isOf⟩

/-- A row of the batch offers one balance. -/
theorem offer_eq (bank : ledger.BankBatch batch) (offered : candidate ∈ ledger.offeredBalances batch)
    (otherOffered : other ∈ ledger.offeredBalances batch)
    (sameRow : candidate.rowNumber = other.rowNumber) : candidate = other := by
  rcases mem_offeredBalances.mp offered with ⟨row, rowMem, rowBatch, -, isCandidate⟩
  rcases mem_offeredBalances.mp otherOffered with ⟨second, secondMem, secondBatch, -, isOther⟩
  rcases snapshotCandidate_eq_some.mp isCandidate with
    ⟨clean, normalized, decoded, balance, resolved, instant, rowNumber⟩
  rcases snapshotCandidate_eq_some.mp isOther with ⟨secondClean, _, _, _, _, _, secondNumber⟩
  have document : ((row.batch, row.rowNumber), row.normalizedData) =
      ((second.batch, second.rowNumber), second.normalizedData) := by
    apply List.inj_on_of_nodup_map bank.documented
    · exact List.mem_map_of_mem rowMem
    · exact List.mem_map_of_mem secondMem
    · rw [rowBatch, secondBatch, ← rowNumber, ← secondNumber, sameRow]
  have same : snapshotCandidate ledger.directory row = snapshotCandidate ledger.directory second := by
    unfold snapshotCandidate
    rw [clean, secondClean, (Prod.mk.inj document).2, (Prod.mk.inj (Prod.mk.inj document).1).2]
  rw [isCandidate, isOther] at same
  exact Option.some.inj same

theorem crowned (ledger : Ledger) (batch : Uuid) :
    Champions.Crowned (·.account) SnapshotCandidate.Replaces (ledger.offeredBalances batch)
      (ledger.latestByAccount batch) := crowned_offerCandidate (ledger.offeredBalances batch)

/-- The balance chosen for an account is the one of the latest transaction. -/
theorem latestOf_of_chosen (bank : ledger.BankBatch batch)
    (chosen : candidate ∈ ledger.latestByAccount batch) :
    ∃ money, ledger.LatestOf batch money ∧ candidate.IsOf money := by
  have crowned := crowned ledger batch
  rcases bank.exists_money (crowned.entered candidate chosen) with ⟨money, member, ofBatch, isOf⟩
  refine ⟨money, ⟨member, ofBatch, ?_⟩, isOf⟩
  intro later laterMem laterBatch sameAccount
  rcases bank.exists_offer laterMem laterBatch with ⟨second, offered, isOfLater⟩
  have unbeaten := crowned.unbeaten candidate chosen second offered
    (by rw [isOf.account, isOfLater.account, sameAccount])
  unfold SnapshotCandidate.Replaces at unbeaten
  rw [isOf.occurredAt, isOfLater.occurredAt, isOf.rowNumber, isOfLater.rowNumber] at unbeaten
  omega

theorem exists_chosen (bank : ledger.BankBatch batch) (member : money ∈ ledger.transactions)
    (ofBatch : money.importBatch = batch) :
    ∃ candidate ∈ ledger.latestByAccount batch, candidate.account = money.account := by
  rcases bank.exists_offer member ofBatch with ⟨offer, offered, isOf⟩
  rcases (crowned ledger batch).complete offer offered with ⟨candidate, chosen, sameAccount⟩
  exact ⟨candidate, chosen, sameAccount.trans isOf.account⟩

/-- The balance of the latest transaction of an account is chosen. -/
theorem chosen_of_latestOf (bank : ledger.BankBatch batch) (latest : ledger.LatestOf batch money) :
    ∃ candidate ∈ ledger.latestByAccount batch, candidate.IsOf money := by
  rcases bank.exists_chosen latest.member latest.ofBatch with ⟨candidate, chosen, sameAccount⟩
  rcases bank.latestOf_of_chosen chosen with ⟨other, otherLatest, isOf⟩
  rcases bank.exists_offer latest.member latest.ofBatch with ⟨offer, offered, isOffer⟩
  have otherAccount : other.account = money.account := isOf.account.symm.trans sameAccount
  have mine := latest.latest other otherLatest.member otherLatest.ofBatch otherAccount
  have its := otherLatest.latest money latest.member latest.ofBatch otherAccount.symm
  have sameRow : offer.rowNumber = candidate.rowNumber := by
    rw [isOffer.rowNumber, isOf.rowNumber]
    omega
  have same := bank.offer_eq offered ((crowned ledger batch).entered candidate chosen) sameRow
  exact ⟨candidate, chosen, same ▸ isOffer⟩

end Ledger.BankBatch

end Candidates

end Finrec
