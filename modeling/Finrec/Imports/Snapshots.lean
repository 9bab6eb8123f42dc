import Finrec.Imports.PostedRows

/-!
# The balances that a bank batch leaves

A confirmation of a bank batch adds the balance of the latest posted row of each
account, unless a balance at that place differs; then nothing of the confirmation
stays.  Over every run the newest balance of an account is therefore at the
instant of its latest transaction, in whatever order the batches come.
-/

namespace Finrec

open Checks

/-! ## A confirmation -/

/-- The snapshot is the balance of the transaction. -/
structure AccountBalanceSnapshot.IsOf (snapshot : AccountBalanceSnapshot)
    (money : MoneyTransaction) : Prop where
  account : snapshot.account = money.account
  asOf : snapshot.asOf = money.occurredAt
  balance : money.balanceAfter = some snapshot.balance

/-- Of each account with posted rows in the batch the balance of the latest transaction is there,
and no other balance was added. -/
structure Ledger.RecordsLatest (before after : Ledger) (batch : Uuid) : Prop where
  ofRow : ∀ row ∈ after.stagedRows, row.batch = batch → row.postedAt.isSome →
    ∃ money ∈ after.transactions, money.importBatch = batch ∧ row.PostedAs after.directory money
  ofMoney : ∀ money ∈ after.transactions, money.importBatch = batch →
    ∃ row ∈ after.stagedRows, row.batch = batch ∧ row.PostedAs after.directory money
  complete : ∀ money ∈ after.transactions, money.importBatch = batch →
    ∃ latest, after.LatestOf batch latest ∧ latest.account = money.account
  recorded : ∀ money, after.LatestOf batch money → ∃ snapshot ∈ after.snapshots, snapshot.IsOf money
  added : ∃ added, after.snapshots = before.snapshots ++ added ∧ ∀ snapshot ∈ added,
    snapshot.sourceBatch = batch ∧ ∃ money, after.LatestOf batch money ∧ snapshot.IsOf money

section Confirmation

variable {env : Env} {request : ConfirmRequest} {ledger after snapshotted : Ledger}
  {batch : ImportBatch} {state : ConfirmState} {result : ImportResult}

theorem confirmLoop_posts (tallies : ledger.Tallies) (entered : ledger.Entered)
    (found : ledger.importBatch? request.batchId = some batch)
    (unconfirmed : batch.confirmedAt = none)
    (loop : (ledger.pendingRows batch.id).foldlM
      (confirmRow ⟨env, batch.id, request.actor.id, request.supply⟩) ⟨ledger, 0, 0⟩ = .ok state) :
    LoopPosts batch.id ledger state.ledger :=
  .loop tallies entered (importBatch?_eq_some found).1 unconfirmed rfl loop

/-- The rows of the batch are of its source, before and after the loop. -/
theorem Ledger.Sourced.ofBatch (sourced : ledger.Sourced) (member : batch ∈ ledger.importBatches)
    (documents : after.documents = ledger.documents) {row : StagedRow}
    (rowMem : row ∈ after.stagedRows) (ofBatch : row.batch = batch.id) {normalized : Normalized}
    (decoded : deserializeNormalized row.normalizedData = some normalized) :
    normalized.FromSource batch.sourceKind := by
  have placed : ((row.batch, row.rowNumber), row.normalizedData) ∈ after.documents :=
    List.mem_map_of_mem rowMem
  rw [documents] at placed
  exact sourced _ placed batch member ofBatch.symm normalized decoded

theorem LoopPosts.bankBatch (kept : LoopPosts batch.id ledger after) (documented : ledger.Documented)
    (sourced : ledger.Sourced) (member : batch ∈ ledger.importBatches)
    (isBank : batch.sourceKind = .bank) (documents : after.documents = ledger.documents) :
    after.BankBatch batch.id where
  posts := kept.posts
  documented := documents ▸ documented.distinct
  sourced _ rowMem ofBatch _ decoded :=
    isBank ▸ sourced.ofBatch member documents rowMem ofBatch decoded

/-- The balances of a bank batch are written when none of them differs from one that is there. -/
theorem Ledger.BankBatch.createBalanceSnapshots_eq_ok (bank : ledger.BankBatch batch.id)
    (isBank : batch.sourceKind = .bank) :
    ledger.createBalanceSnapshots batch = .ok after ↔
      (∀ candidate ∈ ledger.latestByAccount batch.id, ledger.Accepts candidate) ∧
        after = (ledger.latestByAccount batch.id).foldl (addBalance batch.id) ledger := by
  rw [createBalanceSnapshots, if_pos isBank]
  apply createBalances_eq_ok
  · intro candidate chosen
    rcases bank.latestOf_of_chosen chosen with ⟨money, -, isOf⟩
    exact isOf.small
  · exact (Ledger.BankBatch.crowned ledger batch.id).distinct

theorem Ledger.LatestOf.congr {id : Uuid} {money : MoneyTransaction}
    (same : after.transactions = ledger.transactions) (latest : ledger.LatestOf id money) :
    after.LatestOf id money := by
  refine ⟨same ▸ latest.member, latest.ofBatch, ?_⟩
  rw [same]
  exact latest.latest

/-- A bank batch that is confirmed leaves the balances of its latest transactions. -/
theorem Ledger.BankBatch.recordsLatest {id : Uuid} (bank : ledger.BankBatch id)
    (accepted : ∀ candidate ∈ ledger.latestByAccount id, ledger.Accepts candidate)
    (transactions : after.transactions = ledger.transactions)
    (rows : after.stagedRows = ledger.stagedRows) (directory : after.directory = ledger.directory)
    (snapshots : after.snapshots =
      ((ledger.latestByAccount id).foldl (addBalance id) ledger).snapshots) :
    ledger.RecordsLatest after id where
  ofRow row member ofBatch isPosted := by
    rw [rows] at member
    rw [transactions, directory]
    refine (bank.posts.ofRow row member ofBatch isPosted).resolve_left ?_
    intro isInvoice
    rcases Option.isSome_iff_exists.mp isInvoice with ⟨invoice, isInvoice⟩
    have source := bank.sourced row member ofBatch _ (StagedRow.document?_eq_some.mp isInvoice)
    cases source
  ofMoney := by
    rw [transactions, rows, directory]
    exact bank.posts.ofMoney
  complete := by
    rw [transactions]
    intro money member ofBatch
    rcases bank.exists_chosen member ofBatch with ⟨candidate, chosen, sameAccount⟩
    rcases bank.latestOf_of_chosen chosen with ⟨latest, isLatest, isOf⟩
    exact ⟨latest, isLatest.congr transactions, isOf.account.symm.trans sameAccount⟩
  recorded money latest := by
    rcases bank.chosen_of_latestOf (latest.congr transactions.symm) with ⟨candidate, chosen, isOf⟩
    rcases exists_snapshot_foldl (Ledger.BankBatch.crowned ledger id).distinct accepted chosen with
      ⟨snapshot, member, account, asOf, balance⟩
    rw [← snapshots] at member
    refine ⟨snapshot, member, account.trans isOf.account, asOf.trans isOf.occurredAt, ?_⟩
    rw [isOf.balance, balance]
  added := by
    rcases exists_foldl_addBalance id ledger (ledger.latestByAccount id) with ⟨added, same, chosen⟩
    refine ⟨added, snapshots.trans same, ?_⟩
    intro snapshot member
    rcases chosen snapshot member with ⟨candidate, candidateMem, rfl⟩
    rcases bank.latestOf_of_chosen candidateMem with ⟨money, latest, isOf⟩
    exact ⟨rfl, money, latest.congr transactions, isOf.account, isOf.occurredAt, isOf.balance⟩

theorem Confirmed.recordsLatest (confirmed : Confirmed env request ledger batch state snapshotted)
    (tallies : ledger.Tallies) (documented : ledger.Documented) (entered : ledger.Entered)
    (sourced : ledger.Sourced) (isBank : batch.sourceKind = .bank) :
    ledger.RecordsLatest (confirmedLedger request batch state snapshotted) batch.id := by
  have member := (importBatch?_eq_some confirmed.batchFound).1
  have kept := confirmLoop_posts tallies entered confirmed.batchFound confirmed.unconfirmed
    confirmed.loop
  have bank := kept.bankBatch documented sourced member isBank (confirmLoop_documents confirmed.loop)
  rcases (bank.createBalanceSnapshots_eq_ok isBank).mp confirmed.snapshots with ⟨accepted, written⟩
  have only := createBalanceSnapshots_eq confirmed.snapshots
  have records : state.ledger.RecordsLatest (confirmedLedger request batch state snapshotted)
      batch.id := by
    apply bank.recordsLatest accepted
    · change snapshotted.transactions = _
      rw [only]
    · exact confirmed.stagedRows
    · change snapshotted.directory = _
      rw [only]
    · change snapshotted.snapshots = _
      rw [written]
  have before : state.ledger.snapshots = ledger.snapshots := kept.snapshots
  exact { records with added := before ▸ records.added }

/-- A balance that differs from one at its place stops the confirmation. -/
theorem not_confirmed_of_conflict (tallies : ledger.Tallies) (documented : ledger.Documented)
    (entered : ledger.Entered) (sourced : ledger.Sourced) (placed : ledger.Placed)
    (isBank : batch.sourceKind = .bank) {money : MoneyTransaction}
    (latest : state.ledger.LatestOf batch.id money) {existing : AccountBalanceSnapshot}
    (member : existing ∈ ledger.snapshots) (account : existing.account = money.account)
    (asOf : existing.asOf = money.occurredAt) (differs : money.balanceAfter ≠ some existing.balance) :
    ¬Confirmed env request ledger batch state snapshotted := by
  intro confirmed
  have kept := confirmLoop_posts tallies entered confirmed.batchFound confirmed.unconfirmed
    confirmed.loop
  have bank := kept.bankBatch documented sourced (importBatch?_eq_some confirmed.batchFound).1 isBank
    (confirmLoop_documents confirmed.loop)
  rcases (bank.createBalanceSnapshots_eq_ok isBank).mp confirmed.snapshots with ⟨accepted, -⟩
  rcases bank.chosen_of_latestOf latest with ⟨candidate, chosen, isOf⟩
  have placedNow : state.ledger.Placed := by
    rw [Ledger.Placed, kept.snapshots]
    exact placed
  have agrees := accepted candidate chosen existing (by
    rw [isOf.account, isOf.occurredAt]
    exact placedNow.snapshotAt?_eq_some_iff.mpr ⟨kept.snapshots ▸ member, account, asOf⟩)
  apply differs
  rw [isOf.balance, Decimal.roundedCents_eq agrees]

end Confirmation

/-! ## Every run -/

/-- A balance stands at its place once, at the instant of a bank transaction, and no bank
transaction of its account is later than the newest one. -/
structure Ledger.BalancesCurrent (ledger : Ledger) : Prop where
  entered : ledger.Entered
  sourced : ledger.Sourced
  placed : ledger.Placed
  current : ∀ money ∈ ledger.transactions, money.channel = .bank →
    ∃ snapshot ∈ ledger.snapshots, snapshot.account = money.account ∧
      money.occurredAt ≤ snapshot.asOf
  grounded : ∀ snapshot ∈ ledger.snapshots, ∃ money ∈ ledger.transactions,
    money.channel = .bank ∧ money.account = snapshot.account ∧ money.occurredAt = snapshot.asOf

section Runs

variable {env : Env} {request : ConfirmRequest} {ledger after snapshotted : Ledger}
  {batch : ImportBatch} {state : ConfirmState} {result : ImportResult}

/-- The transactions of a batch are of the channel of its source. -/
theorem LoopPosts.channel (kept : LoopPosts batch.id ledger after) (sourced : ledger.Sourced)
    (member : batch ∈ ledger.importBatches) (documents : after.documents = ledger.documents)
    {money : MoneyTransaction} (moneyMem : money ∈ after.transactions)
    (ofBatch : money.importBatch = batch.id) : batch.sourceKind.channel? = some money.channel := by
  rcases kept.posts.ofMoney money moneyMem ofBatch with ⟨row, rowMem, rowBatch, posted⟩
  rcases posted.document with ⟨normalized, decoded, -, -, channel, -⟩
  rw [channel]
  exact (sourced.ofBatch member documents rowMem rowBatch decoded).1

/-- What a confirmation does to the balances, whatever the source of its batch. -/
structure BalancesGrow (id : Uuid) (before after : Ledger) : Prop where
  old : ∀ money ∈ before.transactions, money ∈ after.transactions
  new : ∀ money ∈ after.transactions, money ∈ before.transactions ∨ money.importBatch = id
  placed : before.Placed → after.Placed
  added : ∃ added, after.snapshots = before.snapshots ++ added ∧ ∀ snapshot ∈ added,
    ∃ money ∈ after.transactions, money.channel = .bank ∧ money.account = snapshot.account ∧
      money.occurredAt = snapshot.asOf
  current : ∀ money ∈ after.transactions, money.importBatch = id → money.channel = .bank →
    ∃ snapshot ∈ after.snapshots, snapshot.account = money.account ∧
      money.occurredAt ≤ snapshot.asOf

theorem Confirmed.balancesGrow (confirmed : Confirmed env request ledger batch state snapshotted)
    (tallies : ledger.Tallies) (documented : ledger.Documented) (entered : ledger.Entered)
    (sourced : ledger.Sourced) :
    BalancesGrow batch.id ledger (confirmedLedger request batch state snapshotted) := by
  have member := (importBatch?_eq_some confirmed.batchFound).1
  have kept := confirmLoop_posts tallies entered confirmed.batchFound confirmed.unconfirmed
    confirmed.loop
  have documents := confirmLoop_documents confirmed.loop
  have transactions : (confirmedLedger request batch state snapshotted).transactions =
      state.ledger.transactions := by
    change snapshotted.transactions = _
    rw [createBalanceSnapshots_eq confirmed.snapshots]
  have channel {money : MoneyTransaction} (moneyMem : money ∈ state.ledger.transactions)
      (ofBatch : money.importBatch = batch.id) :
      batch.sourceKind.channel? = some money.channel :=
    kept.channel sourced member documents moneyMem ofBatch
  constructor
  case old =>
    rw [transactions]
    exact kept.monotone
  case new =>
    rw [transactions]
    exact kept.entered
  case placed =>
    intro placed
    have placedNow : state.ledger.Placed := by
      rw [Ledger.Placed, kept.snapshots]
      exact placed
    change snapshotted.Placed
    by_cases isBank : batch.sourceKind = .bank
    · have bank := kept.bankBatch documented sourced member isBank documents
      rw [((bank.createBalanceSnapshots_eq_ok isBank).mp confirmed.snapshots).2]
      exact placedNow.foldl batch.id _
    · have same := confirmed.snapshots
      rw [Ledger.createBalanceSnapshots, if_neg isBank] at same
      exact Except.ok.inj same ▸ placedNow
  case added =>
    by_cases isBank : batch.sourceKind = .bank
    · rcases (confirmed.recordsLatest tallies documented entered sourced isBank).added with
        ⟨added, same, latest⟩
      refine ⟨added, same, ?_⟩
      intro snapshot snapshotMem
      rcases (latest snapshot snapshotMem).2 with ⟨money, isLatest, isOf⟩
      have moneyMem := isLatest.member
      rw [transactions] at moneyMem
      have ofBank := channel moneyMem isLatest.ofBatch
      rw [isBank] at ofBank
      exact ⟨money, isLatest.member, (Option.some.inj ofBank).symm, isOf.account.symm,
        isOf.asOf.symm⟩
    · have same := confirmed.snapshots
      rw [Ledger.createBalanceSnapshots, if_neg isBank] at same
      refine ⟨[], ?_, by simp⟩
      change snapshotted.snapshots = _
      rw [← Except.ok.inj same, kept.snapshots, List.append_nil]
  case current =>
    intro money moneyMem ofBatch isBankMoney
    have source := channel (transactions ▸ moneyMem) ofBatch
    have isBank : batch.sourceKind = .bank := by
      rw [isBankMoney] at source
      cases kind : batch.sourceKind <;> simp_all [SourceKind.channel?]
    have records := confirmed.recordsLatest tallies documented entered sourced isBank
    rcases records.complete money moneyMem ofBatch with ⟨latest, isLatest, sameAccount⟩
    rcases records.recorded latest isLatest with ⟨snapshot, snapshotMem, isOf⟩
    refine ⟨snapshot, snapshotMem, isOf.account.trans sameAccount, ?_⟩
    rw [isOf.asOf]
    rcases isLatest.latest money moneyMem ofBatch sameAccount.symm with earlier | ⟨same, -⟩
    · exact earlier.le
    · exact same.le

theorem Ledger.BalancesCurrent.of_confirmBatch (balances : ledger.BalancesCurrent)
    (tallies : ledger.Tallies) (documented : ledger.Documented)
    (succeeded : confirmBatch env request ledger = .ok (after, result)) :
    after.BalancesCurrent := by
  have sourced := balances.sourced.of_confirmBatch tallies succeeded
  have kept := ConfirmedKept.of_confirmBatch tallies succeeded
  rcases confirmBatch_result tallies succeeded with ⟨final, finalMem, finalId, isConfirmed, -⟩
  rw [confirmBatch_eq_ok] at succeeded
  rcases succeeded with ⟨-, ⟨batch, -, -, rfl, -⟩ | ⟨batch, state, snapshotted, confirmed, rfl, -⟩⟩
  · exact balances
  have grows := confirmed.balancesGrow tallies documented balances.entered balances.sourced
  have batchId : batch.id = request.batchId := (importBatch?_eq_some confirmed.batchFound).2
  rcases grows.added with ⟨added, same, ofMoney⟩
  constructor
  case entered =>
    intro money member
    rcases grows.new money member with old | ofBatch
    · rcases balances.entered money old with ⟨other, otherMem, sameId, wasConfirmed⟩
      exact ⟨other, (kept other otherMem wasConfirmed).1, sameId, wasConfirmed⟩
    · exact ⟨final, finalMem, finalId.trans (batchId.symm.trans ofBatch.symm), isConfirmed⟩
  case sourced => exact sourced
  case placed => exact grows.placed balances.placed
  case current =>
    intro money member isBank
    rcases grows.new money member with old | ofBatch
    · rcases balances.current money old isBank with ⟨snapshot, snapshotMem, newest⟩
      refine ⟨snapshot, ?_, newest⟩
      rw [same]
      exact List.mem_append_left _ snapshotMem
    · exact grows.current money member ofBatch isBank
  case grounded =>
    intro snapshot member
    rw [same] at member
    rcases List.mem_append.mp member with old | new
    · rcases balances.grounded snapshot old with ⟨money, moneyMem, isOf⟩
      exact ⟨money, grows.old money moneyMem, isOf⟩
    · exact ofMoney snapshot new

theorem stageUpload_snapshots {request : StageRequest}
    (succeeded : stageUpload env (defaultParsers env) request ledger = .ok (after, batch)) :
    after.transactions = ledger.transactions ∧ after.snapshots = ledger.snapshots := by
  rcases stageUpload_eq_ok succeeded with ⟨_, _, _, _, -, inserted⟩
  rw [show after = _ from congrArg Prod.fst inserted]
  exact ⟨rfl, rfl⟩

theorem Ledger.BalancesCurrent.of_stageUpload {request : StageRequest}
    (balances : ledger.BalancesCurrent) (keyed : ledger.ImportKeyed)
    (succeeded : stageUpload env (defaultParsers env) request ledger = .ok (after, batch)) :
    after.BalancesCurrent := by
  rcases stageUpload_snapshots succeeded with ⟨transactions, snapshots⟩
  rcases stageUpload_addsRows succeeded with ⟨_, _, _, _, -, -, adds⟩
  refine ⟨?_, balances.sourced.of_stageUpload keyed succeeded, ?_, ?_, ?_⟩
  · rw [Ledger.Entered, transactions, adds.batches]
    intro money member
    rcases balances.entered money member with ⟨other, otherMem, isOf⟩
    exact ⟨other, List.mem_append_left _ otherMem, isOf⟩
  · rw [Ledger.Placed, snapshots]
    exact balances.placed
  · rw [transactions, snapshots]
    exact balances.current
  · rw [transactions, snapshots]
    exact balances.grounded

theorem Ledger.BalancesCurrent.of_same (balances : ledger.BalancesCurrent)
    (same : SameImports ledger after) : after.BalancesCurrent := by
  refine ⟨?_, balances.sourced.of_same same, ?_, ?_, ?_⟩
  · rw [Ledger.Entered, same.transactions, same.batches]
    exact balances.entered
  · rw [Ledger.Placed, same.snapshots]
    exact balances.placed
  · rw [same.transactions, same.snapshots]
    exact balances.current
  · rw [same.transactions, same.snapshots]
    exact balances.grounded

/-- A confirmation only adds balances. -/
theorem confirmBatch_snapshots (balances : ledger.BalancesCurrent) (tallies : ledger.Tallies)
    (documented : ledger.Documented)
    (succeeded : confirmBatch env request ledger = .ok (after, result)) :
    ledger.snapshots <+: after.snapshots := by
  rw [confirmBatch_eq_ok] at succeeded
  rcases succeeded with ⟨-, ⟨batch, -, -, rfl, -⟩ | ⟨batch, state, snapshotted, confirmed, rfl, -⟩⟩
  · exact List.prefix_rfl
  · rcases (confirmed.balancesGrow tallies documented balances.entered balances.sourced).added with
      ⟨added, same, -⟩
    exact ⟨added, same.symm⟩

/-- From a ledger whose balances are current, every run leads to such a ledger and keeps them. -/
theorem runFrom_balancesCurrent (tallies : ledger.Tallies) (documented : ledger.Documented)
    (balances : ledger.BalancesCurrent) (operations : List Operation) :
    (runFrom ⟨env, defaultParsers env⟩ ledger operations).BalancesCurrent ∧
      ledger.snapshots <+: (runFrom ⟨env, defaultParsers env⟩ ledger operations).snapshots := by
  refine (runFrom_induction (fun reached => (reached.Tallies ∧ reached.Documented) ∧
    reached.BalancesCurrent ∧ ledger.snapshots <+: reached.snapshots)
      ⟨⟨tallies, documented⟩, balances, List.prefix_rfl⟩ ?_ operations).2
  rintro before after operation ⟨⟨tallies, documented⟩, balances, kept⟩ succeeded
  refine ⟨⟨perform_tallies tallies succeeded, perform_documented tallies documented succeeded⟩, ?_⟩
  rcases perform_cases succeeded with ⟨request, batch, -, staged⟩ | ⟨request, result, -, confirmed⟩ |
    same
  · refine ⟨balances.of_stageUpload tallies.keyed staged, ?_⟩
    rw [(stageUpload_snapshots staged).2]
    exact kept
  · refine ⟨balances.of_confirmBatch tallies documented confirmed, ?_⟩
    exact kept.trans (confirmBatch_snapshots balances tallies documented confirmed)
  · refine ⟨balances.of_same same, ?_⟩
    rw [same.snapshots]
    exact kept

theorem run_balancesCurrent (env : Env) (directory : Directory) (operations : List Operation) :
    (run ⟨env, defaultParsers env⟩ directory operations).BalancesCurrent := by
  refine (runFrom_balancesCurrent (.empty directory) (.empty directory) ?_ operations).1
  constructor <;> simp [Ledger.Entered, Ledger.Sourced, Ledger.Placed, Ledger.empty,
    Ledger.documents]

/-- The newest balance of an account is at the instant of its latest bank transaction, and an
account with bank transactions has a balance. -/
structure Ledger.NewestBalances (ledger : Ledger) : Prop where
  newest : ∀ snapshot ∈ ledger.snapshots,
    (∀ other ∈ ledger.snapshots, other.account = snapshot.account → other.asOf ≤ snapshot.asOf) →
    ∃ money ∈ ledger.transactions, money.channel = .bank ∧ money.account = snapshot.account ∧
      money.occurredAt = snapshot.asOf ∧ ∀ other ∈ ledger.transactions, other.channel = .bank →
        other.account = snapshot.account → other.occurredAt ≤ money.occurredAt
  some : ∀ money ∈ ledger.transactions, money.channel = .bank →
    ∃ snapshot ∈ ledger.snapshots, snapshot.account = money.account

theorem Ledger.BalancesCurrent.newestBalances (balances : ledger.BalancesCurrent) :
    ledger.NewestBalances where
  newest snapshot member newest := by
    rcases balances.grounded snapshot member with ⟨money, moneyMem, isBank, account, instant⟩
    refine ⟨money, moneyMem, isBank, account, instant, ?_⟩
    intro other otherMem otherBank otherAccount
    rcases balances.current other otherMem otherBank with ⟨later, laterMem, laterAccount, notBefore⟩
    rw [instant]
    exact notBefore.trans (newest later laterMem (laterAccount.trans otherAccount))
  some money member isBank := by
    rcases balances.current money member isBank with ⟨snapshot, snapshotMem, account, -⟩
    exact ⟨snapshot, snapshotMem, account⟩

/-- Confirming a bank batch records the balance of the latest posted row of each account and nothing
else; a balance at the same place that differs stops the confirmation, which then leaves the ledger as
it was.  No operation changes a balance, and the newest one of an account is always at the instant of
its latest transaction. -/
theorem balance_snapshots_record_latest (env : Env) (directory : Directory)
    (operations : List Operation) :
    (∀ request batch after result,
      (run ⟨env, defaultParsers env⟩ directory operations).importBatch? request.batchId =
        some batch → batch.confirmedAt = none → batch.sourceKind = .bank →
      confirmBatch env request (run ⟨env, defaultParsers env⟩ directory operations) =
        .ok (after, result) →
      (run ⟨env, defaultParsers env⟩ directory operations).RecordsLatest after batch.id) ∧
    (∀ request batch state,
      (run ⟨env, defaultParsers env⟩ directory operations).importBatch? request.batchId =
        some batch → batch.confirmedAt = none → batch.sourceKind = .bank →
      ((run ⟨env, defaultParsers env⟩ directory operations).pendingRows batch.id).foldlM
        (confirmRow ⟨env, batch.id, request.actor.id, request.supply⟩)
        ⟨run ⟨env, defaultParsers env⟩ directory operations, 0, 0⟩ = .ok state →
      ∀ money, state.ledger.LatestOf batch.id money →
        ∀ existing ∈ (run ⟨env, defaultParsers env⟩ directory operations).snapshots,
          existing.account = money.account → existing.asOf = money.occurredAt →
          money.balanceAfter ≠ some existing.balance →
          (Operation.confirmBatch request).step ⟨env, defaultParsers env⟩
              (run ⟨env, defaultParsers env⟩ directory operations) =
            run ⟨env, defaultParsers env⟩ directory operations) ∧
    (∀ later, (run ⟨env, defaultParsers env⟩ directory operations).snapshots <+:
      (run ⟨env, defaultParsers env⟩ directory (operations ++ later)).snapshots) ∧
    (run ⟨env, defaultParsers env⟩ directory operations).NewestBalances := by
  have tallies := run_tallies ⟨env, defaultParsers env⟩ directory operations
  have documented := run_documented ⟨env, defaultParsers env⟩ directory operations
  have balances := run_balancesCurrent env directory operations
  refine ⟨?_, ?_, ?_, balances.newestBalances⟩
  · intro request batch after result found unconfirmed isBank succeeded
    rw [confirmBatch_eq_ok] at succeeded
    rcases succeeded with ⟨-, ⟨other, otherFound, repeated, -⟩ |
      ⟨other, state, snapshotted, confirmed, rfl, -⟩⟩
    · rw [found, Option.some.injEq] at otherFound
      rw [← otherFound, unconfirmed] at repeated
      cases repeated
    · have same := confirmed.batchFound
      rw [found, Option.some.injEq] at same
      subst same
      exact confirmed.recordsLatest tallies documented balances.entered balances.sourced isBank
  · intro request batch state found unconfirmed isBank loop money latest existing member account
      asOf differs
    unfold Operation.step
    cases performed : (Operation.confirmBatch request).perform ⟨env, defaultParsers env⟩
        (run ⟨env, defaultParsers env⟩ directory operations) with
    | error error => rfl
    | ok after =>
        rcases perform_confirmBatch performed with ⟨result, succeeded⟩
        rw [confirmBatch_eq_ok] at succeeded
        rcases succeeded with ⟨-, ⟨other, otherFound, repeated, -⟩ |
          ⟨other, final, snapshotted, confirmed, -, -⟩⟩
        · rw [found, Option.some.injEq] at otherFound
          rw [← otherFound, unconfirmed] at repeated
          cases repeated
        · have same := confirmed.batchFound
          rw [found, Option.some.injEq] at same
          subst same
          have sameLoop := confirmed.loop
          rw [loop, Except.ok.injEq] at sameLoop
          subst sameLoop
          exact absurd confirmed (not_confirmed_of_conflict tallies documented balances.entered
            balances.sourced balances.placed isBank latest member account asOf differs)
  · intro later
    have split : run ⟨env, defaultParsers env⟩ directory (operations ++ later) =
      runFrom ⟨env, defaultParsers env⟩ (run ⟨env, defaultParsers env⟩ directory operations) later :=
      runFrom_append _ _ _ _
    rw [split]
    exact (runFrom_balancesCurrent tallies documented balances later).2

end Runs

end Finrec
