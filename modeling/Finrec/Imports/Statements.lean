import Finrec.Imports.Balances
import Finrec.Imports.Preview

/-!
# Importing a bank statement

A statement whose valid rows have distinct fingerprints is imported row by row:
what staging makes of a row depends on the row and on the ledger alone, and so
does the transaction that it posts.  Besides the transactions, the confirmation
writes one balance for each account, that of its latest row.

This file says exactly when the import of such a statement succeeds and what it
adds to the ledger.
-/

namespace Finrec

open Checks

/-! ## The rows of a statement -/

/-- The transaction of a row that has no issues in a bank statement. -/
def validTransaction (env : Env) (directory : Directory) (row : ParsedRow) :
    Option NormalizedTransactionRow :=
  match rowIssues env directory .bank row, row.normalized with
  | [], some (.transaction normalized) => some normalized
  | _, _ => none

/-- A transaction with the fingerprint of the row is in the ledger. -/
def Ledger.records (env : Env) (ledger : Ledger) (normalized : NormalizedTransactionRow) : Bool :=
  match transactionFingerprint env normalized with
  | .ok fingerprint => ledger.hasFingerprint fingerprint
  | .error _ => false

/-- The transaction of a valid row that is not in the ledger. -/
def newTransaction (env : Env) (ledger : Ledger) (row : ParsedRow) :
    Option NormalizedTransactionRow :=
  (validTransaction env ledger.directory row).filter fun normalized =>
    !ledger.records env normalized

/-- What staging makes of a row when no row before it has its fingerprint. -/
def stagedAlone (env : Env) (ledger : Ledger) (row : ParsedRow) : PreparedRow :=
  match validTransaction env ledger.directory row with
  | none =>
      ⟨row.rowNumber, (jsonSafeRawData row.rawData).1, .empty,
        rowIssues env ledger.directory .bank row, false⟩
  | some normalized =>
      ⟨row.rowNumber, (jsonSafeRawData row.rawData).1, serializeNormalized (.transaction normalized),
        [], ledger.records env normalized⟩

/-- The valid rows have fingerprints, and distinct ones. -/
structure Fingerprinted (env : Env) (directory : Directory) (rows : List ParsedRow) : Prop where
  computed : ∀ normalized ∈ rows.filterMap (validTransaction env directory),
    ∃ fingerprint, transactionFingerprint env normalized = .ok fingerprint
  distinct : ((rows.filterMap (validTransaction env directory)).map
    (transactionFingerprint env)).Nodup

section Rows

variable {env : Env} {directory : Directory} {row : ParsedRow} {rows : List ParsedRow}
  {normalized : NormalizedTransactionRow}

theorem validTransaction_eq_some :
    validTransaction env directory row = some normalized ↔
      rowIssues env directory .bank row = [] ∧ row.normalized = some (.transaction normalized) := by
  unfold validTransaction
  constructor
  · intro valid
    split at valid
    · rename_i clean isNormalized
      cases valid
      exact ⟨clean, isNormalized⟩
    · cases valid
  · rintro ⟨clean, isNormalized⟩
    simp [clean, isNormalized]

/-- Only a transaction can be valid in a bank statement. -/
theorem validTransaction_eq_none :
    validTransaction env directory row = none ↔ rowIssues env directory .bank row ≠ [] := by
  constructor
  · intro invalid clean
    cases isNormalized : row.normalized with
    | none => exact rowIssues_ne_nil isNormalized clean
    | some other =>
        cases other with
        | invoice invoice =>
            simp [rowIssues, validateParsedRow, isNormalized] at clean
        | transaction money => simp [validTransaction, clean, isNormalized] at invalid
  · intro issues
    cases valid : validTransaction env directory row with
    | none => rfl
    | some normalized => exact absurd (validTransaction_eq_some.mp valid).1 issues

theorem newTransaction_eq_some {ledger : Ledger} :
    newTransaction env ledger row = some normalized ↔
      validTransaction env ledger.directory row = some normalized ∧
        ledger.records env normalized = false := by
  simp [newTransaction, Option.filter_eq_some_iff]

@[simp]
theorem stagedAlone_rowNumber (env : Env) (ledger : Ledger) (row : ParsedRow) :
    (stagedAlone env ledger row).rowNumber = row.rowNumber := by
  unfold stagedAlone
  split <;> rfl

theorem records_eq {ledger : Ledger} {fingerprint : String}
    (computed : transactionFingerprint env normalized = .ok fingerprint) :
    ledger.records env normalized = ledger.hasFingerprint fingerprint := by
  simp only [Ledger.records, computed]

namespace Fingerprinted

theorem tail (fingerprinted : Fingerprinted env directory (row :: rows)) :
    Fingerprinted env directory rows := by
  rcases fingerprinted with ⟨computed, distinct⟩
  cases valid : validTransaction env directory row with
  | none =>
      rw [List.filterMap_cons_none valid] at computed distinct
      exact ⟨computed, distinct⟩
  | some normalized =>
      rw [List.filterMap_cons_some valid] at computed distinct
      rw [List.map_cons, List.nodup_cons] at distinct
      exact ⟨fun other member => computed other (List.mem_cons_of_mem _ member), distinct.2⟩

theorem head (fingerprinted : Fingerprinted env directory (row :: rows))
    (valid : validTransaction env directory row = some normalized) :
    ∃ fingerprint, transactionFingerprint env normalized = .ok fingerprint ∧
      ∀ other ∈ rows.filterMap (validTransaction env directory),
        transactionFingerprint env other ≠ .ok fingerprint := by
  rcases fingerprinted with ⟨computed, distinct⟩
  rw [List.filterMap_cons_some valid] at computed distinct
  rcases computed normalized (List.mem_cons_self ..) with ⟨fingerprint, isComputed⟩
  refine ⟨fingerprint, isComputed, ?_⟩
  intro other member same
  rw [List.map_cons, List.nodup_cons, isComputed, ← same] at distinct
  exact distinct.1 (List.mem_map_of_mem member)

theorem of_perm {others : List ParsedRow}
    (perm : (rows.filterMap (validTransaction env directory)).Perm
      (others.filterMap (validTransaction env directory)))
    (fingerprinted : Fingerprinted env directory rows) : Fingerprinted env directory others where
  computed normalized member := fingerprinted.computed normalized (perm.mem_iff.mpr member)
  distinct := (perm.map _).nodup_iff.mp fingerprinted.distinct

end Fingerprinted

end Rows

/-! ## Staging -/

section Staging

variable {env : Env} {base : Ledger}

theorem prepareStagedRow_of_valid {row : ParsedRow} {normalized : NormalizedTransactionRow}
    {fingerprint : String} {state : PrepareState}
    (valid : validTransaction env base.directory row = some normalized)
    (computed : transactionFingerprint env normalized = .ok fingerprint)
    (unseen : state.seenRows.lookup (.transaction fingerprint) = none) :
    ∃ next, prepareStagedRow env base .bank row state = .ok (stagedAlone env base row, next) ∧
      next.seenRows = (.transaction fingerprint, .transaction normalized) :: state.seenRows := by
  rcases validTransaction_eq_some.mp valid with ⟨clean, isNormalized⟩
  have key : duplicateKey env (.transaction normalized) = .ok (.transaction fingerprint) := by
    simp [duplicateKey, computed, Except.map]
  have prepared : prepareStagedRow env base .bank row state =
      prepareValidRow env base row (.transaction normalized) state := by
    simp [prepareStagedRow, clean, isNormalized]
  rw [prepared]
  cases recorded : base.hasFingerprint fingerprint with
  | true =>
      refine ⟨((state.addDate (Normalized.transaction normalized).periodDate).remember
        (.transaction fingerprint) (.transaction normalized)).countDuplicate, ?_, rfl⟩
      simp [prepareValidRow, key, unseen, stagedDispositionFor, Ledger.formalDispositionFor,
        computed, recorded, stagedAlone, valid, records_eq computed, bind, Except.bind, pure,
        Except.pure, Except.map]
  | false =>
      refine ⟨((state.addDate (Normalized.transaction normalized).periodDate).remember
        (.transaction fingerprint) (.transaction normalized)).countValid, ?_, rfl⟩
      simp [prepareValidRow, key, unseen, stagedDispositionFor, Ledger.formalDispositionFor,
        computed, recorded, stagedAlone, valid, records_eq computed, bind, Except.bind, pure,
        Except.pure, Except.map]

theorem prepareStagedRow_of_invalid {row : ParsedRow} (state : PrepareState)
    (invalid : validTransaction env base.directory row = none) :
    prepareStagedRow env base .bank row state =
      .ok (stagedAlone env base row, state.countError) := by
  have issues := validTransaction_eq_none.mp invalid
  simp only [prepareStagedRow, stagedAlone, invalid]
  split
  · rename_i clean _
    exact absurd clean issues
  · rename_i clean _
    exact absurd clean issues
  · rfl

/-- A statement with distinct fingerprints is staged row by row. -/
theorem prepareLoop_of_fingerprinted {rowCount : ℕ} {rows : List ParsedRow} {state : PrepareState}
    (few : rows ≠ [] → rowCount + rows.length ≤ env.importMaxRows)
    (fingerprinted : Fingerprinted env base.directory rows)
    (unseen : ∀ normalized ∈ rows.filterMap (validTransaction env base.directory),
      ∀ fingerprint, transactionFingerprint env normalized = .ok fingerprint →
        state.seenRows.lookup (.transaction fingerprint) = none) :
    ∃ next, prepareLoop env base .bank rowCount rows state =
      .ok (rows.map (stagedAlone env base), next) := by
  induction rows generalizing rowCount state with
  | nil => exact ⟨state, rfl⟩
  | cons row rows ih =>
      have fits := few (List.cons_ne_nil row rows)
      rw [List.length_cons] at fits
      have fewRest : rows ≠ [] → rowCount + 1 + rows.length ≤ env.importMaxRows := by
        intro _
        omega
      have inLimit : ¬env.importMaxRows < rowCount + 1 := by omega
      cases valid : validTransaction env base.directory row with
      | none =>
          rw [List.filterMap_cons_none valid] at unseen
          rcases @ih (rowCount + 1) state.countError fewRest fingerprinted.tail unseen with
            ⟨next, rest⟩
          refine ⟨next, ?_⟩
          simp [prepareLoop, inLimit, prepareStagedRow_of_invalid state valid, rest, bind,
            Except.bind, pure, Except.pure]
      | some normalized =>
          rw [List.filterMap_cons_some valid] at unseen
          rcases fingerprinted.head valid with ⟨fingerprint, computed, others⟩
          rcases prepareStagedRow_of_valid valid computed
            (unseen normalized List.mem_cons_self fingerprint computed) with ⟨middle, head, seen⟩
          have unseenRest : ∀ other ∈ rows.filterMap (validTransaction env base.directory),
              ∀ fingerprint, transactionFingerprint env other = .ok fingerprint →
                middle.seenRows.lookup (.transaction fingerprint) = none := by
            intro other member otherPrint otherComputed
            have differs : (DuplicateKey.transaction otherPrint == .transaction fingerprint) =
                false := by
              rw [beq_eq_false_iff_ne]
              rintro ⟨⟩
              exact others other member otherComputed
            have before := unseen other (List.mem_cons_of_mem _ member) otherPrint otherComputed
            simp [seen, List.lookup_cons, differs, before]
          rcases ih fewRest fingerprinted.tail unseenRest with ⟨next, rest⟩
          refine ⟨next, ?_⟩
          simp [prepareLoop, inLimit, head, rest, bind, Except.bind, pure, Except.pure]

/-- A statement that is staged has fingerprints and keeps to the row limit. -/
theorem prepareLoop_computes {rowCount : ℕ} {rows : List ParsedRow} {state next : PrepareState}
    {prepared : List PreparedRow}
    (succeeded : prepareLoop env base .bank rowCount rows state = .ok (prepared, next)) :
    (rows ≠ [] → rowCount + rows.length ≤ env.importMaxRows) ∧
      ∀ normalized ∈ rows.filterMap (validTransaction env base.directory),
        ∃ fingerprint, transactionFingerprint env normalized = .ok fingerprint := by
  induction rows generalizing rowCount state prepared next with
  | nil => simp
  | cons row rows ih =>
      simp only [prepareLoop] at succeeded
      split at succeeded
      · cases succeeded
      rename_i inLimit
      simp only [bind_eq_ok] at succeeded
      rcases succeeded with ⟨⟨first, middle⟩, head, ⟨rest, last⟩, tail, -⟩
      rcases ih tail with ⟨few, computed⟩
      refine ⟨?_, ?_⟩
      · intro _
        rw [List.length_cons]
        by_cases empty : rows = []
        · rw [empty, List.length_nil]
          omega
        · have fits := few empty
          omega
      · intro normalized member
        rcases List.mem_filterMap.mp member with ⟨other, otherMem, valid⟩
        rcases List.mem_cons.mp otherMem with rfl | later
        · rcases validTransaction_eq_some.mp valid with ⟨clean, isNormalized⟩
          simp only [prepareStagedRow, clean, isNormalized, prepareValidRow, duplicateKey,
            bind_eq_ok] at head
          rcases head with ⟨key, keyed, -⟩
          cases computed : transactionFingerprint env normalized with
          | error error =>
              rw [computed] at keyed
              cases keyed
          | ok fingerprint => exact ⟨fingerprint, rfl⟩
        · exact computed normalized (List.mem_filterMap.mpr ⟨other, later, valid⟩)

end Staging

/-! ## Posting -/

namespace MoneyTransaction

/-- The transaction under other keys. -/
def keyed (money : MoneyTransaction) (key batch : Uuid) (sourceRow : ℕ) : MoneyTransaction :=
  { money with id := key, importBatch := batch, sourceRow := sourceRow }

/-- The transaction without its keys and its place in a file. -/
def content (money : MoneyTransaction) : MoneyTransaction :=
  money.keyed 0 0 0

/-- The columns and the constraints of the table take the transaction. -/
def Storable (money : MoneyTransaction) : Prop :=
  (money.transactionId.length ≤ 100 ∧ money.counterpartyRawName.length ≤ 255 ∧
    money.counterpartyAccount.length ≤ 100) ∧ 0 < money.amount

instance (money : MoneyTransaction) : Decidable money.Storable :=
  inferInstanceAs (Decidable (_ ∧ _))

end MoneyTransaction

/-- The transaction that a row posts, without its keys. -/
def postedTransaction (env : Env) (directory : Directory) (normalized : NormalizedTransactionRow) :
    Option MoneyTransaction := do
  let account ← (resolveFundingAccount directory normalized).value
  let counterparty ← (resolveTransactionCounterparty env directory normalized).value
  let fingerprint ← (transactionFingerprint env normalized).toOption
  let amount ← (storedCents normalized.amount).toOption
  let balanceAfter ← (Ledger.storedBalance normalized.balanceAfter).toOption
  let money : MoneyTransaction :=
    { id := 0
      account := account.id
      channel := normalized.channel
      direction := normalized.direction
      occurredAt := normalized.occurredAt.instant
      amount := amount
      balanceAfter := balanceAfter
      transactionId := normalized.transactionId
      fingerprint := fingerprint
      counterparty := some counterparty.id
      counterpartyRawName := normalized.counterpartyName
      counterpartyAccount := normalized.counterpartyAccount
      importBatch := 0
      sourceRow := 0 }
  if money.Storable then some money else none

section Posting

variable {env : Env} {directory : Directory} {normalized : NormalizedTransactionRow}
  {money : MoneyTransaction} {ledger after : Ledger} {context : ConfirmContext}

/-- What a posted transaction takes from its row. -/
theorem postedTransaction_eq_some (posted : postedTransaction env directory normalized = some money) :
    money.content = money ∧ transactionFingerprint env normalized = .ok money.fingerprint ∧
      ∃ balance, Ledger.storedBalance normalized.balanceAfter = .ok balance := by
  simp only [postedTransaction, Option.bind_eq_bind, Option.bind_eq_some_iff,
    toOption_eq_some] at posted
  rcases posted with ⟨account, -, counterparty, -, fingerprint, computed, amount, -, balance, stored,
    fits⟩
  split_ifs at fits
  cases fits
  exact ⟨rfl, computed, balance, stored⟩

theorem postTransaction_iff {batch : Uuid} {row : StagedRow} {key : Uuid} :
    ledger.postTransaction env batch row key normalized = .ok after ↔
      ∃ money, postedTransaction env ledger.directory normalized = some money ∧
        (∀ other ∈ ledger.transactions, other.id ≠ key) ∧
        (∀ other ∈ ledger.transactions, other.fingerprint ≠ money.fingerprint) ∧
        after = ledger.addTransaction (money.keyed key batch row.rowNumber) := by
  simp only [Ledger.postTransaction, Ledger.insertTransaction, postedTransaction, bind_eq_ok,
    present_eq_ok, require_eq_ok, Option.bind_eq_bind, Option.bind_eq_some_iff, toOption_eq_some]
  constructor
  · rintro ⟨account, accountFound, counterparty, counterpartyFound, fingerprint, computed, amount,
      stored, balance, balanceStored, -, lengths, -, ⟨positive, freshId, freshFingerprint⟩, same⟩
    cases same
    refine ⟨_, ⟨account, accountFound, counterparty, counterpartyFound, fingerprint, computed, amount,
      stored, balance, balanceStored, if_pos ⟨lengths, positive⟩⟩, freshId, freshFingerprint, rfl⟩
  · rintro ⟨money, ⟨account, accountFound, counterparty, counterpartyFound, fingerprint, computed,
      amount, stored, balance, balanceStored, fits⟩, freshId, freshFingerprint, rfl⟩
    split_ifs at fits with storable
    cases fits
    exact ⟨account, accountFound, counterparty, counterpartyFound, fingerprint, computed, amount,
      stored, balance, balanceStored, (), storable.1, (),
      ⟨storable.2, freshId, freshFingerprint⟩, rfl⟩

/-- A row that is new is posted or stops the confirmation. -/
theorem confirmRow_of_new {state next : ConfirmState} {row : StagedRow} {normalized : Normalized}
    (clean : row.issues = []) (decoded : deserializeNormalized row.normalizedData = some normalized)
    (found : state.ledger.formalDispositionFor context.env normalized = .ok (.new, none)) :
    confirmRow context state row = .ok next ↔
      ∃ ledger, state.ledger.postNormalizedRow context.env context.batch row
          (context.supply.key row.rowNumber) normalized = .ok ledger ∧
        next = { state with
          ledger := ledger.markPosted row (context.supply.postedAt row.rowNumber) } := by
  have unsettled : state.settle context row normalized (.new, none) = none := rfl
  have opened : confirmRow context state row = state.post context row normalized := by
    simp [confirmRow, clean, decoded, present, found, unsettled, bind, Except.bind]
  rw [opened]
  unfold ConfirmState.post
  cases state.ledger.postNormalizedRow context.env context.batch row
      (context.supply.key row.rowNumber) normalized with
  | ok ledger =>
      simp only [Except.ok.injEq, exists_eq_left']
      exact eq_comm
  | error error =>
      cases error <;> simp [found, unsettled, present, bind, Except.bind]

/-- The transaction that a confirmation posts for a row of a statement. -/
def postedBy (context : ConfirmContext) (base : Ledger) (row : ParsedRow) :
    Option MoneyTransaction := do
  let normalized ← newTransaction context.env base row
  let money ← postedTransaction context.env base.directory normalized
  return money.keyed (context.supply.key row.rowNumber) context.batch row.rowNumber

/-- The keys and the fingerprints of the rows are still free. -/
structure Unposted (context : ConfirmContext) (base ledger : Ledger) (rows : List ParsedRow) :
    Prop where
  sameDirectory : ledger.directory = base.directory
  fingerprinted : Fingerprinted context.env base.directory rows
  keys : (rows.map fun row => context.supply.key row.rowNumber).Nodup
  freshKeys : ∀ row ∈ rows, ∀ money ∈ ledger.transactions,
    money.id ≠ context.supply.key row.rowNumber
  freshFingerprints : ∀ normalized ∈ rows.filterMap (newTransaction context.env base),
    ∀ money ∈ ledger.transactions,
      transactionFingerprint context.env normalized ≠ .ok money.fingerprint

/-- A confirmation that posted the new rows of a statement. -/
structure PostsRows (context : ConfirmContext) (base : Ledger) (rows : List ParsedRow)
    (state final : ConfirmState) : Prop where
  newDuplicates : final.newDuplicates = state.newDuplicates
  newErrors : final.newErrors = state.newErrors
  written : final.ledger = { state.ledger with
    stagedRows := final.ledger.stagedRows
    transactions := state.ledger.transactions ++ rows.filterMap (postedBy context base) }

theorem postedBy_eq_some {base : Ledger} {row : ParsedRow} :
    postedBy context base row = some money ↔
      ∃ normalized content, newTransaction context.env base row = some normalized ∧
        postedTransaction context.env base.directory normalized = some content ∧
        money = content.keyed (context.supply.key row.rowNumber) context.batch row.rowNumber := by
  simp only [postedBy, Option.bind_eq_bind, Option.bind_eq_some_iff, Option.pure_def,
    Option.some.injEq]
  constructor
  · rintro ⟨normalized, isNew, content, posted, same⟩
    exact ⟨normalized, content, isNew, posted, same.symm⟩
  · rintro ⟨normalized, content, isNew, posted, same⟩
    exact ⟨normalized, isNew, content, posted, same.symm⟩

namespace Unposted

variable {base : Ledger} {row : ParsedRow} {rows : List ParsedRow}

theorem tail (unposted : Unposted context base ledger (row :: rows)) :
    Unposted context base ledger rows where
  sameDirectory := unposted.sameDirectory
  fingerprinted := unposted.fingerprinted.tail
  keys := (List.nodup_cons.mp unposted.keys).2
  freshKeys other member := unposted.freshKeys other (List.mem_cons_of_mem _ member)
  freshFingerprints normalized member := by
    rcases List.mem_filterMap.mp member with ⟨other, otherMem, isNew⟩
    exact unposted.freshFingerprints normalized
      (List.mem_filterMap.mpr ⟨other, List.mem_cons_of_mem _ otherMem, isNew⟩)

/-- A posted row does not take the keys and the fingerprints of the rows after it. -/
theorem step (unposted : Unposted context base ledger (row :: rows))
    (posted : postedBy context base row = some money)
    (sameDirectory : after.directory = ledger.directory)
    (added : after.transactions = ledger.transactions ++ [money]) :
    Unposted context base after rows := by
  rcases postedBy_eq_some.mp posted with ⟨normalized, content, isNew, isPosted, rfl⟩
  rcases postedTransaction_eq_some isPosted with ⟨-, computed, -⟩
  rcases unposted.fingerprinted.head (newTransaction_eq_some.mp isNew).1 with
    ⟨fingerprint, computed', others⟩
  rw [computed, Except.ok.injEq] at computed'
  subst computed'
  have keys := List.nodup_cons.mp unposted.keys
  refine ⟨sameDirectory.trans unposted.sameDirectory, unposted.fingerprinted.tail, keys.2, ?_, ?_⟩
  · intro other later money member
    rw [added] at member
    rcases List.mem_append.mp member with old | new
    · exact unposted.freshKeys other (List.mem_cons_of_mem _ later) money old
    · rw [List.mem_singleton.mp new]
      intro sameKey
      apply keys.1
      exact List.mem_map.mpr ⟨other, later, sameKey.symm⟩
  · intro other member money moneyMem
    rw [added] at moneyMem
    rcases List.mem_append.mp moneyMem with old | new
    · exact unposted.tail.freshFingerprints other member money old
    · rw [List.mem_singleton.mp new]
      rcases List.mem_filterMap.mp member with ⟨otherRow, rowMem, otherNew⟩
      apply others other
      exact List.mem_filterMap.mpr ⟨otherRow, rowMem, (newTransaction_eq_some.mp otherNew).1⟩

end Unposted

section Steps

variable {base : Ledger} {row : ParsedRow} {rowKey : ℕ → Uuid} {state next : ConfirmState}

/-- A row that is not new is passed over. -/
theorem confirmPrepared_of_not_new (isOld : newTransaction context.env base row = none) :
    confirmPrepared context rowKey state (stagedAlone context.env base row) = .ok state := by
  cases valid : validTransaction context.env base.directory row with
  | none =>
      have issues := validTransaction_eq_none.mp valid
      simp [confirmPrepared, stagedAlone, valid, confirmRow, Ledger.stagedRow, issues]
  | some normalized =>
      have recorded : base.records context.env normalized = true := by
        by_contra notRecorded
        have isNew := newTransaction_eq_some.mpr ⟨valid, Bool.not_eq_true _ ▸ notRecorded⟩
        rw [isOld] at isNew
        cases isNew
      simp [confirmPrepared, stagedAlone, valid, recorded]

/-- A new row is posted when its transaction can be stored. -/
theorem confirmPrepared_of_new {normalized : NormalizedTransactionRow} {rows : List ParsedRow}
    (unposted : Unposted context base state.ledger (row :: rows))
    (isNew : newTransaction context.env base row = some normalized) :
    confirmPrepared context rowKey state (stagedAlone context.env base row) = .ok next ↔
      ∃ money, postedBy context base row = some money ∧
        next = { state with
          ledger := (state.ledger.addTransaction money).markPosted
            (Ledger.stagedRow context.batch rowKey (stagedAlone context.env base row))
            (context.supply.postedAt row.rowNumber) } := by
  rcases newTransaction_eq_some.mp isNew with ⟨valid, notRecorded⟩
  rcases unposted.fingerprinted.head valid with ⟨fingerprint, computed, -⟩
  have free := unposted.freshFingerprints normalized
    (List.mem_filterMap.mpr ⟨row, List.mem_cons_self, isNew⟩)
  have notThere : state.ledger.hasFingerprint fingerprint = false := by
    rw [Ledger.hasFingerprint_eq_false]
    intro money member same
    apply free money member
    rw [computed, same]
  have found : state.ledger.formalDispositionFor context.env (.transaction normalized) =
      .ok (.new, none) := by
    simp [Ledger.formalDispositionFor, computed, notThere, bind, Except.bind, pure, Except.pure]
  have staged : stagedAlone context.env base row = ⟨row.rowNumber, (jsonSafeRawData row.rawData).1,
      serializeNormalized (.transaction normalized), [], false⟩ := by
    simp [stagedAlone, valid, notRecorded]
  have clean : (Ledger.stagedRow context.batch rowKey
      (stagedAlone context.env base row)).issues = [] := by
    simp [Ledger.stagedRow, staged]
  have decoded : deserializeNormalized (Ledger.stagedRow context.batch rowKey
      (stagedAlone context.env base row)).normalizedData = some (.transaction normalized) := by
    simp [Ledger.stagedRow, staged]
  have number : (Ledger.stagedRow context.batch rowKey
      (stagedAlone context.env base row)).rowNumber = row.rowNumber :=
    stagedAlone_rowNumber context.env base row
  have single : (stagedAlone context.env base row).isDuplicate ≠ true := by simp [staged]
  rw [confirmPrepared, if_neg single, confirmRow_of_new clean decoded found]
  simp only [Ledger.postNormalizedRow, postTransaction_iff, unposted.sameDirectory, postedBy_eq_some,
    number]
  constructor
  · rintro ⟨ledger, ⟨money, posted, -, -, rfl⟩, rfl⟩
    exact ⟨_, ⟨normalized, money, isNew, posted, rfl⟩, rfl⟩
  · rintro ⟨money, ⟨other, content, otherNew, posted, rfl⟩, rfl⟩
    rw [isNew, Option.some.injEq] at otherNew
    subst otherNew
    rcases postedTransaction_eq_some posted with ⟨-, computed', -⟩
    refine ⟨_, ⟨content, posted, unposted.freshKeys row List.mem_cons_self, ?_, rfl⟩, rfl⟩
    intro money member same
    apply free money member
    rw [same, computed']

/-- A statement is confirmed when the transactions of its new rows can be stored. -/
theorem confirmLoop_of_unposted (rowKey : ℕ → Uuid) {rows : List ParsedRow}
    (unposted : Unposted context base state.ledger rows) :
    ((∃ final, (rows.map (stagedAlone context.env base)).foldlM (confirmPrepared context rowKey)
        state = .ok final) ↔
      ∀ normalized ∈ rows.filterMap (newTransaction context.env base),
        (postedTransaction context.env base.directory normalized).isSome) ∧
    ∀ final, (rows.map (stagedAlone context.env base)).foldlM (confirmPrepared context rowKey)
      state = .ok final → PostsRows context base rows state final := by
  induction rows generalizing state with
  | nil =>
      refine ⟨⟨fun _ => by simp, fun _ => ⟨state, rfl⟩⟩, ?_⟩
      intro final same
      cases same
      exact ⟨rfl, rfl, by simp⟩
  | cons row rows ih =>
      cases isNew : newTransaction context.env base row with
      | none =>
          have notPosted : postedBy context base row = none := by simp [postedBy, isNew]
          rcases ih unposted.tail with ⟨succeeds, posts⟩
          simp only [List.map_cons, List.foldlM_cons, confirmPrepared_of_not_new isNew,
            List.filterMap_cons_none isNew]
          refine ⟨succeeds, ?_⟩
          intro final confirmed
          rcases posts final confirmed with ⟨newDuplicates, newErrors, written⟩
          refine ⟨newDuplicates, newErrors, ?_⟩
          rw [List.filterMap_cons_none notPosted]
          exact written
      | some normalized =>
          simp only [List.map_cons, List.foldlM_cons, bind_eq_ok,
            confirmPrepared_of_new unposted isNew, List.filterMap_cons_some isNew,
            List.forall_mem_cons]
          cases posted : postedTransaction context.env base.directory normalized with
          | none =>
              have notPosted : postedBy context base row = none := by simp [postedBy, isNew, posted]
              simp [notPosted]
          | some content =>
              have isPosted := postedBy_eq_some.mpr ⟨normalized, content, isNew, posted, rfl⟩
              have rest := @ih { state with
                ledger := (state.ledger.addTransaction (content.keyed
                  (context.supply.key row.rowNumber) context.batch row.rowNumber)).markPosted
                    (Ledger.stagedRow context.batch rowKey (stagedAlone context.env base row))
                    (context.supply.postedAt row.rowNumber) }
                (unposted.step isPosted rfl rfl)
              simp only [isPosted, Option.some.injEq, exists_eq_left', exists_eq_left,
                Option.isSome_some, true_and]
              refine ⟨rest.1, ?_⟩
              intro final confirmed
              rcases rest.2 final confirmed with ⟨newDuplicates, newErrors, written⟩
              refine ⟨newDuplicates, newErrors, ?_⟩
              rw [List.filterMap_cons_some isPosted, written]
              simp [Ledger.markPosted, Ledger.updateRow, Ledger.addTransaction]

end Steps

end Posting

/-! ## Balances -/

/-- The balance that a new row of a statement offers for its account. -/
def balanceOffer (env : Env) (ledger : Ledger) (row : ParsedRow) : Option SnapshotCandidate := do
  let normalized ← newTransaction env ledger row
  let balance ← normalized.balanceAfter
  let account ← (resolveFundingAccount ledger.directory normalized).value
  return ⟨account.id, normalized.occurredAt.instant, row.rowNumber, balance⟩

/-- The balances that the import of a statement writes: for each account that of its latest row, and
of the first of several latest ones. -/
def chosenBalances (env : Env) (ledger : Ledger) (rows : List ParsedRow) : List SnapshotCandidate :=
  (rows.filterMap (balanceOffer env ledger)).foldl offerCandidate []

theorem balanceOffer_eq_some {env : Env} {ledger : Ledger} {row : ParsedRow}
    {candidate : SnapshotCandidate} :
    balanceOffer env ledger row = some candidate ↔
      ∃ normalized balance account, newTransaction env ledger row = some normalized ∧
        normalized.balanceAfter = some balance ∧
        (resolveFundingAccount ledger.directory normalized).value = some account ∧
        candidate = ⟨account.id, normalized.occurredAt.instant, row.rowNumber, balance⟩ := by
  simp only [balanceOffer, Option.bind_eq_bind, Option.bind_eq_some_iff, Option.pure_def,
    Option.some.injEq]
  constructor
  · rintro ⟨normalized, isNew, balance, shown, account, found, same⟩
    exact ⟨normalized, balance, account, isNew, shown, found, same.symm⟩
  · rintro ⟨normalized, balance, account, isNew, shown, found, same⟩
    exact ⟨normalized, isNew, balance, shown, account, found, same.symm⟩

theorem chosenBalances_of_offers (env : Env) (ledger : Ledger) (rows : List ParsedRow) :
    ((chosenBalances env ledger rows).map (·.account)).Nodup ∧
      ∀ candidate ∈ chosenBalances env ledger rows,
        candidate ∈ rows.filterMap (balanceOffer env ledger) := by
  have crowned := crowned_offerCandidate (rows.filterMap (balanceOffer env ledger))
  exact ⟨crowned.distinct, crowned.entered⟩

/-- The balance of a row that can be posted fits its column. -/
theorem small_of_mem_chosenBalances {env : Env} {ledger : Ledger} {rows : List ParsedRow}
    (storable : ∀ normalized ∈ rows.filterMap (newTransaction env ledger),
      (postedTransaction env ledger.directory normalized).isSome)
    {candidate : SnapshotCandidate} (member : candidate ∈ chosenBalances env ledger rows) :
    |candidate.balance.roundedCents| < 10 ^ 18 := by
  rcases List.mem_filterMap.mp ((chosenBalances_of_offers env ledger rows).2 candidate member) with
    ⟨row, rowMem, offer⟩
  rcases balanceOffer_eq_some.mp offer with ⟨normalized, balance, account, isNew, shown, -, rfl⟩
  rcases Option.isSome_iff_exists.mp
    (storable normalized (List.mem_filterMap.mpr ⟨row, rowMem, isNew⟩)) with ⟨money, posted⟩
  rcases (postedTransaction_eq_some posted).2.2 with ⟨stored, isStored⟩
  rw [shown] at isStored
  by_contra large
  have tooLarge : 10 ^ 18 ≤ |balance.roundedCents| := not_lt.mp large
  simp only [Ledger.storedBalance, storedCents, if_pos tooLarge, Except.map] at isStored
  cases isStored

namespace StagedFile

variable {env : Env} {request : StageRequest} {base ledger : Ledger} {batch : ImportBatch}
  {parsed : List ParsedRow} {state : PrepareState}

/-- The rows of a statement once its confirmation has posted the new ones. -/
def confirmedRow (env : Env) (base : Ledger) (batch : Uuid) (rowKey : ℕ → Uuid)
    (supply : RowSupply) (row : ParsedRow) : StagedRow :=
  if (stagedAlone env base row).isDuplicate then
    Ledger.stagedRow batch rowKey (stagedAlone env base row)
  else (Ledger.stagedRow batch rowKey (stagedAlone env base row)).posting supply

/-- Only a new row of a statement offers its balance. -/
theorem snapshotCandidate_confirmedRow (env : Env) (base : Ledger) (batch : Uuid)
    (rowKey : ℕ → Uuid) (supply : RowSupply) (row : ParsedRow) :
    (if (confirmedRow env base batch rowKey supply row).postedAt.isSome then
        snapshotCandidate base.directory (confirmedRow env base batch rowKey supply row)
      else none) = balanceOffer env base row := by
  cases valid : validTransaction env base.directory row with
  | none =>
      have issues := validTransaction_eq_none.mp valid
      have notNew : newTransaction env base row = none := by simp [newTransaction, valid]
      simp [confirmedRow, stagedAlone, valid, Ledger.stagedRow, StagedRow.posting, issues,
        balanceOffer, notNew]
  | some normalized =>
      cases recorded : base.records env normalized with
      | true =>
          have notNew : newTransaction env base row = none := by
            simp [newTransaction, valid, recorded]
          simp [confirmedRow, stagedAlone, valid, Ledger.stagedRow, recorded, balanceOffer, notNew]
      | false =>
          have isNew := newTransaction_eq_some.mpr ⟨valid, recorded⟩
          simp [confirmedRow, stagedAlone, valid, Ledger.stagedRow, StagedRow.posting,
            StagedRow.asPosted, recorded, balanceOffer, isNew, snapshotCandidate]

/-- The confirmation of a statement chooses among the balances of its new rows. -/
theorem latestByAccount {supply : RowSupply} {after : Ledger}
    (file : StagedFile env request base ledger batch .bank parsed
      (parsed.map (stagedAlone env base)) state)
    (keyed : base.ImportKeyed) (sameDirectory : after.directory = base.directory)
    (posted : after.stagedRows = ledger.stagedRows.map fun row =>
      if row.batch = batch.id ∧ row.postedAt = none ∧ row.isDuplicate = false then
        row.posting supply else row) :
    after.latestByAccount batch.id = chosenBalances env base parsed := by
  have noOld : (base.stagedRows.map fun row =>
      if row.batch = batch.id ∧ row.postedAt = none ∧ row.isDuplicate = false then
        row.posting supply else row).filter
          (fun row => decide (row.batch = batch.id) && row.postedAt.isSome) = [] := by
    rw [List.filter_eq_nil_iff]
    intro row member
    rcases List.mem_map.mp member with ⟨old, oldMem, rfl⟩
    rcases keyed.rowsKnown old oldMem with ⟨known, knownMem, knownId⟩
    have other : old.batch ≠ batch.id := knownId ▸ file.adds.freshBatch known knownMem
    simp [other]
  have newRows : ((parsed.map (stagedAlone env base)).map
      (Ledger.stagedRow batch.id request.rowKey)).map (fun row =>
        if row.batch = batch.id ∧ row.postedAt = none ∧ row.isDuplicate = false then
          row.posting supply else row) =
      parsed.map (confirmedRow env base batch.id request.rowKey supply) := by
    rw [List.map_map, List.map_map]
    refine List.map_congr_left fun row _ => ?_
    cases duplicate : (stagedAlone env base row).isDuplicate <;>
      simp [confirmedRow, Ledger.stagedRow, duplicate]
  have numbers : ∀ row,
      (confirmedRow env base batch.id request.rowKey supply row).rowNumber = row.rowNumber ∧
      (confirmedRow env base batch.id request.rowKey supply row).batch = batch.id := by
    intro row
    unfold confirmedRow StagedRow.posting
    split_ifs <;> exact ⟨stagedAlone_rowNumber env base row, rfl⟩
  have sorted : Ledger.orderRows ((parsed.map (confirmedRow env base batch.id request.rowKey
      supply)).filter fun row => decide (row.batch = batch.id) && row.postedAt.isSome) =
      (parsed.map (confirmedRow env base batch.id request.rowKey supply)).filter
        fun row => decide (row.batch = batch.id) && row.postedAt.isSome := by
    refine List.Pairwise.insertionSort_eq (List.Pairwise.filter _ ?_)
    rw [List.pairwise_map]
    refine file.wellParsed.ordered.imp fun {earlier later} less => ?_
    rw [(numbers earlier).1, (numbers later).1]
    exact less.le
  unfold Ledger.latestByAccount chosenBalances
  rw [posted, file.adds.rows, List.map_append, List.filter_append, noOld, List.nil_append, newRows,
    sorted, sameDirectory, List.filterMap_filter, List.filterMap_map]
  congr 1
  refine List.filterMap_congr fun row _ => ?_
  rw [← snapshotCandidate_confirmedRow env base batch.id request.rowKey supply row]
  simp [(numbers row).2]

end StagedFile

/-! ## Importing a file -/

/-- The requests of an import, which stages a file and then confirms its batch. -/
structure ImportRequest where
  stage : StageRequest
  confirm : ConfirmRequest

def importFile (env : Env) (parsers : List Importer) (request : ImportRequest) (ledger : Ledger) :
    Except ServiceError Ledger := do
  let (staged, batch) ← stageUpload env parsers request.stage ledger
  let (after, _) ← confirmBatch env { request.confirm with batchId := batch.id } staged
  return after

/-- The upload is a bank statement with the rows, and finance actors import it. -/
structure ReadsStatement (env : Env) (request : ImportRequest) (rows : List ParsedRow) :
    Prop where
  stagedBy : request.stage.actor.IsFinance
  confirmedBy : request.confirm.actor.IsFinance
  signature : validateUploadSignature env request.stage.upload = .ok ()
  read : ∃ headers parser, readHeaders env request.stage.upload = .ok headers ∧
    detect (defaultParsers env) request.stage.upload.name headers = .ok parser ∧
    uploadSourceKind parser request.stage.upload.content request.stage.sourceKind = .ok .bank ∧
    parser.parse request.stage.upload.content = (rows, none)
  named : request.stage.upload.name.length ≤ 255

/-- The file is not imported yet, and the keys that its import draws are unused. -/
structure UnusedKeys (env : Env) (request : ImportRequest) (rows : List ParsedRow)
    (ledger : Ledger) : Prop where
  content : ∀ file ∈ ledger.sourceFiles, file.sha256 ≠ env.sha256 request.stage.upload.content
  fileKey : ∀ file ∈ ledger.sourceFiles, file.id ≠ request.stage.fileKey
  batchKey : ∀ batch ∈ ledger.importBatches, batch.id ≠ request.stage.batchKey
  rowKeys : (rows.map fun row => request.stage.rowKey row.rowNumber).Nodup
  freshRows : ∀ row ∈ rows, ∀ staged ∈ ledger.stagedRows,
    staged.id ≠ request.stage.rowKey row.rowNumber
  postedKeys : (rows.map fun row => request.confirm.supply.key row.rowNumber).Nodup
  freshPosted : ∀ row ∈ rows, ∀ money ∈ ledger.transactions,
    money.id ≠ request.confirm.supply.key row.rowNumber

instance (env : Env) (request : ImportRequest) (rows : List ParsedRow) (ledger : Ledger) :
    Decidable (UnusedKeys env request rows ledger) :=
  decidable_of_iff
    ((∀ file ∈ ledger.sourceFiles, file.sha256 ≠ env.sha256 request.stage.upload.content) ∧
      (∀ file ∈ ledger.sourceFiles, file.id ≠ request.stage.fileKey) ∧
      (∀ batch ∈ ledger.importBatches, batch.id ≠ request.stage.batchKey) ∧
      (rows.map fun row => request.stage.rowKey row.rowNumber).Nodup ∧
      (∀ row ∈ rows, ∀ staged ∈ ledger.stagedRows,
        staged.id ≠ request.stage.rowKey row.rowNumber) ∧
      (rows.map fun row => request.confirm.supply.key row.rowNumber).Nodup ∧
      ∀ row ∈ rows, ∀ money ∈ ledger.transactions,
        money.id ≠ request.confirm.supply.key row.rowNumber)
    ⟨fun unused => ⟨unused.1, unused.2.1, unused.2.2.1, unused.2.2.2.1, unused.2.2.2.2.1,
        unused.2.2.2.2.2.1, unused.2.2.2.2.2.2⟩,
      fun unused => ⟨unused.content, unused.fileKey, unused.batchKey, unused.rowKeys,
        unused.freshRows, unused.postedKeys, unused.freshPosted⟩⟩

def ImportRequest.context (env : Env) (request : ImportRequest) : ConfirmContext :=
  ⟨env, request.stage.batchKey, request.confirm.actor.id, request.confirm.supply⟩

@[simp]
theorem ImportRequest.context_env (env : Env) (request : ImportRequest) :
    (request.context env).env = env := rfl

/-- What the import of a statement leaves behind. -/
structure ImportedStatement (env : Env) (request : ImportRequest) (rows : List ParsedRow)
    (ledger after : Ledger) : Prop where
  directory : after.directory = ledger.directory
  transactions : after.transactions =
    ledger.transactions ++ rows.filterMap (postedBy (request.context env) ledger)
  accepts : ∀ later, after.Accepts later ↔ ledger.Accepts later ∧
    ∀ candidate ∈ chosenBalances env ledger rows, candidate.account = later.account →
      candidate.occurredAt = later.occurredAt →
        later.balance.IsCents candidate.balance.roundedCents
  tallies : after.Tallies

/-- The file is staged, and its confirmation is turned down for a balance that conflicts; nothing of
the confirmation stays. -/
def RefusedForBalance (env : Env) (request : ImportRequest) (ledger : Ledger) : Prop :=
  ∃ staged batch, stageUpload env (defaultParsers env) request.stage ledger = .ok (staged, batch) ∧
    confirmBatch env { request.confirm with batchId := batch.id } staged =
      .error (.rowValidation "账户余额快照冲突") ∧
    Operation.step ⟨env, defaultParsers env⟩ staged
      (.confirmBatch { request.confirm with batchId := batch.id }) = staged

/-- A confirmation that is refused is rolled back. -/
theorem Operation.step_of_refused {site : Installation} {ledger : Ledger} {request : ConfirmRequest}
    {error : ServiceError} (refused : Finrec.confirmBatch site.env request ledger = .error error) :
    Operation.step site ledger (.confirmBatch request) = ledger := by
  simp only [Operation.step, Operation.perform, refused, Except.map]

section Import

variable {env : Env} {request : ImportRequest} {rows : List ParsedRow} {ledger : Ledger}

/-- A statement is staged when its rows have fingerprints and are not too many. -/
theorem ReadsStatement.stageUpload (reads : ReadsStatement env request rows)
    (unused : UnusedKeys env request rows ledger) (few : rows.length ≤ env.importMaxRows)
    (fingerprinted : Fingerprinted env ledger.directory rows) :
    ∃ staged batch state,
      Finrec.stageUpload env (defaultParsers env) request.stage ledger = .ok (staged, batch) ∧
      staged.directory = ledger.directory ∧
      staged.transactions = ledger.transactions ∧ staged.snapshots = ledger.snapshots ∧
      StagedFile env request.stage ledger staged batch .bank rows
        (rows.map (stagedAlone env ledger)) state := by
  rcases reads.read with ⟨headers, parser, read, detected, kind, parsed⟩
  have inLimit : rows ≠ [] → 0 + rows.length ≤ env.importMaxRows := by
    intro _
    rw [Nat.zero_add]
    exact few
  have unseen : ∀ normalized ∈ rows.filterMap (validTransaction env ledger.directory),
      ∀ fingerprint, transactionFingerprint env normalized = .ok fingerprint →
        PrepareState.start.seenRows.lookup (.transaction fingerprint) = none := by
    intro normalized _ fingerprint _
    rfl
  rcases prepareLoop_of_fingerprinted inLimit fingerprinted unseen with ⟨state, loop⟩
  have wellParsed : WellParsed rows := by
    have promised := defaultParsers_wellParsed (mem_of_detect detected) request.stage.upload.content
    rw [parsed] at promised
    exact promised
  have insertable : ledger.CanInsertUpload request.stage (rows.map (stagedAlone env ledger)) := by
    refine ⟨unused.batchKey, unused.fileKey, ?_, ?_, ?_⟩
    · have distinct : (rows.map (·.rowNumber)).Nodup := by
        rw [List.Nodup, List.pairwise_map]
        exact wellParsed.ordered.imp fun {earlier later} less => less.ne
      simpa [List.map_map, Function.comp_def] using distinct
    · simpa [List.map_map, Function.comp_def] using unused.rowKeys
    · intro row member staged stagedMem
      rcases List.mem_map.mp member with ⟨parsedRow, rowMem, rfl⟩
      rw [stagedAlone_rowNumber]
      exact unused.freshRows parsedRow rowMem staged stagedMem
  have succeeded : Finrec.stageUpload env (defaultParsers env) request.stage ledger =
      .ok (ledger.insertUpload request.stage (env.sha256 request.stage.upload.content)
        (Ledger.stagedBatch request.stage .bank state) (rows.map (stagedAlone env ledger))) := by
    simp only [Finrec.stageUpload, bind_eq_ok, requireFinanceActor_eq_ok, require_eq_ok]
    refine ⟨(), reads.stagedBy, (), reads.signature, (), unused.content, headers, read, parser,
      detected, .bank, kind, (rows.map (stagedAlone env ledger), state), ?_, (), reads.named, (),
      insertable, rfl⟩
    simp only [prepareRows, parsed, loop, bind, Except.bind, pure, Except.pure]
  exact ⟨_, _, state, succeeded, rfl, rfl, rfl, wellParsed, loop, rfl,
    addsRows_insertUpload insertable⟩

/-- The loop of the confirmation that follows the staging. -/
def ImportRequest.postRows (env : Env) (request : ImportRequest) (staged : Ledger) :
    Except ServiceError ConfirmState :=
  (staged.pendingRows request.stage.batchKey).foldlM (confirmRow (request.context env))
    ⟨staged, 0, 0⟩

/-- The statement is staged, and none of its new rows is posted yet. -/
structure StagedStatement (env : Env) (request : ImportRequest) (rows : List ParsedRow)
    (ledger staged : Ledger) (prepared : PrepareState) : Prop where
  file : StagedFile env request.stage ledger staged
    (Ledger.stagedBatch request.stage .bank prepared) .bank rows (rows.map (stagedAlone env ledger))
    prepared
  directory : staged.directory = ledger.directory
  transactions : staged.transactions = ledger.transactions
  snapshots : staged.snapshots = ledger.snapshots
  keyed : ledger.ImportKeyed
  tallies : staged.Tallies
  unposted : Unposted (request.context env) ledger staged rows

namespace StagedStatement

variable {staged : Ledger} {prepared : PrepareState} {final : ConfirmState}
  (statement : StagedStatement env request rows ledger staged prepared)
include statement

theorem batch_mem : Ledger.stagedBatch request.stage .bank prepared ∈ staged.importBatches := by
  rw [statement.file.adds.batches]
  exact List.mem_append_right _ (List.mem_singleton_self _)

theorem batch_found : staged.importBatch? request.stage.batchKey =
    some (Ledger.stagedBatch request.stage .bank prepared) :=
  (Totals.find?_eq_some_iff statement.tallies.keyed.batchIds).mpr ⟨statement.batch_mem, rfl⟩

/-- The loop gets through when the transactions of the new rows can be stored, and posts them. -/
theorem postRows : ((∃ final, request.postRows env staged = .ok final) ↔
      ∀ normalized ∈ rows.filterMap (newTransaction env ledger),
        (postedTransaction env ledger.directory normalized).isSome) ∧
    ∀ final, request.postRows env staged = .ok final →
      PostsRows (request.context env) ledger rows ⟨staged, 0, 0⟩ final := by
  have sameLoop : request.postRows env staged = (rows.map (stagedAlone env ledger)).foldlM
      (confirmPrepared (request.context env) request.stage.rowKey) ⟨staged, 0, 0⟩ := by
    rw [foldlM_confirmPrepared]
    exact congrArg (List.foldlM (confirmRow (request.context env)) ⟨staged, 0, 0⟩)
      (statement.file.pendingRows statement.keyed)
  have loops := @confirmLoop_of_unposted (request.context env) ledger ⟨staged, 0, 0⟩
    request.stage.rowKey rows statement.unposted
  rw [ImportRequest.context_env, ← sameLoop] at loops
  exact loops

theorem directory_posted (loop : request.postRows env staged = .ok final) :
    final.ledger.directory = ledger.directory := by
  rw [(statement.postRows.2 final loop).written]
  exact statement.directory

theorem snapshots_posted (loop : request.postRows env staged = .ok final) :
    final.ledger.snapshots = ledger.snapshots := by
  rw [(statement.postRows.2 final loop).written]
  exact statement.snapshots

/-- The balances are chosen among those of the rows that the loop posted. -/
theorem latestByAccount_posted (loop : request.postRows env staged = .ok final) :
    final.ledger.latestByAccount request.stage.batchKey = chosenBalances env ledger rows := by
  have posted := statement.postRows.2 final loop
  have rowsPosted := Ledger.stagedRows_of_loop statement.tallies.keyed
    (statement.tallies.tallied _ statement.batch_mem) rfl loop posted.newDuplicates posted.newErrors
  exact statement.file.latestByAccount statement.keyed (statement.directory_posted loop) rowsPosted

theorem small_posted (loop : request.postRows env staged = .ok final) :
    ∀ candidate ∈ chosenBalances env ledger rows, |candidate.balance.roundedCents| < 10 ^ 18 :=
  fun _ member => small_of_mem_chosenBalances (statement.postRows.1.mp ⟨final, loop⟩) member

theorem createBalanceSnapshots_posted (loop : request.postRows env staged = .ok final) :
    final.ledger.createBalanceSnapshots (Ledger.stagedBatch request.stage .bank prepared) =
      (chosenBalances env ledger rows).foldlM
        (Ledger.createBalanceSnapshot request.stage.batchKey) final.ledger := by
  rw [← statement.latestByAccount_posted loop]
  exact if_pos rfl

/-- The balances are written when the ledger accepts them. -/
theorem createBalanceSnapshots_eq_ok {snapshotted : Ledger}
    (loop : request.postRows env staged = .ok final) :
    final.ledger.createBalanceSnapshots (Ledger.stagedBatch request.stage .bank prepared) =
        .ok snapshotted ↔
      (∀ candidate ∈ chosenBalances env ledger rows, ledger.Accepts candidate) ∧
        snapshotted = (chosenBalances env ledger rows).foldl
          (Ledger.addBalance request.stage.batchKey) final.ledger := by
  rw [statement.createBalanceSnapshots_posted loop,
    createBalances_eq_ok (statement.small_posted loop) (chosenBalances_of_offers env ledger rows).1]
  simp only [Ledger.accepts_congr (statement.snapshots_posted loop)]

/-- What the confirmation has to do for the import to succeed. -/
theorem importFile_eq_ok {after : Ledger} (finance : request.confirm.actor.IsFinance)
    (stages : Finrec.stageUpload env (defaultParsers env) request.stage ledger =
      .ok (staged, Ledger.stagedBatch request.stage .bank prepared)) :
    Finrec.importFile env (defaultParsers env) request ledger = .ok after ↔
      ∃ final snapshotted, Confirmed env { request.confirm with batchId := request.stage.batchKey }
          staged (Ledger.stagedBatch request.stage .bank prepared) final snapshotted ∧
        after = confirmedLedger { request.confirm with batchId := request.stage.batchKey }
          (Ledger.stagedBatch request.stage .bank prepared) final snapshotted := by
  have confirms : ∀ result,
      confirmBatch env { request.confirm with batchId := request.stage.batchKey } staged =
        .ok (after, result) ↔ _ :=
    fun result => confirmBatch_of_unconfirmed finance statement.batch_found rfl
  simp only [Finrec.importFile, stages, bind_eq_ok, Prod.exists]
  constructor
  · rintro ⟨_, _, ⟨⟩, other, result, confirmed, ⟨⟩⟩
    rcases (confirms result).mp confirmed with ⟨final, snapshotted, isConfirmed, same, -⟩
    exact ⟨final, snapshotted, isConfirmed, same⟩
  · rintro ⟨final, snapshotted, isConfirmed, same⟩
    exact ⟨_, _, rfl, after, _, (confirms _).mpr ⟨final, snapshotted, isConfirmed, same, rfl⟩, rfl⟩

/-- What a confirmation that gets through leaves behind. -/
theorem imported {snapshotted : Ledger}
    (confirmed : Confirmed env { request.confirm with batchId := request.stage.batchKey } staged
      (Ledger.stagedBatch request.stage .bank prepared) final snapshotted) :
    ImportedStatement env request rows ledger
      (confirmedLedger { request.confirm with batchId := request.stage.batchKey }
        (Ledger.stagedBatch request.stage .bank prepared) final snapshotted) := by
  have loop : request.postRows env staged = .ok final := confirmed.loop
  have posted := statement.postRows.2 final loop
  have written := createBalanceSnapshots_eq confirmed.snapshots
  rcases (statement.createBalanceSnapshots_eq_ok loop).mp confirmed.snapshots with ⟨accepted, same⟩
  constructor
  case directory =>
    change snapshotted.directory = _
    rw [written]
    exact statement.directory_posted loop
  case transactions =>
    change snapshotted.transactions = _
    rw [written, posted.written]
    exact congrArg (· ++ _) statement.transactions
  case accepts =>
    intro later
    have unchanged : (confirmedLedger { request.confirm with batchId := request.stage.batchKey }
        (Ledger.stagedBatch request.stage .bank prepared) final snapshotted).Accepts later ↔
          snapshotted.Accepts later := Ledger.accepts_congr rfl later
    have acceptedFinal : ∀ candidate ∈ chosenBalances env ledger rows,
        final.ledger.Accepts candidate := by
      intro candidate member
      exact (Ledger.accepts_congr (statement.snapshots_posted loop) candidate).mpr
        (accepted candidate member)
    rw [unchanged, same, accepts_foldl_addBalance (chosenBalances_of_offers env ledger rows).1
      acceptedFinal, Ledger.accepts_congr (statement.snapshots_posted loop)]
  case tallies => exact confirmed.tallies statement.tallies

/-- Balances that the ledger does not accept are a conflict, which turns the confirmation down. -/
theorem confirmBatch_conflict (finance : request.confirm.actor.IsFinance)
    (loop : request.postRows env staged = .ok final)
    (rejected : ¬∀ candidate ∈ chosenBalances env ledger rows, ledger.Accepts candidate) :
    confirmBatch env { request.confirm with batchId := request.stage.batchKey } staged =
      .error (.rowValidation "账户余额快照冲突") := by
  have conflict : final.ledger.createBalanceSnapshots
      (Ledger.stagedBatch request.stage .bank prepared) =
        .error (.rowValidation "账户余额快照冲突") := by
    rw [statement.createBalanceSnapshots_posted loop]
    apply createBalances_of_not_accepts (statement.small_posted loop)
      (chosenBalances_of_offers env ledger rows).1
    simpa only [Ledger.accepts_congr (statement.snapshots_posted loop)] using rejected
  have isFinance (message : String) : requireFinanceActor request.confirm.actor message = .ok () :=
    requireFinanceActor_eq_ok.mpr finance
  have unconfirmed : (Ledger.stagedBatch request.stage .bank prepared).confirmedAt = none := rfl
  change (staged.pendingRows (Ledger.stagedBatch request.stage .bank prepared).id).foldlM
    (confirmRow ⟨env, (Ledger.stagedBatch request.stage .bank prepared).id,
      request.confirm.actor.id, request.confirm.supply⟩) ⟨staged, 0, 0⟩ = .ok final at loop
  simp only [confirmBatch, isFinance, statement.batch_found, present, unconfirmed,
    Option.isSome_none, Bool.false_eq_true, if_false, bind, Except.bind, loop, conflict]

end StagedStatement

/-- A statement that is not imported yet is staged so that it can be confirmed. -/
theorem ReadsStatement.stages (reads : ReadsStatement env request rows) (tallies : ledger.Tallies)
    (unused : UnusedKeys env request rows ledger) (few : rows.length ≤ env.importMaxRows)
    (fingerprinted : Fingerprinted env ledger.directory rows) :
    ∃ staged prepared,
      Finrec.stageUpload env (defaultParsers env) request.stage ledger =
        .ok (staged, Ledger.stagedBatch request.stage .bank prepared) ∧
      StagedStatement env request rows ledger staged prepared := by
  rcases reads.stageUpload unused few fingerprinted with
    ⟨staged, batch, prepared, stages, sameDirectory, sameTransactions, sameSnapshots, file⟩
  have isBatch := file.isBatch
  subst isBatch
  refine ⟨staged, prepared, stages, file, sameDirectory, sameTransactions, sameSnapshots,
    tallies.keyed, stageUpload_tallies tallies stages, sameDirectory, fingerprinted,
    unused.postedKeys, ?_, ?_⟩
  · rw [sameTransactions]
    exact unused.freshPosted
  · intro normalized member money moneyMem computed
    rw [sameTransactions] at moneyMem
    rcases List.mem_filterMap.mp member with ⟨row, rowMem, isNew⟩
    have notRecorded := (newTransaction_eq_some.mp isNew).2
    rw [records_eq computed, Ledger.hasFingerprint_eq_false] at notRecorded
    exact notRecorded money moneyMem rfl

/-- The import of a statement succeeds just when the transactions of its new rows can be stored and
the ledger accepts the chosen balances; if it does not accept them, they are a conflict. -/
theorem ReadsStatement.importFile (reads : ReadsStatement env request rows)
    (tallies : ledger.Tallies) (unused : UnusedKeys env request rows ledger)
    (few : rows.length ≤ env.importMaxRows)
    (fingerprinted : Fingerprinted env ledger.directory rows) :
    ((∃ after, Finrec.importFile env (defaultParsers env) request ledger = .ok after) ↔
      (∀ normalized ∈ rows.filterMap (newTransaction env ledger),
        (postedTransaction env ledger.directory normalized).isSome) ∧
      ∀ candidate ∈ chosenBalances env ledger rows, ledger.Accepts candidate) ∧
    (∀ after, Finrec.importFile env (defaultParsers env) request ledger = .ok after →
      ImportedStatement env request rows ledger after) ∧
    ((∀ normalized ∈ rows.filterMap (newTransaction env ledger),
        (postedTransaction env ledger.directory normalized).isSome) →
      (¬∀ candidate ∈ chosenBalances env ledger rows, ledger.Accepts candidate) →
        RefusedForBalance env request ledger) := by
  rcases reads.stages tallies unused few fingerprinted with ⟨staged, prepared, stages, statement⟩
  refine ⟨⟨?_, ?_⟩, ?_, ?_⟩
  · rintro ⟨after, imported⟩
    rcases (statement.importFile_eq_ok reads.confirmedBy stages).mp imported with
      ⟨final, snapshotted, confirmed, -⟩
    exact ⟨statement.postRows.1.mp ⟨final, confirmed.loop⟩,
      ((statement.createBalanceSnapshots_eq_ok confirmed.loop).mp confirmed.snapshots).1⟩
  · rintro ⟨storable, accepted⟩
    rcases statement.postRows.1.mpr storable with ⟨final, loop⟩
    have snapshots := (statement.createBalanceSnapshots_eq_ok loop).mpr ⟨accepted, rfl⟩
    exact ⟨_, (statement.importFile_eq_ok reads.confirmedBy stages).mpr
      ⟨final, _, ⟨statement.batch_found, rfl, loop, snapshots⟩, rfl⟩⟩
  · intro after imported
    rcases (statement.importFile_eq_ok reads.confirmedBy stages).mp imported with
      ⟨final, snapshotted, confirmed, rfl⟩
    exact statement.imported confirmed
  · intro storable rejected
    rcases statement.postRows.1.mpr storable with ⟨final, loop⟩
    have refused := statement.confirmBatch_conflict reads.confirmedBy loop rejected
    exact ⟨staged, _, stages, refused, Operation.step_of_refused refused⟩

end Import

end Finrec
