import Finrec.Imports.Statements

/-!
# Splitting a bank statement

The rows of a statement may come in two files that are imported one after the
other.  The second import meets the balances that the first one wrote: it goes
through when every chosen balance agrees with those that stand at its time, and
then the two files post what the whole file posts.
-/

namespace Finrec

open Checks

/-- A row without its place in a file. -/
def ParsedRow.unnumbered (row : ParsedRow) : ParsedRow :=
  { row with rowNumber := 0 }

/-- The rows of a file are those of two other files. -/
def Splits (whole first second : List ParsedRow) : Prop :=
  ((first ++ second).map ParsedRow.unnumbered).Perm (whole.map ParsedRow.unnumbered)

/-- The balances that two files choose agree with the ledger and with each other. -/
structure BalancesAgree (env : Env) (ledger : Ledger) (first second : List ParsedRow) : Prop where
  ofFirst : ∀ candidate ∈ chosenBalances env ledger first, ledger.Accepts candidate
  ofSecond : ∀ candidate ∈ chosenBalances env ledger second, ledger.Accepts candidate
  together : ∀ candidate ∈ chosenBalances env ledger first,
    ∀ later ∈ chosenBalances env ledger second, candidate.account = later.account →
      candidate.occurredAt = later.occurredAt →
        later.balance.IsCents candidate.balance.roundedCents

instance (env : Env) (ledger : Ledger) (first second : List ParsedRow) :
    Decidable (BalancesAgree env ledger first second) :=
  decidable_of_iff ((∀ candidate ∈ chosenBalances env ledger first, ledger.Accepts candidate) ∧
    (∀ candidate ∈ chosenBalances env ledger second, ledger.Accepts candidate) ∧
    ∀ candidate ∈ chosenBalances env ledger first, ∀ later ∈ chosenBalances env ledger second,
      candidate.account = later.account → candidate.occurredAt = later.occurredAt →
        later.balance.IsCents candidate.balance.roundedCents)
    ⟨fun agree => ⟨agree.1, agree.2.1, agree.2.2⟩,
      fun agree => ⟨agree.ofFirst, agree.ofSecond, agree.together⟩⟩

section Rows

variable {env : Env} {ledger middle : Ledger} {rows others whole first second : List ParsedRow}

/-- What a row is worth does not depend on its place. -/
theorem newTransaction_unnumbered (env : Env) (ledger : Ledger) (row : ParsedRow) :
    newTransaction env ledger row.unnumbered = newTransaction env ledger row :=
  rfl

theorem filterMap_unnumbered {β : Type} {read : ParsedRow → Option β}
    (placeless : ∀ row, read row.unnumbered = read row) (rows : List ParsedRow) :
    (rows.map ParsedRow.unnumbered).filterMap read = rows.filterMap read := by
  rw [List.filterMap_map]
  exact List.filterMap_congr fun row _ => placeless row

/-- What is read off the rows alone is the same for a file and for its parts. -/
theorem Splits.filterMap {β : Type} {read : ParsedRow → Option β}
    (splits : Splits whole first second) (placeless : ∀ row, read row.unnumbered = read row) :
    (first.filterMap read ++ second.filterMap read).Perm (whole.filterMap read) := by
  have perm := List.Perm.filterMap read splits
  rw [filterMap_unnumbered placeless, filterMap_unnumbered placeless, List.filterMap_append] at perm
  exact perm

namespace Fingerprinted

theorem parts {directory : Directory}
    (fingerprinted : Fingerprinted env directory (rows ++ others)) :
    Fingerprinted env directory rows ∧ Fingerprinted env directory others ∧
      ∀ normalized ∈ rows.filterMap (validTransaction env directory),
        ∀ other ∈ others.filterMap (validTransaction env directory),
          transactionFingerprint env normalized ≠ transactionFingerprint env other := by
  rcases fingerprinted with ⟨computed, distinct⟩
  rw [List.filterMap_append] at computed distinct
  rw [List.map_append, List.nodup_append] at distinct
  refine ⟨⟨?_, distinct.1⟩, ⟨?_, distinct.2.1⟩, ?_⟩
  · exact fun normalized member => computed normalized (List.mem_append_left _ member)
  · exact fun normalized member => computed normalized (List.mem_append_right _ member)
  · intro normalized member other otherMem
    exact distinct.2.2 _ (List.mem_map_of_mem member) _ (List.mem_map_of_mem otherMem)

end Fingerprinted

/-- Posting the rows of one file leaves the rows of another as new as they were. -/
theorem newTransaction_after {request : ImportRequest} {row : ParsedRow}
    (imported : ImportedStatement env request rows ledger middle)
    (computed : ∀ normalized, validTransaction env ledger.directory row = some normalized →
      ∃ fingerprint, transactionFingerprint env normalized = .ok fingerprint)
    (apart : ∀ normalized ∈ rows.filterMap (validTransaction env ledger.directory),
      ∀ other, validTransaction env ledger.directory row = some other →
        transactionFingerprint env normalized ≠ transactionFingerprint env other) :
    newTransaction env middle row = newTransaction env ledger row := by
  unfold newTransaction
  rw [imported.directory]
  cases valid : validTransaction env ledger.directory row with
  | none => rfl
  | some normalized =>
      rcases computed normalized valid with ⟨fingerprint, isComputed⟩
      have same : middle.records env normalized = ledger.records env normalized := by
        rw [records_eq isComputed, records_eq isComputed, Ledger.hasFingerprint,
          imported.transactions, List.any_append, Ledger.hasFingerprint]
        have noNew : (rows.filterMap (postedBy (request.context env) ledger)).any
            (fun money => decide (money.fingerprint = fingerprint)) = false := by
          rw [List.any_eq_false]
          intro money member same
          rcases List.mem_filterMap.mp member with ⟨other, otherMem, posted⟩
          rcases postedBy_eq_some.mp posted with ⟨otherRow, content, isNew, isPosted, rfl⟩
          rcases postedTransaction_eq_some isPosted with ⟨-, otherComputed, -⟩
          apply apart otherRow (List.mem_filterMap.mpr
            ⟨other, otherMem, (newTransaction_eq_some.mp isNew).1⟩) normalized valid
          have sameFingerprint : content.fingerprint = fingerprint := of_decide_eq_true same
          rw [isComputed, ← sameFingerprint]
          exact otherComputed
        rw [noNew, Bool.or_false]
      simp only [Option.filter_some, same]

namespace ImportedStatement

variable {request : ImportRequest} (imported : ImportedStatement env request first ledger middle)
  (fingerprinted : Fingerprinted env ledger.directory (first ++ second))
include imported fingerprinted

/-- The rows of the second file are as new to the ledger that the first one leaves. -/
theorem newTransaction_second {row : ParsedRow} (member : row ∈ second) :
    newTransaction env middle row = newTransaction env ledger row := by
  rcases fingerprinted.parts with ⟨-, computed, apart⟩
  apply newTransaction_after imported
  · intro normalized valid
    exact computed.computed normalized (List.mem_filterMap.mpr ⟨row, member, valid⟩)
  · intro normalized normalizedMem other valid
    exact apart normalized normalizedMem other (List.mem_filterMap.mpr ⟨row, member, valid⟩)

theorem chosenBalances_second :
    chosenBalances env middle second = chosenBalances env ledger second := by
  have offers : second.filterMap (balanceOffer env middle) =
      second.filterMap (balanceOffer env ledger) := by
    refine List.filterMap_congr fun row member => ?_
    unfold balanceOffer
    rw [imported.newTransaction_second fingerprinted member, imported.directory]
  unfold chosenBalances
  rw [offers]

/-- The balances of the second file are accepted just when they agree with all others. -/
theorem accepts_second
    (accepted : ∀ candidate ∈ chosenBalances env ledger first, ledger.Accepts candidate) :
    (∀ later ∈ chosenBalances env middle second, middle.Accepts later) ↔
      BalancesAgree env ledger first second := by
  rw [imported.chosenBalances_second fingerprinted]
  constructor
  · intro acceptedNow
    refine ⟨accepted, ?_, ?_⟩
    · exact fun later member => ((imported.accepts later).mp (acceptedNow later member)).1
    · intro candidate member later laterMem
      exact ((imported.accepts later).mp (acceptedNow later laterMem)).2 candidate member
  · intro agree later member
    apply (imported.accepts later).mpr
    exact ⟨agree.ofSecond later member, fun candidate candidateMem =>
      agree.together candidate candidateMem later member⟩

theorem storable_second
    (storable : ∀ normalized ∈ second.filterMap (newTransaction env ledger),
      (postedTransaction env ledger.directory normalized).isSome) :
    ∀ normalized ∈ second.filterMap (newTransaction env middle),
      (postedTransaction env middle.directory normalized).isSome := by
  have same : second.filterMap (newTransaction env middle) =
      second.filterMap (newTransaction env ledger) :=
    List.filterMap_congr fun _ member => imported.newTransaction_second fingerprinted member
  rw [same, imported.directory]
  exact storable

end ImportedStatement

end Rows

/-- The import of a statement has given its rows fingerprints and kept to the row limit. -/
theorem ReadsStatement.computes {env : Env} {request : ImportRequest} {rows : List ParsedRow}
    {ledger after : Ledger} (reads : ReadsStatement env request rows)
    (imported : Finrec.importFile env (defaultParsers env) request ledger = .ok after) :
    rows.length ≤ env.importMaxRows ∧
      ∀ normalized ∈ rows.filterMap (validTransaction env ledger.directory),
        ∃ fingerprint, transactionFingerprint env normalized = .ok fingerprint := by
  rcases reads.read with ⟨headers, parser, read, detected, kind, parsed⟩
  simp only [Finrec.importFile, bind_eq_ok] at imported
  rcases imported with ⟨⟨staged, batch⟩, stages, -⟩
  simp only [Finrec.stageUpload, bind_eq_ok, read, detected, kind, parsed, Except.ok.injEq,
    exists_eq_left'] at stages
  rcases stages with ⟨-, -, -, -, -, -, ⟨prepared, state⟩, prepares, -⟩
  rcases prepareLoop_computes (prepareRows_eq_ok prepares).2 with ⟨few, computed⟩
  refine ⟨?_, computed⟩
  by_cases empty : rows = []
  · rw [empty]
    exact Nat.zero_le _
  · have fits := few empty
    rw [Nat.zero_add] at fits
    exact fits

/-- The transactions that a file posts, without their keys. -/
theorem map_content_postedBy (context : ConfirmContext) (ledger : Ledger) (rows : List ParsedRow) :
    (rows.filterMap (postedBy context ledger)).map MoneyTransaction.content =
      rows.filterMap fun row => (newTransaction context.env ledger row).bind
        (postedTransaction context.env ledger.directory) := by
  rw [List.map_filterMap]
  refine List.filterMap_congr fun row _ => ?_
  cases isNew : newTransaction context.env ledger row with
  | none => simp [postedBy, isNew]
  | some normalized =>
      cases posted : postedTransaction context.env ledger.directory normalized with
      | none => simp [postedBy, isNew, posted]
      | some money =>
          rw [postedBy_eq_some.mpr ⟨normalized, money, isNew, posted, rfl⟩]
          simp only [Option.map_some, Option.bind_some, posted]
          exact congrArg some (postedTransaction_eq_some posted).1

/-- What the second file posts after the first one is what it would have posted at once. -/
theorem ImportedStatement.map_content_second {env : Env} {request : ImportRequest}
    {ledger middle : Ledger} {first second : List ParsedRow}
    (imported : ImportedStatement env request first ledger middle)
    (fingerprinted : Fingerprinted env ledger.directory (first ++ second)) (context : ConfirmContext)
    (sameEnv : context.env = env) :
    (second.filterMap (postedBy context middle)).map MoneyTransaction.content =
      second.filterMap fun row =>
        (newTransaction env ledger row).bind (postedTransaction env ledger.directory) := by
  rw [map_content_postedBy, imported.directory, sameEnv]
  refine List.filterMap_congr fun row member => ?_
  rw [imported.newTransaction_second fingerprinted member]

/-- Importing a statement in two files instead of one succeeds just when the chosen balances agree,
and then posts the same transactions; if they do not agree, one of the two confirmations is refused
for a conflict of balances and rolled back. -/
theorem split_statement (env : Env) (directory : Directory) (operations : List Operation)
    {whole first second : ImportRequest} {rows firstRows secondRows : List ParsedRow}
    {wholeAfter : Ledger} (readsWhole : ReadsStatement env whole rows)
    (readsFirst : ReadsStatement env first firstRows)
    (readsSecond : ReadsStatement env second secondRows)
    (splits : Splits rows firstRows secondRows)
    (distinct : ((rows.filterMap (validTransaction env
      (run ⟨env, defaultParsers env⟩ directory operations).directory)).map
        (transactionFingerprint env)).Nodup)
    (unusedWhole : UnusedKeys env whole rows (run ⟨env, defaultParsers env⟩ directory operations))
    (unusedFirst : UnusedKeys env first firstRows
      (run ⟨env, defaultParsers env⟩ directory operations))
    (unusedSecond : ∀ middle, importFile env (defaultParsers env) first
      (run ⟨env, defaultParsers env⟩ directory operations) = .ok middle →
        UnusedKeys env second secondRows middle)
    (wholeSucceeds : importFile env (defaultParsers env) whole
      (run ⟨env, defaultParsers env⟩ directory operations) = .ok wholeAfter) :
    ((∃ middle after, importFile env (defaultParsers env) first
          (run ⟨env, defaultParsers env⟩ directory operations) = .ok middle ∧
        importFile env (defaultParsers env) second middle = .ok after) ↔
      BalancesAgree env (run ⟨env, defaultParsers env⟩ directory operations) firstRows
        secondRows) ∧
    (∀ middle after, importFile env (defaultParsers env) first
        (run ⟨env, defaultParsers env⟩ directory operations) = .ok middle →
      importFile env (defaultParsers env) second middle = .ok after →
        (after.transactions.map MoneyTransaction.content).Perm
          (wholeAfter.transactions.map MoneyTransaction.content)) ∧
    (¬BalancesAgree env (run ⟨env, defaultParsers env⟩ directory operations) firstRows secondRows →
      RefusedForBalance env first (run ⟨env, defaultParsers env⟩ directory operations) ∨
        ∃ middle, importFile env (defaultParsers env) first
            (run ⟨env, defaultParsers env⟩ directory operations) = .ok middle ∧
          RefusedForBalance env second middle) := by
  have tallies := run_tallies ⟨env, defaultParsers env⟩ directory operations
  generalize run ⟨env, defaultParsers env⟩ directory operations = start at *
  rcases readsWhole.computes wholeSucceeds with ⟨few, computed⟩
  have fingerprinted : Fingerprinted env start.directory (firstRows ++ secondRows) := by
    refine Fingerprinted.of_perm ?_ ⟨computed, distinct⟩
    rw [List.filterMap_append]
    exact (splits.filterMap fun _ => rfl).symm
  have lengths : firstRows.length + secondRows.length = rows.length := by
    have same := splits.length_eq
    simpa using same
  rcases fingerprinted.parts with ⟨firstPrinted, secondPrinted, -⟩
  have wholeImported := readsWhole.importFile tallies unusedWhole few ⟨computed, distinct⟩
  have firstImported := readsFirst.importFile tallies unusedFirst (by omega) firstPrinted
  -- the second file meets the ledger that the first one leaves
  have secondImported : ∀ middle (imported : importFile env (defaultParsers env) first start =
      .ok middle), _ := fun middle imported =>
    readsSecond.importFile (firstImported.2.1 middle imported).tallies (unusedSecond middle imported)
      (by omega) ((firstImported.2.1 middle imported).directory ▸ secondPrinted)
  -- what the whole file posts, its parts can post too
  have storableIn : ∀ part ⊆ firstRows ++ secondRows,
      ∀ normalized ∈ part.filterMap (newTransaction env start),
        (postedTransaction env start.directory normalized).isSome := by
    intro part partOf normalized member
    apply (wholeImported.1.mp ⟨wholeAfter, wholeSucceeds⟩).1 normalized
    rw [← (splits.filterMap (newTransaction_unnumbered env start)).mem_iff, ← List.filterMap_append]
    rcases List.mem_filterMap.mp member with ⟨row, rowMem, isNew⟩
    exact List.mem_filterMap.mpr ⟨row, partOf rowMem, isNew⟩
  have firstStorable := storableIn firstRows (List.subset_append_left ..)
  have secondStorable : ∀ middle, importFile env (defaultParsers env) first start = .ok middle →
      ∀ normalized ∈ secondRows.filterMap (newTransaction env middle),
        (postedTransaction env middle.directory normalized).isSome := fun middle imported =>
    (firstImported.2.1 middle imported).storable_second fingerprinted
      (storableIn secondRows (List.subset_append_right ..))
  have secondAccepted : ∀ middle, importFile env (defaultParsers env) first start = .ok middle →
      ((∀ later ∈ chosenBalances env middle secondRows, middle.Accepts later) ↔
        BalancesAgree env start firstRows secondRows) := fun middle imported =>
    (firstImported.2.1 middle imported).accepts_second fingerprinted
      (firstImported.1.mp ⟨middle, imported⟩).2
  refine ⟨⟨?_, ?_⟩, ?_, ?_⟩
  · rintro ⟨middle, after, firstSucceeds, secondSucceeds⟩
    exact (secondAccepted middle firstSucceeds).mp
      ((secondImported middle firstSucceeds).1.mp ⟨after, secondSucceeds⟩).2
  · intro agree
    rcases firstImported.1.mpr ⟨firstStorable, agree.ofFirst⟩ with ⟨middle, firstSucceeds⟩
    rcases (secondImported middle firstSucceeds).1.mpr ⟨secondStorable middle firstSucceeds,
      (secondAccepted middle firstSucceeds).mpr agree⟩ with ⟨after, secondSucceeds⟩
    exact ⟨middle, after, firstSucceeds, secondSucceeds⟩
  · intro middle after firstSucceeds secondSucceeds
    have posted := firstImported.2.1 middle firstSucceeds
    rw [((secondImported middle firstSucceeds).2.1 after secondSucceeds).transactions,
      posted.transactions, (wholeImported.2.1 wholeAfter wholeSucceeds).transactions,
      List.map_append, List.map_append, List.map_append,
      posted.map_content_second fingerprinted _ (ImportRequest.context_env env second),
      map_content_postedBy, map_content_postedBy, List.append_assoc]
    apply List.Perm.append_left
    exact splits.filterMap fun row => by rw [newTransaction_unnumbered]
  · intro disagree
    by_cases accepted : ∀ candidate ∈ chosenBalances env start firstRows, start.Accepts candidate
    · rcases firstImported.1.mpr ⟨firstStorable, accepted⟩ with ⟨middle, firstSucceeds⟩
      refine .inr ⟨middle, firstSucceeds, ?_⟩
      apply (secondImported middle firstSucceeds).2.2 (secondStorable middle firstSucceeds)
      exact fun laterAccepted => disagree ((secondAccepted middle firstSucceeds).mp laterAccepted)
    · exact .inl (firstImported.2.2 firstStorable accepted)

namespace Sample

/-- Import the statement with an index; the keys are built from `batch`. -/
def importing (index : UInt8) (batch : Uuid) : ImportRequest where
  stage := ⟨⟨"bank.xls", [0xD0, 0xCF, 0x11, 0xE0, 0xA1, 0xB1, 0x1A, 0xE1, index]⟩, none, finance,
    batch, batch, fun rowNumber => batch * 100 + rowNumber, 0, 0⟩
  confirm := ⟨batch, finance, ⟨fun rowNumber => batch * 100 + rowNumber, fun _ => 1, fun _ => 1⟩, 1, 1⟩

/-- A statement of two payments, and the two payments in files of their own. -/
def payments (first second : List Cell) : Env :=
  env [] [statement [first, second], statement [first], statement [second]]

def rowsOf (env : Env) (request : ImportRequest) : List ParsedRow :=
  (AgriculturalBank.parse env request.stage.upload.content).1

theorem paidDay_valid : (1 ≤ 2026 ∧ 2026 ≤ 9999) ∧ (1 ≤ 1 ∧ 1 ≤ 12) ∧
    (1 ≤ 5 ∧ 5 ≤ Calendar.daysInMonth 2026 1) := by decide

def paidDay : Calendar.Date := ⟨2026, 1, 5, paidDay_valid⟩

/-- Two payments within one second. -/
def sameSecond : Env :=
  payments (paymentCells paidDay 0 "10.00" "90.00") (paymentCells paidDay 0 "20.00" "70.00")

/-- Two payments a second apart. -/
def nextSecond : Env :=
  payments (paymentCells paidDay 0 "10.00" "90.00") (paymentCells paidDay 1000000 "20.00" "70.00")

theorem readsStatement (env : Env) (request : ImportRequest)
    (stagedBy : request.stage.actor.IsFinance) (confirmedBy : request.confirm.actor.IsFinance)
    (signature : (validateUploadSignature env request.stage.upload).toOption = some ())
    (name : request.stage.upload.name = "bank.xls") (detected : request.stage.sourceKind = none)
    (headers : (readHeaders env request.stage.upload).toOption = some AgriculturalBank.bankHeaders)
    (complete : (AgriculturalBank.parse env request.stage.upload.content).2 = none) :
    ReadsStatement env request (rowsOf env request) where
  stagedBy := stagedBy
  confirmedBy := confirmedBy
  signature := toOption_eq_some.mp signature
  read := by
    refine ⟨AgriculturalBank.bankHeaders, AgriculturalBank.importer env,
      toOption_eq_some.mp headers, ?_, ?_, Prod.ext rfl complete⟩
    · rw [name]
      rfl
    · rw [detected]
      rfl
  named := by
    rw [name]
    decide

end Sample

/-- Two payments of one second cannot come in two files: the second file is turned down. -/
theorem split_statement_conflicts :
    let start := run ⟨Sample.sameSecond, defaultParsers Sample.sameSecond⟩ Sample.directory []
    let rows := fun request => Sample.rowsOf Sample.sameSecond request
    Splits (rows (Sample.importing 0 10)) (rows (Sample.importing 1 10))
        (rows (Sample.importing 2 11)) ∧
      (((rows (Sample.importing 0 10)).filterMap (validTransaction Sample.sameSecond
        start.directory)).map (transactionFingerprint Sample.sameSecond)).Nodup ∧
      (∃ after, importFile Sample.sameSecond (defaultParsers Sample.sameSecond)
        (Sample.importing 0 10) start = .ok after ∧ after.transactions.length = 2) ∧
      ∃ middle, importFile Sample.sameSecond (defaultParsers Sample.sameSecond)
          (Sample.importing 1 10) start = .ok middle ∧
        importFile Sample.sameSecond (defaultParsers Sample.sameSecond) (Sample.importing 2 11)
          middle = .error (.rowValidation "账户余额快照冲突") := by
  intro start rows
  have whole : (importFile Sample.sameSecond (defaultParsers Sample.sameSecond)
      (Sample.importing 0 10) start).toOption.map (fun after => after.transactions.length) =
        some 2 := by decide +kernel
  have first : (importFile Sample.sameSecond (defaultParsers Sample.sameSecond)
      (Sample.importing 1 10) start).toOption.map (fun middle =>
        error? (importFile Sample.sameSecond (defaultParsers Sample.sameSecond)
          (Sample.importing 2 11) middle)) =
        some (some (.rowValidation "账户余额快照冲突")) := by decide +kernel
  simp only [Option.map_eq_some_iff, toOption_eq_some] at whole first
  rcases first with ⟨middle, succeeds, fails⟩
  have distinct : (((rows (Sample.importing 0 10)).filterMap (validTransaction Sample.sameSecond
      start.directory)).map fun normalized =>
        (transactionFingerprint Sample.sameSecond normalized).toOption).Nodup := by decide +kernel
  refine ⟨List.Perm.of_eq rfl, ?_, whole, middle, succeeds, error?_eq_some.mp fails⟩
  apply List.Nodup.of_map Except.toOption
  rw [List.map_map]
  exact distinct

/-- Two payments of different seconds can. -/
theorem split_statement_next_second :
    let start := run ⟨Sample.nextSecond, defaultParsers Sample.nextSecond⟩ Sample.directory []
    ∃ wholeAfter middle after, importFile Sample.nextSecond (defaultParsers Sample.nextSecond)
        (Sample.importing 0 10) start = .ok wholeAfter ∧
      importFile Sample.nextSecond (defaultParsers Sample.nextSecond) (Sample.importing 1 10) start =
        .ok middle ∧
      importFile Sample.nextSecond (defaultParsers Sample.nextSecond) (Sample.importing 2 11) middle =
        .ok after ∧
      (after.transactions.map MoneyTransaction.content).Perm
        (wholeAfter.transactions.map MoneyTransaction.content) := by
  intro start
  have whole : (importFile Sample.nextSecond (defaultParsers Sample.nextSecond)
      (Sample.importing 0 10) start).toOption.map (fun after => after.transactions.length) =
        some 2 := by decide +kernel
  have fresh : (importFile Sample.nextSecond (defaultParsers Sample.nextSecond)
      (Sample.importing 1 10) start).toOption.map (fun middle =>
        decide (UnusedKeys Sample.nextSecond (Sample.importing 2 11)
          (Sample.rowsOf Sample.nextSecond (Sample.importing 2 11)) middle)) =
        some true := by decide +kernel
  have distinct : (((Sample.rowsOf Sample.nextSecond (Sample.importing 0 10)).filterMap
      (validTransaction Sample.nextSecond start.directory)).map fun normalized =>
        (transactionFingerprint Sample.nextSecond normalized).toOption).Nodup := by decide +kernel
  rcases Option.map_eq_some_iff.mp whole with ⟨wholeAfter, wholeSucceeds, -⟩
  have split := split_statement Sample.nextSecond Sample.directory []
    (Sample.readsStatement Sample.nextSecond (Sample.importing 0 10) (by decide) (by decide)
      (by decide +kernel) rfl rfl (by decide +kernel) (by decide +kernel))
    (Sample.readsStatement Sample.nextSecond (Sample.importing 1 10) (by decide) (by decide)
      (by decide +kernel) rfl rfl (by decide +kernel) (by decide +kernel))
    (Sample.readsStatement Sample.nextSecond (Sample.importing 2 11) (by decide) (by decide)
      (by decide +kernel) rfl rfl (by decide +kernel) (by decide +kernel))
    (List.Perm.of_eq rfl)
    (by
      apply List.Nodup.of_map Except.toOption
      rw [List.map_map]
      exact distinct)
    (by decide +kernel) (by decide +kernel)
    (by
      intro middle succeeds
      rw [toOption_eq_some.mpr succeeds, Option.map_some, Option.some.injEq] at fresh
      exact of_decide_eq_true fresh)
    (toOption_eq_some.mp wholeSucceeds)
  have agree : BalancesAgree Sample.nextSecond start
      (Sample.rowsOf Sample.nextSecond (Sample.importing 1 10))
      (Sample.rowsOf Sample.nextSecond (Sample.importing 2 11)) := by decide +kernel
  rcases split.1.mpr agree with ⟨middle, after, first, second⟩
  exact ⟨wholeAfter, middle, after, toOption_eq_some.mp wholeSucceeds, first, second,
    split.2.1 middle after first second⟩

end Finrec
