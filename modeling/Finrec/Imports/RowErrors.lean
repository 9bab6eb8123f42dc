import Finrec.Imports.Preview
import Finrec.Lib.Ordinals

/-!
# One bad row

A row handler turns a `RowValidationError` into an issue of its row, and no other
error.  Two errors get past it: `abs` signals `Overflow` for a number that is
beyond the decimal context, and the fingerprint of a transaction without an id
converts its time to UTC, which fails outside the years 1 to 9999.  A file in
which no row meets them is staged row by row.
-/

namespace Finrec

open Calendar Checks

/-- An attempt that fails does so with a `RowValidationError`. -/
def Caught {α : Type} (attempt : Except ServiceError α) : Prop :=
  ∀ error, attempt = .error error → ∃ message, error = .rowValidation message

section Caught

variable {α β : Type} {attempt : Except ServiceError α}

theorem caught_ok (value : α) : Caught (.ok value) := by
  intro error failed
  cases failed

theorem caught_rowValidation (message : String) :
    Caught (.error (.rowValidation message) : Except ServiceError α) := by
  intro error failed
  cases failed
  exact ⟨message, rfl⟩

theorem caught_bind {next : α → Except ServiceError β} :
    Caught (attempt >>= next) ↔
      Caught attempt ∧ ∀ value, attempt = .ok value → Caught (next value) := by
  cases attempt with
  | ok value => simp [bind, Except.bind, caught_ok]
  | error error => simp [bind, Except.bind, Caught]

theorem exists_exceptInvalid_eq_ok {handler : String → Except ServiceError β}
    {next : α → Except ServiceError β}
    (handles : ∀ message, ∃ result, handler message = .ok result) :
    (∃ result, exceptInvalid attempt handler next = .ok result) ↔
      Caught attempt ∧ ∀ value, attempt = .ok value → ∃ result, next value = .ok result := by
  cases attempt with
  | ok value => simp [exceptInvalid, caught_ok]
  | error error =>
      simp only [Caught, Except.error.injEq, forall_eq', reduceCtorEq, IsEmpty.forall_iff,
        implies_true, and_true]
      constructor
      · rintro ⟨result, succeeded⟩
        rcases exceptInvalid_eq_ok.mp succeeded with ⟨value, impossible, -⟩ | ⟨message, same, -⟩
        · cases impossible
        · cases same
          exact ⟨message, rfl⟩
      · rintro ⟨message, rfl⟩
        exact handles message

end Caught

namespace CsvUtils

variable {env : Env}

/-- The number in a cell is one that `abs` signals `Overflow` for. -/
def Overflows (env : Env) (blankAsZero : Bool) (cell : Cell) : Prop :=
  ¬(amountText cell = "" ∧ blankAsZero) ∧ ∃ number,
    env.decimalOf (amountText cell) = some (.decimal number) ∧ number.places ≤ 2 ∧ number.Overflows

theorem caught_parseDecimal {blankAsZero : Bool} {cell : Cell} :
    Caught (parseDecimal env blankAsZero cell) ↔ ¬Overflows env blankAsZero cell := by
  unfold parseDecimal Overflows
  by_cases blank : amountText cell = "" ∧ blankAsZero = true
  · simp [blank, caught_ok]
  rw [if_neg blank]
  split
  · rename_i number read
    by_cases overflows : number.places ≤ 2 ∧ number.Overflows
    · rw [if_pos overflows]
      constructor
      · intro caught
        rcases caught _ rfl with ⟨message, impossible⟩
        cases impossible
      · intro inRange
        exact absurd ⟨blank, number, read, overflows⟩ inRange
    · rw [if_neg overflows]
      constructor
      · rintro - ⟨-, other, sameRead, otherOverflows⟩
        rw [read] at sameRead
        cases sameRead
        exact overflows otherOverflows
      · intro _
        split_ifs
        · exact caught_ok _
        · exact caught_rowValidation _
  · rename_i unread
    constructor
    · rintro - ⟨-, number, read, -⟩
      exact unread number read
    · intro _
      exact caught_rowValidation _

theorem caught_parseDatetime (cell : Cell) : Caught (parseDatetime env cell) := by
  unfold parseDatetime
  split
  · exact caught_ok _
  · split
    · exact caught_ok _
    · exact caught_ok _
    · exact caught_rowValidation _

end CsvUtils

/-! ## The rows of a bank -/

namespace AgriculturalBank

variable {env : Env}

/-- The non-blank rows of a statement. -/
def dataRows (sheet : Sheet) : List (ℕ × RawRow) :=
  ((numbered 4 (sheet.rows.drop 3)).filter fun row =>
    row.2.any fun cell => decide (cell.stripped ≠ "")).map fun row => (row.1, bankHeaders.zip row.2)

/-- No number that the handler of the row comes to overflows. -/
def InRange (env : Env) (rawData : RawRow) : Prop :=
  ¬CsvUtils.Overflows env true (rawData.get "收入金额") ∧
    (∀ income, CsvUtils.parseDecimal env true (rawData.get "收入金额") = .ok income →
      ¬CsvUtils.Overflows env true (rawData.get "支出金额")) ∧
    ∀ amount, parseBankAmount env (rawData.get "收入金额") (rawData.get "支出金额") = .ok amount →
      ∀ occurredAt, CsvUtils.parseDatetime env (rawData.get "交易时间") = .ok occurredAt →
        ¬CsvUtils.Overflows env false (rawData.get "账户余额")

theorem caught_parseBankAmount {income expense : Cell} :
    Caught (parseBankAmount env income expense) ↔ ¬CsvUtils.Overflows env true income ∧
      ∀ amount, CsvUtils.parseDecimal env true income = .ok amount →
        ¬CsvUtils.Overflows env true expense := by
  simp only [parseBankAmount, caught_bind, CsvUtils.caught_parseDecimal]
  refine and_congr_right fun _ => forall_congr' fun amount => imp_congr_right fun _ => ?_
  rw [and_iff_left]
  intro other _
  split_ifs
  · exact caught_rowValidation _
  · exact caught_ok _
  · exact caught_ok _

/-- The row has a cell for every header. -/
def Complete (rawData : RawRow) : Prop :=
  ∀ header ∈ bankHeaders, rawData.getKey header = .ok (rawData.get header)

theorem exists_parseRow_eq_ok {accountIdentifier : String} {rowNumber : ℕ} {rawData : RawRow}
    (complete : Complete rawData) :
    (∃ parsed, parseRow env accountIdentifier rowNumber rawData = .ok parsed) ↔
      InRange env rawData := by
  have income := complete "收入金额" (by simp [bankHeaders])
  have expense := complete "支出金额" (by simp [bankHeaders])
  have time := complete "交易时间" (by simp [bankHeaders])
  have balance := complete "账户余额" (by simp [bankHeaders])
  have name := complete "对方户名" (by simp [bankHeaders])
  have account := complete "对方账号" (by simp [bankHeaders])
  have summary := complete "摘要" (by simp [bankHeaders])
  have handles {code field : String} : ∀ message, ∃ result, (.ok (invalidRow env rowNumber rawData
      ⟨code, message, field⟩) : Except ServiceError ParsedRow) = .ok result :=
    fun message => ⟨_, rfl⟩
  simp only [parseRow, income, expense, time, balance, name, account, summary, bind, Except.bind]
  rw [exists_exceptInvalid_eq_ok handles, caught_parseBankAmount, InRange, and_assoc]
  refine and_congr_right fun _ => and_congr_right fun _ => forall_congr' fun amount =>
    imp_congr_right fun _ => ?_
  rw [exists_exceptInvalid_eq_ok handles, and_iff_right (CsvUtils.caught_parseDatetime _)]
  refine forall_congr' fun occurredAt => imp_congr_right fun _ => ?_
  rw [exists_exceptInvalid_eq_ok handles, CsvUtils.caught_parseDecimal, and_iff_left]
  exact fun _ _ => ⟨_, rfl⟩

end AgriculturalBank

namespace Wechat

variable {env : Env}

/-- The non-blank rows under the headers. -/
def dataRows (rows : List (List String)) (headerIndex : ℕ) : List (ℕ × RawRow) :=
  ((numbered (headerIndex + 2) (rows.drop (headerIndex + 1))).filter fun row =>
    row.2.any fun cell => decide (strip cell ≠ "")).map fun row =>
      (row.1, (((rows[headerIndex]?).getD []).map strip).zip (row.2.map Cell.text))

/-- The cell that `_parse_row` reads the amount from. -/
def amountCell (rawData : RawRow) : Cell :=
  .text (String.ofList ((rawData.get "金额(元)").stripped.toList.filter (· ≠ '¥')))

/-- The amount does not overflow, or the handler of the row does not come to it. -/
def InRange (env : Env) (rawData : RawRow) : Prop :=
  (wechatDirection (rawData.get "收/支").stripped).isSome →
    (rawData.get "当前状态").stripped ∈ successStates →
      ∀ occurredAt, CsvUtils.parseDatetime env (rawData.get "交易时间") = .ok occurredAt →
        ¬CsvUtils.Overflows env false (amountCell rawData)

theorem caught_parseAmounts {rawData : RawRow} :
    Caught (parseAmounts env rawData) ↔
      ∀ occurredAt, CsvUtils.parseDatetime env (rawData.get "交易时间") = .ok occurredAt →
        ¬CsvUtils.Overflows env false (amountCell rawData) := by
  simp only [parseAmounts, caught_bind, CsvUtils.caught_parseDecimal]
  rw [and_iff_right (CsvUtils.caught_parseDatetime _)]
  refine forall_congr' fun occurredAt => imp_congr_right fun _ => and_iff_left ?_
  intro amount _
  refine ⟨?_, fun _ _ => caught_ok _⟩
  unfold require
  split_ifs
  · exact caught_ok _
  · exact caught_rowValidation _

theorem exists_parseRow_eq_ok {rowNumber : ℕ} {rawData : RawRow} :
    (∃ parsed, parseRow env rowNumber rawData = .ok parsed) ↔ InRange env rawData := by
  simp only [parseRow, InRange]
  cases wechatDirection (rawData.get "收/支").stripped with
  | none => simp
  | some direction =>
      by_cases success : (rawData.get "当前状态").stripped ∈ successStates
      · simp only [success, not_true_eq_false, if_false, Option.isSome_some, true_imp_iff]
        rw [exists_exceptInvalid_eq_ok fun message => ⟨_, rfl⟩, caught_parseAmounts, and_iff_left]
        exact fun _ _ => ⟨_, rfl⟩
      · simp [success]

end Wechat

/-! ## Staging the rows -/

def Normalized.transaction? : Normalized → Option NormalizedTransactionRow
  | .invoice _ => none
  | .transaction row => some row

namespace ParsedRow

/-- The row only carries an issue, or it is a transaction with an amount that fits. -/
def IsMoney (row : ParsedRow) : Prop :=
  (row.normalized = none ∧ row.issues ≠ []) ∨
    ∃ money, row.normalized = some (.transaction money) ∧ FitsMoney money.amount

/-- A valid transaction without an id is in the years 1 to 9999 of UTC. -/
def Dated (env : Env) (directory : Directory) (sourceKind : SourceKind) (row : ParsedRow) : Prop :=
  rowIssues env directory sourceKind row = [] →
    ∀ money, row.normalized = some (.transaction money) →
      canonicalText env money.transactionId = "" → DateTime.InCalendar money.occurredAt.instant

end ParsedRow

section Staging

variable {env : Env} {ledger : Ledger} {sourceKind : SourceKind} {row : ParsedRow}
  {state next other : PrepareState} {prepared : PreparedRow}

theorem exists_transactionFingerprint_eq_ok {money : NormalizedTransactionRow}
    (fits : FitsMoney money.amount) :
    (∃ fingerprint, transactionFingerprint env money = .ok fingerprint) ↔
      (canonicalText env money.transactionId = "" →
        DateTime.InCalendar money.occurredAt.instant) := by
  have few : ¬10 ^ 28 ≤ |money.amount.roundedCents| := by
    have small := fits.roundedCents_le
    unfold maxMoneyCents at small
    omega
  simp only [transactionFingerprint, fingerprintFields, quantizedCents, if_neg few, bind_eq_ok,
    Except.ok.injEq, exists_eq_left']
  by_cases identified : canonicalText env money.transactionId = ""
  · rw [if_neg (by simpa using identified)]
    simp only [identified, true_imp_iff, ← DateTime.utcText?_isSome, Option.isSome_iff_exists,
      bind_eq_ok, present_eq_ok, pure, Except.pure, Except.ok.injEq]
    constructor
    · rintro ⟨fingerprint, fields, ⟨text, found, -⟩, -⟩
      exact ⟨text, found⟩
    · rintro ⟨text, found⟩
      exact ⟨_, _, ⟨text, found, rfl⟩, rfl⟩
  · simp [identified, pure, Except.pure]

/-- A row with issues is prepared as an error row, whatever came before it. -/
theorem prepareStagedRow_of_issues (issues : rowIssues env ledger.directory sourceKind row ≠ []) :
    prepareStagedRow env ledger sourceKind row state =
      .ok (⟨row.rowNumber, (jsonSafeRawData row.rawData).1, .empty,
        rowIssues env ledger.directory sourceKind row, false⟩, state.countError) := by
  simp only [prepareStagedRow]
  split
  · rename_i clean _
    exact absurd clean issues
  · rename_i clean _
    exact absurd clean issues
  · rfl

theorem exists_stagedDispositionFor_eq_ok (ledger : Ledger) {money : NormalizedTransactionRow}
    {fingerprint : String} (computed : transactionFingerprint env money = .ok fingerprint)
    (previous : Option Normalized) :
    ∃ found, stagedDispositionFor env ledger previous (.transaction money) = .ok found := by
  cases previous with
  | none =>
      simp [stagedDispositionFor, Ledger.formalDispositionFor, computed, bind, Except.bind, pure,
        Except.pure, Except.map]
  | some previous => cases previous <;> exact ⟨_, rfl⟩

theorem exists_prepareStagedRow_eq_ok (env : Env) (ledger : Ledger) (sourceKind : SourceKind)
    (state : PrepareState) (isMoney : row.IsMoney) :
    (∃ result, prepareStagedRow env ledger sourceKind row state = .ok result) ↔
      row.Dated env ledger.directory sourceKind := by
  by_cases issues : rowIssues env ledger.directory sourceKind row = []
  · rcases isMoney with ⟨missing, -⟩ | ⟨money, found, fits⟩
    · exact absurd issues (rowIssues_ne_nil missing)
    · have dated : row.Dated env ledger.directory sourceKind ↔
          (canonicalText env money.transactionId = "" →
            DateTime.InCalendar money.occurredAt.instant) := by
        simp only [ParsedRow.Dated, issues, found, Option.some.injEq, Normalized.transaction.injEq,
          forall_eq', true_imp_iff]
      rw [dated, ← exists_transactionFingerprint_eq_ok fits]
      simp only [prepareStagedRow, issues, found, prepareValidRow, duplicateKey]
      cases computed : transactionFingerprint env money with
      | error error => simp [Except.map, bind, Except.bind]
      | ok fingerprint =>
          rcases exists_stagedDispositionFor_eq_ok ledger computed
            (state.seenRows.lookup (.transaction fingerprint)) with ⟨disposition, staged⟩
          simp [Except.map, bind, Except.bind, staged, pure, Except.pure]
  · have dated : row.Dated env ledger.directory sourceKind := fun clean => absurd clean issues
    simp [prepareStagedRow_of_issues issues, dated]

/-- Preparing a row only looks at the rows that were seen. -/
theorem prepareStagedRow_congr (same : other.seenRows = state.seenRows)
    (succeeded : prepareStagedRow env ledger sourceKind row state = .ok (prepared, next)) :
    ∃ after, prepareStagedRow env ledger sourceKind row other = .ok (prepared, after) ∧
      after.seenRows = next.seenRows := by
  simp only [prepareStagedRow] at succeeded ⊢
  split at succeeded
  · simp only [prepareValidRow, bind_eq_ok, pure, Except.pure, Except.ok.injEq] at succeeded ⊢
    rcases succeeded with ⟨key, keyed, ⟨disposition, status⟩, found, result⟩
    rw [← same] at found
    cases disposition <;> cases result <;>
      exact ⟨_, ⟨key, keyed, _, found, rfl⟩, by
        simp [PrepareState.countValid, PrepareState.countError, PrepareState.countDuplicate,
          PrepareState.remember, PrepareState.addDate, same]⟩
  · cases succeeded
    exact ⟨_, rfl, same⟩
  · cases succeeded
    exact ⟨_, rfl, same⟩

variable {rows later : List ParsedRow} {rowCount fewer : ℕ}

/-- A file within the limit is prepared when each of its rows can be. -/
theorem exists_prepareLoop_eq_ok (few : rowCount + rows.length ≤ env.importMaxRows)
    (areMoney : ∀ row ∈ rows, row.IsMoney) :
    (∃ result, prepareLoop env ledger sourceKind rowCount rows state = .ok result) ↔
      ∀ row ∈ rows, row.Dated env ledger.directory sourceKind := by
  induction rows generalizing rowCount state with
  | nil => simp [prepareLoop]
  | cons row rest ih =>
      have single := exists_prepareStagedRow_eq_ok env ledger sourceKind state
        (areMoney row List.mem_cons_self)
      rw [List.length_cons] at few
      have others (next : PrepareState) := @ih next (rowCount + 1) (by omega)
        fun other member => areMoney other (List.mem_cons_of_mem _ member)
      rw [List.forall_mem_cons, ← single]
      simp only [prepareLoop, if_neg (show ¬env.importMaxRows < rowCount + 1 by omega), bind_eq_ok,
        pure, Except.pure, Except.ok.injEq]
      constructor
      · rintro ⟨result, ⟨first, next⟩, head, ⟨prepared, last⟩, tail, -⟩
        exact ⟨⟨_, head⟩, (others next).mp ⟨_, tail⟩⟩
      · rintro ⟨⟨⟨first, next⟩, head⟩, dated⟩
        rcases (others next).mpr dated with ⟨⟨prepared, last⟩, tail⟩
        exact ⟨_, _, head, _, tail, rfl⟩

/-- Preparing rows only looks at the rows that were seen and at the row limit. -/
theorem prepareLoop_congr {prepared : List PreparedRow} (same : other.seenRows = state.seenRows)
    (earlier : fewer ≤ rowCount)
    (succeeded : prepareLoop env ledger sourceKind rowCount rows state = .ok (prepared, next)) :
    ∃ after, prepareLoop env ledger sourceKind fewer rows other = .ok (prepared, after) ∧
      after.seenRows = next.seenRows := by
  induction rows generalizing rowCount fewer state other prepared with
  | nil =>
      cases succeeded
      exact ⟨other, rfl, same⟩
  | cons row rest ih =>
      simp only [prepareLoop] at succeeded ⊢
      split at succeeded
      · cases succeeded
      rename_i within
      simp only [bind_eq_ok, pure, Except.pure, Except.ok.injEq, Prod.mk.injEq] at succeeded
      rcases succeeded with ⟨⟨first, middle⟩, head, ⟨others, last⟩, tail, rfl, rfl⟩
      rcases prepareStagedRow_congr same head with ⟨otherMiddle, otherHead, sameMiddle⟩
      rcases ih sameMiddle (Nat.succ_le_succ earlier) tail with ⟨after, otherTail, sameLast⟩
      refine ⟨after, ?_, sameLast⟩
      rw [if_neg (by omega)]
      simp only [otherHead, otherTail, bind, Except.bind, pure, Except.pure]

/-- Two parts of a file that are prepared one after the other. -/
theorem prepareLoop_join {prepared others : List PreparedRow}
    (first : prepareLoop env ledger sourceKind rowCount rows state = .ok (prepared, next))
    (second : prepareLoop env ledger sourceKind (rowCount + rows.length) later next =
      .ok (others, other)) :
    prepareLoop env ledger sourceKind rowCount (rows ++ later) state =
      .ok (prepared ++ others, other) := by
  induction rows generalizing rowCount state prepared with
  | nil =>
      cases first
      exact second
  | cons row rest ih =>
      simp only [prepareLoop, List.cons_append] at first ⊢
      split at first
      · cases first
      rename_i within
      simp only [bind_eq_ok, pure, Except.pure, Except.ok.injEq, Prod.mk.injEq] at first
      rcases first with ⟨⟨head, middle⟩, headPrepared, ⟨tail, last⟩, tailPrepared, rfl, rfl⟩
      rw [List.length_cons, ← add_assoc, add_right_comm] at second
      rw [if_neg within]
      simp only [headPrepared, ih tailPrepared second, bind, Except.bind, pure, Except.pure,
        List.cons_append]

/-- A row with issues is prepared alone: the rows around it are prepared as they are without it. -/
theorem prepareLoop_without {prepared : List PreparedRow}
    (issues : rowIssues env ledger.directory sourceKind row ≠ [])
    (succeeded : prepareLoop env ledger sourceKind 0 (rows ++ row :: later) .start =
      .ok (prepared, next)) :
    ∃ earlier error others after, prepared = earlier ++ error :: others ∧
      earlier.length = rows.length ∧ error.rowNumber = row.rowNumber ∧ error.issues ≠ [] ∧
      prepareLoop env ledger sourceKind 0 (rows ++ later) .start = .ok (earlier ++ others, after) := by
  rcases prepareLoop_append succeeded with ⟨middle, earlier, rest, first, second, rfl⟩
  simp only [prepareLoop, prepareStagedRow_of_issues issues] at second
  split at second
  · cases second
  simp only [bind_eq_ok, pure, Except.pure, Except.ok.injEq, Prod.mk.injEq, exists_eq_left']
    at second
  rcases second with ⟨⟨others, last⟩, tail, rfl, rfl⟩
  have same : middle.seenRows = middle.countError.seenRows := rfl
  rcases prepareLoop_congr same (Nat.le_succ _) tail with ⟨after, without, -⟩
  have lengths := congrArg List.length (prepareLoop_rowNumber first)
  rw [List.length_map, List.length_map] at lengths
  exact ⟨earlier, _, others, after, rfl, lengths, rfl, issues, prepareLoop_join first without⟩

end Staging

/-! ## Whole files -/

section Collect

variable {ε α β γ : Type} {process : α → Except ε β} {items later : List α} {results : List β}

theorem collect_cons_eq_ok {item : α} :
    collect process (item :: items) = .ok results ↔ ∃ first rest, process item = .ok first ∧
      collect process items = .ok rest ∧ results = first :: rest := by
  simp only [collect]
  cases process item with
  | error error => simp
  | ok first => cases collect process items <;> simp [Except.map, eq_comm]

theorem collect_append_eq_ok :
    collect process (items ++ later) = .ok results ↔ ∃ first rest, collect process items = .ok first ∧
      collect process later = .ok rest ∧ results = first ++ rest := by
  induction items generalizing results with
  | nil => simp [collect]
  | cons item items ih =>
      simp only [List.cons_append, collect_cons_eq_ok, ih]
      constructor
      · rintro ⟨head, tail, processed, ⟨first, rest, firstDone, restDone, rfl⟩, rfl⟩
        exact ⟨_, rest, ⟨head, first, processed, firstDone, rfl⟩, restDone, rfl⟩
      · rintro ⟨-, rest, ⟨head, first, processed, firstDone, rfl⟩, restDone, rfl⟩
        exact ⟨head, _, processed, ⟨first, rest, firstDone, restDone, rfl⟩, rfl⟩

theorem forall_mem_collect {holds : β → Prop} (succeeded : collect process items = .ok results) :
    (∀ result ∈ results, holds result) ↔
      ∀ item ∈ items, ∀ result, process item = .ok result → holds result := by
  rw [collect_eq_ok] at succeeded
  induction succeeded with
  | nil => simp
  | cons head tail ih => simp [head, ih]

theorem map_eq_map_of_collect {ofItem : α → γ} {ofResult : β → γ}
    (succeeded : collect process items = .ok results)
    (keeps : ∀ item result, process item = .ok result → ofResult result = ofItem item) :
    results.map ofResult = items.map ofItem := by
  rw [collect_eq_ok] at succeeded
  induction succeeded with
  | nil => rfl
  | cons head tail ih => rw [List.map_cons, List.map_cons, keeps _ _ head, ih]

end Collect

section Files

variable {env : Env} {ledger : Ledger} {sourceKind : SourceKind}
  {parseRow : ℕ → RawRow → Except ServiceError ParsedRow} {rows : List (ℕ × RawRow)}

theorem parseUntil_eq {parsed : List ParsedRow} :
    parseUntil parseRow rows = (parsed, none) ↔
      collect (fun row => parseRow row.1 row.2) rows = .ok parsed := by
  induction rows generalizing parsed with
  | nil => simp [parseUntil, collect, eq_comm]
  | cons row rest ih =>
      simp only [parseUntil, collect]
      cases parseRow row.1 row.2 with
      | error error => simp
      | ok first =>
          cases read : parseUntil parseRow rest with
          | mk others ended =>
              cases ended with
              | none =>
                  have tail := ih.mp read
                  simp [tail, Except.map]
              | some error =>
                  cases tail : collect (fun row => parseRow row.1 row.2) rest with
                  | error error => simp [Except.map]
                  | ok others =>
                      have complete := ih.mpr tail
                      rw [read] at complete
                      cases complete

/-- The rows that staging prepares from data rows. -/
def preparedRows (env : Env) (ledger : Ledger) (sourceKind : SourceKind)
    (parseRow : ℕ → RawRow → Except ServiceError ParsedRow) (rows : List (ℕ × RawRow)) :
    Except ServiceError (List PreparedRow) :=
  (prepareRows env ledger sourceKind (parseUntil parseRow rows)).map Prod.fst

theorem preparedRows_eq_ok {prepared : List PreparedRow} :
    preparedRows env ledger sourceKind parseRow rows = .ok prepared ↔
      ∃ parsed state, parseUntil parseRow rows = (parsed, none) ∧
        prepareLoop env ledger sourceKind 0 parsed .start = .ok (prepared, state) := by
  unfold preparedRows prepareRows
  rcases parseUntil parseRow rows with ⟨parsed, ended⟩
  cases computed : prepareLoop env ledger sourceKind 0 parsed .start with
  | error error => cases ended <;> simp [bind, Except.bind, Except.map, computed]
  | ok result =>
      rcases result with ⟨found, state⟩
      cases ended <;> simp [bind, Except.bind, Except.map, pure, Except.pure, computed]

/-- Every data row gives one parsed row and one prepared row, and a row that cannot be read gives a
row with an issue, while the others are prepared as they are without it. -/
structure StagesEachRow (env : Env) (ledger : Ledger) (sourceKind : SourceKind)
    (parseRow : ℕ → RawRow → Except ServiceError ParsedRow) (rows : List (ℕ × RawRow)) : Prop where
  each : ∃ parsed prepared, parseUntil parseRow rows = (parsed, none) ∧
    preparedRows env ledger sourceKind parseRow rows = .ok prepared ∧
    parsed.map (·.rowNumber) = rows.map (·.1) ∧ prepared.map (·.rowNumber) = rows.map (·.1)
  alone : ∀ before row after, rows = before ++ row :: after →
    ∀ parsed, parseRow row.1 row.2 = .ok parsed → parsed.normalized = none →
      ∃ earlier error later,
        preparedRows env ledger sourceKind parseRow rows = .ok (earlier ++ error :: later) ∧
        earlier.length = before.length ∧ error.rowNumber = row.1 ∧ error.issues ≠ [] ∧
        preparedRows env ledger sourceKind parseRow (before ++ after) = .ok (earlier ++ later)

/-- A handler of single rows that keeps their numbers and reads rows of money. -/
def ReadsMoney (parseRow : ℕ → RawRow → Except ServiceError ParsedRow) : Prop :=
  ∀ rowNumber rawData parsed, parseRow rowNumber rawData = .ok parsed →
    parsed.rowNumber = rowNumber ∧ parsed.IsMoney

/-- The rows that were read, when all of them were. -/
structure ReadRows (parseRow : ℕ → RawRow → Except ServiceError ParsedRow)
    (rows : List (ℕ × RawRow)) (parsed : List ParsedRow) : Prop where
  complete : parseUntil parseRow rows = (parsed, none)
  areMoney : ∀ row ∈ parsed, row.IsMoney
  numbers : parsed.map (·.rowNumber) = rows.map (·.1)
  dated_iff : ∀ env directory sourceKind,
    (∀ row ∈ parsed, row.Dated env directory sourceKind) ↔
      ∀ row ∈ rows, ∀ other, parseRow row.1 row.2 = .ok other → other.Dated env directory sourceKind

theorem ReadsMoney.readRows (reads : ReadsMoney parseRow) {parsed : List ParsedRow}
    (complete : parseUntil parseRow rows = (parsed, none)) : ReadRows parseRow rows parsed := by
  have collected := parseUntil_eq.mp complete
  refine ⟨complete, fun row member => ?_, ?_, fun env directory sourceKind => ?_⟩
  · rcases exists_of_mem_collect collected member with ⟨entry, -, read⟩
    exact (reads _ _ _ read).2
  · apply map_eq_map_of_collect collected
    intro row other read
    exact (reads _ _ _ read).1
  · exact forall_mem_collect collected

theorem stagesEachRow_iff (reads : ReadsMoney parseRow) (few : rows.length ≤ env.importMaxRows) :
    StagesEachRow env ledger sourceKind parseRow rows ↔
      ∀ row ∈ rows, (∃ parsed, parseRow row.1 row.2 = .ok parsed) ∧
        ∀ parsed, parseRow row.1 row.2 = .ok parsed →
          parsed.Dated env ledger.directory sourceKind := by
  have prepares {parsed : List ParsedRow} (read : ReadRows parseRow rows parsed) :
      (∃ result, prepareLoop env ledger sourceKind 0 parsed .start = .ok result) ↔
        ∀ row ∈ rows, ∀ other, parseRow row.1 row.2 = .ok other →
          other.Dated env ledger.directory sourceKind := by
    rw [exists_prepareLoop_eq_ok _ read.areMoney, read.dated_iff]
    have lengths := congrArg List.length read.numbers
    rw [List.length_map, List.length_map] at lengths
    omega
  constructor
  · intro stages row member
    rcases stages.each with ⟨parsed, prepared, complete, isPrepared, -⟩
    rcases preparedRows_eq_ok.mp isPrepared with ⟨others, state, sameParsed, loop⟩
    rw [complete, Prod.mk.injEq] at sameParsed
    rcases sameParsed with ⟨rfl, -⟩
    have all := exists_collect_eq_ok.mp ⟨parsed, parseUntil_eq.mp complete⟩
    exact ⟨all row member, (prepares (reads.readRows complete)).mp ⟨_, loop⟩ row member⟩
  · intro each
    rcases exists_collect_eq_ok.mpr fun row member => (each row member).1 with ⟨parsed, collected⟩
    have read := reads.readRows (parseUntil_eq.mpr collected)
    rcases (prepares read).mpr fun row member => (each row member).2 with ⟨⟨prepared, state⟩, loop⟩
    have isPrepared : preparedRows env ledger sourceKind parseRow rows = .ok prepared :=
      preparedRows_eq_ok.mpr ⟨parsed, state, read.complete, loop⟩
    constructor
    case each =>
      refine ⟨parsed, prepared, read.complete, isPrepared, read.numbers, ?_⟩
      rw [prepareLoop_rowNumber loop, read.numbers]
    case alone =>
      rintro before row after rfl bad badRead unreadable
      rcases collect_append_eq_ok.mp collected with ⟨earlier, rest, first, second, rfl⟩
      rcases collect_cons_eq_ok.mp second with ⟨middle, later, middleRead, last, rfl⟩
      rw [badRead, Except.ok.injEq] at middleRead
      subst middleRead
      rcases prepareLoop_without (rowIssues_ne_nil unreadable) loop with
        ⟨firstRows, error, lastRows, afterState, rfl, lengths, number, issues, without⟩
      have others : parseUntil parseRow (before ++ after) = (earlier ++ later, none) :=
        parseUntil_eq.mpr (collect_append_eq_ok.mpr ⟨earlier, later, first, last, rfl⟩)
      refine ⟨firstRows, error, lastRows, isPrepared, ?_, ?_, issues, ?_⟩
      · rw [lengths, ← (collect_eq_ok.mp first).length_eq]
      · rw [number, (reads _ _ _ badRead).1]
      · exact preparedRows_eq_ok.mpr ⟨_, afterState, others, without⟩

end Files

/-! ## Bank and WeChat files -/

theorem invalidRow_isMoney (env : Env) (rowNumber : ℕ) (rawData : RawRow) (issue : RowIssue) :
    (invalidRow env rowNumber rawData issue).IsMoney :=
  .inl ⟨rfl, List.cons_ne_nil _ _⟩

theorem AgriculturalBank.readsMoney (env : Env) (accountIdentifier : String) :
    ReadsMoney (parseRow env accountIdentifier) := by
  intro rowNumber rawData parsed succeeded
  rcases parseRow_eq_ok succeeded with ⟨issue, rfl⟩ | ⟨money, balance, rfl, -, fits, -⟩
  · exact ⟨rfl, invalidRow_isMoney ..⟩
  · exact ⟨rfl, .inr ⟨money, rfl, fits⟩⟩

theorem Wechat.readsMoney (env : Env) : ReadsMoney (parseRow env) := by
  intro rowNumber rawData parsed succeeded
  rcases parseRow_eq_ok succeeded with ⟨issue, rfl⟩ | ⟨money, rfl, -, fits⟩
  · exact ⟨rfl, invalidRow_isMoney ..⟩
  · exact ⟨rfl, .inr ⟨money, rfl, fits⟩⟩

/-- All rows of a sheet have the same number of cells, as `xlrd` returns them. -/
def Rectangular (env : Env) : Prop :=
  ∀ content sheets, env.openWorkbook content = some sheets →
    ∀ sheet ∈ sheets, ∀ row ∈ sheet.rows, ∀ other ∈ sheet.rows, row.length = other.length

theorem AgriculturalBank.complete_zip {values : List Cell}
    (enough : values.length = bankHeaders.length) : Complete (bankHeaders.zip values) := by
  intro header member
  have present : ((bankHeaders.zip values).reverse.lookup header).isSome := by
    rw [← List.map_fst_zip enough.ge] at member
    rcases List.mem_map.mp member with ⟨entry, entryMem, rfl⟩
    by_contra missing
    rw [Option.not_isSome_iff_eq_none, List.lookup_eq_none_iff] at missing
    have differs := missing entry (List.mem_reverse.mpr entryMem)
    simp at differs
  rcases Option.isSome_iff_exists.mp present with ⟨cell, found⟩
  simp only [RawRow.getKey, RawRow.get, found, Checks.present, Option.getD_some]

theorem mem_of_mem_numbered {α : Type} {start : ℕ} {items : List α} {entry : ℕ × α}
    (member : entry ∈ numbered start items) : entry.2 ∈ items := by
  induction items generalizing start with
  | nil => cases member
  | cons item rest ih =>
      rcases List.mem_cons.mp member with rfl | later
      · exact List.mem_cons_self
      · exact List.mem_cons_of_mem _ (ih later)

/-- The rows of the sheet that was found have a cell for every header. -/
theorem AgriculturalBank.complete_of_mem_dataRows {env : Env} {content : List UInt8}
    {sheets : List Sheet} {sheet : Sheet} {accountIdentifier : String}
    (rectangular : Rectangular env) (opened : env.openWorkbook content = some sheets)
    (found : findAgriculturalBankSheet sheets = .ok (sheet, accountIdentifier))
    {row : ℕ × RawRow} (member : row ∈ dataRows sheet) : Complete row.2 := by
  have recognised : sheet ∈ sheets ∧ statementAccountIdentifier sheet = some accountIdentifier := by
    unfold findAgriculturalBankSheet at found
    split at found
    · cases found
    · rename_i one matched
      cases found
      have kept : (sheet, accountIdentifier) ∈ sheets.filterMap fun sheet =>
          (statementAccountIdentifier sheet).map (sheet, ·) := by
        rw [matched]
        exact List.mem_singleton_self _
      rcases List.mem_filterMap.mp kept with ⟨other, otherMem, same⟩
      rcases Option.map_eq_some_iff.mp same with ⟨identifier, identified, pair⟩
      cases pair
      exact ⟨otherMem, identified⟩
    · cases found
  rcases List.mem_map.mp member with ⟨entry, entryMem, rfl⟩
  have cells : entry.2 ∈ sheet.rows :=
    List.mem_of_mem_drop (mem_of_mem_numbered (List.mem_filter.mp entryMem).1)
  rcases recognised with ⟨sheetMem, identified⟩
  simp only [statementAccountIdentifier] at identified
  split at identified
  · rename_i title metadata headers rest shape
    split_ifs at identified with labelled
    apply complete_zip
    have headersMem : headers ∈ sheet.rows := by simp [shape]
    rw [rectangular content sheets opened sheet sheetMem entry.2 cells headers headersMem,
      ← labelled.2.2.2, List.length_map]
  · cases identified

/-- A bank or WeChat file that is recognised: its importer, the handler of its rows, the rows that
the handler does not overflow on, and its data rows. -/
inductive MoneyFile (env : Env) (content : List UInt8) :
    Importer → SourceKind → (ℕ → RawRow → Except ServiceError ParsedRow) → (RawRow → Prop) →
      List (ℕ × RawRow) → Prop where
  | bank {sheets : List Sheet} {sheet : Sheet} {accountIdentifier : String}
      (opened : env.openWorkbook content = some sheets)
      (found : AgriculturalBank.findAgriculturalBankSheet sheets = .ok (sheet, accountIdentifier)) :
      MoneyFile env content (AgriculturalBank.importer env) .bank
        (AgriculturalBank.parseRow env accountIdentifier) (AgriculturalBank.InRange env)
        (AgriculturalBank.dataRows sheet)
  | wechat {rows : List (List String)} {headerIndex : ℕ}
      (read : CsvUtils.readCsvRows env content = .ok rows)
      (found : Wechat.findHeaderRow rows = some headerIndex) :
      MoneyFile env content (Wechat.importer env) .wechat (Wechat.parseRow env)
        (Wechat.InRange env) (Wechat.dataRows rows headerIndex)

section MoneyFile

variable {env : Env} {content : List UInt8} {parser : Importer} {sourceKind : SourceKind}
  {parseRow : ℕ → RawRow → Except ServiceError ParsedRow} {inRange : RawRow → Prop}
  {rows : List (ℕ × RawRow)}

theorem MoneyFile.parse (file : MoneyFile env content parser sourceKind parseRow inRange rows) :
    parser.parse content = parseUntil parseRow rows := by
  cases file with
  | bank opened found =>
      simp only [AgriculturalBank.importer, AgriculturalBank.parse, opened, present, bind,
        Except.bind, found, AgriculturalBank.dataRows]
  | wechat read found =>
      simp only [Wechat.importer, Wechat.parse, read, found, Wechat.dataRows]

theorem MoneyFile.readsMoney
    (file : MoneyFile env content parser sourceKind parseRow inRange rows) :
    ReadsMoney parseRow := by
  cases file with
  | bank opened found => exact AgriculturalBank.readsMoney env _
  | wechat read found => exact Wechat.readsMoney env

theorem MoneyFile.exists_parseRow_eq_ok (rectangular : Rectangular env)
    (file : MoneyFile env content parser sourceKind parseRow inRange rows) {row : ℕ × RawRow}
    (member : row ∈ rows) :
    (∃ parsed, parseRow row.1 row.2 = .ok parsed) ↔ inRange row.2 := by
  cases file with
  | bank opened found =>
      exact AgriculturalBank.exists_parseRow_eq_ok
        (AgriculturalBank.complete_of_mem_dataRows rectangular opened found member)
  | wechat read found => exact Wechat.exists_parseRow_eq_ok

end MoneyFile

/-- A recognised file within the row limit is staged row by row if and only if the handler of no row
comes to a number beyond the decimal context, and every valid transaction without an id is in the
years 1 to 9999 of UTC. -/
theorem staged_row_by_row (env : Env) (ledger : Ledger) (content : List UInt8) (parser : Importer)
    (sourceKind : SourceKind) (parseRow : ℕ → RawRow → Except ServiceError ParsedRow)
    (inRange : RawRow → Prop) (rows : List (ℕ × RawRow)) (rectangular : Rectangular env)
    (file : MoneyFile env content parser sourceKind parseRow inRange rows)
    (few : rows.length ≤ env.importMaxRows) :
    parser.parse content = parseUntil parseRow rows ∧
      (StagesEachRow env ledger sourceKind parseRow rows ↔
        ∀ row ∈ rows, inRange row.2 ∧ ∀ parsed, parseRow row.1 row.2 = .ok parsed →
          parsed.Dated env ledger.directory sourceKind) := by
  refine ⟨file.parse, ?_⟩
  rw [stagesEachRow_iff file.readsMoney few]
  refine forall_congr' fun row => imp_congr_right fun member => ?_
  rw [file.exists_parseRow_eq_ok rectangular member]

namespace Sample

/-- A WeChat file with given rows; `1E+1000000` is the only number that is not a plain one. -/
def wechat (rows : List (List String)) : Env :=
  { env [] [] with
    decodeText := fun _ => some ""
    csvReader := fun _ => ⟨Wechat.wechatHeaders :: rows, false⟩
    decimalOf := fun text =>
      if text = "1E+1000000" then some (.decimal ⟨10 ^ (Decimal.maxExponent + 1), 0⟩)
      else (Decimal.ofPlain? text.toList).map .decimal }

def wechatCells (amount : String) : List String :=
  ["2026-01-05T12:00:00+08:00", "", "Mill", "", "支出", amount, "A1", "支付成功", "W1", "", ""]

def wechatRows (rows : List (List String)) : List (ℕ × RawRow) :=
  Wechat.dataRows (Wechat.wechatHeaders :: rows) 0

theorem wechat_rectangular (rows : List (List String)) : Rectangular (wechat rows) := by
  intro content sheets opened
  simp [wechat, env] at opened

theorem wechat_file (rows : List (List String)) :
    MoneyFile (wechat rows) [] (Wechat.importer (wechat rows)) .wechat
      (Wechat.parseRow (wechat rows)) (Wechat.InRange (wechat rows)) (wechatRows rows) := by
  apply MoneyFile.wechat
  · rfl
  · have first : (Wechat.wechatHeaders.all fun header =>
        decide (header ∈ Wechat.wechatHeaders.map strip)) = true := by decide +kernel
    unfold Wechat.findHeaderRow
    rw [List.findIdx?_cons, if_pos first]

end Sample

/-- One huge amount ends the import of its file. -/
theorem staged_row_by_row_overflows :
    let rows := [Sample.wechatCells "10.00", Sample.wechatCells "1E+1000000"]
    MoneyFile (Sample.wechat rows) [] (Wechat.importer (Sample.wechat rows)) .wechat
        (Wechat.parseRow (Sample.wechat rows)) (Wechat.InRange (Sample.wechat rows))
        (Sample.wechatRows rows) ∧
      (Sample.wechatRows rows).length ≤ (Sample.wechat rows).importMaxRows ∧
      ¬StagesEachRow (Sample.wechat rows) (Ledger.empty Sample.directory) .wechat
        (Wechat.parseRow (Sample.wechat rows)) (Sample.wechatRows rows) := by
  intro rows
  have few : (Sample.wechatRows rows).length ≤ (Sample.wechat rows).importMaxRows := by
    decide +kernel
  refine ⟨Sample.wechat_file rows, few, fun stages => ?_⟩
  rw [stagesEachRow_iff (Wechat.readsMoney _) few] at stages
  have second : (3, Wechat.wechatHeaders.zip ((Sample.wechatCells "1E+1000000").map Cell.text)) ∈
      Sample.wechatRows rows := by decide +kernel
  have inRange := Wechat.exists_parseRow_eq_ok.mp (stages _ second).1
  have dated : (CsvUtils.parseDatetime (Sample.wechat rows)
      (.text "2026-01-05T12:00:00+08:00")).toOption.isSome := by decide +kernel
  rcases Option.isSome_iff_exists.mp dated with ⟨occurredAt, read⟩
  rw [toOption_eq_some] at read
  apply inRange (by decide +kernel) (by decide +kernel) occurredAt read
  have text : CsvUtils.amountText (Wechat.amountCell (Wechat.wechatHeaders.zip
      ((Sample.wechatCells "1E+1000000").map Cell.text))) = "1E+1000000" := by decide +kernel
  refine ⟨by simp, ⟨10 ^ (Decimal.maxExponent + 1), 0⟩, ?_, by simp, ?_⟩
  · rw [text]
    simp [Sample.wechat]
  · apply Decimal.overflows_of_le
    simp [Int.natAbs_pow]

/-- A row whose amount is no number does not disturb the row before it. -/
theorem staged_row_by_row_unreadable :
    let rows := [Sample.wechatCells "10.00", Sample.wechatCells "ten"]
    StagesEachRow (Sample.wechat rows) (Ledger.empty Sample.directory) .wechat
        (Wechat.parseRow (Sample.wechat rows)) (Sample.wechatRows rows) := by
  intro rows
  apply (staged_row_by_row (Sample.wechat rows) (Ledger.empty Sample.directory) [] _ .wechat _ _ _
    (Sample.wechat_rectangular rows) (Sample.wechat_file rows) (by decide +kernel)).2.mpr
  have handled : ∀ row ∈ Sample.wechatRows rows,
      ∃ parsed ∈ (Wechat.parseRow (Sample.wechat rows) row.1 row.2).toOption,
        ∀ money ∈ parsed.normalized.bind Normalized.transaction?,
          DateTime.InCalendar money.occurredAt.instant := by
    decide +kernel
  intro row member
  rcases handled row member with ⟨parsed, read, dated⟩
  rw [Option.mem_def, toOption_eq_some] at read
  refine ⟨Wechat.exists_parseRow_eq_ok.mp ⟨parsed, read⟩, ?_⟩
  rintro other otherRead - money found -
  rw [read, Except.ok.injEq] at otherRead
  subst otherRead
  apply dated
  rw [found]
  rfl

end Finrec
