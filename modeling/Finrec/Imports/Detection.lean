import Finrec.Ledger.Operations
import Finrec.Lib.FirstMaximum

/-!
# Detection of a WeChat statement

The parser of WeChat statements looks for the first row with the column names.
The detection takes the densest row of the file for the header, so a row with
more texts than the header hides it.
-/

namespace Finrec

open Checks FirstMaximum

namespace Wechat

/-- The row has the column names. -/
def IsHeader (row : List String) : Prop := ∀ header ∈ wechatHeaders, header ∈ row.map strip

instance (row : List String) : Decidable (IsHeader row) :=
  inferInstanceAs (Decidable (∀ _ ∈ wechatHeaders, _))

/-- The number of cells with a text. -/
def density (row : List String) : ℕ := ((row.map strip).filter (· ≠ "")).length

/-- A header has more texts than every row before it and as many as every row after it. -/
def HeaderIsDensest (rows : List (List String)) : Prop :=
  ∃ header, IsHeader header ∧ IsFirst density rows header

/-- The parser finds its header row in a `.csv` upload. -/
structure Parsable (env : Env) (upload : Upload) (rows : List (List String)) : Prop where
  csv : suffix upload.name = ".csv"
  read : CsvUtils.readCsvRows env upload.content = .ok rows
  found : (findHeaderRow rows).isSome = true

/-- The headers that detection reads select the parser. -/
def Detected (env : Env) (upload : Upload) : Prop :=
  ∃ headers, readHeaders env upload = .ok headers ∧
    detect (defaultParsers env) upload.name headers = .ok (importer env)

/-- Detection agrees with the parser on an upload. -/
def DetectionAgrees (env : Env) (upload : Upload) : Prop :=
  ∀ rows, Parsable env upload rows → Detected env upload

end Wechat

/-! ## The densest row -/

theorem densestRow_eq_foldl (first : List String) (rows : List (List String)) :
    densestRow (first :: rows) =
      rows.foldl (better fun row => (row.filter (· ≠ "")).length) first := by
  have kept : better (fun row : List String => (row.filter (· ≠ "")).length) first first =
      first := if_neg (Nat.lt_irrefl _)
  change rows.foldl (better fun row : List String => (row.filter (· ≠ "")).length)
    (better (fun row : List String => (row.filter (· ≠ "")).length) first first) = _
  rw [kept]

/-- The densest row is the first one of the highest density. -/
theorem densestRow_of_isFirst {rows : List (List String)} {header : List String}
    (first : IsFirst Wechat.density rows header) :
    densestRow (rows.map fun row => row.map strip) = header.map strip := by
  obtain ⟨earlier, later, rfl, before, after⟩ := first
  have stripped : IsFirst (fun row : List String => (row.filter (· ≠ "")).length)
      ((earlier ++ header :: later).map fun row => row.map strip) (header.map strip) := by
    refine ⟨earlier.map fun row => row.map strip, later.map fun row => row.map strip, ?_, ?_, ?_⟩
    · rw [List.map_append, List.map_cons]
    · exact List.forall_mem_map.mpr before
    · exact List.forall_mem_map.mpr after
  generalize (earlier ++ header :: later).map (fun row => row.map strip) = rows at stripped ⊢
  cases rows with
  | nil =>
      obtain ⟨_, _, cut, -⟩ := stripped
      simp at cut
  | cons start rows =>
      rw [densestRow_eq_foldl]
      exact foldl_better_of_isFirst stripped

namespace Wechat

/-- The densest row has the column names if and only if a header is the densest row. -/
theorem densestRow_isHeader_iff {rows : List (List String)} (nonempty : rows ≠ []) :
    (∀ header ∈ wechatHeaders, header ∈ densestRow (rows.map fun row => row.map strip)) ↔
      HeaderIsDensest rows := by
  constructor
  · intro named
    obtain ⟨best, first⟩ : ∃ best, IsFirst density rows best := exists_isFirst nonempty
    rw [densestRow_of_isFirst first] at named
    exact ⟨best, named, first⟩
  · rintro ⟨header, named, first⟩
    rw [densestRow_of_isFirst first]
    exact named

/-! ## The choice of the parser -/

theorem csv_suffix {name : String} (csv : suffix name = ".csv") :
    ".csv".toList <:+ name.toList.map Char.toLower := by
  unfold suffix at csv
  simp only at csv
  split_ifs at csv with dotted
  · have shape := congrArg String.toList csv
    rw [String.toList_ofList] at shape
    have cut := List.takeWhile_append_dropWhile (p := (· ≠ '.')) (l := name.toList.reverse)
    cases before : name.toList.reverse.dropWhile (· ≠ '.') with
    | nil =>
        rw [before, List.append_nil] at cut
        rw [cut, List.reverse_reverse, String.length_toList] at dotted
        exact absurd dotted.1 (by omega)
    | cons dot before' =>
        have isDot : dot = '.' := by
          have stops := List.head?_dropWhile_not (fun c => decide (c ≠ '.')) name.toList.reverse
          rw [before] at stops
          simpa using stops
        subst isDot
        rw [before] at cut
        have ordered : name.toList = before'.reverse ++
            '.' :: (name.toList.reverse.takeWhile (· ≠ '.')).reverse := by
          have turned := congrArg List.reverse cut
          rw [List.reverse_append, List.reverse_cons, List.append_assoc, List.reverse_reverse]
            at turned
          exact turned.symm
        rw [ordered, List.map_append, List.map_cons]
        exact ⟨before'.reverse.map Char.toLower, by rw [← shape]; rfl⟩
  · simp at csv

theorem getLast?_of_suffix {ending text : List Char} {last : Char}
    (isSuffix : ending <:+ text) (ends : ending.getLast? = some last) :
    text.getLast? = some last := by
  obtain ⟨before, rfl⟩ := isSuffix
  rw [List.getLast?_append, ends]
  rfl

/-- A `.csv` upload is none of the other importers' business. -/
theorem detect_csv (env : Env) {name : String} (csv : suffix name = ".csv")
    (headers : List String) :
    detect (defaultParsers env) name headers =
      if ∀ header ∈ wechatHeaders, header ∈ headers then .ok (importer env)
      else .error (.unsupportedTemplate "无法识别文件模板") := by
  have isSuffix := csv_suffix csv
  have last : (name.toList.map Char.toLower).getLast? = some 'v' := getLast?_of_suffix isSuffix rfl
  have noBook : ¬".xlsx".toList <:+ name.toList.map Char.toLower := by
    intro book
    have other : _ = some 'x' := getLast?_of_suffix book rfl
    simp [last] at other
  have noStatement : ¬".xls".toList <:+ name.toList.map Char.toLower := by
    intro statement
    have other : _ = some 's' := getLast?_of_suffix statement rfl
    simp [last] at other
  have noInvoices : (TaxInvoice.importer env).supports name headers = false := by
    change TaxInvoice.supports name headers = false
    simp only [TaxInvoice.supports, decide_eq_false noBook, Bool.false_and]
  have noBank : (AgriculturalBank.importer env).supports name headers = false := by
    change AgriculturalBank.supports name headers = false
    simp only [AgriculturalBank.supports, decide_eq_false noStatement, Bool.false_and]
  have wechat : (importer env).supports name headers =
      decide (∀ header ∈ wechatHeaders, header ∈ headers) := by
    change supports name headers = _
    simp only [supports, decide_eq_true isSuffix, Bool.true_and, List.decide_forall_mem]
  by_cases named : ∀ header ∈ wechatHeaders, header ∈ headers
  · rw [decide_eq_true named] at wechat
    rw [if_pos named]
    simp only [detect, defaultParsers, List.filter_cons, List.filter_nil, noInvoices, noBank, wechat,
      if_true, Bool.false_eq_true, if_false]
  · rw [decide_eq_false named] at wechat
    rw [if_neg named]
    simp only [detect, defaultParsers, List.filter_cons, List.filter_nil, noInvoices, noBank, wechat,
      Bool.false_eq_true, if_false]

theorem readHeaders_of_parsable {env : Env} {upload : Upload} {rows : List (List String)}
    (parsable : Parsable env upload rows) :
    readHeaders env upload = .ok (densestRow (rows.map fun row => row.map strip)) := by
  have read := parsable.read
  simp only [CsvUtils.readCsvRows, bind_eq_ok, present_eq_ok, require_eq_ok] at read
  obtain ⟨text, decoded, _, complete, shown⟩ := read
  have rows_eq : (env.csvReader text).rows = rows := Except.ok.inj shown
  have isText : suffix upload.name ∈ textExtensions := by
    rw [parsable.csv]
    exact List.mem_cons_self
  rw [readHeaders, if_pos isText]
  simp only [bind_eq_ok, present_eq_ok, require_eq_ok]
  exact ⟨text, decoded, (), complete, by rw [rows_eq]; rfl⟩

theorem detected_iff {env : Env} {upload : Upload} {rows : List (List String)}
    (parsable : Parsable env upload rows) : Detected env upload ↔ HeaderIsDensest rows := by
  have nonempty : rows ≠ [] := by
    rintro rfl
    exact absurd parsable.found (by simp [findHeaderRow])
  rw [← densestRow_isHeader_iff nonempty]
  unfold Detected
  simp only [readHeaders_of_parsable parsable, Except.ok.injEq, exists_eq_left',
    detect_csv env parsable.csv]
  constructor
  · intro detected
    by_contra unnamed
    rw [if_neg unnamed] at detected
    cases detected
  · intro named
    exact if_pos named

/-- Detection agrees with the parser if and only if the header is the densest row. -/
theorem detection_agrees_iff (env : Env) (upload : Upload) :
    DetectionAgrees env upload ↔ ∀ rows, Parsable env upload rows → HeaderIsDensest rows := by
  apply forall₂_congr
  intro rows parsable
  exact detected_iff parsable

end Wechat

namespace Sample

/-- Texts without quotes: a line for each row, a comma between two cells. -/
def plainRows (text : String) : CsvRows :=
  ⟨(text.toList.splitOn '\n').map fun line => (line.splitOn ',').map String.ofList, false⟩

/-- A statement whose only payment has a remark with a comma in it. -/
def remarkText : String :=
  "微信支付账单明细\n交易时间,交易类型,交易对方,商品,收/支,金额(元),支付方式,当前状态,交易单号,商户单号,备注\n" ++
    "2026-01-05 12:00:00,转账,Mill,flour,支出,¥12.00,零钱,支付成功,W1,M1,first,second"

def remarkUpload : Upload := ⟨"statement.csv", remarkText.toUTF8.toList⟩

def remarkEnv : Env :=
  { env [] [] with
    decodeText := fun _ => some remarkText
    csvReader := plainRows }

end Sample

open Sample in
/-- The payment has one text more than the header, so that its texts are taken for the header. -/
theorem detection_misses_remark :
    Wechat.Parsable remarkEnv remarkUpload (plainRows remarkText).rows ∧
    readHeaders remarkEnv remarkUpload = .ok ["2026-01-05 12:00:00", "转账", "Mill", "flour",
      "支出", "¥12.00", "零钱", "支付成功", "W1", "M1", "first", "second"] ∧
    ¬Wechat.DetectionAgrees remarkEnv remarkUpload := by
  have parsable : Wechat.Parsable remarkEnv remarkUpload (plainRows remarkText).rows :=
    ⟨by decide, rfl, by decide +kernel⟩
  have headers := Wechat.readHeaders_of_parsable parsable
  have densest : densestRow ((plainRows remarkText).rows.map fun row => row.map strip) =
      ["2026-01-05 12:00:00", "转账", "Mill", "flour", "支出", "¥12.00", "零钱", "支付成功", "W1",
        "M1", "first", "second"] := by decide +kernel
  rw [densest] at headers
  refine ⟨parsable, headers, fun agrees => ?_⟩
  obtain ⟨found, read, detected⟩ := agrees _ parsable
  rw [headers, Except.ok.injEq] at read
  rw [← read, Wechat.detect_csv remarkEnv parsable.csv, if_neg (by decide +kernel)] at detected
  cases detected

end Finrec
