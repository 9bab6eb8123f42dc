import Finrec.Imports.Types

/-!
# The three importers and their registry

An importer reads the bytes of a file into parsed rows.  The source parsers
are generators, so an importer here returns the rows it yields together with
the error that ended them, if one did.  Row numbers grow along a file and
every amount has at most two places; these are the two facts that the import
relies on.
-/

namespace Finrec

open Calendar Checks

structure Importer where
  sourceKinds : List SourceKind
  supports : String → List String → Bool
  parse : List UInt8 → List ParsedRow × Option ServiceError
  /-- A result outside the choices is `none`. -/
  inferSourceKind : Option (List UInt8 → Except ServiceError (Option SourceKind))

/-- The cells of a row under their headers; of two equal headers the last counts. -/
abbrev RawRow := List (String × Cell)

namespace Cell

/-- `str(value)`, where there is a value. -/
def str? : Cell → Option String
  | blank => none
  | text value => some value
  | date value => some (String.ofList value.isoformat)
  | dateTime day time =>
      some (String.ofList (day.isoformat ++ ' ' :: DateTime.timeText time))
  | other value => some value

/-- `_text`. -/
def stripped (cell : Cell) : String :=
  match cell.str? with
  | some value => strip value
  | none => ""

end Cell

namespace RawRow

/-- `raw_data.get(key)`. -/
def get (row : RawRow) (key : String) : Cell :=
  (row.reverse.lookup key).getD .blank

/-- `raw_data[key]`. -/
def getKey (row : RawRow) (key : String) : Except ServiceError Cell :=
  present (row.reverse.lookup key) (.library "KeyError")

end RawRow

/-- `9999999999999999.99` in hundredths. -/
def maxMoneyCents : ℤ :=
  999999999999999999

/-- A finite decimal within the columns of the ledger. -/
def FitsMoney (number : Decimal) : Prop :=
  number.places ≤ 2 ∧ |number.coefficient| * 100 ≤ maxMoneyCents * 10 ^ number.places

instance (number : Decimal) : Decidable (FitsMoney number) :=
  inferInstanceAs (Decidable (_ ∧ _))

/-- `text.replace(",", "")`. -/
def withoutCommas (text : String) : String :=
  String.ofList (text.toList.filter (· ≠ ','))

/-- Number the items from a start. -/
def numbered {α : Type} : ℕ → List α → List (ℕ × α)
  | _, [] => []
  | start, item :: rest => (start, item) :: numbered (start + 1) rest

/-- Parse rows one after another until one fails. -/
def parseUntil (parseRow : ℕ → RawRow → Except ServiceError ParsedRow) :
    List (ℕ × RawRow) → List ParsedRow × Option ServiceError
  | [] => ([], none)
  | (rowNumber, row) :: rest =>
      match parseRow rowNumber row with
      | .error error => ([], some error)
      | .ok parsed =>
          let tail := parseUntil parseRow rest
          (parsed :: tail.1, tail.2)

/-- A parsed row that only carries an issue. -/
def invalidRow (env : Env) (rowNumber : ℕ) (rawData : RawRow) (issue : RowIssue) : ParsedRow :=
  ⟨rowNumber, .json (env.jsonText rawData), none, [issue]⟩

/-- `try` with a handler for `RowValidationError`, which gets the message. -/
def exceptInvalid {α β : Type} (attempt : Except ServiceError α)
    (handler : String → Except ServiceError β) (next : α → Except ServiceError β) :
    Except ServiceError β :=
  match attempt with
  | .ok value => next value
  | .error (.rowValidation message) => handler message
  | .error error => .error error

theorem exceptInvalid_eq_ok {α β : Type} {attempt : Except ServiceError α}
    {handler : String → Except ServiceError β} {next : α → Except ServiceError β} {result : β} :
    exceptInvalid attempt handler next = .ok result ↔
      (∃ value, attempt = .ok value ∧ next value = .ok result) ∨
        ∃ message, attempt = .error (.rowValidation message) ∧ handler message = .ok result := by
  cases attempt with
  | ok value => simp [exceptInvalid]
  | error error => cases error <;> simp [exceptInvalid]

namespace CsvUtils

/-- The text that `parse_decimal` reads. -/
def amountText (cell : Cell) : String :=
  match cell.str? with
  | some value => strip (withoutCommas value)
  | none => ""

/-- `parse_decimal` with its default. -/
def parseDecimal (env : Env) (blankAsZero : Bool) (cell : Cell) : Except ServiceError Decimal :=
  if amountText cell = "" ∧ blankAsZero then .ok ⟨0, 0⟩
  else
    match env.decimalOf (amountText cell) with
    | some (.decimal number) =>
        -- `abs(amount)` is outside the `try` of the function
        if number.places ≤ 2 ∧ number.Overflows then .error (.library "decimal.Overflow")
        else if FitsMoney number then .ok number
        else .error (.rowValidation "金额不合法")
    | _ => .error (.rowValidation "金额不合法")

/-- `parse_datetime`. -/
def parseDatetime (env : Env) (cell : Cell) : Except ServiceError DateTime :=
  match cell with
  | .dateTime day time => .ok (env.makeAware day time)
  | cell =>
      match env.dateTimeOf (strip (cell.str?.getD "None")) with
      | some (.naive day time) => .ok (env.makeAware day time)
      | some (.aware moment) => .ok moment
      | none => .error (.rowValidation "交易时间不合法")

/-- `read_csv_rows`. -/
def readCsvRows (env : Env) (content : List UInt8) : Except ServiceError (List (List String)) := do
  let text ← present (env.decodeText content) (.rowValidation "CSV 文件编码不受支持")
  require ((env.csvReader text).failed = false) (.library "csv.Error")
  return (env.csvReader text).rows

end CsvUtils

namespace TaxInvoice

/-- `COLUMNS.values()`. -/
def columns : List String :=
  ["发票号码", "销售方纳税人识别号", "销售方名称", "购买方纳税人识别号", "购买方名称", "开票日期",
    "价税合计", "发票状态"]

def sheetName : String :=
  "发票基础信息"

def supports (filename : String) (headers : List String) : Bool :=
  decide (".xlsx".toList <:+ (filename.toList.map Char.toLower)) &&
    columns.all fun column => decide (column ∈ headers)

def directionFor (sellerTaxId buyerTaxId companyTaxId : String) :
    Except ServiceError InvoiceDirection :=
  if sellerTaxId = companyTaxId then .ok .output
  else if buyerTaxId = companyTaxId then .ok .input
  else .error (.rowValidation "发票购销双方均不是当前公司")

/-- `_parse_amount`; the caller only asks whether it raised. -/
def parseAmount (env : Env) (cell : Cell) : Option Decimal :=
  match env.decimalOf (strip (withoutCommas (cell.str?.getD "None"))) with
  | some (.decimal number) =>
      if 0 < number.coefficient ∧ FitsMoney number then some number else none
  | _ => none

/-- `_parse_date`; the caller only asks whether it raised. -/
def parseDate (env : Env) (cell : Cell) : Option Date :=
  match cell with
  | .dateTime day _ => some day
  | .date day => some day
  | cell => env.dateOf (String.ofList (cell.stripped.toList.map fun character =>
      if character = '/' then '-' else character))

def normalizeStatus (value : String) : Option InvoiceStatus :=
  if value = "正常" then some .normal
  else if value = "作废" then some .void
  else if '红' ∈ value.toList then some .red
  else none

/-- `_parse_row`, with the checks of `_validate_values` in their order. -/
def parseRow (env : Env) (companyTaxId : String) (rowNumber : ℕ) (rawData : RawRow) :
    Except ServiceError ParsedRow := do
  let value (column : String) := (rawData.get column).stripped
  let invalid (code message field : String) : Except ServiceError ParsedRow :=
    .ok (invalidRow env rowNumber rawData ⟨code, message, field⟩)
  if value "发票号码" = "" then invalid "required" "发票号码不能为空" "invoice_number"
  else do
    let amountCell ← rawData.getKey "价税合计"
    match parseAmount env amountCell with
    | none => invalid "amount" "发票金额不合法" "total_amount"
    | some totalAmount => do
        let dateCell ← rawData.getKey "开票日期"
        match parseDate env dateCell with
        | none => invalid "date" "开票日期不合法" "issue_date"
        | some issueDate =>
            match directionFor (value "销售方纳税人识别号") (value "购买方纳税人识别号") companyTaxId with
            | .error _ => invalid "direction" "发票购销双方均不是当前公司" "direction"
            | .ok direction =>
                match normalizeStatus (value "发票状态") with
                | none => invalid "status" "发票状态不合法" "status"
                | some status =>
                    .ok ⟨rowNumber, .json (env.jsonText rawData),
                      some (.invoice ⟨direction, value "发票号码", value "销售方纳税人识别号",
                        value "销售方名称", value "购买方纳税人识别号", value "购买方名称", issueDate,
                        totalAmount, status⟩), []⟩

/-- `iter_sheet_rows`. -/
def iterSheetRows (env : Env) (content : List UInt8) :
    Except ServiceError (List (ℕ × RawRow)) := do
  let workbook ← present (env.loadWorkbook content) (.library "InvalidFileException")
  let sheet ← present (workbook.sheets.find? fun sheet => decide (sheet.name = sheetName))
    (.rowValidation ("Excel 文件缺少 " ++ sheetName ++ " 工作表"))
  let headers := (sheet.rows.head?.getD []).map Cell.stripped
  return numbered 2 (sheet.rows.tail.map fun values => headers.zip values)

def parse (env : Env) (content : List UInt8) : List ParsedRow × Option ServiceError :=
  match iterSheetRows env content with
  | .error error => ([], some error)
  | .ok rows => parseUntil (parseRow env (strip env.companyTaxId)) rows

/-- `infer_source_kind`. -/
def inferSourceKind (env : Env) (content : List UInt8) :
    Except ServiceError (Option SourceKind) := do
  let rows ← iterSheetRows env content
  let directions := rows.filterMap fun row =>
    (directionFor (row.2.get "销售方纳税人识别号").stripped
      (row.2.get "购买方纳税人识别号").stripped (strip env.companyTaxId)).toOption
  if directions = [] then .error (.rowValidation "无法根据购销方税号判断进项或销项")
  else if ∀ direction ∈ directions, direction = .input then return some .inputInvoice
  else if ∀ direction ∈ directions, direction = .output then return some .outputInvoice
  else .error (.rowValidation "同一文件同时包含进项和销项，请拆分后导入")

def importer (env : Env) : Importer where
  sourceKinds := [.inputInvoice, .outputInvoice]
  supports := supports
  parse := parse env
  inferSourceKind := some (inferSourceKind env)

end TaxInvoice

namespace AgriculturalBank

def bankHeaders : List String :=
  ["交易时间", "收入金额", "支出金额", "账户余额", "对方账号", "对方户名", "对方开户行", "摘要"]

def supports (filename : String) (headers : List String) : Bool :=
  decide (".xls".toList <:+ (filename.toList.map Char.toLower)) && decide (headers = bankHeaders)

/-- The value after `label` and a colon, of a text that was stripped. -/
def labelled (label value : String) : Option String :=
  if value.toList.take label.length = label.toList then
    match (value.toList.drop label.length).dropWhile isPythonSpace with
    | [] => none
    | colon :: rest =>
        let matched := rest.dropWhile isPythonSpace
        if (colon = ':' ∨ colon = '：') ∧ matched ≠ [] ∧ '\n' ∉ matched then
          some (strip (String.ofList matched))
        else none
  else none

/-- `_metadata_value`. -/
def metadataValue (values : List String) (label : String) : Option String :=
  values.findSome? (labelled label)

/-- `_statement_account_identifier`. -/
def statementAccountIdentifier (sheet : Sheet) : Option String :=
  match sheet.rows with
  | title :: metadata :: headers :: _ =>
      let title := title.map Cell.stripped
      let metadata := metadata.map Cell.stripped
      if title.head? = some "账户明细" ∧ (∀ text ∈ title.tail, text = "") ∧
          (∀ label ∈ ["户名", "币种", "起止日期"], (metadataValue metadata label).isSome) ∧
          headers.map Cell.stripped = bankHeaders then metadataValue metadata "账号"
      else none
  | _ => none

/-- `find_agricultural_bank_sheet`. -/
def findAgriculturalBankSheet (sheets : List Sheet) : Except ServiceError (Sheet × String) :=
  match sheets.filterMap fun sheet => (statementAccountIdentifier sheet).map (sheet, ·) with
  | [] => .error (.rowValidation "无法识别农业银行流水工作表")
  | [found] => .ok found
  | _ => .error (.rowValidation "农业银行流水工作表不唯一")

/-- `parse_bank_amount`. -/
def parseBankAmount (env : Env) (income expense : Cell) :
    Except ServiceError (MoneyDirection × Decimal) := do
  let incomeAmount ← CsvUtils.parseDecimal env true income
  let expenseAmount ← CsvUtils.parseDecimal env true expense
  if 0 < incomeAmount.coefficient ↔ 0 < expenseAmount.coefficient then
    .error (.rowValidation "收入金额和支出金额必须且只能有一个大于零")
  else if 0 < incomeAmount.coefficient then return (.inflow, incomeAmount)
  else return (.outflow, expenseAmount)

/-- `_parse_row`. -/
def parseRow (env : Env) (accountIdentifier : String) (rowNumber : ℕ) (rawData : RawRow) :
    Except ServiceError ParsedRow := do
  let invalid (code field message : String) : Except ServiceError ParsedRow :=
    .ok (invalidRow env rowNumber rawData ⟨code, message, field⟩)
  let income ← rawData.getKey "收入金额"
  let expense ← rawData.getKey "支出金额"
  exceptInvalid (parseBankAmount env income expense) (invalid "amount" "amount")
    fun (direction, amount) => do
      let time ← rawData.getKey "交易时间"
      exceptInvalid (CsvUtils.parseDatetime env time) (invalid "datetime" "occurred_at")
        fun occurredAt => do
          let balanceCell ← rawData.getKey "账户余额"
          exceptInvalid (CsvUtils.parseDecimal env false balanceCell)
            (invalid "balance" "balance_after") fun balance => do
              let name ← rawData.getKey "对方户名"
              let account ← rawData.getKey "对方账号"
              let summary ← rawData.getKey "摘要"
              .ok ⟨rowNumber, .json (env.jsonText rawData),
                some (.transaction ⟨.bank, direction, occurredAt, amount, some balance,
                  accountIdentifier, name.stripped, account.stripped, "", summary.stripped⟩), []⟩

def parse (env : Env) (content : List UInt8) : List ParsedRow × Option ServiceError :=
  match present (env.openWorkbook content) (.library "XLRDError") >>= findAgriculturalBankSheet with
  | .error error => ([], some error)
  | .ok (sheet, accountIdentifier) =>
      parseUntil (parseRow env accountIdentifier)
        (((numbered 4 (sheet.rows.drop 3)).filter fun row =>
          row.2.any fun cell => decide (cell.stripped ≠ "")).map
            fun row => (row.1, bankHeaders.zip row.2))

def importer (env : Env) : Importer where
  sourceKinds := [.bank]
  supports := supports
  parse := parse env
  inferSourceKind := none

end AgriculturalBank

namespace Wechat

def wechatHeaders : List String :=
  ["交易时间", "交易类型", "交易对方", "商品", "收/支", "金额(元)", "支付方式", "当前状态", "交易单号",
    "商户单号", "备注"]

/-- `WECHAT_DIRECTION`. -/
def wechatDirection (text : String) : Option MoneyDirection :=
  if text = "收入" then some .inflow else if text = "支出" then some .outflow else none

def successStates : List String :=
  ["支付成功", "已收钱", "已转账", "对方已收钱"]

def supports (filename : String) (headers : List String) : Bool :=
  decide (".csv".toList <:+ (filename.toList.map Char.toLower)) &&
    wechatHeaders.all fun header => decide (header ∈ headers)

/-- `_find_header_row`. -/
def findHeaderRow (rows : List (List String)) : Option ℕ :=
  rows.findIdx? fun values => wechatHeaders.all fun header => decide (header ∈ values.map strip)

/-- The amount and the time of a row, which fail with one kind of issue. -/
def parseAmounts (env : Env) (rawData : RawRow) : Except ServiceError (DateTime × Decimal) := do
  let occurredAt ← CsvUtils.parseDatetime env (rawData.get "交易时间")
  let amount ← CsvUtils.parseDecimal env false (.text (String.ofList
    ((rawData.get "金额(元)").stripped.toList.filter (· ≠ '¥'))))
  require (0 < amount.coefficient) (.rowValidation "微信交易金额必须大于零")
  return (occurredAt, amount)

/-- `_parse_row`. -/
def parseRow (env : Env) (rowNumber : ℕ) (rawData : RawRow) : Except ServiceError ParsedRow :=
  let state := (rawData.get "当前状态").stripped
  match wechatDirection (rawData.get "收/支").stripped with
  | none =>
      .ok (invalidRow env rowNumber rawData ⟨"direction", "微信记录不是收入或支出", "direction"⟩)
  | some direction =>
      if state ∉ successStates then
        .ok (invalidRow env rowNumber rawData ⟨"status", "微信交易尚未成功：" ++ state, "status"⟩)
      else
        exceptInvalid (parseAmounts env rawData)
          (fun message => .ok (invalidRow env rowNumber rawData ⟨"amount", message, "amount"⟩))
          fun (occurredAt, amount) =>
            .ok ⟨rowNumber, .json (env.jsonText rawData),
              some (.transaction ⟨.wechat, direction, occurredAt, amount, none,
                (rawData.get "支付方式").stripped, (rawData.get "交易对方").stripped, "",
                (rawData.get "交易单号").stripped, (rawData.get "备注").stripped⟩), []⟩

def parse (env : Env) (content : List UInt8) : List ParsedRow × Option ServiceError :=
  match CsvUtils.readCsvRows env content with
  | .error error => ([], some error)
  | .ok rows =>
      match findHeaderRow rows with
      | none => ([], some (.rowValidation "微信流水缺少标准表头"))
      | some headerIndex =>
          let headers := ((rows[headerIndex]?).getD []).map strip
          parseUntil (parseRow env)
            (((numbered (headerIndex + 2) (rows.drop (headerIndex + 1))).filter fun row =>
              row.2.any fun cell => decide (strip cell ≠ "")).map
                fun row => (row.1, headers.zip (row.2.map Cell.text)))

def importer (env : Env) : Importer where
  sourceKinds := [.wechat]
  supports := supports
  parse := parse env
  inferSourceKind := none

end Wechat

/-- The parsers of `ImporterRegistry()`. -/
def defaultParsers (env : Env) : List Importer :=
  [TaxInvoice.importer env, AgriculturalBank.importer env, Wechat.importer env]

/-- `ImporterRegistry.detect`. -/
def detect (parsers : List Importer) (filename : String) (headers : List String) :
    Except ServiceError Importer :=
  match parsers.filter fun parser => parser.supports filename headers with
  | [found] => .ok found
  | _ => .error (.unsupportedTemplate "无法识别文件模板")

end Finrec
