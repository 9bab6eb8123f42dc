import Finrec.Reconciliation.Services

/-!
# Normalized rows

A parser turns a file into parsed rows; a row it understood carries a
normalized invoice or a normalized transaction.  This file gives these rows,
their JSON documents, the fingerprint of a transaction and the validation of a
row against the master data.

What the source takes from libraries (Unicode normalization, case folding,
SHA-256, the readers of numbers, dates and files) is a field of the environment.
-/

namespace Finrec

open Calendar Checks

/-- A cell as the file libraries return it; other values only show their `str`. -/
inductive Cell where
  | blank
  | text (value : String)
  | date (value : Date)
  | dateTime (day : Date) (time : ℕ)
  | other (value : String)
deriving DecidableEq

structure Sheet where
  name : String
  rows : List (List Cell)

structure Workbook where
  sheets : List Sheet
  active : Sheet

/-- The rows that `csv.reader` yields, and whether `csv.Error` ended them. -/
structure CsvRows where
  rows : List (List String)
  failed : Bool

/-- The result of `datetime.fromisoformat`. -/
inductive ReadDateTime where
  | naive (day : Date) (time : ℕ)
  | aware (moment : DateTime)

/-- Settings and library functions that the import reads. -/
structure Env where
  zone : Zone
  importMaxRows : ℕ
  importMaxUploadBytes : ℕ
  companyTaxId : String
  /-- `unicodedata.normalize("NFKC", text)`. -/
  nfkc : String → String
  /-- `str.casefold`. -/
  casefold : String → String
  /-- `hashlib.sha256(content).hexdigest()`. -/
  sha256 : List UInt8 → String
  /-- `Decimal(text)`. -/
  decimalOf : String → Option Amount
  /-- `date.fromisoformat`. -/
  dateOf : String → Option Date
  /-- `datetime.fromisoformat`. -/
  dateTimeOf : String → Option ReadDateTime
  /-- `timezone.make_aware` in the local zone. -/
  makeAware : Date → ℕ → DateTime
  /-- `content.decode("utf-8-sig")`, or else `content.decode("gb18030")`. -/
  decodeText : List UInt8 → Option String
  csvReader : String → CsvRows
  loadWorkbook : List UInt8 → Option Workbook
  openWorkbook : List UInt8 → Option (List Sheet)
  /-- `json.dumps` with `DjangoJSONEncoder`. -/
  jsonText : List (String × Cell) → String
  /-- `text__icontains=term`. -/
  icontains : String → String → Bool

structure NormalizedInvoiceRow where
  direction : InvoiceDirection
  invoiceNumber : String
  sellerTaxId : String
  sellerName : String
  buyerTaxId : String
  buyerName : String
  issueDate : Date
  totalAmount : Decimal
  status : InvoiceStatus
deriving DecidableEq

structure NormalizedTransactionRow where
  channel : MoneyChannel
  direction : MoneyDirection
  occurredAt : DateTime
  amount : Decimal
  balanceAfter : Option Decimal
  accountIdentifier : String
  counterpartyName : String
  counterpartyAccount : String
  transactionId : String
  summary : String
deriving DecidableEq

inductive Normalized where
  | invoice (row : NormalizedInvoiceRow)
  | transaction (row : NormalizedTransactionRow)
deriving DecidableEq

/-- The raw cells of a row: the JSON text they encode to, or the types that do not encode. -/
inductive RawData where
  | json (text : String)
  | unserializable (valueType rawType : String)
deriving DecidableEq, Repr

structure ParsedRow where
  rowNumber : ℕ
  rawData : RawData
  normalized : Option Normalized
  issues : List RowIssue

/-- `_serialize_normalized`. -/
def serializeNormalized : Normalized → NormalizedData
  | .invoice row =>
      .invoice row.direction row.invoiceNumber row.sellerTaxId row.sellerName row.buyerTaxId
        row.buyerName (String.ofList row.issueDate.isoformat)
        (String.ofList row.totalAmount.plain) row.status
  | .transaction row =>
      .transaction row.channel row.direction (String.ofList row.occurredAt.isoformat)
        (String.ofList row.amount.plain)
        (row.balanceAfter.map fun balance => String.ofList balance.plain)
        row.accountIdentifier row.counterpartyName row.counterpartyAccount row.transactionId
        row.summary

/-- Read an optional decimal. -/
def balanceOf? : Option String → Option (Option Decimal)
  | none => some none
  | some text => (Decimal.ofPlain? text.toList).map some

/-- `_deserialize_normalized`; a document that is not one of a normalized row has no result. -/
def deserializeNormalized : NormalizedData → Option Normalized
  | .empty => none
  | .invoice direction invoiceNumber sellerTaxId sellerName buyerTaxId buyerName issueDate
      totalAmount status => do
      let issueDate ← Date.fromisoformat? issueDate.toList
      let totalAmount ← Decimal.ofPlain? totalAmount.toList
      some (.invoice ⟨direction, invoiceNumber, sellerTaxId, sellerName, buyerTaxId, buyerName,
        issueDate, totalAmount, status⟩)
  | .transaction channel direction occurredAt amount balanceAfter accountIdentifier
      counterpartyName counterpartyAccount transactionId summary => do
      let occurredAt ← DateTime.fromisoformat? occurredAt.toList
      let amount ← Decimal.ofPlain? amount.toList
      let balanceAfter ← balanceOf? balanceAfter
      some (.transaction ⟨channel, direction, occurredAt, amount, balanceAfter,
        accountIdentifier, counterpartyName, counterpartyAccount, transactionId, summary⟩)

theorem balanceOf?_map_plain (balance : Option Decimal) :
    balanceOf? (balance.map fun balance => String.ofList balance.plain) = some balance := by
  cases balance with
  | none => rfl
  | some balance => simp [balanceOf?, Decimal.ofPlain?_plain]

/-- The JSON document of a staged row gives back the row. -/
@[simp]
theorem deserializeNormalized_serializeNormalized (normalized : Normalized) :
    deserializeNormalized (serializeNormalized normalized) = some normalized := by
  cases normalized with
  | invoice row =>
      simp [serializeNormalized, deserializeNormalized, Date.fromisoformat?_isoformat,
        Decimal.ofPlain?_plain]
  | transaction row =>
      simp [serializeNormalized, deserializeNormalized, DateTime.fromisoformat?_isoformat,
        Decimal.ofPlain?_plain, balanceOf?_map_plain]

/-- `" ".join(text.split())`. -/
def collapseSpace (text : String) : String :=
  String.intercalate " "
    (((text.toList.splitOnP isPythonSpace).filter fun word => !word.isEmpty).map String.ofList)

/-- `_canonical_text`, which is also the text that `normalize_party_text` computes. -/
def canonicalText (env : Env) (text : String) : String :=
  env.casefold (collapseSpace (env.nfkc text))

def MoneyChannel.value : MoneyChannel → String
  | .bank => "bank"
  | .wechat => "wechat"

def MoneyDirection.value : MoneyDirection → String
  | .inflow => "inflow"
  | .outflow => "outflow"

/-- `quantize(Decimal("0.01"))`, which fails beyond 28 digits. -/
def quantizedCents (amount : Decimal) : Except ServiceError ℤ :=
  if 10 ^ 28 ≤ |amount.roundedCents| then .error (.value "金额必须是有效 Decimal")
  else .ok amount.roundedCents

/-- `format(amount, "f")` of a quantized amount; what was below zero keeps its sign at zero. -/
def quantizedText (amount : Decimal) (cents : ℤ) : String :=
  if amount.coefficient < 0 ∧ cents = 0 then "-0.00"
  else String.ofList (Decimal.ofCents cents).plain

/-- The fields that `transaction_fingerprint` joins. -/
def fingerprintFields (env : Env) (row : NormalizedTransactionRow) :
    Except ServiceError (List String) := do
  let cents ← quantizedCents row.amount
  let transactionId := canonicalText env row.transactionId
  if transactionId ≠ "" then
    return ["transaction-id", canonicalText env row.channel.value,
      canonicalText env row.accountIdentifier, transactionId]
  else do
    let occurredAt ← present (DateTime.utcText? row.occurredAt.instant) .overflow
    return ["fallback", canonicalText env row.channel.value,
      canonicalText env row.accountIdentifier, String.ofList occurredAt,
      canonicalText env row.direction.value, quantizedText row.amount cents,
      canonicalText env row.counterpartyName, canonicalText env row.counterpartyAccount]

/-- `transaction_fingerprint`. -/
def transactionFingerprint (env : Env) (row : NormalizedTransactionRow) :
    Except ServiceError String := do
  let fields ← fingerprintFields env row
  return env.sha256 (String.intercalate "\x1f" fields).toUTF8.toList

structure MappingResult (α : Type) where
  value : Option α
  ambiguous : Bool

/-- `_single_match`. -/
def singleMatch {α : Type} : List α → MappingResult α
  | [] => ⟨none, false⟩
  | [found] => ⟨some found, false⟩
  | _ => ⟨none, true⟩

/-- `normalize_party_text`; an empty text is refused. -/
def normalizePartyText (env : Env) (text : String) : Option String :=
  if canonicalText env text = "" then none else some (canonicalText env text)

/-- `resolve_invoice_counterparty`. -/
def resolveInvoiceCounterparty (directory : Directory) (row : NormalizedInvoiceRow) :
    MappingResult Counterparty :=
  singleMatch (directory.counterparties.filter fun counterparty =>
    match row.direction with
    | .input => decide (counterparty.taxId = row.sellerTaxId) && counterparty.active &&
        counterparty.isSupplier
    | .output => decide (counterparty.taxId = row.buyerTaxId) && counterparty.active &&
        counterparty.isCustomer)

/-- The alias step of `resolve_transaction_counterparty`. -/
def resolveAlias (env : Env) (directory : Directory) (row : NormalizedTransactionRow) :
    MappingResult Counterparty :=
  let kind := match row.channel with
    | .bank => AliasKind.bankAccount
    | .wechat => AliasKind.wechatName
  let text := if row.counterpartyAccount ≠ "" then row.counterpartyAccount
    else row.counterpartyName
  match normalizePartyText env text with
  | none => ⟨none, false⟩
  | some normalizedAlias =>
      singleMatch ((directory.aliases.filter fun entry =>
        decide (entry.kind = kind ∧ entry.normalizedValue = normalizedAlias)).filterMap
          fun entry => directory.counterparties.find? fun counterparty =>
            decide (counterparty.id = entry.counterparty) && counterparty.active)

/-- `resolve_transaction_counterparty`. -/
def resolveTransactionCounterparty (env : Env) (directory : Directory)
    (row : NormalizedTransactionRow) : MappingResult Counterparty :=
  match normalizePartyText env row.counterpartyName with
  | none => ⟨none, false⟩
  | some normalizedName =>
      let byName := singleMatch (directory.counterparties.filter fun counterparty =>
        decide (counterparty.normalizedName = normalizedName) && counterparty.active)
      if byName.value.isSome || byName.ambiguous then byName else resolveAlias env directory row

/-- `resolve_funding_account`. -/
def resolveFundingAccount (directory : Directory) (row : NormalizedTransactionRow) :
    MappingResult FundingAccount :=
  singleMatch (directory.accounts.filter fun account =>
    decide (account.channel = row.channel ∧ account.identifier = row.accountIdentifier) &&
      account.active)

/-- `_has_text`. -/
def hasText (text : String) : Bool :=
  decide (strip text ≠ "")

/-- `_positive_decimal`. -/
def positiveDecimal (number : Decimal) : Bool :=
  decide (0 < number.coefficient)

/-- An issue, if a condition fails. -/
def issueUnless (condition : Bool) (code message field : String) : List RowIssue :=
  if condition then [] else [⟨code, message, field⟩]

/-- `_validate_invoice`. -/
def validateInvoice (directory : Directory) (sourceKind : SourceKind)
    (row : NormalizedInvoiceRow) : List RowIssue :=
  let expectedDirection := if sourceKind = .inputInvoice then InvoiceDirection.input else .output
  let issues :=
    issueUnless (decide (row.direction = expectedDirection)) "direction"
      "发票方向与来源类型不匹配" "direction" ++
    issueUnless (hasText row.invoiceNumber) "required" "发票号码不能为空" "invoice_number" ++
    issueUnless (hasText row.sellerTaxId) "required" "销售方税号不能为空" "seller_tax_id" ++
    issueUnless (hasText row.buyerTaxId) "required" "购买方税号不能为空" "buyer_tax_id" ++
    issueUnless (positiveDecimal row.totalAmount) "amount" "发票金额必须大于零" "total_amount"
  let counterparty := resolveInvoiceCounterparty directory row
  issues ++
    if issues.isEmpty && counterparty.value.isNone then
      if counterparty.ambiguous then [⟨"counterparty_ambiguous", "往来单位映射不唯一", ""⟩]
      else [⟨"counterparty", "无法识别往来单位", ""⟩]
    else []

/-- The channel of a source kind of money rows. -/
def SourceKind.channel? : SourceKind → Option MoneyChannel
  | .bank => some .bank
  | .wechat => some .wechat
  | _ => none

/-- `_validate_transaction`. -/
def validateTransaction (env : Env) (directory : Directory) (sourceKind : SourceKind)
    (row : NormalizedTransactionRow) : List RowIssue :=
  let account := resolveFundingAccount directory row
  let counterparty := resolveTransactionCounterparty env directory row
  issueUnless (decide (sourceKind.channel? = some row.channel)) "channel"
    "资金渠道与来源类型不匹配" "channel" ++
  issueUnless (positiveDecimal row.amount) "amount" "资金金额必须大于零" "amount" ++
  issueUnless (hasText row.accountIdentifier && account.value.isSome)
    (if account.ambiguous then "account_ambiguous" else "account")
    (if account.ambiguous then "资金账户映射不唯一" else "无法识别资金账户") "account_identifier" ++
  issueUnless counterparty.value.isSome
    (if counterparty.ambiguous then "counterparty_ambiguous" else "counterparty")
    (if counterparty.ambiguous then "往来单位映射不唯一" else "无法识别往来单位")
    "counterparty_name"

/-- `validate_parsed_row`. -/
def validateParsedRow (env : Env) (directory : Directory) (sourceKind : SourceKind)
    (row : ParsedRow) : List RowIssue :=
  match row.normalized with
  | none => if row.issues.isEmpty then [⟨"normalized", "无法标准化该行", ""⟩] else row.issues
  | some (.invoice normalized) =>
      if sourceKind = .inputInvoice ∨ sourceKind = .outputInvoice then
        row.issues ++ validateInvoice directory sourceKind normalized
      else row.issues ++ [⟨"source_kind", "来源类型与标准行类型不匹配", ""⟩]
  | some (.transaction normalized) =>
      if sourceKind = .bank ∨ sourceKind = .wechat then
        row.issues ++ validateTransaction env directory sourceKind normalized
      else row.issues ++ [⟨"source_kind", "来源类型与标准行类型不匹配", ""⟩]

end Finrec
