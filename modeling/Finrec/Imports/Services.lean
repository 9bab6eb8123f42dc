import Finrec.Imports.Parsers
import Mathlib.Data.List.Sort

/-!
# Staging and confirming an import

`stageUpload` reads a file into staged rows and counts them; `confirmBatch`
posts the rows of a staged batch.  The fate of a row is decided twice: against
the earlier rows of its file and the database when it is staged, and against
the database alone when it is posted.

Keys and times that a call draws come with the call, one per row number where
the call draws one per row.
-/

namespace Finrec

open Calendar Checks

structure Upload where
  /-- `Path(file.name).name`. -/
  name : String
  content : List UInt8

inductive DuplicateKey where
  | invoice (invoiceNumber sellerTaxId : String)
  | transaction (fingerprint : String)
deriving DecidableEq, Repr

inductive Disposition where
  | new
  | statusUpdate
  | duplicate
  | conflict
deriving DecidableEq, Repr

structure ImportResult where
  batchId : Uuid
  postedRows : ℕ
  duplicateRows : ℤ
  errorRows : ℤ
deriving DecidableEq, Repr

/-- `ImportResult.as_dict`. -/
def ImportResult.asDict (result : ImportResult) : AuditChanges :=
  .importResult result.batchId result.postedRows result.duplicateRows result.errorRows

structure Counters where
  total : ℤ
  valid : ℤ
  duplicate : ℤ
  error : ℤ
deriving DecidableEq, Repr

/-- What `_prepare_rows` passes from row to row; the last entry of a key comes first. -/
structure PrepareState where
  seenRows : List (DuplicateKey × Normalized)
  counters : Counters
  periodDates : List ℤ

/-- The columns of a staged row that `_prepare_staged_row` computes. -/
structure PreparedRow where
  rowNumber : ℕ
  rawData : String
  normalizedData : NormalizedData
  issues : List RowIssue
  isDuplicate : Bool
deriving DecidableEq, Repr

/-- The keys and the times that the writes for a row draw. -/
structure RowSupply where
  key : ℕ → Uuid
  auditedAt : ℕ → ℤ
  postedAt : ℕ → ℤ

/-! ## Reading an upload -/

/-- `Path(name).suffix.lower()`. -/
def suffix (name : String) : String :=
  let extension := (name.toList.reverse.takeWhile (· ≠ '.')).reverse
  if extension.length + 1 < name.length ∧ extension ≠ [] then
    String.ofList ('.' :: extension.map Char.toLower)
  else ""

def textExtensions : List String :=
  [".csv", ".txt"]

/-- `ALLOWED_UPLOAD_SIGNATURES`. -/
def uploadSignature (extension : String) : Option (List UInt8) :=
  if extension = ".pdf" then some [0x25, 0x50, 0x44, 0x46, 0x2D]
  else if extension = ".xlsx" then some [0x50, 0x4B, 0x03, 0x04]
  else if extension = ".xls" then some [0xD0, 0xCF, 0x11, 0xE0, 0xA1, 0xB1, 0x1A, 0xE1]
  else none

/-- `_validate_text_upload`. -/
def validateTextUpload (env : Env) (content : List UInt8) : Except ServiceError Unit := do
  let mismatch := ServiceError.validation "文件扩展名与实际内容不一致"
  requireAll (fun byte => 32 ≤ byte ∨ byte = 9 ∨ byte = 10 ∨ byte = 13) (fun _ => mismatch) content
  let text ← present (env.decodeText content) mismatch
  require (¬((env.csvReader text).rows = [] ∧ (env.csvReader text).failed = true)) mismatch

def validateUploadSignature (env : Env) (upload : Upload) : Except ServiceError Unit := do
  require (upload.content.length ≤ env.importMaxUploadBytes) (.validation "文件大小超过系统允许的上限")
  if suffix upload.name ∈ textExtensions then validateTextUpload env upload.content
  else do
    let mismatch := ServiceError.validation "文件扩展名与实际内容不一致"
    let signature ← present (uploadSignature (suffix upload.name)) mismatch
    require (signature <+: upload.content) mismatch

/-- `_densest_row`: the first of the rows with the most texts that are not empty. -/
def densestRow (rows : List (List String)) : List String :=
  let density (row : List String) := (row.filter (· ≠ "")).length
  rows.foldl (fun best row => if density best < density row then row else best)
    (rows.head?.getD [])

/-- `_read_headers`. -/
def readHeaders (env : Env) (upload : Upload) : Except ServiceError (List String) :=
  if suffix upload.name ∈ textExtensions then do
    let text ← present (env.decodeText upload.content) (.library "UnicodeDecodeError")
    require ((env.csvReader text).failed = false) (.library "csv.Error")
    return densestRow ((env.csvReader text).rows.map fun row => row.map strip)
  else if suffix upload.name = ".xlsx" then do
    let workbook ← present (env.loadWorkbook upload.content) (.library "InvalidFileException")
    return densestRow (workbook.active.rows.map fun row => row.map Cell.stripped)
  else if suffix upload.name = ".xls" then do
    let sheets ← present (env.openWorkbook upload.content) (.library "XLRDError")
    let (sheet, _) ← AgriculturalBank.findAgriculturalBankSheet sheets
    return ((sheet.rows[2]?).getD []).map Cell.stripped
  else .error (.rowValidation "不支持的文件扩展名")

/-- `_validate_source_kind`; a value outside the choices is `none`. -/
def validateSourceKind (sourceKind : Option SourceKind) : Except ServiceError SourceKind :=
  present sourceKind (.value "来源类型不合法")

/-- `_detect_source_kind`. -/
def detectSourceKind (parser : Importer) (content : List UInt8) :
    Except ServiceError SourceKind :=
  match parser.sourceKinds, parser.inferSourceKind with
  | [sourceKind], _ => .ok sourceKind
  | _, none => .error (.rowValidation "无法自动识别文件类型")
  | sourceKinds, some infer => do
      let inferred ← infer content
      let sourceKind ← validateSourceKind inferred
      require (sourceKind ∈ sourceKinds) (.rowValidation "解析器无法识别该来源类型")
      return sourceKind

/-- The source kind of an upload, given or detected. -/
def uploadSourceKind (parser : Importer) (content : List UInt8)
    (requested : Option (Option SourceKind)) : Except ServiceError SourceKind :=
  match requested with
  | none => detectSourceKind parser content
  | some sourceKind => do
      let sourceKind ← validateSourceKind sourceKind
      require (sourceKind ∈ parser.sourceKinds) (.rowValidation "解析器不支持该来源类型")
      return sourceKind

/-! ## The disposition of a row -/

/-- The comparison of statuses that ends `_invoice_disposition` and `_invoice_rows_disposition`. -/
def statusDisposition (existing incoming : InvoiceStatus) : Disposition :=
  if existing = incoming then .duplicate
  else if existing = .normal ∧ (incoming = .red ∨ incoming = .void) then .statusUpdate
  else .conflict

/-- Equality of `_normalized_invoice_business_fields`. -/
def SameBusinessFields (left right : NormalizedInvoiceRow) : Prop :=
  left.direction = right.direction ∧ left.invoiceNumber = right.invoiceNumber ∧
    left.sellerTaxId = right.sellerTaxId ∧ left.sellerName = right.sellerName ∧
    left.buyerTaxId = right.buyerTaxId ∧ left.buyerName = right.buyerName ∧
    left.issueDate = right.issueDate ∧ left.totalAmount.Same right.totalAmount

instance (left right : NormalizedInvoiceRow) : Decidable (SameBusinessFields left right) :=
  inferInstanceAs (Decidable (_ ∧ _))

/-- `_invoice_rows_disposition`. -/
def invoiceRowsDisposition (existing normalized : NormalizedInvoiceRow) : Disposition :=
  if SameBusinessFields existing normalized then
    statusDisposition existing.status normalized.status
  else .conflict

/-- The names of a source row agree, unless the document is not one of an invoice. -/
def NamesMatch (sourceData : Option NormalizedData) (normalized : NormalizedInvoiceRow) : Prop :=
  match sourceData with
  | some (.invoice _ _ _ sellerName _ buyerName _ _ _) =>
      sellerName = normalized.sellerName ∧ buyerName = normalized.buyerName
  | _ => True

instance (sourceData : Option NormalizedData) (normalized : NormalizedInvoiceRow) :
    Decidable (NamesMatch sourceData normalized) :=
  match sourceData with
  | some (.invoice _ _ _ _ _ _ _ _ _) => inferInstanceAs (Decidable (_ ∧ _))
  | some .empty => inferInstanceAs (Decidable True)
  | some (.transaction _ _ _ _ _ _ _ _ _ _) => inferInstanceAs (Decidable True)
  | none => inferInstanceAs (Decidable True)

namespace Ledger

/-- The document of the staged row that an invoice came from. -/
def sourceData (ledger : Ledger) (invoice : Invoice) : Option NormalizedData :=
  (ledger.stagedRows.find? fun row =>
    decide (row.batch = invoice.importBatch ∧ row.rowNumber = invoice.sourceRow)).map
      (·.normalizedData)

/-- `_invoice_business_fields_match`. -/
def BusinessFieldsMatch (ledger : Ledger) (existing : Invoice)
    (normalized : NormalizedInvoiceRow) : Prop :=
  (existing.direction = normalized.direction ∧
    existing.invoiceNumber = normalized.invoiceNumber ∧
    existing.sellerTaxId = normalized.sellerTaxId ∧ existing.buyerTaxId = normalized.buyerTaxId ∧
    existing.issueDate = normalized.issueDate ∧
    normalized.totalAmount.IsCents existing.totalAmount) ∧
  NamesMatch (ledger.sourceData existing) normalized

instance (ledger : Ledger) (existing : Invoice) (normalized : NormalizedInvoiceRow) :
    Decidable (ledger.BusinessFieldsMatch existing normalized) :=
  inferInstanceAs (Decidable (_ ∧ _))

/-- `_invoice_disposition`. -/
def invoiceDisposition (ledger : Ledger) (existing : Invoice)
    (normalized : NormalizedInvoiceRow) : Disposition :=
  if ledger.BusinessFieldsMatch existing normalized then
    statusDisposition existing.status normalized.status
  else .conflict

/-- The invoice with a number and a seller. -/
def invoiceOf? (ledger : Ledger) (invoiceNumber sellerTaxId : String) : Option Invoice :=
  ledger.invoices.find? fun invoice =>
    decide (invoice.invoiceNumber = invoiceNumber ∧ invoice.sellerTaxId = sellerTaxId)

/-- A transaction with the fingerprint exists. -/
def hasFingerprint (ledger : Ledger) (fingerprint : String) : Bool :=
  ledger.transactions.any fun money => decide (money.fingerprint = fingerprint)

/-- `_formal_disposition_for`. -/
def formalDispositionFor (env : Env) (ledger : Ledger) :
    Normalized → Except ServiceError (Disposition × Option Invoice)
  | .invoice normalized =>
      match ledger.invoiceOf? normalized.invoiceNumber normalized.sellerTaxId with
      | none => .ok (.new, none)
      | some existing => .ok (ledger.invoiceDisposition existing normalized, some existing)
  | .transaction normalized => do
      let fingerprint ← transactionFingerprint env normalized
      return (if ledger.hasFingerprint fingerprint then .duplicate else .new, none)

end Ledger

/-- `_duplicate_key`. -/
def duplicateKey (env : Env) : Normalized → Except ServiceError DuplicateKey
  | .invoice normalized => .ok (.invoice normalized.invoiceNumber normalized.sellerTaxId)
  | .transaction normalized => (transactionFingerprint env normalized).map .transaction

/-- `_invoice_conflict_issue`. -/
def invoiceConflictIssue (currentStatus : Option InvoiceStatus) (incomingStatus : InvoiceStatus) :
    RowIssue :=
  if (currentStatus = some .red ∨ currentStatus = some .void) ∧ incomingStatus = .normal then
    ⟨"invoice_conflict", "红冲或作废发票不允许通过重复导入恢复为正常状态", ""⟩
  else ⟨"invoice_conflict", "相同发票号码和销售方税号的业务字段冲突", ""⟩

/-- The issue of a conflicting row; only invoices conflict. -/
def conflictIssue (currentStatus : Option InvoiceStatus) : Normalized → RowIssue
  | .invoice normalized => invoiceConflictIssue currentStatus normalized.status
  | .transaction _ => invoiceConflictIssue currentStatus .normal

/-! ## Staging -/

/-- The disposition of a row against the earlier rows of its file and the ledger. -/
def stagedDispositionFor (env : Env) (ledger : Ledger) (previous : Option Normalized)
    (normalized : Normalized) : Except ServiceError (Disposition × Option InvoiceStatus) :=
  match previous, normalized with
  | none, normalized =>
      (ledger.formalDispositionFor env normalized).map fun found =>
        (found.1, found.2.map (·.status))
  | some (.invoice previous), .invoice row =>
      .ok (invoiceRowsDisposition previous row, some previous.status)
  | some _, _ => .ok (.duplicate, none)

/-- The date that a row adds to the period of its batch. -/
def Normalized.periodDate : Normalized → ℤ
  | .invoice row => row.issueDate.toDay
  | .transaction row => row.occurredAt.date.toDay

/-- `_json_safe_raw_data`. -/
def jsonSafeRawData : RawData → String × List RowIssue
  | .json text => (text, [])
  | .unserializable valueType rawType =>
      ("_unserializable_type: " ++ valueType ++ ", _unserializable_repr: <" ++ rawType ++ ">",
        [⟨"raw_data", "原始数据无法序列化", "raw_data"⟩])

/-- The issues of a row before its disposition is known. -/
def rowIssues (env : Env) (directory : Directory) (sourceKind : SourceKind) (row : ParsedRow) :
    List RowIssue :=
  (jsonSafeRawData row.rawData).2 ++ validateParsedRow env directory sourceKind row

namespace PrepareState

def start : PrepareState :=
  ⟨[], ⟨0, 0, 0, 0⟩, []⟩

def countError (state : PrepareState) : PrepareState :=
  { state with
    counters := { state.counters with
      total := state.counters.total + 1
      error := state.counters.error + 1 } }

def countDuplicate (state : PrepareState) : PrepareState :=
  { state with
    counters := { state.counters with
      total := state.counters.total + 1
      duplicate := state.counters.duplicate + 1 } }

def countValid (state : PrepareState) : PrepareState :=
  { state with
    counters := { state.counters with
      total := state.counters.total + 1
      valid := state.counters.valid + 1 } }

def remember (state : PrepareState) (key : DuplicateKey) (normalized : Normalized) : PrepareState :=
  { state with seenRows := (key, normalized) :: state.seenRows }

def addDate (state : PrepareState) (day : ℤ) : PrepareState :=
  { state with periodDates := state.periodDates ++ [day] }

end PrepareState

/-- `_prepare_staged_row` for a row that passed its validation. -/
def prepareValidRow (env : Env) (ledger : Ledger) (row : ParsedRow) (normalized : Normalized)
    (state : PrepareState) : Except ServiceError (PreparedRow × PrepareState) := do
  let key ← duplicateKey env normalized
  let (disposition, currentStatus) ←
    stagedDispositionFor env ledger (state.seenRows.lookup key) normalized
  let rawData := (jsonSafeRawData row.rawData).1
  let dated := state.addDate normalized.periodDate
  return match disposition with
    | .conflict =>
        (⟨row.rowNumber, rawData, .empty, [conflictIssue currentStatus normalized], false⟩,
          dated.countError)
    | .duplicate =>
        (⟨row.rowNumber, rawData, serializeNormalized normalized, [], true⟩,
          (dated.remember key normalized).countDuplicate)
    | .new | .statusUpdate =>
        (⟨row.rowNumber, rawData, serializeNormalized normalized, [], false⟩,
          (dated.remember key normalized).countValid)

/-- `_prepare_staged_row`. -/
def prepareStagedRow (env : Env) (ledger : Ledger) (sourceKind : SourceKind) (row : ParsedRow)
    (state : PrepareState) : Except ServiceError (PreparedRow × PrepareState) :=
  let issues := rowIssues env ledger.directory sourceKind row
  match issues, row.normalized with
  | [], some normalized => prepareValidRow env ledger row normalized state
  | [], none =>
      .ok (⟨row.rowNumber, (jsonSafeRawData row.rawData).1, .empty, [], false⟩, state.countValid)
  | issues, _ =>
      .ok (⟨row.rowNumber, (jsonSafeRawData row.rawData).1, .empty, issues, false⟩,
        state.countError)

/-- The loop of `_prepare_rows`, with the number of rows before. -/
def prepareLoop (env : Env) (ledger : Ledger) (sourceKind : SourceKind) :
    ℕ → List ParsedRow → PrepareState → Except ServiceError (List PreparedRow × PrepareState)
  | _, [], state => .ok ([], state)
  | rowCount, row :: rows, state =>
      if env.importMaxRows < rowCount + 1 then
        .error (.rowValidation "文件数据行数超过系统允许的上限")
      else do
        let (prepared, state) ← prepareStagedRow env ledger sourceKind row state
        let (rest, state) ← prepareLoop env ledger sourceKind (rowCount + 1) rows state
        return (prepared :: rest, state)

/-- `_prepare_rows`. -/
def prepareRows (env : Env) (ledger : Ledger) (sourceKind : SourceKind)
    (parsed : List ParsedRow × Option ServiceError) :
    Except ServiceError (List PreparedRow × PrepareState) := do
  let prepared ← prepareLoop env ledger sourceKind 0 parsed.1 .start
  match parsed.2 with
  | some error => .error error
  | none => return prepared

/-- The keyword arguments of `stage_upload`, with the keys and the time of its writes. -/
structure StageRequest where
  upload : Upload
  sourceKind : Option (Option SourceKind)
  actor : Actor
  batchKey : Uuid
  fileKey : Uuid
  rowKey : ℕ → Uuid
  createdAt : ℤ
  auditedAt : ℤ

namespace Ledger

/-- The staged row of a prepared row. -/
def stagedRow (batch : Uuid) (rowKey : ℕ → Uuid) (prepared : PreparedRow) : StagedRow :=
  ⟨rowKey prepared.rowNumber, batch, prepared.rowNumber, prepared.rawData,
    prepared.normalizedData, prepared.issues, prepared.isDuplicate, none⟩

/-- The batch row that `stage_upload` leaves behind. -/
def stagedBatch (request : StageRequest) (sourceKind : SourceKind) (state : PrepareState) :
    ImportBatch where
  id := request.batchKey
  sourceKind := sourceKind
  status := .previewed
  totalRows := state.counters.total
  validRows := state.counters.valid
  duplicateRows := state.counters.duplicate
  errorRows := state.counters.error
  periodStart := state.periodDates.min?
  periodEnd := state.periodDates.max?
  createdBy := request.actor.id
  createdAt := request.createdAt
  confirmedAt := none

/-- The rows of `ImportResult.from_batch` that are posted. -/
def postedRows (ledger : Ledger) (batch : Uuid) : ℕ :=
  (ledger.stagedRows.filter fun row => decide (row.batch = batch) && row.postedAt.isSome).length

/-- `ImportResult.from_batch`. -/
def importResult (ledger : Ledger) (batch : ImportBatch) : ImportResult :=
  ⟨batch.id, ledger.postedRows batch.id, batch.duplicateRows, batch.errorRows⟩

/-- The rows that `stage_upload` writes. -/
def insertUpload (ledger : Ledger) (request : StageRequest) (sha256 : String)
    (batch : ImportBatch) (rows : List PreparedRow) : Ledger × ImportBatch :=
  let file : SourceFile :=
    ⟨request.fileKey, batch.id, request.upload.name, sha256, request.upload.content.length⟩
  let written : Ledger :=
    { ledger with
      importBatches := ledger.importBatches ++ [batch]
      sourceFiles := ledger.sourceFiles ++ [file]
      stagedRows := ledger.stagedRows ++ rows.map (stagedRow batch.id request.rowKey) }
  (written.recordAudit request.actor.id "import.staged" "ImportBatch" batch.id
    (written.importResult batch).asDict request.auditedAt, batch)

/-- The keys of an upload are unused and its row numbers are distinct. -/
def CanInsertUpload (ledger : Ledger) (request : StageRequest) (rows : List PreparedRow) : Prop :=
  (∀ batch ∈ ledger.importBatches, batch.id ≠ request.batchKey) ∧
    (∀ file ∈ ledger.sourceFiles, file.id ≠ request.fileKey) ∧
    (rows.map (·.rowNumber)).Nodup ∧ (rows.map fun row => request.rowKey row.rowNumber).Nodup ∧
    ∀ row ∈ rows, ∀ staged ∈ ledger.stagedRows, staged.id ≠ request.rowKey row.rowNumber

instance (ledger : Ledger) (request : StageRequest) (rows : List PreparedRow) :
    Decidable (ledger.CanInsertUpload request rows) :=
  inferInstanceAs (Decidable (_ ∧ _))

end Ledger

/-- `stage_upload`. -/
def stageUpload (env : Env) (parsers : List Importer) (request : StageRequest) (ledger : Ledger) :
    Except ServiceError (Ledger × ImportBatch) := do
  requireFinanceActor request.actor "只有财务人员可以执行导入确认"
  validateUploadSignature env request.upload
  let sha256 := env.sha256 request.upload.content
  require (∀ file ∈ ledger.sourceFiles, file.sha256 ≠ sha256)
    (.duplicateSourceFile "相同 SHA-256 的原始文件已导入")
  let headers ← readHeaders env request.upload
  let parser ← detect parsers request.upload.name headers
  let sourceKind ← uploadSourceKind parser request.upload.content request.sourceKind
  let (rows, state) ← prepareRows env ledger sourceKind (parser.parse request.upload.content)
  require (request.upload.name.length ≤ 255) (.library "DataError")
  require (ledger.CanInsertUpload request rows) .integrity
  return ledger.insertUpload request sha256 (Ledger.stagedBatch request sourceKind state) rows

/-! ## Confirming -/

/-- Save the status of the invoice with a key. -/
def Invoice.withStatus (key : Uuid) (status : InvoiceStatus) (invoice : Invoice) : Invoice :=
  if invoice.id = key then { invoice with status := status } else invoice

/-- The value that a `numeric(18, 2)` column stores. -/
def storedCents (amount : Decimal) : Except ServiceError ℤ :=
  if 10 ^ 18 ≤ |amount.roundedCents| then .error .decimalOperation else .ok amount.roundedCents

namespace Ledger

/-- `Invoice.objects.create`. -/
def insertInvoice (ledger : Ledger) (invoice : Invoice) : Except ServiceError Ledger := do
  require (invoice.invoiceNumber.length ≤ 30 ∧ invoice.sellerTaxId.length ≤ 32 ∧
    invoice.buyerTaxId.length ≤ 32) (.library "DataError")
  require (0 < invoice.totalAmount ∧ (∀ row ∈ ledger.invoices, row.id ≠ invoice.id) ∧
    ∀ row ∈ ledger.invoices, ¬(row.invoiceNumber = invoice.invoiceNumber ∧
      row.sellerTaxId = invoice.sellerTaxId)) .integrity
  return { ledger with invoices := ledger.invoices ++ [invoice] }

/-- `MoneyTransaction.objects.create`. -/
def insertTransaction (ledger : Ledger) (money : MoneyTransaction) : Except ServiceError Ledger := do
  require (money.transactionId.length ≤ 100 ∧ money.counterpartyRawName.length ≤ 255 ∧
    money.counterpartyAccount.length ≤ 100) (.library "DataError")
  require (0 < money.amount ∧ (∀ row ∈ ledger.transactions, row.id ≠ money.id) ∧
    ∀ row ∈ ledger.transactions, row.fingerprint ≠ money.fingerprint) .integrity
  return { ledger with transactions := ledger.transactions ++ [money] }

/-- `_post_normalized_row` for an invoice. -/
def postInvoice (ledger : Ledger) (batch : Uuid) (row : StagedRow) (key : Uuid)
    (normalized : NormalizedInvoiceRow) : Except ServiceError Ledger := do
  let counterparty ← present (resolveInvoiceCounterparty ledger.directory normalized).value
    (.rowValidation "无法识别往来单位")
  let totalAmount ← storedCents normalized.totalAmount
  ledger.insertInvoice
    { id := key
      direction := normalized.direction
      invoiceNumber := normalized.invoiceNumber
      sellerTaxId := normalized.sellerTaxId
      buyerTaxId := normalized.buyerTaxId
      issueDate := normalized.issueDate
      dueDate := none
      totalAmount := totalAmount
      status := normalized.status
      counterparty := counterparty.id
      importBatch := batch
      sourceRow := row.rowNumber }

/-- The stored balance of a transaction. -/
def storedBalance : Option Decimal → Except ServiceError (Option ℤ)
  | none => .ok none
  | some balance => (storedCents balance).map some

/-- `_post_normalized_row` for a transaction. -/
def postTransaction (env : Env) (ledger : Ledger) (batch : Uuid) (row : StagedRow) (key : Uuid)
    (normalized : NormalizedTransactionRow) : Except ServiceError Ledger := do
  let account ← present (resolveFundingAccount ledger.directory normalized).value
    (.rowValidation "无法识别资金账户")
  let counterparty ← present
    (resolveTransactionCounterparty env ledger.directory normalized).value
    (.rowValidation "无法识别往来单位")
  let fingerprint ← transactionFingerprint env normalized
  let amount ← storedCents normalized.amount
  let balanceAfter ← storedBalance normalized.balanceAfter
  ledger.insertTransaction
    { id := key
      account := account.id
      channel := normalized.channel
      direction := normalized.direction
      occurredAt := normalized.occurredAt.instant
      amount := amount
      balanceAfter := balanceAfter
      transactionId := normalized.transactionId
      fingerprint := fingerprint
      counterparty := some counterparty.id
      counterpartyRawName := normalized.counterpartyName
      counterpartyAccount := normalized.counterpartyAccount
      importBatch := batch
      sourceRow := row.rowNumber }

/-- `_post_normalized_row`. -/
def postNormalizedRow (env : Env) (ledger : Ledger) (batch : Uuid) (row : StagedRow) (key : Uuid) :
    Normalized → Except ServiceError Ledger
  | .invoice normalized => ledger.postInvoice batch row key normalized
  | .transaction normalized => ledger.postTransaction env batch row key normalized

/-- Save changed columns of a staged row. -/
def updateRow (ledger : Ledger) (row : StagedRow) (change : StagedRow → StagedRow) : Ledger :=
  { ledger with
    stagedRows := ledger.stagedRows.map fun staged =>
      if staged.id = row.id then change staged else staged }

/-- `_mark_duplicate`. -/
def markDuplicate (ledger : Ledger) (row : StagedRow) : Ledger :=
  ledger.updateRow row fun staged => { staged with isDuplicate := true }

/-- `_mark_invoice_conflict`. -/
def markInvoiceConflict (ledger : Ledger) (row : StagedRow) (currentStatus : Option InvoiceStatus)
    (normalized : Normalized) : Ledger :=
  ledger.updateRow row fun staged =>
    { staged with issues := [conflictIssue currentStatus normalized] }

/-- `row.posted_at = timezone.now()`. -/
def markPosted (ledger : Ledger) (row : StagedRow) (now : ℤ) : Ledger :=
  ledger.updateRow row fun staged => { staged with postedAt := some now }

/-- `_update_invoice_status`. -/
def updateInvoiceStatus (ledger : Ledger) (existing : Invoice) (status : InvoiceStatus)
    (batch : Uuid) (row : StagedRow) (actor : Uuid) (now : ℤ) : Ledger :=
  recordAudit
    { ledger with
      invoices := ledger.invoices.map (Invoice.withStatus existing.id status) }
    actor "invoice.status_changed" "Invoice" existing.id
    (.invoiceStatusChanged existing.status status batch row.rowNumber) now

end Ledger

/-- What the loop of `confirm_batch` passes from row to row. -/
structure ConfirmState where
  ledger : Ledger
  newDuplicates : ℤ
  newErrors : ℤ

/-- What stays the same in the loop of `confirm_batch`. -/
structure ConfirmContext where
  env : Env
  batch : Uuid
  actor : Uuid
  supply : RowSupply

namespace ConfirmState

/-- The step of a row whose disposition is not `new`. -/
def settle (context : ConfirmContext) (row : StagedRow) (normalized : Normalized)
    (state : ConfirmState) : Disposition × Option Invoice → Option ConfirmState
  | (.duplicate, _) =>
      some { state with
        ledger := state.ledger.markDuplicate row
        newDuplicates := state.newDuplicates + 1 }
  | (.conflict, existing) =>
      some { state with
        ledger := state.ledger.markInvoiceConflict row (existing.map (·.status)) normalized
        newErrors := state.newErrors + 1 }
  | (.statusUpdate, some existing) =>
      match normalized with
      | .invoice normalized =>
          some { state with
            ledger := (state.ledger.updateInvoiceStatus existing normalized.status context.batch row
              context.actor (context.supply.auditedAt row.rowNumber)).markPosted row
                (context.supply.postedAt row.rowNumber) }
      | .transaction _ => none
  | _ => none

/-- The step of a row that is new: an insert, and another look when a constraint stopped it. -/
def post (context : ConfirmContext) (row : StagedRow) (normalized : Normalized)
    (state : ConfirmState) : Except ServiceError ConfirmState :=
  match state.ledger.postNormalizedRow context.env context.batch row
      (context.supply.key row.rowNumber) normalized with
  | .ok ledger =>
      .ok { state with ledger := ledger.markPosted row (context.supply.postedAt row.rowNumber) }
  | .error .integrity => do
      let found ← state.ledger.formalDispositionFor context.env normalized
      present (state.settle context row normalized found) .integrity
  | .error error => .error error

end ConfirmState

/-- The body of the loop of `confirm_batch`. -/
def confirmRow (context : ConfirmContext) (state : ConfirmState) (row : StagedRow) :
    Except ServiceError ConfirmState :=
  if row.issues ≠ [] then .ok state
  else do
    let normalized ← present (deserializeNormalized row.normalizedData) (.library "KeyError")
    let found ← state.ledger.formalDispositionFor context.env normalized
    match state.settle context row normalized found with
    | some settled => .ok settled
    | none => state.post context row normalized

namespace Ledger

/-- `order_by("row_number")`. -/
def orderRows (rows : List StagedRow) : List StagedRow :=
  rows.insertionSort fun left right => left.rowNumber ≤ right.rowNumber

/-- The rows that the loop of `confirm_batch` locks. -/
def pendingRows (ledger : Ledger) (batch : Uuid) : List StagedRow :=
  orderRows (ledger.stagedRows.filter fun row =>
    decide (row.batch = batch) && row.postedAt.isNone && !row.isDuplicate)

end Ledger

/-- A balance that may become the snapshot of its account. -/
structure SnapshotCandidate where
  account : Uuid
  occurredAt : ℤ
  rowNumber : ℕ
  balance : Decimal
deriving DecidableEq, Repr

/-- A candidate replaces an earlier one of its account. -/
def SnapshotCandidate.Replaces (candidate previous : SnapshotCandidate) : Prop :=
  previous.occurredAt < candidate.occurredAt ∨
    (candidate.occurredAt = previous.occurredAt ∧ candidate.rowNumber < previous.rowNumber)

instance (candidate previous : SnapshotCandidate) : Decidable (candidate.Replaces previous) :=
  inferInstanceAs (Decidable (_ ∨ _))

/-- `latest_by_account` after one more candidate. -/
def offerCandidate : List SnapshotCandidate → SnapshotCandidate → List SnapshotCandidate
  | [], candidate => [candidate]
  | previous :: rest, candidate =>
      if previous.account = candidate.account then
        (if candidate.Replaces previous then candidate else previous) :: rest
      else previous :: offerCandidate rest candidate

/-- The candidate of a posted row, if it has one. -/
def snapshotCandidate (directory : Directory) (row : StagedRow) : Option SnapshotCandidate :=
  if row.issues ≠ [] then none
  else
    match deserializeNormalized row.normalizedData with
    | some (.transaction normalized) => do
        let balance ← normalized.balanceAfter
        let account ← (resolveFundingAccount directory normalized).value
        some ⟨account.id, normalized.occurredAt.instant, row.rowNumber, balance⟩
    | _ => none

namespace Ledger

/-- `latest_by_account` of `_create_balance_snapshots`. -/
def latestByAccount (ledger : Ledger) (batch : Uuid) : List SnapshotCandidate :=
  ((orderRows (ledger.stagedRows.filter fun row =>
    decide (row.batch = batch) && row.postedAt.isSome)).filterMap
      (snapshotCandidate ledger.directory)).foldl offerCandidate []

/-- `_create_balance_snapshot`. -/
def createBalanceSnapshot (batch : Uuid) (ledger : Ledger) (candidate : SnapshotCandidate) :
    Except ServiceError Ledger :=
  match ledger.snapshots.find? fun snapshot =>
      decide (snapshot.account = candidate.account ∧ snapshot.asOf = candidate.occurredAt) with
  | some existing =>
      if candidate.balance.IsCents existing.balance then .ok ledger
      else .error (.rowValidation "账户余额快照冲突")
  | none => do
      let balance ← storedCents candidate.balance
      return { ledger with
        snapshots := ledger.snapshots ++ [⟨candidate.account, candidate.occurredAt, balance, batch⟩] }

/-- `_create_balance_snapshots`. -/
def createBalanceSnapshots (ledger : Ledger) (batch : ImportBatch) : Except ServiceError Ledger :=
  if batch.sourceKind = .bank then
    (ledger.latestByAccount batch.id).foldlM (createBalanceSnapshot batch.id) ledger
  else .ok ledger

/-- Save the row of a batch. -/
def saveBatch (ledger : Ledger) (batch : ImportBatch) : Ledger :=
  { ledger with
    importBatches := ledger.importBatches.map fun row => if row.id = batch.id then batch else row }

end Ledger

/-- The batch row after the loop of `confirm_batch`. -/
def confirmedBatch (batch : ImportBatch) (newDuplicates newErrors confirmedAt : ℤ) : ImportBatch :=
  let errorRows := batch.errorRows + newErrors
  { batch with
    duplicateRows := batch.duplicateRows + newDuplicates
    errorRows := errorRows
    validRows := batch.validRows - newDuplicates - newErrors
    confirmedAt := some confirmedAt
    status := if errorRows = 0 then .completed else .partlyCompleted }

/-- The arguments of `confirm_batch`, with the keys and the times of its writes. -/
structure ConfirmRequest where
  batchId : Uuid
  actor : Actor
  supply : RowSupply
  confirmedAt : ℤ
  auditedAt : ℤ

/-- `confirm_batch`. -/
def confirmBatch (env : Env) (request : ConfirmRequest) (ledger : Ledger) :
    Except ServiceError (Ledger × ImportResult) := do
  requireFinanceActor request.actor "只有财务人员可以执行导入确认"
  let batch ← present (ledger.importBatch? request.batchId) (.doesNotExist "ImportBatch")
  if batch.confirmedAt.isSome then return (ledger, ledger.importResult batch)
  else do
    let state ← (ledger.pendingRows batch.id).foldlM
      (confirmRow ⟨env, batch.id, request.actor.id, request.supply⟩) ⟨ledger, 0, 0⟩
    let ledger ← state.ledger.createBalanceSnapshots batch
    let batch := confirmedBatch batch state.newDuplicates state.newErrors request.confirmedAt
    let ledger := ledger.saveBatch batch
    let result := ledger.importResult batch
    return (ledger.recordAudit request.actor.id "import.confirmed" "ImportBatch" batch.id
      result.asDict request.auditedAt, result)

end Finrec
