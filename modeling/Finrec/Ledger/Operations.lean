import Finrec.Imports.Confirmation
import Finrec.Imports.Staging
import Finrec.Reconciliation.Settlements
import Mathlib.Data.List.Infix

/-!
# Operations and runs

A run starts with an empty ledger and performs any finite sequence of
operations with any arguments.  An operation that fails leaves the ledger as
it was: every service runs in one database transaction.  The keys and the
times that an operation draws are part of it, so a run can use any clock; a
chronological run is one whose clock never goes back.
-/

namespace Finrec

open Calendar

inductive Operation where
  | maintain (directory : Directory)
  | stageUpload (request : StageRequest)
  | confirmBatch (request : ConfirmRequest)
  | createReconciliation (request : ReconciliationRequest) (uuid : Uuid) (now : ℤ)
  | reverseReconciliation (actor : Actor) (id : Uuid) (reason : Option String) (now : ℤ)
  | createSettlementBatch (request : SettlementRequest) (uuid : Uuid) (now : ℤ)
  | confirmSettlementBatch (id : Uuid) (actor : Actor) (allocations : List AllocationInput)
      (version : ℤ) (uuid : Uuid) (now : ℤ)

/-- The settings and parsers that the services of one installation use. -/
structure Installation where
  env : Env
  parsers : List Importer

namespace Operation

/-- Perform an operation. -/
def perform (site : Installation) (ledger : Ledger) : Operation → Except ServiceError Ledger
  | maintain directory => .ok { ledger with directory := directory }
  | stageUpload request => (Finrec.stageUpload site.env site.parsers request ledger).map (·.1)
  | confirmBatch request => (Finrec.confirmBatch site.env request ledger).map (·.1)
  | createReconciliation request uuid now => Finrec.createReconciliation request uuid now ledger
  | reverseReconciliation actor id reason now =>
      Finrec.reverseReconciliation actor id reason now ledger
  | createSettlementBatch request uuid now =>
      Finrec.createSettlementBatch site.env.zone request uuid now ledger
  | confirmSettlementBatch id actor allocations version uuid now =>
      Finrec.confirmSettlementBatch id actor allocations version uuid now ledger

/-- The ledger after an operation, whether it succeeds or fails. -/
def step (site : Installation) (ledger : Ledger) (operation : Operation) : Ledger :=
  match operation.perform site ledger with
  | .ok after => after
  | .error _ => ledger

/-- The operation draws the time from the clock. -/
def Draws (time : ℤ) : Operation → Prop
  | maintain _ => False
  | stageUpload request => time = request.createdAt ∨ time = request.auditedAt
  | confirmBatch request =>
      (∃ rowNumber, time = request.supply.auditedAt rowNumber) ∨
        (∃ rowNumber, time = request.supply.postedAt rowNumber) ∨
        time = request.confirmedAt ∨ time = request.auditedAt
  | createReconciliation _ _ now => time = now
  | reverseReconciliation _ _ _ now => time = now
  | createSettlementBatch _ _ now => time = now
  | confirmSettlementBatch _ _ _ _ _ now => time = now

/-- All times of the operation satisfy a condition. -/
def Stamped (stamps : ℤ → Prop) (operation : Operation) : Prop :=
  ∀ time, operation.Draws time → stamps time

end Operation

/-- The ledger after a sequence of operations. -/
def runFrom (site : Installation) (ledger : Ledger) (operations : List Operation) : Ledger :=
  operations.foldl (Operation.step site) ledger

/-- The ledger after a sequence of operations on an empty ledger. -/
def run (site : Installation) (directory : Directory) (operations : List Operation) : Ledger :=
  runFrom site (.empty directory) operations

theorem runFrom_append (site : Installation) (ledger : Ledger)
    (earlier later : List Operation) :
    runFrom site ledger (earlier ++ later) = runFrom site (runFrom site ledger earlier) later :=
  List.foldl_append

theorem run_snoc (site : Installation) (directory : Directory) (operations : List Operation)
    (operation : Operation) :
    run site directory (operations ++ [operation]) =
      operation.step site (run site directory operations) := by
  simp [run, runFrom]

/-- What every operation preserves holds after every run. -/
theorem runFrom_induction {site : Installation} (holds : Ledger → Prop) {ledger : Ledger}
    (start : holds ledger)
    (preserved : ∀ {before after operation}, holds before →
      Operation.perform site before operation = .ok after → holds after)
    (operations : List Operation) : holds (runFrom site ledger operations) := by
  induction operations generalizing ledger with
  | nil => exact start
  | cons operation rest ih =>
      apply ih
      simp only [Operation.step]
      split
      · rename_i after succeeded
        exact preserved start succeeded
      · exact start

/-! ## A sample installation

The parsers of the repository on files whose cells are given directly, eight
hours east of UTC.  The last byte of a file is its index in the list of its
kind.
-/

namespace Sample

theorem valid_east {time : ℕ} (early : time < 86400000000) :
    time < 86400000000 ∧ (-86400 : ℤ) < 28800 ∧ (28800 : ℤ) < 86400 :=
  ⟨early, by decide, by decide⟩

theorem valid_midnight : 0 < 86400000000 ∧ (-86400 : ℤ) < 28800 ∧ (28800 : ℤ) < 86400 := by decide

def env (books : List Workbook) (statements : List (List Sheet)) : Env where
  zone := .fixed 28800000000
  importMaxRows := 100
  importMaxUploadBytes := 1000
  companyTaxId := "OWN"
  nfkc := id
  casefold := id
  sha256 content := String.ofList (content.map fun byte => Char.ofNat byte.toNat)
  decimalOf text := (Decimal.ofPlain? text.toList).map .decimal
  dateOf text := Date.fromisoformat? text.toList
  dateTimeOf text := (DateTime.fromisoformat? text.toList).map .aware
  makeAware day time :=
    if early : time < 86400000000 then ⟨day, time, 28800, valid_east early⟩
    else ⟨day, 0, 28800, valid_midnight⟩
  decodeText _ := none
  csvReader _ := ⟨[], false⟩
  loadWorkbook content := books[(content.getLastD 0).toNat]?
  openWorkbook content := statements[(content.getLastD 0).toNat]?
  jsonText _ := "{}"
  icontains text term := decide (term.toList <:+: text.toList)

def site (books : List Workbook) (statements : List (List Sheet)) : Installation where
  env := env books statements
  parsers := defaultParsers (env books statements)

def finance : Actor :=
  ⟨1, true, true, [.finance]⟩

/-- One supplier and one active bank account. -/
def directory : Directory where
  counterparties := [⟨7, "Mill", "Mill", "MILL", false, true, true⟩]
  aliases := []
  accounts := [⟨5, .bank, "A1", "A1", true⟩]
  coverage := []

/-- An invoice of the supplier. -/
def invoiceCells (number : String) (issueDate : Date) (totalAmount status : String) : List Cell :=
  [.text number, .text "MILL", .text "Mill", .text "OWN", .text "Own", .date issueDate,
    .text totalAmount, .text status]

def invoiceBook (rows : List (List Cell)) : Workbook :=
  let sheet : Sheet := ⟨TaxInvoice.sheetName, TaxInvoice.columns.map Cell.text :: rows⟩
  ⟨[sheet], sheet⟩

/-- A payment to the supplier. -/
def paymentCells (day : Date) (time : ℕ) (amount balance : String) : List Cell :=
  [.dateTime day time, .text "", .text amount, .text balance, .text "", .text "Mill", .text "",
    .text ""]

def statement (rows : List (List Cell)) : List Sheet :=
  [⟨"S", [.text "账户明细"] :: [.text "账号:A1", .text "户名:Own", .text "币种:CNY", .text "起止日期:-"] ::
    AgriculturalBank.bankHeaders.map Cell.text :: rows⟩]

/-- Stage a file; the keys of a batch and of its rows are built from `batch`. -/
def stage (upload : Upload) (batch : Uuid) (now : ℤ) : Operation :=
  .stageUpload ⟨upload, none, finance, batch, batch, fun rowNumber => batch * 100 + rowNumber, now,
    now⟩

def stageInvoices (index : UInt8) (batch : Uuid) (now : ℤ) : Operation :=
  stage ⟨"invoices.xlsx", [0x50, 0x4B, 0x03, 0x04, index]⟩ batch now

def stageStatement (index : UInt8) (batch : Uuid) (now : ℤ) : Operation :=
  stage ⟨"bank.xls", [0xD0, 0xCF, 0x11, 0xE0, 0xA1, 0xB1, 0x1A, 0xE1, index]⟩ batch now

def confirm (batch : Uuid) (now : ℤ) : Operation :=
  .confirmBatch ⟨batch, finance, ⟨fun rowNumber => batch * 100 + rowNumber, fun _ => now,
    fun _ => now⟩, now, now⟩

end Sample

end Finrec
