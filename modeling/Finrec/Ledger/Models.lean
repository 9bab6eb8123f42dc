import Finrec.Lib.Calendar
import Finrec.Lib.Decimal
import Finrec.Lib.Totals
import Mathlib.Data.List.Nodup

/-!
# The tables of the ledger

This file gives the rows that the services read and write, and the ledger as
one record of tables.  Keys are UUIDs, modeled as natural numbers: the text of
a UUID is ordered as its number.  Money columns are `numeric(18, 2)` and hold
hundredths; instants are microseconds on the UTC time line, which is what the
database returns for a date-time column.

Master data (counterparties, aliases, funding accounts, coverage periods) is
maintained outside the services and forms the `Directory`.
-/

namespace Finrec

open Calendar

/-- A primary key. -/
abbrev Uuid := ℕ

inductive InvoiceDirection where
  | input
  | output
deriving DecidableEq, Repr

inductive InvoiceStatus where
  | normal
  | void
  | red
deriving DecidableEq, Repr

inductive MoneyChannel where
  | bank
  | wechat
deriving DecidableEq, Repr

inductive MoneyDirection where
  | inflow
  | outflow
deriving DecidableEq, Repr

inductive ReconciliationDirection where
  | purchasePayment
  | salesReceipt
deriving DecidableEq, Repr

inductive ReconciliationMode where
  | direct
  | batch
deriving DecidableEq, Repr

inductive SettlementStatus where
  | draft
  | confirmed
deriving DecidableEq, Repr

/-- The source's `PARTIAL` is `partlyCompleted` here. -/
inductive BatchStatus where
  | uploaded
  | previewed
  | partlyCompleted
  | completed
deriving DecidableEq, Repr

inductive SourceKind where
  | inputInvoice
  | outputInvoice
  | bank
  | wechat
deriving DecidableEq, Repr

inductive AliasKind where
  | name
  | bankAccount
  | wechatName
  | collectionAccount
deriving DecidableEq, Repr

/-- The source's `PARTIAL` is `partlyCovered` here. -/
inductive CoverageStatus where
  | full
  | partlyCovered
  | missing
deriving DecidableEq, Repr

inductive Role where
  | finance
  | owner
deriving DecidableEq, Repr

/-- The exceptions the services raise, with their texts. -/
inductive ServiceError where
  | permissionDenied (message : String)
  | validation (message : String)
  | rowValidation (message : String)
  | duplicateSourceFile (message : String)
  | unsupportedTemplate (message : String)
  | value (message : String)
  | doesNotExist (model : String)
  | integrity
  | decimalOperation
  | overflow
  | type
  | library (exception : String)
deriving DecidableEq, Repr

/-- The caller of a service: `saved` when it is a stored user. -/
structure Actor where
  id : Uuid
  saved : Bool
  isAuthenticated : Bool
  groups : List Role
deriving DecidableEq, Repr

structure Counterparty where
  id : Uuid
  name : String
  normalizedName : String
  taxId : String
  isCustomer : Bool
  isSupplier : Bool
  active : Bool
deriving DecidableEq, Repr

structure CounterpartyAlias where
  counterparty : Uuid
  kind : AliasKind
  normalizedValue : String
deriving DecidableEq, Repr

structure FundingAccount where
  id : Uuid
  channel : MoneyChannel
  identifier : String
  maskedIdentifier : String
  active : Bool
deriving DecidableEq, Repr

structure DataCoveragePeriod where
  id : Uuid
  year : ℕ
  sourceKind : SourceKind
  status : CoverageStatus
  expectedStart : ℤ
  expectedEnd : ℤ
deriving DecidableEq, Repr

/-- The master data. -/
structure Directory where
  counterparties : List Counterparty
  aliases : List CounterpartyAlias
  accounts : List FundingAccount
  coverage : List DataCoveragePeriod

structure Invoice where
  id : Uuid
  direction : InvoiceDirection
  invoiceNumber : String
  sellerTaxId : String
  buyerTaxId : String
  issueDate : Date
  dueDate : Option Date
  totalAmount : ℤ
  status : InvoiceStatus
  counterparty : Uuid
  importBatch : Uuid
  sourceRow : ℕ
deriving DecidableEq

structure MoneyTransaction where
  id : Uuid
  account : Uuid
  channel : MoneyChannel
  direction : MoneyDirection
  occurredAt : ℤ
  amount : ℤ
  balanceAfter : Option ℤ
  transactionId : String
  fingerprint : String
  counterparty : Option Uuid
  counterpartyRawName : String
  counterpartyAccount : String
  importBatch : Uuid
  sourceRow : ℕ
deriving DecidableEq, Repr

structure AccountBalanceSnapshot where
  account : Uuid
  asOf : ℤ
  balance : ℤ
  sourceBatch : Uuid
deriving DecidableEq, Repr

structure SettlementBatch where
  id : Uuid
  counterparty : Uuid
  direction : ReconciliationDirection
  periodStart : ℤ
  periodEnd : ℤ
  status : SettlementStatus
  version : ℕ
  createdBy : Uuid
deriving DecidableEq, Repr

structure SettlementBatchInvoice where
  batch : Uuid
  invoice : Uuid
deriving DecidableEq, Repr

structure SettlementBatchTransaction where
  batch : Uuid
  transaction : Uuid
deriving DecidableEq, Repr

structure Reconciliation where
  id : Uuid
  direction : ReconciliationDirection
  mode : ReconciliationMode
  createdBy : Uuid
  settlementBatch : Option Uuid
  note : String
  createdAt : ℤ
deriving DecidableEq, Repr

structure ReconciliationAllocation where
  reconciliation : Uuid
  invoice : Uuid
  transaction : Uuid
  amount : ℤ
deriving DecidableEq, Repr

structure ReconciliationReversal where
  original : Uuid
  reversedBy : Uuid
  reason : String
  createdAt : ℤ
deriving DecidableEq, Repr

structure ImportBatch where
  id : Uuid
  sourceKind : SourceKind
  status : BatchStatus
  totalRows : ℤ
  validRows : ℤ
  duplicateRows : ℤ
  errorRows : ℤ
  periodStart : Option ℤ
  periodEnd : Option ℤ
  createdBy : Uuid
  createdAt : ℤ
  confirmedAt : Option ℤ
deriving DecidableEq, Repr

structure SourceFile where
  id : Uuid
  batch : Uuid
  originalName : String
  sha256 : String
  size : ℕ
deriving DecidableEq, Repr

structure RowIssue where
  code : String
  message : String
  field : String
deriving DecidableEq, Repr

/-- The JSON document of a staged row: every scalar is a text. -/
inductive NormalizedData where
  | empty
  | invoice (direction : InvoiceDirection) (invoiceNumber sellerTaxId sellerName buyerTaxId
      buyerName issueDate totalAmount : String) (status : InvoiceStatus)
  | transaction (channel : MoneyChannel) (direction : MoneyDirection)
      (occurredAt amount : String) (balanceAfter : Option String)
      (accountIdentifier counterpartyName counterpartyAccount transactionId summary : String)
deriving DecidableEq, Repr

structure StagedRow where
  id : Uuid
  batch : Uuid
  rowNumber : ℕ
  rawData : String
  normalizedData : NormalizedData
  issues : List RowIssue
  isDuplicate : Bool
  postedAt : Option ℤ
deriving DecidableEq, Repr

/-- The `changes` document of an audit entry. -/
inductive AuditChanges where
  | reconciliationCreated (allocationCount : ℕ)
  | reconciliationReversed (reason : String)
  | settlementBatchCreated (invoiceCount transactionCount : ℕ)
  | invoiceStatusChanged (fromStatus toStatus : InvoiceStatus) (sourceBatch : Uuid)
      (sourceRow : ℕ)
  | importResult (batch : Uuid) (postedRows : ℕ) (duplicateRows errorRows : ℤ)
deriving DecidableEq, Repr

structure AuditLog where
  actor : Uuid
  action : String
  targetType : String
  targetId : Uuid
  changes : AuditChanges
  createdAt : ℤ
deriving DecidableEq, Repr

/-- All tables, each in insertion order. -/
structure Ledger where
  directory : Directory
  invoices : List Invoice
  transactions : List MoneyTransaction
  snapshots : List AccountBalanceSnapshot
  settlementBatches : List SettlementBatch
  batchInvoices : List SettlementBatchInvoice
  batchTransactions : List SettlementBatchTransaction
  reconciliations : List Reconciliation
  allocations : List ReconciliationAllocation
  reversals : List ReconciliationReversal
  importBatches : List ImportBatch
  sourceFiles : List SourceFile
  stagedRows : List StagedRow
  auditLog : List AuditLog

namespace Ledger

/-- A ledger with master data and nothing else. -/
def empty (directory : Directory) : Ledger :=
  ⟨directory, [], [], [], [], [], [], [], [], [], [], [], [], []⟩

/-- `record_audit`, for an actor that was already checked to be a stored user. -/
def recordAudit (ledger : Ledger) (actor : Uuid) (action targetType : String) (target : Uuid)
    (changes : AuditChanges) (now : ℤ) : Ledger :=
  { ledger with
    auditLog := ledger.auditLog ++ [⟨actor, action, targetType, target, changes, now⟩] }

/-- The reconciliation has a reversal row. -/
def isReversed (ledger : Ledger) (reconciliation : Uuid) : Bool :=
  ledger.reversals.any fun reversal => decide (reversal.original = reconciliation)

/-- `reconciliation__reversal__isnull=True` for an allocation. -/
def isActive (ledger : Ledger) (allocation : ReconciliationAllocation) : Bool :=
  !ledger.isReversed allocation.reconciliation

/-- The active allocated amount of the rows whose key is `id`. -/
def activeAmount (ledger : Ledger) (key : ReconciliationAllocation → Uuid) (id : Uuid) : ℤ :=
  Totals.total (fun allocation => decide (key allocation = id) && ledger.isActive allocation)
    (·.amount) ledger.allocations

def invoice? (ledger : Ledger) (id : Uuid) : Option Invoice :=
  ledger.invoices.find? fun invoice => decide (invoice.id = id)

def transaction? (ledger : Ledger) (id : Uuid) : Option MoneyTransaction :=
  ledger.transactions.find? fun money => decide (money.id = id)

def settlementBatch? (ledger : Ledger) (id : Uuid) : Option SettlementBatch :=
  ledger.settlementBatches.find? fun batch => decide (batch.id = id)

def reconciliation? (ledger : Ledger) (id : Uuid) : Option Reconciliation :=
  ledger.reconciliations.find? fun reconciliation => decide (reconciliation.id = id)

def importBatch? (ledger : Ledger) (id : Uuid) : Option ImportBatch :=
  ledger.importBatches.find? fun batch => decide (batch.id = id)

def counterparty? (ledger : Ledger) (id : Uuid) : Option Counterparty :=
  ledger.directory.counterparties.find? fun counterparty => decide (counterparty.id = id)

end Ledger

/-- `user_has_role`. -/
def userHasRole (user : Actor) (role : Role) : Bool :=
  if !user.isAuthenticated then false
  else if role = .finance ∧ Role.owner ∈ user.groups then false
  else decide (role ∈ user.groups)

/-- `require_finance_actor`. -/
def requireFinanceActor (actor : Actor) (message : String) : Except ServiceError Unit :=
  if !actor.saved || !userHasRole actor .finance then .error (.permissionDenied message)
  else .ok ()

/-- An actor with the finance role, as `require_finance_actor` accepts it. -/
def Actor.IsFinance (actor : Actor) : Prop :=
  actor.saved = true ∧ userHasRole actor .finance = true

instance (actor : Actor) : Decidable actor.IsFinance :=
  inferInstanceAs (Decidable (_ ∧ _))

@[simp]
theorem requireFinanceActor_eq_ok {actor : Actor} {message : String} {result : Unit} :
    requireFinanceActor actor message = .ok result ↔ actor.IsFinance := by
  simp only [requireFinanceActor, Actor.IsFinance]
  cases actor.saved <;> cases userHasRole actor .finance <;> simp

end Finrec
