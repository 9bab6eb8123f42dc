import Finrec.Concurrency.Locks
import Finrec.Imports.Balances
import Finrec.Imports.Tallies

/-!
# The statements of an import confirmation

`confirm_batch` as the transaction it is.  It holds the lock of its batch from
the start.  For each row it looks for the invoice or the transaction with the
key of the row, and inserts one where there is none; another confirmation may
have inserted it in the meantime, and then the unique index refuses the insert
and the row is looked at again.

A refused insert is rolled back to its savepoint.  The key that was drawn for
the row stays claimed here, which nobody notices: no one else draws it.

Alone, the transaction does what the service does.
-/

namespace Finrec

open Checks RowLocks Totals

/-! ## The rows that are posted -/

/-- The invoice that a row posts, once its counterparty is found. -/
def createdInvoice (directory : Directory) (batch : Uuid) (row : StagedRow) (key : Uuid)
    (normalized : NormalizedInvoiceRow) : Except ServiceError Invoice := do
  let counterparty ← present (resolveInvoiceCounterparty directory normalized).value
    (ServiceError.rowValidation "无法识别往来单位")
  let totalAmount ← storedCents normalized.totalAmount
  let invoice := Ledger.invoiceOfRow batch row key normalized counterparty.id totalAmount
  require (invoice.invoiceNumber.length ≤ 30 ∧ invoice.sellerTaxId.length ≤ 32 ∧
    invoice.buyerTaxId.length ≤ 32) (ServiceError.library "DataError")
  return invoice

/-- The transaction that a row posts, once its account and its counterparty are found. -/
def createdMoney (env : Env) (directory : Directory) (batch : Uuid) (row : StagedRow) (key : Uuid)
    (normalized : NormalizedTransactionRow) : Except ServiceError MoneyTransaction := do
  let account ← present (resolveFundingAccount directory normalized).value
    (ServiceError.rowValidation "无法识别资金账户")
  let counterparty ← present (resolveTransactionCounterparty env directory normalized).value
    (ServiceError.rowValidation "无法识别往来单位")
  let fingerprint ← transactionFingerprint env normalized
  let amount ← storedCents normalized.amount
  let balanceAfter ← Ledger.storedBalance normalized.balanceAfter
  let money := Ledger.transactionOfRow batch row key normalized account.id counterparty.id
    fingerprint amount balanceAfter
  require (money.transactionId.length ≤ 100 ∧ money.counterpartyRawName.length ≤ 255 ∧
    money.counterpartyAccount.length ≤ 100) (ServiceError.library "DataError")
  return money

section Posting

variable {ledger : Ledger} {row : StagedRow} {batch key : Uuid}

/-- The constraints of the invoice table let the invoice in. -/
def Ledger.AdmitsInvoice (ledger : Ledger) (invoice : Invoice) : Prop :=
  0 < invoice.totalAmount ∧ (∀ row ∈ ledger.invoices, row.id ≠ invoice.id) ∧
    ∀ row ∈ ledger.invoices, ¬(row.invoiceNumber = invoice.invoiceNumber ∧
      row.sellerTaxId = invoice.sellerTaxId)

instance (invoice : Invoice) : Decidable (ledger.AdmitsInvoice invoice) :=
  inferInstanceAs (Decidable (_ ∧ _))

/-- The constraints of the transaction table let the transaction in. -/
def Ledger.AdmitsTransaction (ledger : Ledger) (money : MoneyTransaction) : Prop :=
  0 < money.amount ∧ (∀ row ∈ ledger.transactions, row.id ≠ money.id) ∧
    ∀ row ∈ ledger.transactions, row.fingerprint ≠ money.fingerprint

instance (money : MoneyTransaction) : Decidable (ledger.AdmitsTransaction money) :=
  inferInstanceAs (Decidable (_ ∧ _))

theorem postInvoice_eq {normalized : NormalizedInvoiceRow} :
    ledger.postInvoice batch row key normalized =
      createdInvoice ledger.directory batch row key normalized >>= fun invoice =>
        require (ledger.AdmitsInvoice invoice) ServiceError.integrity >>= fun _ =>
          .ok (ledger.addInvoice invoice) := by
  simp only [Ledger.postInvoice, createdInvoice, Ledger.insertInvoice, bind_assoc, pure_bind]
  rfl

theorem postTransaction_eq {env : Env} {normalized : NormalizedTransactionRow} :
    ledger.postTransaction env batch row key normalized =
      createdMoney env ledger.directory batch row key normalized >>= fun money =>
        require (ledger.AdmitsTransaction money) ServiceError.integrity >>= fun _ =>
          .ok (ledger.addTransaction money) := by
  simp only [Ledger.postTransaction, createdMoney, Ledger.insertTransaction, bind_assoc, pure_bind]
  rfl

end Posting

/-! ## The statements -/

open RowLocks.Transaction

/-- `invoices.select_for_update().first()` in `_formal_disposition_for`. -/
def lockInvoiceOf (invoiceNumber sellerTaxId : String) :
    Transaction RowLock Ledger (Option Invoice) :=
  firstForUpdate (fun ledger => (ledger.invoiceOf? invoiceNumber sellerTaxId).map (·.id)) .invoice
    fun _ ledger => ledger.invoiceOf? invoiceNumber sellerTaxId

/-- `_formal_disposition_for(normalized, lock=True)`. -/
def lockFormalDisposition (env : Env) :
    Normalized → Transaction RowLock Ledger (Disposition × Option Invoice)
  | .invoice normalized => do
      match ← lockInvoiceOf normalized.invoiceNumber normalized.sellerTaxId with
      | none => return (.new, none)
      | some existing =>
          let disposition ← ask fun ledger => ledger.invoiceDisposition existing normalized
          return (disposition, some existing)
  | .transaction normalized => do
      let fingerprint ← orRollback (transactionFingerprint env normalized)
      let isDuplicate ← ask fun ledger => ledger.hasFingerprint fingerprint
      return (if isDuplicate = true then .duplicate else .new, none)

/-- `new_duplicates` and `new_errors`. -/
structure ConfirmTotals where
  newDuplicates : ℤ
  newErrors : ℤ

/-- What becomes of a row that has a counterpart, as the change of the ledger and the totals. -/
def settledRow (context : ConfirmContext) (row : StagedRow) (normalized : Normalized)
    (totals : ConfirmTotals) :
    Disposition × Option Invoice → Option ((Ledger → Ledger) × ConfirmTotals)
  | (.duplicate, _) =>
      some (fun ledger => ledger.markDuplicate row,
        { totals with newDuplicates := totals.newDuplicates + 1 })
  | (.conflict, existing) =>
      some (fun ledger => ledger.markInvoiceConflict row (existing.map (·.status)) normalized,
        { totals with newErrors := totals.newErrors + 1 })
  | (.statusUpdate, some existing) =>
      match normalized with
      | .invoice normalized =>
          some (fun ledger => (ledger.updateInvoiceStatus existing normalized.status context.batch
            row context.actor (context.supply.auditedAt row.rowNumber)).markPosted row
              (context.supply.postedAt row.rowNumber), totals)
      | .transaction _ => none
  | _ => none

section Inserting

variable {α : Type}

/-- An insert into a table with a primary key and another unique index. -/
def insertRow (positive : Bool) (primary unique : RowLock) (primaryTaken uniqueTaken : Ledger → Bool)
    (refused accepted : Transaction RowLock Ledger α) : Transaction RowLock Ledger α :=
  if positive = true then claim primary primaryTaken refused (claim unique uniqueTaken refused accepted)
  else refused

/-- `Invoice.objects.create` in its savepoint. -/
def insertInvoiceRow (invoice : Invoice) (refused accepted : Transaction RowLock Ledger α) :
    Transaction RowLock Ledger α :=
  insertRow (decide (0 < invoice.totalAmount)) (.invoiceId invoice.id)
    (.invoiceNumber invoice.invoiceNumber invoice.sellerTaxId)
    (fun ledger => ledger.invoices.any fun row => decide (row.id = invoice.id))
    (fun ledger => (ledger.invoiceOf? invoice.invoiceNumber invoice.sellerTaxId).isSome) refused
    (write (fun ledger => ledger.addInvoice invoice) accepted)

/-- `MoneyTransaction.objects.create` in its savepoint. -/
def insertTransactionRow (money : MoneyTransaction)
    (refused accepted : Transaction RowLock Ledger α) : Transaction RowLock Ledger α :=
  insertRow (decide (0 < money.amount)) (.transactionId money.id) (.fingerprint money.fingerprint)
    (fun ledger => ledger.transactions.any fun row => decide (row.id = money.id))
    (fun ledger => ledger.hasFingerprint money.fingerprint) refused
    (write (fun ledger => ledger.addTransaction money) accepted)

/-- `_post_normalized_row` in its savepoint. -/
def postRow (context : ConfirmContext) (row : StagedRow) (normalized : Normalized)
    (refused accepted : Transaction RowLock Ledger α) : Transaction RowLock Ledger α := do
  let directory ← ask fun ledger => ledger.directory
  match normalized with
  | .invoice normalized =>
      let invoice ← orRollback (createdInvoice directory context.batch row
        (context.supply.key row.rowNumber) normalized)
      insertInvoiceRow invoice refused accepted
  | .transaction normalized =>
      let money ← orRollback (createdMoney context.env directory context.batch row
        (context.supply.key row.rowNumber) normalized)
      insertTransactionRow money refused accepted

end Inserting

/-- The writes for a row that has a counterpart. -/
def settleRow (settled : (Ledger → Ledger) × ConfirmTotals) :
    Transaction RowLock Ledger ConfirmTotals :=
  write settled.1 (done settled.2)

/-- What follows an `IntegrityError`. -/
def lookAgain (context : ConfirmContext) (row : StagedRow) (normalized : Normalized)
    (totals : ConfirmTotals) : Transaction RowLock Ledger ConfirmTotals := do
  let found ← lockFormalDisposition context.env normalized
  match settledRow context row normalized totals found with
  | some settled => settleRow settled
  | none => rollback

/-- The rest of the body of the loop, after the first look. -/
def confirmFound (context : ConfirmContext) (row : StagedRow) (normalized : Normalized)
    (totals : ConfirmTotals) (found : Disposition × Option Invoice) :
    Transaction RowLock Ledger ConfirmTotals :=
  match settledRow context row normalized totals found with
  | some settled => settleRow settled
  | none =>
      postRow context row normalized (lookAgain context row normalized totals)
        (write (fun ledger => ledger.markPosted row (context.supply.postedAt row.rowNumber))
          (done totals))

/-- The body of the loop of `confirm_batch`. -/
def confirmRowTransaction (context : ConfirmContext) (totals : ConfirmTotals) (row : StagedRow) :
    Transaction RowLock Ledger ConfirmTotals :=
  if row.issues ≠ [] then done totals
  else do
    let normalized ← orRollback (present (deserializeNormalized row.normalizedData)
      (ServiceError.library "KeyError"))
    let found ← lockFormalDisposition context.env normalized
    confirmFound context row normalized totals found

/-- A snapshot that is there must have the balance of the candidate. -/
def compareSnapshot (candidate : SnapshotCandidate) (existing : AccountBalanceSnapshot) :
    Transaction RowLock Ledger Unit :=
  if candidate.balance.IsCents existing.balance then done () else rollback

/-- `_create_balance_snapshot`. -/
def createSnapshotTransaction (batch : Uuid) (candidate : SnapshotCandidate) :
    Transaction RowLock Ledger Unit := do
  match ← firstForUpdate (fun ledger => (ledger.snapshotAt? candidate.account
      candidate.occurredAt).map fun _ => ()) (fun _ => .snapshot candidate.account
        candidate.occurredAt) fun _ ledger => ledger.snapshotAt? candidate.account
          candidate.occurredAt with
  | some existing => compareSnapshot candidate existing
  | none =>
      let balance ← orRollback (storedCents candidate.balance)
      claim (.snapshotPlace candidate.account candidate.occurredAt)
        (fun ledger => (ledger.snapshotAt? candidate.account candidate.occurredAt).isSome)
        (do
          match ← getForUpdate (.snapshot candidate.account candidate.occurredAt)
              fun ledger => ledger.snapshotAt? candidate.account candidate.occurredAt with
          | some existing => compareSnapshot candidate existing
          | none => rollback)
        (save fun ledger => { ledger with
          snapshots := ledger.snapshots ++
            [⟨candidate.account, candidate.occurredAt, balance, batch⟩] })

/-- `batch.rows.select_for_update()`, of rows in the order that a query gives. -/
def lockStagedRows (rows : Ledger → List StagedRow) :
    Transaction RowLock Ledger (List StagedRow) :=
  selectForUpdate (fun ledger => (rows ledger).map (·.id)) .stagedRow
    fun id ledger => ledger.stagedRows.find? fun row => decide (row.id = id)

/-- The posted rows of a batch. -/
def Ledger.postedRowsOf (ledger : Ledger) (batch : Uuid) : List StagedRow :=
  Ledger.orderRows (ledger.stagedRows.filter fun row =>
    decide (row.batch = batch) && row.postedAt.isSome)

/-- `_create_balance_snapshots`. -/
def createSnapshotsTransaction (batch : ImportBatch) : Transaction RowLock Ledger Unit :=
  if batch.sourceKind = .bank then do
    let _ ← lockStagedRows fun ledger => ledger.postedRowsOf batch.id
    let candidates ← ask fun ledger => ledger.latestByAccount batch.id
    candidates.foldlM (fun _ candidate => createSnapshotTransaction batch.id candidate) ()
  else done ()

/-- `confirm_batch`. -/
def confirmBatchTransaction (env : Env) (request : ConfirmRequest) :
    Transaction RowLock Ledger ImportResult := do
  orRollback (requireFinanceActor request.actor "只有财务人员可以执行导入确认")
  match ← getForUpdate (.importBatch request.batchId) fun ledger =>
      ledger.importBatch? request.batchId with
  | none => rollback
  | some batch =>
      if batch.confirmedAt.isSome = true then ask fun ledger => ledger.importResult batch
      else
        let rows ← lockStagedRows fun ledger => ledger.pendingRows batch.id
        let totals ← rows.foldlM
          (confirmRowTransaction ⟨env, batch.id, request.actor.id, request.supply⟩) ⟨0, 0⟩
        createSnapshotsTransaction batch
        let batch := confirmedBatch batch totals.newDuplicates totals.newErrors request.confirmedAt
        save fun ledger => ledger.saveBatch batch
        let result ← ask fun ledger => ledger.importResult batch
        save fun ledger => ledger.recordAudit request.actor.id "import.confirmed" "ImportBatch"
          batch.id result.asDict request.auditedAt
        return result

/-! ## Alone -/

/-- The state of the loop of `confirm_batch` with a ledger and the totals so far. -/
def ConfirmTotals.state (totals : ConfirmTotals) (ledger : Ledger) : ConfirmState :=
  ⟨ledger, totals.newDuplicates, totals.newErrors⟩

section Alone

variable {ledger after : Ledger} {context : ConfirmContext} {row : StagedRow}
  {normalized : Normalized} {totals totals' : ConfirmTotals}

theorem lockFormalDisposition_alone_bind {env : Env} {α : Type}
    {next : Disposition × Option Invoice → Transaction RowLock Ledger α} {result : α × Ledger} :
    (lockFormalDisposition env normalized >>= next).alone ledger = some result ↔
      ∃ found, ledger.formalDispositionFor env normalized = .ok found ∧
        (next found).alone ledger = some result := by
  cases normalized with
  | invoice normalized =>
      simp only [lockFormalDisposition, lockInvoiceOf, bind_assoc, Ledger.formalDispositionFor]
      rw [alone_bind, alone_firstForUpdate, Option.bind_some]
      cases found : ledger.invoiceOf? normalized.invoiceNumber normalized.sellerTaxId with
      | none => simp
      | some existing => simp
  | transaction normalized =>
      simp only [lockFormalDisposition, bind_assoc, alone_orRollback_bind, ask_bind, query_bind,
        alone_query, pure_eq, done_bind, Ledger.formalDispositionFor, bind_eq_ok]
      constructor
      · rintro ⟨fingerprint, computed, rest⟩
        exact ⟨_, ⟨fingerprint, computed, rfl⟩, rest⟩
      · rintro ⟨found, ⟨fingerprint, computed, same⟩, rest⟩
        cases same
        exact ⟨fingerprint, computed, rest⟩

theorem settle_eq_settledRow (found : Disposition × Option Invoice) :
    (totals.state ledger).settle context row normalized found =
      (settledRow context row normalized totals found).map fun settled =>
        settled.2.state (settled.1 ledger) := by
  rcases found with ⟨disposition, existing⟩
  cases disposition with
  | new => rfl
  | duplicate => rfl
  | conflict => rfl
  | statusUpdate =>
      cases existing with
      | none => rfl
      | some existing =>
          cases normalized with
          | invoice normalized => rfl
          | transaction normalized => rfl

/-- What follows an attempt to post a row. -/
def afterPost {α : Type} (refused accepted : Transaction RowLock Ledger α) (ledger : Ledger) :
    Except ServiceError Ledger → Option (α × Ledger)
  | .ok posted => accepted.alone posted
  | .error .integrity => refused.alone ledger
  | .error _ => none

theorem insertRow_alone {α : Type} {refused accepted : Transaction RowLock Ledger α}
    {positive : Bool} {primary unique : RowLock} {primaryTaken uniqueTaken : Ledger → Bool} :
    (insertRow positive primary unique primaryTaken uniqueTaken refused accepted).alone ledger =
      if positive = true ∧ primaryTaken ledger = false ∧ uniqueTaken ledger = false then
        accepted.alone ledger
      else refused.alone ledger := by
  cases positive with
  | false => simp [insertRow]
  | true =>
      cases primary : primaryTaken ledger with
      | true => simp [insertRow, primary]
      | false =>
          cases unique : uniqueTaken ledger with
          | true => simp [insertRow, primary, unique]
          | false => simp [insertRow, primary, unique]

theorem insertInvoiceRow_alone {α : Type} {refused accepted : Transaction RowLock Ledger α}
    {invoice : Invoice} : (insertInvoiceRow invoice refused accepted).alone ledger =
      if ledger.AdmitsInvoice invoice then accepted.alone (ledger.addInvoice invoice)
      else refused.alone ledger := by
  rw [insertInvoiceRow, insertRow_alone, alone_write]
  congr 1
  simp [Ledger.AdmitsInvoice, Ledger.invoiceOf?_eq_none]

theorem insertTransactionRow_alone {α : Type} {refused accepted : Transaction RowLock Ledger α}
    {money : MoneyTransaction} : (insertTransactionRow money refused accepted).alone ledger =
      if ledger.AdmitsTransaction money then accepted.alone (ledger.addTransaction money)
      else refused.alone ledger := by
  rw [insertTransactionRow, insertRow_alone, alone_write]
  congr 1
  simp [Ledger.AdmitsTransaction, Ledger.hasFingerprint_eq_false]

theorem storedCents_ne_integrity {amount : Decimal} :
    storedCents amount ≠ .error ServiceError.integrity := by
  simp only [storedCents]
  split
  · simp
  · simp

theorem createdInvoice_ne_integrity {directory : Directory} {batch key : Uuid}
    {normalized : NormalizedInvoiceRow} :
    createdInvoice directory batch row key normalized ≠ .error ServiceError.integrity := by
  simp only [createdInvoice, ne_eq, bind_eq_error, present_eq_error, require_eq_error,
    storedCents_ne_integrity, reduceCtorEq, and_false, or_false, exists_false, pure, Except.pure,
    not_false_eq_true]

theorem transactionFingerprint_ne_integrity {env : Env} {normalized : NormalizedTransactionRow} :
    transactionFingerprint env normalized ≠ .error ServiceError.integrity := by
  intro failed
  rcases bind_eq_error.mp failed with ofFields | ⟨fields, -, ofText⟩
  · rcases bind_eq_error.mp ofFields with ofCents | ⟨cents, -, rest⟩
    · simp only [quantizedCents] at ofCents
      split at ofCents
      · cases ofCents
      · cases ofCents
    · dsimp only at rest
      split at rest
      · cases rest
      · rcases bind_eq_error.mp rest with missing | ⟨occurredAt, -, ofList⟩
        · cases (present_eq_error.mp missing).2
        · cases ofList
  · cases ofText

theorem storedBalance_ne_integrity {balance : Option Decimal} :
    Ledger.storedBalance balance ≠ .error ServiceError.integrity := by
  cases balance with
  | none => simp [Ledger.storedBalance]
  | some balance =>
      intro failed
      simp only [Ledger.storedBalance] at failed
      cases stored : storedCents balance with
      | ok cents =>
          rw [stored] at failed
          cases failed
      | error error =>
          rw [stored] at failed
          cases failed
          exact storedCents_ne_integrity stored

theorem createdMoney_ne_integrity {env : Env} {directory : Directory} {batch key : Uuid}
    {normalized : NormalizedTransactionRow} :
    createdMoney env directory batch row key normalized ≠ .error ServiceError.integrity := by
  simp only [createdMoney, ne_eq, bind_eq_error, present_eq_error, require_eq_error,
    storedCents_ne_integrity, storedBalance_ne_integrity, transactionFingerprint_ne_integrity,
    reduceCtorEq, and_false, or_false, exists_false, pure, Except.pure, not_false_eq_true]

theorem postRow_alone {α : Type} {refused accepted : Transaction RowLock Ledger α} :
    (postRow context row normalized refused accepted).alone ledger =
      afterPost refused accepted ledger (ledger.postNormalizedRow context.env context.batch row
        (context.supply.key row.rowNumber) normalized) := by
  cases normalized with
  | invoice normalized =>
      simp only [postRow, ask_bind, alone_query, Ledger.postNormalizedRow, postInvoice_eq]
      cases created : createdInvoice ledger.directory context.batch row
          (context.supply.key row.rowNumber) normalized with
      | error error =>
          cases error with
          | integrity => exact absurd created createdInvoice_ne_integrity
          | _ => rfl
      | ok invoice =>
          rw [orRollback_ok, done_bind, insertInvoiceRow_alone]
          change _ = afterPost refused accepted ledger
            (require (ledger.AdmitsInvoice invoice) ServiceError.integrity >>= fun _ =>
              .ok (ledger.addInvoice invoice))
          by_cases admits : ledger.AdmitsInvoice invoice
          · rw [if_pos admits, require, if_pos admits]
            rfl
          · rw [if_neg admits, require, if_neg admits]
            rfl
  | transaction normalized =>
      simp only [postRow, ask_bind, alone_query, Ledger.postNormalizedRow, postTransaction_eq]
      cases created : createdMoney context.env ledger.directory context.batch row
          (context.supply.key row.rowNumber) normalized with
      | error error =>
          cases error with
          | integrity => exact absurd created createdMoney_ne_integrity
          | _ => rfl
      | ok money =>
          rw [orRollback_ok, done_bind, insertTransactionRow_alone]
          change _ = afterPost refused accepted ledger
            (require (ledger.AdmitsTransaction money) ServiceError.integrity >>= fun _ =>
              .ok (ledger.addTransaction money))
          by_cases admits : ledger.AdmitsTransaction money
          · rw [if_pos admits, require, if_pos admits]
            rfl
          · rw [if_neg admits, require, if_neg admits]
            rfl

theorem ConfirmTotals.state_inj :
    totals.state ledger = totals'.state after ↔ totals = totals' ∧ ledger = after := by
  cases totals
  cases totals'
  simp only [ConfirmTotals.state, ConfirmState.mk.injEq, ConfirmTotals.mk.injEq]
  tauto

theorem settleRow_alone {settled : (Ledger → Ledger) × ConfirmTotals} :
    (settleRow settled).alone ledger = some (totals', after) ↔
      settled.2.state (settled.1 ledger) = totals'.state after := by
  simp only [settleRow, alone_write, alone_done, Option.some.injEq, Prod.mk.injEq,
    ConfirmTotals.state_inj]

theorem lookAgain_alone :
    (lookAgain context row normalized totals).alone ledger = some (totals', after) ↔
      ∃ found, ledger.formalDispositionFor context.env normalized = .ok found ∧
        (totals.state ledger).settle context row normalized found = some (totals'.state after) := by
  simp only [lookAgain, lockFormalDisposition_alone_bind, settle_eq_settledRow]
  refine exists_congr fun found => and_congr_right fun _ => ?_
  cases settledRow context row normalized totals found with
  | none => simp
  | some settled => simp only [settleRow_alone, Option.map_some, Option.some.injEq]

theorem confirmRowTransaction_alone :
    (confirmRowTransaction context totals row).alone ledger = some (totals', after) ↔
      confirmRow context (totals.state ledger) row = .ok (totals'.state after) := by
  simp only [confirmRowTransaction, confirmRow]
  by_cases issues : row.issues ≠ []
  · rw [if_pos issues, if_pos issues, Except.ok.injEq, ConfirmTotals.state_inj]
    simp
  · rw [if_neg issues, if_neg issues]
    simp only [alone_orRollback_bind, lockFormalDisposition_alone_bind, bind_eq_ok, confirmFound]
    refine exists_congr fun normalized => and_congr_right fun _ => exists_congr fun found =>
      and_congr_right fun _ => ?_
    rw [settle_eq_settledRow]
    cases settledRow context row normalized totals found with
    | some settled => simp only [settleRow_alone, Option.map_some, Except.ok.injEq]
    | none =>
        simp only [Option.map_none, postRow_alone, ConfirmState.post]
        have same : (totals.state ledger).ledger = ledger := rfl
        rw [same]
        cases ledger.postNormalizedRow context.env context.batch row
            (context.supply.key row.rowNumber) normalized with
        | ok posted =>
            simp only [afterPost, alone_write, alone_done, Option.some.injEq, Prod.mk.injEq,
              Except.ok.injEq]
            exact ConfirmTotals.state_inj.symm
        | error error =>
            cases error with
            | integrity =>
                simp only [afterPost, lookAgain_alone, bind_eq_ok, present_eq_ok]
            | _ => simp [afterPost]

theorem confirmRows_alone {rows : List StagedRow} :
    (rows.foldlM (confirmRowTransaction context) totals).alone ledger = some (totals', after) ↔
      rows.foldlM (confirmRow context) (totals.state ledger) = .ok (totals'.state after) := by
  induction rows generalizing totals ledger with
  | nil =>
      simp only [List.foldlM_nil, alone_done, Option.some.injEq, Prod.mk.injEq, pure,
        Except.pure, Except.ok.injEq, ConfirmTotals.state_inj]
  | cons row rows ih =>
      simp only [List.foldlM_cons, bind_eq_ok]
      rw [alone_bind, Option.bind_eq_some_iff]
      constructor
      · rintro ⟨⟨middle, between⟩, first, rest⟩
        exact ⟨middle.state between, confirmRowTransaction_alone.mp first, ih.mp rest⟩
      · rintro ⟨⟨between, duplicates, errors⟩, first, rest⟩
        exact ⟨(⟨duplicates, errors⟩, between), confirmRowTransaction_alone.mpr first, ih.mpr rest⟩

theorem compareSnapshot_alone {candidate : SnapshotCandidate} {existing : AccountBalanceSnapshot} :
    (compareSnapshot candidate existing).alone ledger = some ((), after) ↔
      (if candidate.balance.IsCents existing.balance then Except.ok ledger
        else .error (ServiceError.rowValidation "账户余额快照冲突")) = .ok after := by
  simp only [compareSnapshot]
  split
  · simp
  · simp

theorem createSnapshotTransaction_alone {batch : Uuid} {candidate : SnapshotCandidate} :
    (createSnapshotTransaction batch candidate).alone ledger = some ((), after) ↔
      ledger.createBalanceSnapshot batch candidate = .ok after := by
  simp only [createSnapshotTransaction, Ledger.createBalanceSnapshot]
  rw [alone_bind, alone_firstForUpdate, Option.bind_some]
  have same : (ledger.snapshots.find? fun snapshot =>
      decide (snapshot.account = candidate.account ∧ snapshot.asOf = candidate.occurredAt)) =
        ledger.snapshotAt? candidate.account candidate.occurredAt := rfl
  rw [same]
  cases found : ledger.snapshotAt? candidate.account candidate.occurredAt with
  | some existing =>
      simp only [Option.map_some, Option.bind_some, compareSnapshot_alone]
  | none =>
      simp only [Option.map_none, Option.bind_none, alone_orRollback_bind, alone_claim, found,
        Option.isSome_none, Bool.false_eq_true, if_false, save, alone_write, alone_done,
        Option.some.injEq, Prod.mk.injEq, true_and, bind_eq_ok, pure, Except.pure,
        Except.ok.injEq]

theorem createSnapshots_alone {batch : Uuid} {candidates : List SnapshotCandidate} :
    (candidates.foldlM (fun _ candidate => createSnapshotTransaction batch candidate) ()).alone
        ledger = some ((), after) ↔
      candidates.foldlM (Ledger.createBalanceSnapshot batch) ledger = .ok after := by
  induction candidates generalizing ledger with
  | nil =>
      simp only [List.foldlM_nil, alone_done, Option.some.injEq, Prod.mk.injEq, true_and, pure,
        Except.pure, Except.ok.injEq]
  | cons candidate candidates ih =>
      simp only [List.foldlM_cons, bind_eq_ok]
      rw [alone_bind, Option.bind_eq_some_iff]
      constructor
      · rintro ⟨⟨⟨⟩, between⟩, first, rest⟩
        exact ⟨between, createSnapshotTransaction_alone.mp first, ih.mp rest⟩
      · rintro ⟨between, first, rest⟩
        exact ⟨((), between), createSnapshotTransaction_alone.mpr first, ih.mpr rest⟩

theorem createSnapshotsTransaction_alone {batch : ImportBatch} :
    (createSnapshotsTransaction batch).alone ledger = some ((), after) ↔
      ledger.createBalanceSnapshots batch = .ok after := by
  simp only [createSnapshotsTransaction, Ledger.createBalanceSnapshots]
  split
  · rw [lockStagedRows, alone_selectForUpdate_bind]
    exact createSnapshots_alone
  · simp

/-- Rows of the table are found again by their keys. -/
theorem filterMap_stagedRows (distinct : (ledger.stagedRows.map (·.id)).Nodup)
    {rows : List StagedRow} (ofTable : ∀ row ∈ rows, row ∈ ledger.stagedRows) :
    ((rows.map (·.id)).filterMap fun id =>
      ledger.stagedRows.find? fun row => decide (row.id = id)) = rows := by
  rw [List.filterMap_map]
  have same : rows.filterMap ((fun id => ledger.stagedRows.find? fun row =>
      decide (row.id = id)) ∘ (·.id)) = rows.filterMap some := by
    refine List.filterMap_congr fun row member => ?_
    exact (find?_eq_some_iff distinct).mpr ⟨ofTable row member, rfl⟩
  rw [same, List.filterMap_some]

theorem lockStagedRows_alone_bind {α : Type} {rows : Ledger → List StagedRow}
    {next : List StagedRow → Transaction RowLock Ledger α}
    (distinct : (ledger.stagedRows.map (·.id)).Nodup)
    (ofTable : ∀ row ∈ rows ledger, row ∈ ledger.stagedRows) :
    (lockStagedRows rows >>= next).alone ledger = (next (rows ledger)).alone ledger := by
  rw [lockStagedRows, alone_selectForUpdate_bind, filterMap_stagedRows distinct ofTable]

theorem confirmBatchTransaction_alone {env : Env} {request : ConfirmRequest} {result : ImportResult}
    (distinct : (ledger.stagedRows.map (·.id)).Nodup) :
    (confirmBatchTransaction env request).alone ledger = some (result, after) ↔
      confirmBatch env request ledger = .ok (after, result) := by
  simp only [confirmBatchTransaction, confirmBatch, alone_orRollback_bind, alone_getForUpdate_bind,
    bind_eq_ok]
  refine exists_congr fun _ => and_congr_right fun _ => ?_
  cases found : ledger.importBatch? request.batchId with
  | none => simp
  | some batch =>
      simp only [present_eq_ok, Option.some.injEq, exists_eq_left']
      by_cases repeated : batch.confirmedAt.isSome = true
      · rw [if_pos repeated, if_pos repeated]
        simp only [ask, alone_query, alone_done, Option.some.injEq, Prod.mk.injEq, pure,
          Except.pure, Except.ok.injEq]
        exact and_comm
      · rw [if_neg repeated, if_neg repeated]
        rw [lockStagedRows_alone_bind distinct fun row member => (mem_pendingRows.mp member).1]
        simp only [bind_eq_ok]
        rw [alone_bind, Option.bind_eq_some_iff]
        constructor
        · rintro ⟨⟨totals, between⟩, loop, rest⟩
          rw [alone_bind, Option.bind_eq_some_iff] at rest
          rcases rest with ⟨⟨⟨⟩, snapshotted⟩, snapshots, last⟩
          refine ⟨totals.state between, confirmRows_alone.mp loop, snapshotted,
            createSnapshotsTransaction_alone.mp snapshots, ?_⟩
          cases last
          rfl
        · rintro ⟨⟨between, duplicates, errors⟩, loop, snapshotted, snapshots, last⟩
          refine ⟨(⟨duplicates, errors⟩, between), confirmRows_alone.mpr loop, ?_⟩
          rw [alone_bind, Option.bind_eq_some_iff]
          refine ⟨((), snapshotted), createSnapshotsTransaction_alone.mpr snapshots, ?_⟩
          cases last
          rfl

end Alone

end Finrec
