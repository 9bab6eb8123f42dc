import Finrec.Imports.Preview
import Finrec.Lib.Registers

/-!
# Overlapping imports

A confirmation takes the rows of its batch one after another into a register of
invoices: under the number and the seller of an invoice stand its business
fields, the names that it came with and its status.  A row of an invoice that is
not there is entered, and one with the same fields can only end it.  Rows that
agree may be taken in either order, and so may whole batches.
-/

namespace Finrec

open Calendar Checks Registers

/-- An invoice without the keys of its row, and with the names in its source document. -/
structure InvoiceRecord where
  direction : InvoiceDirection
  invoiceNumber : String
  sellerTaxId : String
  buyerTaxId : String
  issueDate : Date
  dueDate : Option Date
  totalAmount : ℤ
  counterparty : Uuid
  names : Option (String × String)
  status : InvoiceStatus
deriving DecidableEq

namespace InvoiceRecord

/-- The row has the fields and the names of the record. -/
def Agrees (record : InvoiceRecord) (row : NormalizedInvoiceRow) : Prop :=
  (record.direction = row.direction ∧ record.invoiceNumber = row.invoiceNumber ∧
    record.sellerTaxId = row.sellerTaxId ∧ record.buyerTaxId = row.buyerTaxId ∧
    record.issueDate = row.issueDate ∧ row.totalAmount.IsCents record.totalAmount) ∧
  record.names = some (row.sellerName, row.buyerName)

instance (record : InvoiceRecord) (row : NormalizedInvoiceRow) : Decidable (record.Agrees row) :=
  inferInstanceAs (Decidable (_ ∧ _))

/-- The record that a row posts, if it has a counterparty and an amount for one. -/
def posted (directory : Directory) (row : NormalizedInvoiceRow) : Option InvoiceRecord := do
  let counterparty ← (resolveInvoiceCounterparty directory row).value
  let totalAmount ← (storedCents row.totalAmount).toOption
  return {
    direction := row.direction
    invoiceNumber := row.invoiceNumber
    sellerTaxId := row.sellerTaxId
    buyerTaxId := row.buyerTaxId
    issueDate := row.issueDate
    dueDate := none
    totalAmount := totalAmount
    counterparty := counterparty.id
    names := some (row.sellerName, row.buyerName)
    status := row.status }

/-- What stands under the key of a row once the row is taken. -/
def entry (directory : Directory) :
    Option InvoiceRecord → NormalizedInvoiceRow → Option InvoiceRecord
  | none, row => posted directory row
  | some record, row =>
      if record.Agrees row ∧ statusDisposition record.status row.status = .statusUpdate then
        some { record with status := row.status }
      else some record

end InvoiceRecord

def NormalizedInvoiceRow.key (row : NormalizedInvoiceRow) : String × String :=
  (row.invoiceNumber, row.sellerTaxId)

namespace Ledger

def record (ledger : Ledger) (invoice : Invoice) : InvoiceRecord where
  direction := invoice.direction
  invoiceNumber := invoice.invoiceNumber
  sellerTaxId := invoice.sellerTaxId
  buyerTaxId := invoice.buyerTaxId
  issueDate := invoice.issueDate
  dueDate := invoice.dueDate
  totalAmount := invoice.totalAmount
  counterparty := invoice.counterparty
  names := ledger.sourceNames invoice
  status := invoice.status

/-- The invoices of the ledger under their keys. -/
def register (ledger : Ledger) (key : String × String) : Option InvoiceRecord :=
  (ledger.invoiceOf? key.1 key.2).map ledger.record

end Ledger

/-! ## Rows that agree -/

section Agreement

variable {directory : Directory} {record : InvoiceRecord} {left right : NormalizedInvoiceRow}

/-- Two rows of one invoice agree, and at most one status besides `NORMAL` is among theirs. -/
structure RowsAgree (left right : NormalizedInvoiceRow) : Prop where
  fields : SameBusinessFields left right
  statuses : left.status ≠ .normal → right.status ≠ .normal → left.status = right.status

instance (left right : NormalizedInvoiceRow) : Decidable (RowsAgree left right) :=
  decidable_of_iff (SameBusinessFields left right ∧
    (left.status ≠ .normal → right.status ≠ .normal → left.status = right.status))
    ⟨fun agree => ⟨agree.1, agree.2⟩, fun agree => ⟨agree.fields, agree.statuses⟩⟩

theorem NormalizedInvoiceRow.eq_of_fields (same : SameBusinessFields left right) :
    right = { left with totalAmount := right.totalAmount, status := right.status } := by
  rcases same with ⟨direction, number, seller, sellerName, buyer, buyerName, issued, -⟩
  rw [direction, number, seller, sellerName, buyer, buyerName, issued]

theorem agrees_congr (same : SameBusinessFields left right) :
    record.Agrees left ↔ record.Agrees right := by
  have amounts : left.totalAmount.IsCents record.totalAmount ↔
      right.totalAmount.IsCents record.totalAmount := by
    have value := Decimal.same_iff_value_eq.mp same.2.2.2.2.2.2.2
    rw [Decimal.isCents_iff_value_eq, Decimal.isCents_iff_value_eq, value]
  rw [NormalizedInvoiceRow.eq_of_fields same]
  simp only [InvoiceRecord.Agrees, amounts]

/-- Rows that agree post the same record, but for its status. -/
theorem posted_congr (same : SameBusinessFields left right)
    (fits : left.totalAmount.places ≤ 2) :
    InvoiceRecord.posted directory right =
      (InvoiceRecord.posted directory left).map ({ · with status := right.status }) := by
  have exactly := Decimal.isCents_roundedCents fits
  have cents : right.totalAmount.roundedCents = left.totalAmount.roundedCents :=
    Decimal.roundedCents_eq ((Decimal.same_iff_isCents exactly).mp same.2.2.2.2.2.2.2)
  have stored : storedCents right.totalAmount = storedCents left.totalAmount := by
    simp only [storedCents, cents]
  have resolved : resolveInvoiceCounterparty directory right =
      resolveInvoiceCounterparty directory left := by
    rw [NormalizedInvoiceRow.eq_of_fields same]
    rfl
  rw [InvoiceRecord.posted, resolved, stored, NormalizedInvoiceRow.eq_of_fields same]
  unfold InvoiceRecord.posted
  cases (resolveInvoiceCounterparty directory left).value with
  | none => rfl
  | some counterparty => cases (storedCents left.totalAmount).toOption <;> rfl

theorem posted_agrees (fits : left.totalAmount.places ≤ 2)
    (isPosted : InvoiceRecord.posted directory left = some record) :
    record.Agrees left ∧ record.status = left.status := by
  unfold InvoiceRecord.posted at isPosted
  simp only [Option.bind_eq_bind, Option.bind_eq_some_iff, Option.pure_def,
    Option.some.injEq] at isPosted
  rcases isPosted with ⟨counterparty, -, totalAmount, stored, rfl⟩
  have cents : totalAmount = left.totalAmount.roundedCents := by
    unfold storedCents at stored
    split_ifs at stored
    · cases stored
    · exact (Option.some.inj stored).symm
  refine ⟨⟨⟨rfl, rfl, rfl, rfl, rfl, ?_⟩, rfl⟩, rfl⟩
  rw [cents]
  exact Decimal.isCents_roundedCents fits

theorem entry_of_agrees (agrees : record.Agrees left) :
    InvoiceRecord.entry directory (some record) left = some { record with
      status := if statusDisposition record.status left.status = .statusUpdate then left.status
        else record.status } := by
  simp only [InvoiceRecord.entry, agrees, true_and]
  split_ifs <;> rfl

theorem entry_of_not_agrees (differs : ¬record.Agrees left) :
    InvoiceRecord.entry directory (some record) left = some record := by
  simp [InvoiceRecord.entry, differs]

/-- Rows that agree may change places. -/
theorem entry_comm (agree : RowsAgree left right) (fits : left.totalAmount.places ≤ 2)
    (found : Option InvoiceRecord) :
    InvoiceRecord.entry directory (InvoiceRecord.entry directory found left) right =
      InvoiceRecord.entry directory (InvoiceRecord.entry directory found right) left := by
  have statuses := agree.statuses
  cases found with
  | none =>
      have congr : InvoiceRecord.posted directory right = _ := posted_congr agree.fields fits
      change InvoiceRecord.entry directory (InvoiceRecord.posted directory left) right =
        InvoiceRecord.entry directory (InvoiceRecord.posted directory right) left
      rw [congr]
      cases isPosted : InvoiceRecord.posted directory left with
      | none =>
          change InvoiceRecord.posted directory right = InvoiceRecord.posted directory left
          rw [congr, isPosted]
          rfl
      | some record =>
          rcases posted_agrees fits isPosted with ⟨agrees, status⟩
          have agreesRight : record.Agrees right := (agrees_congr agree.fields).mp agrees
          have agreesLeft : InvoiceRecord.Agrees { record with status := right.status } left := agrees
          rw [Option.map_some, entry_of_agrees agreesRight, entry_of_agrees agreesLeft, status]
          -- the end that one of them brings stays
          cases leftStatus : left.status <;> cases rightStatus : right.status <;>
            simp_all [statusDisposition]
  | some record =>
      by_cases agrees : record.Agrees left
      · have agreesRight : record.Agrees right := (agrees_congr agree.fields).mp agrees
        have kept {status : InvoiceStatus} : InvoiceRecord.Agrees { record with status := status }
            left := agrees
        have keptRight {status : InvoiceStatus} : InvoiceRecord.Agrees
            { record with status := status } right := agreesRight
        rw [entry_of_agrees agrees, entry_of_agrees agreesRight, entry_of_agrees keptRight,
          entry_of_agrees kept]
        cases record.status <;> cases leftStatus : left.status <;>
          cases rightStatus : right.status <;> simp_all [statusDisposition]
      · have differs : ¬record.Agrees right := fun agreesRight =>
          agrees ((agrees_congr agree.fields).mpr agreesRight)
        simp only [entry_of_not_agrees agrees, entry_of_not_agrees differs]

end Agreement

/-! ## A row that is taken -/

def Normalized.invoice? : Normalized → Option NormalizedInvoiceRow
  | .invoice row => some row
  | .transaction _ => none

namespace StagedRow

/-- The invoice in the document of a row. -/
def document? (row : StagedRow) : Option NormalizedInvoiceRow :=
  (deserializeNormalized row.normalizedData).bind Normalized.invoice?

/-- The invoice of a row without issues. -/
def invoice? (row : StagedRow) : Option NormalizedInvoiceRow :=
  if row.issues ≠ [] then none else row.document?

theorem document?_eq_some {row : StagedRow} {invoice : NormalizedInvoiceRow} :
    row.document? = some invoice ↔
      deserializeNormalized row.normalizedData = some (.invoice invoice) := by
  unfold document?
  cases deserializeNormalized row.normalizedData with
  | none => simp
  | some normalized => cases normalized <;> simp [Normalized.invoice?]

end StagedRow

/-- The register after a row of an invoice. -/
abbrev takeInvoice (directory : Directory) :
    (String × String → Option InvoiceRecord) → NormalizedInvoiceRow →
      String × String → Option InvoiceRecord :=
  take NormalizedInvoiceRow.key (InvoiceRecord.entry directory)

/-- The register after a row of any kind. -/
def takeRow (directory : Directory) (register : String × String → Option InvoiceRecord)
    (row : StagedRow) : String × String → Option InvoiceRecord :=
  match row.invoice? with
  | none => register
  | some normalized => takeInvoice directory register normalized

section Step

variable {ledger after : Ledger} {invoice later : Invoice} {row : NormalizedInvoiceRow}

namespace Ledger

theorem record_congr (documents : after.documents = ledger.documents)
    (same : later = { invoice with status := later.status }) :
    after.record later = { ledger.record invoice with status := later.status } := by
  have names : after.sourceNames later = ledger.sourceNames invoice := by
    have source : after.sourceData later = ledger.sourceData invoice := by
      apply sourceData_congr documents
      · rw [same]
      · rw [same]
    rw [sourceNames, source, sourceNames]
  rw [record, names, same]
  rfl

theorem register_congr (documents : after.documents = ledger.documents)
    (invoices : after.invoices = ledger.invoices) : after.register = ledger.register := by
  funext key
  have found : after.invoiceOf? key.1 key.2 = ledger.invoiceOf? key.1 key.2 := by
    simp only [invoiceOf?, invoices]
  unfold register
  rw [found]
  cases ledger.invoiceOf? key.1 key.2 with
  | none => rfl
  | some invoice => exact congrArg some (record_congr documents rfl)

theorem record_agrees_iff (documented : ledger.Documented) (member : invoice ∈ ledger.invoices) :
    (ledger.record invoice).Agrees row ↔ ledger.BusinessFieldsMatch invoice row := by
  rcases documented.named invoice member with ⟨names, named⟩
  simp only [InvoiceRecord.Agrees, BusinessFieldsMatch, record, named,
    namesMatch_sourceData_iff named, Option.some.injEq]

/-- A row that is neither new nor a status update leaves the register alone. -/
theorem takeInvoice_of_kept {env : Env} {disposition : Disposition} {existing : Option Invoice}
    (documented : ledger.Documented)
    (found : ledger.formalDispositionFor env (.invoice row) = .ok (disposition, existing))
    (notNew : disposition ≠ .new) (noUpdate : disposition ≠ .statusUpdate) :
    takeInvoice ledger.directory ledger.register row = ledger.register := by
  apply take_eq_self
  simp only [formalDispositionFor] at found
  change InvoiceRecord.entry _ ((ledger.invoiceOf? row.invoiceNumber row.sellerTaxId).map _) row =
    (ledger.invoiceOf? row.invoiceNumber row.sellerTaxId).map _
  split at found
  · cases found
    exact absurd rfl notNew
  · rename_i invoice isFound
    simp only [Except.ok.injEq, Prod.mk.injEq, invoiceDisposition] at found
    rcases found with ⟨rfl, -⟩
    rw [isFound, Option.map_some, InvoiceRecord.entry, if_neg]
    rintro ⟨agrees, update⟩
    rw [record_agrees_iff documented (invoiceOf?_eq_some isFound).1] at agrees
    rw [if_pos agrees] at noUpdate
    exact noUpdate update

/-- A status update is what the register makes of the row. -/
theorem register_updateInvoiceStatus (sound : ledger.Sound) (documented : ledger.Documented)
    (found : ledger.invoiceOf? row.invoiceNumber row.sellerTaxId = some invoice)
    (fieldsMatch : ledger.BusinessFieldsMatch invoice row) (normal : invoice.status = .normal)
    (ended : row.status = .red ∨ row.status = .void) (batch : Uuid) (staged : StagedRow)
    (actor : Uuid) (now : ℤ) :
    (ledger.updateInvoiceStatus invoice row.status batch staged actor now).register =
      takeInvoice ledger.directory ledger.register row := by
  funext key
  by_cases own : key = row.key
  · subst own
    have agrees := (record_agrees_iff documented (invoiceOf?_eq_some found).1).mpr fieldsMatch
    have update : statusDisposition (ledger.record invoice).status row.status = .statusUpdate :=
      statusDisposition_eq_statusUpdate.mpr ⟨normal, ended⟩
    have before : ledger.register row.key = some (ledger.record invoice) := by
      change (ledger.invoiceOf? row.invoiceNumber row.sellerTaxId).map _ = _
      rw [found, Option.map_some]
    unfold takeInvoice take
    rw [Function.update_self, before, InvoiceRecord.entry, if_pos ⟨agrees, update⟩]
    change Option.map _ (invoiceOf? _ row.invoiceNumber row.sellerTaxId) = _
    rw [invoiceOf?_updateInvoiceStatus, found, Option.map_some, Option.map_some]
    have status : (invoice.withStatus invoice.id row.status).status = row.status := by
      simp [Invoice.withStatus]
    have updated : (ledger.updateInvoiceStatus invoice row.status batch staged actor now).record
        (invoice.withStatus invoice.id row.status) = { ledger.record invoice with
          status := (invoice.withStatus invoice.id row.status).status } :=
      record_congr rfl (Invoice.withStatus_eq ..)
    rw [updated, status]
  · have other : DuplicateKey.invoice key.1 key.2 ≠ .invoice row.invoiceNumber row.sellerTaxId := by
      intro same
      injection same with number seller
      exact own (Prod.ext number seller)
    have kept : ((ledger.updateInvoiceStatus invoice row.status batch staged actor now).invoiceOf?
        key.1 key.2, false) = (ledger.invoiceOf? key.1 key.2, false) :=
      underKey_updateInvoiceStatus sound.invoiceIds found other
    unfold takeInvoice take
    rw [Function.update_of_ne own]
    change Option.map _ (invoiceOf? _ key.1 key.2) = Option.map _ _
    rw [(Prod.mk.inj kept).1]
    rfl

/-- A new invoice is what the register makes of the row. -/
theorem register_postInvoice {batch : Uuid} {staged : StagedRow} {key : Uuid}
    (documented : ledger.Documented)
    (placed : ((batch, staged.rowNumber), staged.normalizedData) ∈ ledger.documents)
    (decoded : deserializeNormalized staged.normalizedData = some (.invoice row))
    (fresh : ledger.invoiceOf? row.invoiceNumber row.sellerTaxId = none)
    (inserted : ledger.postInvoice batch staged key row = .ok after) :
    after.register = takeInvoice ledger.directory ledger.register row := by
  rcases postInvoice_eq_ok inserted with ⟨counterparty, totalAmount, resolved, stored, -, rfl⟩
  funext other
  by_cases own : other = row.key
  · subst own
    have before : ledger.register row.key = none := by
      change (ledger.invoiceOf? row.invoiceNumber row.sellerTaxId).map _ = none
      rw [fresh]
      rfl
    have found : (ledger.addInvoice (invoiceOfRow batch staged key row counterparty.id
        totalAmount)).invoiceOf? row.invoiceNumber row.sellerTaxId =
          some (invoiceOfRow batch staged key row counterparty.id totalAmount) :=
      invoiceOf?_addInvoice_self (invoiceOfRow batch staged key row counterparty.id totalAmount) fresh
    have source : ledger.sourceData (invoiceOfRow batch staged key row counterparty.id totalAmount) =
        some staged.normalizedData := (sourceData_eq_some_iff documented.distinct).mpr placed
    have names : ledger.sourceNames (invoiceOfRow batch staged key row counterparty.id totalAmount) =
        some (row.sellerName, row.buyerName) := by
      rw [sourceNames, source, Option.bind_some]
      exact names?_of_deserialize decoded
    unfold takeInvoice take
    rw [Function.update_self, before]
    change Option.map _ (invoiceOf? _ row.invoiceNumber row.sellerTaxId) =
      InvoiceRecord.posted ledger.directory row
    rw [found, Option.map_some, InvoiceRecord.posted, resolved, stored]
    change some (ledger.record _) = _
    rw [record, names]
    rfl
  · have different : DuplicateKey.invoice other.1 other.2 ≠
        .invoice row.invoiceNumber row.sellerTaxId := by
      intro same
      injection same with number seller
      exact own (Prod.ext number seller)
    have kept : ((ledger.addInvoice (invoiceOfRow batch staged key row counterparty.id
        totalAmount)).invoiceOf? other.1 other.2, false) =
          (ledger.invoiceOf? other.1 other.2, false) :=
      underKey_addInvoice ledger (invoiceOfRow batch staged key row counterparty.id totalAmount)
        different
    unfold takeInvoice take
    rw [Function.update_of_ne own]
    change Option.map _ (invoiceOf? _ other.1 other.2) = Option.map _ _
    rw [(Prod.mk.inj kept).1]
    rfl

end Ledger

section Taken

variable {staged : StagedRow} {directory : Directory}
  {register : String × String → Option InvoiceRecord}

theorem takeRow_of_issues (issues : staged.issues ≠ []) :
    takeRow directory register staged = register := by
  simp [takeRow, StagedRow.invoice?, issues]

theorem takeRow_invoice (clean : staged.issues = [])
    (decoded : deserializeNormalized staged.normalizedData = some (.invoice row)) :
    takeRow directory register staged = takeInvoice directory register row := by
  simp [takeRow, StagedRow.invoice?, clean, StagedRow.document?_eq_some.mpr decoded]

theorem takeRow_transaction {money : NormalizedTransactionRow}
    (decoded : deserializeNormalized staged.normalizedData = some (.transaction money)) :
    takeRow directory register staged = register := by
  simp [takeRow, StagedRow.invoice?, StagedRow.document?, decoded, Normalized.invoice?]

end Taken

/-- A row that is neither new nor a status update is not taken. -/
theorem takeRow_of_kept {env : Env} {staged : StagedRow} {normalized : Normalized}
    {disposition : Disposition} {existing : Option Invoice} (documented : ledger.Documented)
    (clean : staged.issues = [])
    (decoded : deserializeNormalized staged.normalizedData = some normalized)
    (found : ledger.formalDispositionFor env normalized = .ok (disposition, existing))
    (notNew : disposition ≠ .new) (noUpdate : disposition ≠ .statusUpdate) :
    takeRow ledger.directory ledger.register staged = ledger.register := by
  cases normalized with
  | invoice row =>
      rw [takeRow_invoice clean decoded]
      exact Ledger.takeInvoice_of_kept documented found notNew noUpdate
  | transaction money => exact takeRow_transaction decoded

/-- A step of the confirmation loop takes its row into the register. -/
theorem RowOutcome.register {context : ConfirmContext} {state next : ConfirmState}
    {staged : StagedRow} (outcome : RowOutcome context state staged next)
    (sound : state.ledger.Sound) (documented : state.ledger.Documented)
    (placed : AtPlace context state.ledger staged) :
    next.ledger.register = takeRow state.ledger.directory state.ledger.register staged ∧
      next.ledger.directory = state.ledger.directory := by
  have documents := outcome.documents
  cases outcome with
  | skipped issues => exact ⟨(takeRow_of_issues issues).symm, rfl⟩
  | duplicate normalized existing clean decoded found =>
      refine ⟨?_, rfl⟩
      rw [takeRow_of_kept documented clean decoded found (by simp) (by simp)]
      exact Ledger.register_congr documents rfl
  | conflict normalized existing clean decoded found =>
      refine ⟨?_, rfl⟩
      rw [takeRow_of_kept documented clean decoded found (by simp) (by simp)]
      exact Ledger.register_congr documents rfl
  | statusUpdate normalized existing clean decoded found =>
      rcases Ledger.formalDispositionFor_statusUpdate found with
        ⟨_, _, sameRow, sameInvoice, isFound, fieldsMatch, normal, ended⟩
      cases sameRow
      cases sameInvoice
      refine ⟨?_, rfl⟩
      rw [takeRow_invoice clean decoded, ← Ledger.register_updateInvoiceStatus sound documented
        isFound fieldsMatch normal ended context.batch staged context.actor
        (context.supply.auditedAt staged.rowNumber)]
      exact Ledger.register_congr documents rfl
  | posted normalized ledger clean decoded found inserted =>
      cases normalized with
      | invoice row =>
          have fresh := (Ledger.formalDispositionFor_new found).2
          rw [takeRow_invoice clean decoded,
            ← Ledger.register_postInvoice documented placed decoded fresh inserted]
          rcases Ledger.postInvoice_eq_ok inserted with ⟨_, _, -, -, -, rfl⟩
          exact ⟨Ledger.register_congr documents rfl, rfl⟩
      | transaction row =>
          rw [takeRow_transaction decoded]
          rcases Ledger.postTransaction_eq_ok inserted with
            ⟨_, _, _, _, _, -, -, -, -, -, -, rfl⟩
          exact ⟨Ledger.register_congr documents rfl, rfl⟩

end Step

/-! ## A batch that is taken -/

section Batch

variable {env : Env} {ledger after : Ledger} {request : ConfirmRequest} {result : ImportResult}

/-- The loop of a confirmation takes its rows into the register. -/
theorem confirmLoop_register {context : ConfirmContext} {start state : ConfirmState}
    {rows : List StagedRow} (sound : start.ledger.Sound) (documented : start.ledger.Documented)
    (placed : ∀ row ∈ rows, AtPlace context start.ledger row)
    (succeeded : rows.foldlM (confirmRow context) start = .ok state) :
    state.ledger.register =
        rows.foldl (takeRow start.ledger.directory) start.ledger.register ∧
      state.ledger.directory = start.ledger.directory := by
  induction rows generalizing start with
  | nil =>
      cases succeeded
      exact ⟨rfl, rfl⟩
  | cons row rest ih =>
      simp only [List.foldlM_cons, bind_eq_ok] at succeeded
      rcases succeeded with ⟨middle, first, succeeded⟩
      have outcome := confirmRow_outcome first
      have here := placed row List.mem_cons_self
      have placedRest : ∀ other ∈ rest, AtPlace context middle.ledger other := by
        intro other later
        rw [AtPlace, outcome.documents]
        exact placed other (List.mem_cons_of_mem _ later)
      rcases outcome.register sound documented here with ⟨taken, directory⟩
      rcases ih (outcome.sound sound) (outcome.documented documented here) placedRest succeeded
        with ⟨takenRest, directoryRest⟩
      rw [takenRest, taken, directory]
      exact ⟨rfl, directoryRest.trans directory⟩

namespace Ledger

/-- The invoices that a confirmation of the batch would take. -/
def waitingInvoices (ledger : Ledger) (batch : Uuid) : List NormalizedInvoiceRow :=
  if (ledger.importBatch? batch).any fun found => found.confirmedAt.isSome then []
  else (ledger.pendingRows batch).filterMap StagedRow.invoice?

end Ledger

/-- A confirmation takes the waiting invoices of its batch into the register. -/
theorem confirmBatch_register (sound : ledger.Sound) (documented : ledger.Documented)
    (succeeded : confirmBatch env request ledger = .ok (after, result)) :
    after.register =
        (ledger.waitingInvoices request.batchId).foldl (takeInvoice ledger.directory)
          ledger.register ∧
      after.directory = ledger.directory := by
  rw [confirmBatch_eq_ok] at succeeded
  rcases succeeded with ⟨-, ⟨batch, found, repeated, rfl, -⟩ |
    ⟨batch, state, snapshotted, confirmed, rfl, -⟩⟩
  · simp [Ledger.waitingInvoices, found, repeated]
  have batchId : batch.id = request.batchId := (importBatch?_eq_some confirmed.batchFound).2
  have placed : ∀ row ∈ ledger.pendingRows batch.id,
      AtPlace ⟨env, batch.id, request.actor.id, request.supply⟩ ledger row := by
    intro row member
    have pending := mem_pendingRows.mp member
    exact atPlace_of_mem pending.1 pending.2.1
  rcases confirmLoop_register sound documented placed confirmed.loop with ⟨taken, directory⟩
  have waiting : ledger.waitingInvoices request.batchId =
      (ledger.pendingRows batch.id).filterMap StagedRow.invoice? := by
    rw [Ledger.waitingInvoices, confirmed.batchFound, batchId]
    simp [confirmed.unconfirmed]
  have rows : (ledger.pendingRows batch.id).foldl (takeRow ledger.directory) ledger.register =
      (ledger.waitingInvoices request.batchId).foldl (takeInvoice ledger.directory)
        ledger.register := by
    rw [waiting, List.foldl_filterMap]
    congr 1
    funext register row
    unfold takeRow
    cases row.invoice? <;> rfl
  have snapshots := createBalanceSnapshots_eq confirmed.snapshots
  rw [← rows, ← taken]
  constructor
  · apply Ledger.register_congr
    · rw [Ledger.documents, confirmed.stagedRows, Ledger.documents]
    · change snapshotted.invoices = _
      rw [snapshots]
  · change snapshotted.directory = _
    rw [snapshots]
    exact directory

/-- The rows of another batch stay as they are. -/
theorem StepEffect.filter_other {row : StagedRow} {state next : ConfirmState}
    {change : StagedRow → StagedRow} {duplicates errors : ℤ}
    (step : StepEffect row state next change duplicates errors)
    (distinct : (state.ledger.stagedRows.map (·.id)).Nodup)
    (member : row ∈ state.ledger.stagedRows) {other : Uuid} (different : other ≠ row.batch) :
    next.ledger.stagedRows.filter (·.batch = other) =
      state.ledger.stagedRows.filter (·.batch = other) := by
  rw [step.rows]
  apply Tables.filter_update distinct member
  · simpa using different.symm
  · simpa [(step.effect.keeps row).2.1] using different.symm

theorem confirmLoop_filter_other {context : ConfirmContext} {batch : ImportBatch} {start : Ledger}
    {state next : ConfirmState} {waiting : List StagedRow} (keyed : start.ImportKeyed)
    (tally : LoopTally batch start state waiting)
    (succeeded : waiting.foldlM (confirmRow context) state = .ok next) {other : Uuid}
    (different : other ≠ batch.id) :
    next.ledger.stagedRows.filter (·.batch = other) =
      state.ledger.stagedRows.filter (·.batch = other) := by
  refine (foldlM_induction (fun reached rest => LoopTally batch start reached rest ∧
    reached.ledger.stagedRows.filter (·.batch = other) =
      state.ledger.stagedRows.filter (·.batch = other)) ?_ ⟨tally, rfl⟩ succeeded).2
  rintro before row rest after ⟨tallied, same⟩ succeeded
  refine ⟨tallied.step keyed succeeded, ?_⟩
  rcases (confirmRow_outcome succeeded).effect with ⟨change, duplicates, errors, step⟩
  have distinct : (before.ledger.stagedRows.map (·.id)).Nodup := by
    rw [tallied.keys]
    exact keyed.rowIds
  have ofBatch : row.batch = batch.id := tallied.rows.ofBatch row List.mem_cons_self
  rw [← same]
  apply step.filter_other distinct (tallied.rows.member row List.mem_cons_self)
  rw [ofBatch]
  exact different

/-- A confirmation of one batch leaves another one as it is. -/
theorem waitingInvoices_confirmBatch (tallies : ledger.Tallies)
    (succeeded : confirmBatch env request ledger = .ok (after, result)) {other : Uuid}
    (different : other ≠ request.batchId) :
    after.waitingInvoices other = ledger.waitingInvoices other := by
  have afterTallies := confirmBatch_tallies tallies succeeded
  rw [confirmBatch_eq_ok] at succeeded
  rcases succeeded with ⟨-, ⟨batch, -, -, rfl, -⟩ | ⟨batch, state, snapshotted, confirmed, rfl, -⟩⟩
  · rfl
  have batchId : batch.id = request.batchId := (importBatch?_eq_some confirmed.batchFound).2
  rw [← batchId] at different
  have tallied := tallies.tallied batch (importBatch?_eq_some confirmed.batchFound).1
  have started : LoopTally batch ledger ⟨ledger, 0, 0⟩ (ledger.pendingRows batch.id) :=
    .start tallies.keyed tallied confirmed.unconfirmed
  have rows : (confirmedLedger request batch state snapshotted).stagedRows.filter
      (·.batch = other) = ledger.stagedRows.filter (·.batch = other) := by
    rw [confirmed.stagedRows]
    exact confirmLoop_filter_other tallies.keyed started confirmed.loop different
  have pending (reached : Ledger) : reached.pendingRows other =
      Ledger.orderRows ((reached.stagedRows.filter (·.batch = other)).filter fun row =>
        row.postedAt.isNone && !row.isDuplicate) := by
    unfold Ledger.pendingRows
    rw [List.filter_filter]
    congr 2
    funext row
    rw [Bool.and_assoc, Bool.and_comm]
  have found : (confirmedLedger request batch state snapshotted).importBatch? other =
      ledger.importBatch? other := by
    apply Option.ext
    intro found
    rw [importBatch?_eq_some_iff afterTallies.keyed, importBatch?_eq_some_iff tallies.keyed,
      confirmed.importBatches tallies]
    refine and_congr_left ?_
    rintro rfl
    constructor
    · intro member
      rcases mem_saveBatch member with ⟨old, -⟩ | rfl
      · exact old
      · exact absurd rfl different
    · intro member
      exact Tables.mem_update_of_ne member different
  simp only [Ledger.waitingInvoices, found, pending, rows]

end Batch

/-! ## Documents that fit -/

/-- The documents of staged rows give rows whose amounts fit their columns. -/
def Ledger.Fitted (ledger : Ledger) : Prop :=
  ∀ entry ∈ ledger.documents, ∀ normalized, deserializeNormalized entry.2 = some normalized →
    normalized.FitsColumns

theorem prepareStagedRow_document {env : Env} {base : Ledger} {sourceKind : SourceKind}
    {row : ParsedRow} {state next : PrepareState} {prepared : PreparedRow}
    (succeeded : prepareStagedRow env base sourceKind row state = .ok (prepared, next)) :
    prepared.normalizedData = .empty ∨ ∃ normalized, row.normalized = some normalized ∧
      rowIssues env base.directory sourceKind row = [] ∧
      prepared.normalizedData = serializeNormalized normalized := by
  simp only [prepareStagedRow] at succeeded
  split at succeeded
  · rename_i normalized clean isNormalized
    simp only [prepareValidRow, bind_eq_ok, pure, Except.pure, Except.ok.injEq] at succeeded
    rcases succeeded with ⟨key, keyed, ⟨disposition, status⟩, compared, same⟩
    cases disposition <;> cases same
    · exact .inr ⟨normalized, isNormalized, clean, rfl⟩
    · exact .inr ⟨normalized, isNormalized, clean, rfl⟩
    · exact .inr ⟨normalized, isNormalized, clean, rfl⟩
    · exact .inl rfl
  · cases succeeded
    exact .inl rfl
  · cases succeeded
    exact .inl rfl

/-- The document of a prepared row is the one of a valid row of the file. -/
theorem prepareLoop_document {env : Env} {base : Ledger} {sourceKind : SourceKind} {rowCount : ℕ}
    {rows : List ParsedRow} {state next : PrepareState} {prepared : List PreparedRow}
    (succeeded : prepareLoop env base sourceKind rowCount rows state = .ok (prepared, next))
    {row : PreparedRow} (member : row ∈ prepared) {normalized : Normalized}
    (decoded : deserializeNormalized row.normalizedData = some normalized) :
    ∃ parsed ∈ rows, parsed.normalized = some normalized ∧
      rowIssues env base.directory sourceKind parsed = [] := by
  induction rows generalizing rowCount state prepared with
  | nil =>
      cases succeeded
      cases member
  | cons first rows ih =>
      simp only [prepareLoop] at succeeded
      split at succeeded
      · simp at succeeded
      simp only [bind_eq_ok, pure, Except.pure, Except.ok.injEq, Prod.mk.injEq] at succeeded
      rcases succeeded with ⟨⟨head, middle⟩, headPrepared, ⟨rest, last⟩, tail, rfl, rfl⟩
      rcases List.mem_cons.mp member with rfl | later
      · rcases prepareStagedRow_document headPrepared with
          empty | ⟨original, isNormalized, clean, document⟩
        · rw [empty] at decoded
          cases decoded
        · rw [document, deserializeNormalized_serializeNormalized] at decoded
          cases decoded
          exact ⟨first, List.mem_cons_self, isNormalized, clean⟩
      · rcases ih tail later with ⟨parsed, parsedMem, found⟩
        exact ⟨parsed, List.mem_cons_of_mem _ parsedMem, found⟩

theorem Ledger.Fitted.of_stageUpload {env : Env} {ledger after : Ledger} {request : StageRequest}
    {batch : ImportBatch} (fitted : ledger.Fitted)
    (succeeded : stageUpload env (defaultParsers env) request ledger = .ok (after, batch)) :
    after.Fitted := by
  rcases stagedFile_of_stageUpload succeeded with ⟨_, _, prepared, state, -, -, file⟩
  intro entry member normalized decoded
  rw [documents, file.adds.rows, List.map_append, List.mem_append] at member
  rcases member with old | new
  · exact fitted entry old normalized decoded
  · rcases List.mem_map.mp new with ⟨staged, stagedMem, rfl⟩
    rcases List.mem_map.mp stagedMem with ⟨row, rowMem, rfl⟩
    rcases prepareLoop_document file.loop rowMem decoded with ⟨parsed, parsedMem, isNormalized, -⟩
    intro invoice same
    exact file.wellParsed.fits parsed parsedMem invoice (same ▸ isNormalized)

theorem confirmLoop_documents {context : ConfirmContext} {rows : List StagedRow}
    {first last : ConfirmState} (loop : rows.foldlM (confirmRow context) first = .ok last) :
    last.ledger.documents = first.ledger.documents := by
  refine foldlM_induction (fun reached _ => reached.ledger.documents = first.ledger.documents) ?_
    rfl loop
  intro before row rest next same succeeded
  exact (confirmRow_outcome succeeded).documents.trans same

/-- A confirmation leaves the documents of the staged rows alone. -/
theorem Confirmed.documents {env : Env} {request : ConfirmRequest} {ledger snapshotted : Ledger}
    {batch : ImportBatch} {state : ConfirmState}
    (confirmed : Confirmed env request ledger batch state snapshotted) :
    (confirmedLedger request batch state snapshotted).documents = ledger.documents := by
  rw [Ledger.documents, confirmed.stagedRows]
  exact confirmLoop_documents confirmed.loop

theorem Ledger.Fitted.of_confirmBatch {env : Env} {request : ConfirmRequest}
    {ledger after : Ledger} {result : ImportResult} (fitted : ledger.Fitted)
    (succeeded : confirmBatch env request ledger = .ok (after, result)) : after.Fitted := by
  rw [confirmBatch_eq_ok] at succeeded
  rcases succeeded with ⟨-, ⟨batch, -, -, rfl, -⟩ | ⟨batch, state, snapshotted, confirmed, rfl, -⟩⟩
  · exact fitted
  rw [Fitted, confirmed.documents]
  exact fitted

theorem run_fitted (env : Env) (directory : Directory) (operations : List Operation) :
    (run ⟨env, defaultParsers env⟩ directory operations).Fitted := by
  refine runFrom_induction Ledger.Fitted (by simp [Ledger.Fitted, Ledger.empty, Ledger.documents])
    ?_ operations
  intro before after operation fitted succeeded
  rcases perform_cases succeeded with ⟨request, batch, -, staged⟩ | ⟨request, result, -, confirmed⟩ |
    same
  · exact fitted.of_stageUpload staged
  · exact fitted.of_confirmBatch confirmed
  · have documents : after.documents = before.documents := by
      rw [Ledger.documents, same.rows, Ledger.documents]
    rw [Ledger.Fitted, documents]
    exact fitted

/-! ## Two batches in either order -/

namespace Ledger

/-- The invoices in the documents of a batch. -/
def invoiceRows (ledger : Ledger) (batch : Uuid) : List NormalizedInvoiceRow :=
  (ledger.stagedRows.filter (·.batch = batch)).filterMap StagedRow.document?

/-- Rows of two batches for one invoice agree on its business fields and its names, and use at most
one status besides `NORMAL`. -/
def BatchesAgree (ledger : Ledger) (first second : Uuid) : Prop :=
  ∀ left ∈ ledger.invoiceRows first ++ ledger.invoiceRows second,
    ∀ right ∈ ledger.invoiceRows first ++ ledger.invoiceRows second,
      left.key = right.key → RowsAgree left right

instance (ledger : Ledger) (first second : Uuid) : Decidable (ledger.BatchesAgree first second) :=
  inferInstanceAs (Decidable (∀ left ∈ ledger.invoiceRows first ++ ledger.invoiceRows second,
    ∀ right ∈ ledger.invoiceRows first ++ ledger.invoiceRows second,
      left.key = right.key → RowsAgree left right))

theorem waitingInvoices_subset {ledger : Ledger} {batch : Uuid} :
    ledger.waitingInvoices batch ⊆ ledger.invoiceRows batch := by
  intro row waiting
  unfold waitingInvoices at waiting
  split_ifs at waiting
  · cases waiting
  · rcases List.mem_filterMap.mp waiting with ⟨staged, member, isInvoice⟩
    have pending := mem_pendingRows.mp member
    unfold StagedRow.invoice? at isInvoice
    split_ifs at isInvoice
    refine List.mem_filterMap.mpr ⟨staged, ?_, isInvoice⟩
    exact List.mem_filter.mpr ⟨pending.1, by simpa using pending.2.1⟩

theorem Fitted.places {ledger : Ledger} (fitted : ledger.Fitted) {batch : Uuid}
    {row : NormalizedInvoiceRow} (member : row ∈ ledger.invoiceRows batch) :
    row.totalAmount.places ≤ 2 := by
  rcases List.mem_filterMap.mp member with ⟨staged, stagedMem, document⟩
  have placed := List.mem_map_of_mem (f := fun row : StagedRow =>
    ((row.batch, row.rowNumber), row.normalizedData)) (List.mem_filter.mp stagedMem).1
  exact fitted _ placed _ (StagedRow.document?_eq_some.mp document) row rfl

end Ledger

theorem Ledger.mem_records_iff {ledger : Ledger} (keyed : ledger.Keyed) {record : InvoiceRecord} :
    record ∈ ledger.invoices.map ledger.record ↔
      ledger.register (record.invoiceNumber, record.sellerTaxId) = some record := by
  have found {invoice : Invoice} {number seller : String} :
      ledger.invoiceOf? number seller = some invoice ↔
        invoice ∈ ledger.invoices ∧ (invoice.invoiceNumber, invoice.sellerTaxId) =
          (number, seller) := by
    rw [← Totals.find?_eq_some_iff keyed.invoiceKeys]
    simp only [invoiceOf?, Prod.mk.injEq]
  unfold register
  rw [Option.map_eq_some_iff, List.mem_map]
  constructor
  · rintro ⟨invoice, member, rfl⟩
    exact ⟨invoice, found.mpr ⟨member, rfl⟩, rfl⟩
  · rintro ⟨invoice, isFound, same⟩
    exact ⟨invoice, (found.mp isFound).1, same⟩

/-- Ledgers with the same register have the same invoices. -/
theorem Ledger.records_perm {ledger other : Ledger} (keyed : ledger.Keyed) (otherKeyed : other.Keyed)
    (same : ledger.register = other.register) :
    (ledger.invoices.map ledger.record).Perm (other.invoices.map other.record) := by
  have distinct {reached : Ledger} (reachedKeyed : reached.Keyed) :
      (reached.invoices.map reached.record).Nodup := by
    apply List.Nodup.of_map fun record => (record.invoiceNumber, record.sellerTaxId)
    rw [List.map_map]
    exact reachedKeyed.invoiceKeys
  rw [List.perm_ext_iff_of_nodup (distinct keyed) (distinct otherKeyed)]
  intro record
  rw [mem_records_iff keyed, mem_records_iff otherKeyed, same]

theorem run_confirmBatch {site : Installation} {directory : Directory}
    {operations : List Operation} {request : ConfirmRequest} {after : Ledger}
    {result : ImportResult}
    (succeeded : confirmBatch site.env request (run site directory operations) =
      .ok (after, result)) :
    after = run site directory (operations ++ [.confirmBatch request]) := by
  rw [run_snoc, Operation.step, Operation.perform, succeeded]
  rfl

/-- The register after two confirmations is the one of the rows of both batches. -/
theorem register_confirmBatch_twice {env : Env} {directory : Directory}
    {operations : List Operation} {first second : ConfirmRequest} {middle after : Ledger}
    {result result' : ImportResult} (different : first.batchId ≠ second.batchId)
    (confirmsFirst : confirmBatch env first
      (run ⟨env, defaultParsers env⟩ directory operations) = .ok (middle, result))
    (confirmsSecond : confirmBatch env second middle = .ok (after, result')) :
    after.Keyed ∧ after.register =
      ((run ⟨env, defaultParsers env⟩ directory operations).waitingInvoices first.batchId ++
        (run ⟨env, defaultParsers env⟩ directory operations).waitingInvoices second.batchId).foldl
          (takeInvoice (run ⟨env, defaultParsers env⟩ directory operations).directory)
          (run ⟨env, defaultParsers env⟩ directory operations).register := by
  have tallies := run_tallies ⟨env, defaultParsers env⟩ directory operations
  have takesFirst := confirmBatch_register (run_sound _ directory operations)
    (run_documented _ directory operations) confirmsFirst
  have waiting := waitingInvoices_confirmBatch tallies confirmsFirst different.symm
  have reached : middle = run ⟨env, defaultParsers env⟩ directory
      (operations ++ [.confirmBatch first]) := run_confirmBatch confirmsFirst
  subst reached
  have takesSecond := confirmBatch_register (run_sound _ directory _)
    (run_documented _ directory _) confirmsSecond
  refine ⟨?_, ?_⟩
  · rw [run_confirmBatch confirmsSecond]
    exact run_keyed _ directory _
  · rw [takesSecond.1, waiting, takesFirst.1, takesFirst.2, List.foldl_append]

/-- Confirming two staged batches in either order gives the same invoices, when the rows of both for
one invoice agree and use at most one status besides `NORMAL`. -/
theorem overlapping_imports_commute (env : Env) (directory : Directory)
    (operations : List Operation) {first second first' second' : ConfirmRequest}
    {middle middle' after after' : Ledger} {result result' other other' : ImportResult}
    (different : first.batchId ≠ second.batchId)
    (sameFirst : first'.batchId = first.batchId) (sameSecond : second'.batchId = second.batchId)
    (agree : (run ⟨env, defaultParsers env⟩ directory operations).BatchesAgree first.batchId
      second.batchId)
    (confirmsFirst : confirmBatch env first
      (run ⟨env, defaultParsers env⟩ directory operations) = .ok (middle, result))
    (thenSecond : confirmBatch env second middle = .ok (after, result'))
    (confirmsSecond : confirmBatch env second'
      (run ⟨env, defaultParsers env⟩ directory operations) = .ok (middle', other))
    (thenFirst : confirmBatch env first' middle' = .ok (after', other')) :
    (after.invoices.map after.record).Perm (after'.invoices.map after'.record) := by
  have different' : second'.batchId ≠ first'.batchId := by
    rw [sameFirst, sameSecond]
    exact different.symm
  rcases register_confirmBatch_twice different confirmsFirst thenSecond with ⟨keyed, register⟩
  rcases register_confirmBatch_twice different' confirmsSecond thenFirst with ⟨keyed', register'⟩
  rw [sameFirst, sameSecond] at register'
  apply Ledger.records_perm keyed keyed'
  rw [register, register']
  apply foldl_take_perm List.perm_append_comm
  intro left leftMem right rightMem sameKey found
  have rows : ∀ row ∈
      (run ⟨env, defaultParsers env⟩ directory operations).waitingInvoices first.batchId ++
        (run ⟨env, defaultParsers env⟩ directory operations).waitingInvoices second.batchId,
      row ∈ (run ⟨env, defaultParsers env⟩ directory operations).invoiceRows first.batchId ++
        (run ⟨env, defaultParsers env⟩ directory operations).invoiceRows second.batchId := by
    intro row member
    rcases List.mem_append.mp member with inFirst | inSecond
    · exact List.mem_append_left _ (Ledger.waitingInvoices_subset inFirst)
    · exact List.mem_append_right _ (Ledger.waitingInvoices_subset inSecond)
  have fitted := run_fitted env directory operations
  have places : left.totalAmount.places ≤ 2 := by
    rcases List.mem_append.mp (rows left leftMem) with inFirst | inSecond
    · exact fitted.places inFirst
    · exact fitted.places inSecond
  exact entry_comm (agree left (rows left leftMem) right (rows right rightMem) sameKey) places found

namespace Sample

def fifthDay : Date := ⟨2026, 1, 5, by decide, by decide, by decide, by decide⟩

/-- An invoice and its annulment in files of their own, each with a second invoice. -/
def annulment : Env :=
  env [invoiceBook [invoiceCells "I1" fifthDay "100.00" "正常",
      invoiceCells "I2" fifthDay "50.00" "正常"],
    invoiceBook [invoiceCells "I1" fifthDay "100.0" "作废",
      invoiceCells "I2" fifthDay "50.00" "正常"]] []

def bothStaged : Ledger :=
  run ⟨annulment, defaultParsers annulment⟩ directory [stageInvoices 0 11 0, stageInvoices 1 12 1]

def confirming (batch : Uuid) : ConfirmRequest :=
  ⟨batch, finance, ⟨fun rowNumber => batch * 100 + rowNumber, fun _ => 3, fun _ => 3⟩, 3, 3⟩

end Sample

theorem overlapping_imports_commute_annulled :
    ∃ middle middle' after after' result result' other other',
      confirmBatch Sample.annulment (Sample.confirming 11) Sample.bothStaged =
        .ok (middle, result) ∧
      confirmBatch Sample.annulment (Sample.confirming 12) middle = .ok (after, result') ∧
      confirmBatch Sample.annulment (Sample.confirming 12) Sample.bothStaged =
        .ok (middle', other) ∧
      confirmBatch Sample.annulment (Sample.confirming 11) middle' = .ok (after', other') ∧
      (after.invoices.map after.record).Perm (after'.invoices.map after'.record) := by
  have computed : (do
      let middle ← confirmBatch Sample.annulment (Sample.confirming 11) Sample.bothStaged
      let after ← confirmBatch Sample.annulment (Sample.confirming 12) middle.1
      let middle' ← confirmBatch Sample.annulment (Sample.confirming 12) Sample.bothStaged
      let after' ← confirmBatch Sample.annulment (Sample.confirming 11) middle'.1
      return (after.2.postedRows, after'.2.postedRows) :
        Except ServiceError (ℕ × ℕ)).toOption = some (1, 0) := by
    decide +kernel
  rw [toOption_eq_some] at computed
  simp only [bind_eq_ok, pure, Except.pure, Except.ok.injEq, Prod.mk.injEq] at computed
  rcases computed with ⟨⟨middle, result⟩, first, ⟨after, result'⟩, thenSecond, ⟨middle', other⟩,
    second, ⟨after', other'⟩, thenFirst, -⟩
  have agree : Sample.bothStaged.BatchesAgree (Sample.confirming 11).batchId
      (Sample.confirming 12).batchId := by decide +kernel
  exact ⟨middle, middle', after, after', result, result', other, other', first, thenSecond, second,
    thenFirst, overlapping_imports_commute Sample.annulment Sample.directory
      [Sample.stageInvoices 0 11 0, Sample.stageInvoices 1 12 1] (by decide) rfl rfl agree first thenSecond second thenFirst⟩

end Finrec
