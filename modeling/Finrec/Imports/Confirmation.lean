import Finrec.Imports.Services

/-!
# What confirming a batch does

A successful step of the confirmation loop has one of five outcomes; this
file names them and says what each one has checked.  Below them are the moves:
the single writes of a confirmation, with the conditions that the service or
the database puts on them.  A confirmation is a sequence of moves, so whatever
every move preserves, every confirmation preserves.
-/

namespace Finrec

open Calendar Checks

namespace Invoice

variable (key : Uuid) (status : InvoiceStatus) (invoice : Invoice)

/-- A status update changes nothing but the status. -/
theorem withStatus_eq :
    invoice.withStatus key status = { invoice with status := (invoice.withStatus key status).status } := by
  simp only [withStatus]
  split_ifs <;> rfl

@[simp]
theorem withStatus_id : (invoice.withStatus key status).id = invoice.id := by
  rw [withStatus_eq]

@[simp]
theorem withStatus_direction : (invoice.withStatus key status).direction = invoice.direction := by
  rw [withStatus_eq]

@[simp]
theorem withStatus_totalAmount :
    (invoice.withStatus key status).totalAmount = invoice.totalAmount := by
  rw [withStatus_eq]

@[simp]
theorem withStatus_issueDate : (invoice.withStatus key status).issueDate = invoice.issueDate := by
  rw [withStatus_eq]

@[simp]
theorem withStatus_counterparty :
    (invoice.withStatus key status).counterparty = invoice.counterparty := by
  rw [withStatus_eq]

@[simp]
theorem withStatus_invoiceNumber :
    (invoice.withStatus key status).invoiceNumber = invoice.invoiceNumber := by
  rw [withStatus_eq]

@[simp]
theorem withStatus_sellerTaxId :
    (invoice.withStatus key status).sellerTaxId = invoice.sellerTaxId := by
  rw [withStatus_eq]

end Invoice

/-! ## The disposition of a row -/

theorem statusDisposition_eq_new {existing incoming : InvoiceStatus} :
    statusDisposition existing incoming ≠ .new := by
  simp only [statusDisposition]
  split_ifs <;> simp

theorem statusDisposition_eq_statusUpdate {existing incoming : InvoiceStatus} :
    statusDisposition existing incoming = .statusUpdate ↔
      existing = .normal ∧ (incoming = .red ∨ incoming = .void) := by
  cases existing <;> cases incoming <;> simp [statusDisposition]

namespace Ledger

variable {ledger : Ledger} {env : Env}

theorem invoiceDisposition_ne_new (existing : Invoice) (normalized : NormalizedInvoiceRow) :
    ledger.invoiceDisposition existing normalized ≠ .new := by
  simp only [invoiceDisposition]
  split_ifs
  · exact statusDisposition_eq_new
  · simp

theorem invoiceOf?_eq_some {invoiceNumber sellerTaxId : String} {invoice : Invoice}
    (found : ledger.invoiceOf? invoiceNumber sellerTaxId = some invoice) :
    invoice ∈ ledger.invoices ∧ invoice.invoiceNumber = invoiceNumber ∧
      invoice.sellerTaxId = sellerTaxId :=
  ⟨List.mem_of_find?_eq_some found, by simpa using List.find?_some found⟩

theorem invoiceOf?_eq_none {invoiceNumber sellerTaxId : String} :
    ledger.invoiceOf? invoiceNumber sellerTaxId = none ↔
      ∀ invoice ∈ ledger.invoices,
        ¬(invoice.invoiceNumber = invoiceNumber ∧ invoice.sellerTaxId = sellerTaxId) := by
  simp [invoiceOf?]

theorem hasFingerprint_eq_false {fingerprint : String} :
    ledger.hasFingerprint fingerprint = false ↔
      ∀ money ∈ ledger.transactions, money.fingerprint ≠ fingerprint := by
  simp [hasFingerprint]

/-- Only a row without a counterpart in the ledger is new. -/
theorem formalDispositionFor_new {normalized : Normalized} {existing : Option Invoice}
    (found : ledger.formalDispositionFor env normalized = .ok (.new, existing)) :
    existing = none ∧
      match normalized with
      | .invoice row => ledger.invoiceOf? row.invoiceNumber row.sellerTaxId = none
      | .transaction row => ∃ fingerprint, transactionFingerprint env row = .ok fingerprint ∧
          ledger.hasFingerprint fingerprint = false := by
  cases normalized with
  | invoice row =>
      simp only [formalDispositionFor] at found
      split at found
      · rename_i missing
        cases found
        exact ⟨rfl, missing⟩
      · rename_i invoice _
        simp only [Except.ok.injEq, Prod.mk.injEq] at found
        exact absurd found.1 (invoiceDisposition_ne_new invoice row)
  | transaction row =>
      simp only [formalDispositionFor, bind_eq_ok] at found
      rcases found with ⟨fingerprint, computed, same⟩
      simp only [pure, Except.pure, Except.ok.injEq, Prod.mk.injEq] at same
      refine ⟨same.2.symm, fingerprint, computed, ?_⟩
      by_contra present
      simp [present] at same

/-- A status update is about a normal invoice with the business fields of the row. -/
theorem formalDispositionFor_statusUpdate {normalized : Normalized} {existing : Option Invoice}
    (found : ledger.formalDispositionFor env normalized = .ok (.statusUpdate, existing)) :
    ∃ row invoice, normalized = .invoice row ∧ existing = some invoice ∧
      ledger.invoiceOf? row.invoiceNumber row.sellerTaxId = some invoice ∧
      ledger.BusinessFieldsMatch invoice row ∧ invoice.status = .normal ∧
      (row.status = .red ∨ row.status = .void) := by
  cases normalized with
  | invoice row =>
      simp only [formalDispositionFor] at found
      split at found
      · simp at found
      · rename_i invoice isFound
        simp only [Except.ok.injEq, Prod.mk.injEq, invoiceDisposition] at found
        rcases found with ⟨disposition, rfl⟩
        split at disposition
        · rename_i fieldsMatch
          rw [statusDisposition_eq_statusUpdate] at disposition
          exact ⟨row, invoice, rfl, rfl, isFound, fieldsMatch, disposition⟩
        · simp at disposition
  | transaction row =>
      simp only [formalDispositionFor, bind_eq_ok] at found
      rcases found with ⟨fingerprint, -, same⟩
      simp only [pure, Except.pure, Except.ok.injEq, Prod.mk.injEq] at same
      rcases same with ⟨disposition, -⟩
      split at disposition <;> simp at disposition

/-! ## Posting a new row -/

/-- The invoice that a row posts. -/
def invoiceOfRow (batch : Uuid) (row : StagedRow) (key : Uuid) (normalized : NormalizedInvoiceRow)
    (counterparty : Uuid) (totalAmount : ℤ) : Invoice where
  id := key
  direction := normalized.direction
  invoiceNumber := normalized.invoiceNumber
  sellerTaxId := normalized.sellerTaxId
  buyerTaxId := normalized.buyerTaxId
  issueDate := normalized.issueDate
  dueDate := none
  totalAmount := totalAmount
  status := normalized.status
  counterparty := counterparty
  importBatch := batch
  sourceRow := row.rowNumber

/-- The transaction that a row posts. -/
def transactionOfRow (batch : Uuid) (row : StagedRow) (key : Uuid)
    (normalized : NormalizedTransactionRow) (account counterparty : Uuid) (fingerprint : String)
    (amount : ℤ) (balanceAfter : Option ℤ) : MoneyTransaction where
  id := key
  account := account
  channel := normalized.channel
  direction := normalized.direction
  occurredAt := normalized.occurredAt.instant
  amount := amount
  balanceAfter := balanceAfter
  transactionId := normalized.transactionId
  fingerprint := fingerprint
  counterparty := some counterparty
  counterpartyRawName := normalized.counterpartyName
  counterpartyAccount := normalized.counterpartyAccount
  importBatch := batch
  sourceRow := row.rowNumber

/-- The constraints of the invoice table on a new row. -/
structure InvoiceInsertable (ledger : Ledger) (invoice : Invoice) : Prop where
  inRange : 0 < invoice.totalAmount ∧ invoice.totalAmount < 10 ^ 18
  freshId : ∀ row ∈ ledger.invoices, row.id ≠ invoice.id
  freshKey : ∀ row ∈ ledger.invoices, ¬(row.invoiceNumber = invoice.invoiceNumber ∧
    row.sellerTaxId = invoice.sellerTaxId)

/-- The constraints of the transaction table on a new row. -/
structure TransactionInsertable (ledger : Ledger) (money : MoneyTransaction) : Prop where
  inRange : 0 < money.amount ∧ money.amount < 10 ^ 18
  freshId : ∀ row ∈ ledger.transactions, row.id ≠ money.id
  freshFingerprint : ∀ row ∈ ledger.transactions, row.fingerprint ≠ money.fingerprint

def addInvoice (ledger : Ledger) (invoice : Invoice) : Ledger :=
  { ledger with invoices := ledger.invoices ++ [invoice] }

def addTransaction (ledger : Ledger) (money : MoneyTransaction) : Ledger :=
  { ledger with transactions := ledger.transactions ++ [money] }

theorem storedCents_lt {amount : Decimal} {cents : ℤ} (stored : storedCents amount = .ok cents) :
    cents < 10 ^ 18 := by
  simp only [storedCents] at stored
  split at stored
  · simp at stored
  · rename_i small
    cases stored
    exact (le_abs_self _).trans_lt (not_le.mp small)

theorem postInvoice_eq_ok {batch : Uuid} {row : StagedRow} {key : Uuid}
    {normalized : NormalizedInvoiceRow} {after : Ledger}
    (posted : ledger.postInvoice batch row key normalized = .ok after) :
    ∃ counterparty totalAmount,
      (resolveInvoiceCounterparty ledger.directory normalized).value = some counterparty ∧
      storedCents normalized.totalAmount = .ok totalAmount ∧
      ledger.InvoiceInsertable
        (invoiceOfRow batch row key normalized counterparty.id totalAmount) ∧
      after = ledger.addInvoice
        (invoiceOfRow batch row key normalized counterparty.id totalAmount) := by
  simp only [postInvoice, insertInvoice, bind_eq_ok, present_eq_ok, require_eq_ok] at posted
  rcases posted with ⟨counterparty, resolved, totalAmount, stored, -, -, -,
    ⟨positive, freshId, freshKey⟩, same⟩
  cases same
  exact ⟨counterparty, totalAmount, resolved, stored,
    ⟨⟨positive, storedCents_lt stored⟩, freshId, freshKey⟩, rfl⟩

theorem postTransaction_eq_ok {batch : Uuid} {row : StagedRow} {key : Uuid}
    {normalized : NormalizedTransactionRow} {after : Ledger}
    (posted : ledger.postTransaction env batch row key normalized = .ok after) :
    ∃ account counterparty fingerprint amount balanceAfter,
      (resolveFundingAccount ledger.directory normalized).value = some account ∧
      (resolveTransactionCounterparty env ledger.directory normalized).value =
        some counterparty ∧
      transactionFingerprint env normalized = .ok fingerprint ∧
      storedCents normalized.amount = .ok amount ∧
      storedBalance normalized.balanceAfter = .ok balanceAfter ∧
      ledger.TransactionInsertable (transactionOfRow batch row key normalized account.id
        counterparty.id fingerprint amount balanceAfter) ∧
      after = ledger.addTransaction (transactionOfRow batch row key normalized account.id
        counterparty.id fingerprint amount balanceAfter) := by
  simp only [postTransaction, insertTransaction, bind_eq_ok, present_eq_ok, require_eq_ok]
    at posted
  rcases posted with ⟨account, accountFound, counterparty, counterpartyFound, fingerprint,
    computed, amount, stored, balanceAfter, balanceStored, -, -, -,
    ⟨positive, freshId, freshFingerprint⟩, same⟩
  cases same
  exact ⟨account, counterparty, fingerprint, amount, balanceAfter, accountFound,
    counterpartyFound, computed, stored, balanceStored,
    ⟨⟨positive, storedCents_lt stored⟩, freshId, freshFingerprint⟩, rfl⟩

end Ledger

/-! ## The outcomes of a step -/

/-- The outcomes of a successful step of the confirmation loop. -/
inductive RowOutcome (context : ConfirmContext) (state : ConfirmState) (row : StagedRow) :
    ConfirmState → Prop where
  | skipped (issues : row.issues ≠ []) : RowOutcome context state row state
  | duplicate (normalized : Normalized) (existing : Option Invoice) (clean : row.issues = [])
      (decoded : deserializeNormalized row.normalizedData = some normalized)
      (found : state.ledger.formalDispositionFor context.env normalized =
        .ok (.duplicate, existing)) :
      RowOutcome context state row
        { state with
          ledger := state.ledger.markDuplicate row
          newDuplicates := state.newDuplicates + 1 }
  | conflict (normalized : Normalized) (existing : Option Invoice) (clean : row.issues = [])
      (decoded : deserializeNormalized row.normalizedData = some normalized)
      (found : state.ledger.formalDispositionFor context.env normalized =
        .ok (.conflict, existing)) :
      RowOutcome context state row
        { state with
          ledger := state.ledger.markInvoiceConflict row (existing.map (·.status)) normalized
          newErrors := state.newErrors + 1 }
  | statusUpdate (normalized : NormalizedInvoiceRow) (existing : Invoice)
      (clean : row.issues = [])
      (decoded : deserializeNormalized row.normalizedData = some (.invoice normalized))
      (found : state.ledger.formalDispositionFor context.env (.invoice normalized) =
        .ok (.statusUpdate, some existing)) :
      RowOutcome context state row
        { state with
          ledger := (state.ledger.updateInvoiceStatus existing normalized.status context.batch
            row context.actor (context.supply.auditedAt row.rowNumber)).markPosted row
              (context.supply.postedAt row.rowNumber) }
  | posted (normalized : Normalized) (ledger : Ledger) (clean : row.issues = [])
      (decoded : deserializeNormalized row.normalizedData = some normalized)
      (found : state.ledger.formalDispositionFor context.env normalized = .ok (.new, none))
      (inserted : state.ledger.postNormalizedRow context.env context.batch row
        (context.supply.key row.rowNumber) normalized = .ok ledger) :
      RowOutcome context state row
        { state with ledger := ledger.markPosted row (context.supply.postedAt row.rowNumber) }

theorem settle_eq_none {context : ConfirmContext} {state : ConfirmState} {row : StagedRow}
    {normalized : Normalized} {found : Disposition × Option Invoice}
    (computed : state.ledger.formalDispositionFor context.env normalized = .ok found)
    (unsettled : state.settle context row normalized found = none) : found = (.new, none) := by
  rcases found with ⟨disposition, existing⟩
  cases disposition with
  | new =>
      rcases Ledger.formalDispositionFor_new computed with ⟨rfl, -⟩
      rfl
  | statusUpdate =>
      rcases Ledger.formalDispositionFor_statusUpdate computed with
        ⟨normalizedRow, invoice, rfl, rfl, -⟩
      simp [ConfirmState.settle] at unsettled
  | duplicate => simp [ConfirmState.settle] at unsettled
  | conflict => simp [ConfirmState.settle] at unsettled

theorem confirmRow_outcome {context : ConfirmContext} {state next : ConfirmState}
    {row : StagedRow} (succeeded : confirmRow context state row = .ok next) :
    RowOutcome context state row next := by
  simp only [confirmRow] at succeeded
  split at succeeded
  · rename_i issues
    cases succeeded
    exact .skipped issues
  rename_i clean
  rw [not_not] at clean
  simp only [bind_eq_ok, present_eq_ok] at succeeded
  rcases succeeded with ⟨normalized, decoded, found, computed, rest⟩
  cases settled : state.settle context row normalized found with
  | none =>
      have isNew := settle_eq_none computed settled
      subst isNew
      simp only [settled, ConfirmState.post] at rest
      split at rest
      · rename_i ledger inserted
        cases rest
        exact .posted normalized ledger clean decoded computed inserted
      · simp [computed, settled, present, bind, Except.bind] at rest
      · simp at rest
  | some other =>
      simp only [settled, Except.ok.injEq] at rest
      subst rest
      rcases found with ⟨disposition, existing⟩
      cases disposition with
      | new => simp [ConfirmState.settle] at settled
      | duplicate =>
          simp only [ConfirmState.settle, Option.some.injEq] at settled
          subst settled
          exact .duplicate normalized existing clean decoded computed
      | conflict =>
          simp only [ConfirmState.settle, Option.some.injEq] at settled
          subst settled
          exact .conflict normalized existing clean decoded computed
      | statusUpdate =>
          rcases Ledger.formalDispositionFor_statusUpdate computed with
            ⟨normalizedRow, invoice, rfl, rfl, -⟩
          simp only [ConfirmState.settle, Option.some.injEq] at settled
          subst settled
          exact .statusUpdate normalizedRow invoice clean decoded computed

/-! ## The moves of a confirmation -/

/-- The single writes of a confirmation; `stamps` are the times its audit entries get. -/
inductive ImportMove (stamps : ℤ → Prop) : Ledger → Ledger → Prop where
  | addInvoice {ledger : Ledger} (invoice : Invoice)
      (insertable : ledger.InvoiceInsertable invoice) :
      ImportMove stamps ledger (ledger.addInvoice invoice)
  | addTransaction {ledger : Ledger} (money : MoneyTransaction)
      (insertable : ledger.TransactionInsertable money) :
      ImportMove stamps ledger (ledger.addTransaction money)
  | setStatus {ledger : Ledger} (existing : Invoice) (status : InvoiceStatus) (batch : Uuid)
      (row : StagedRow) (actor : Uuid) (now : ℤ) (member : existing ∈ ledger.invoices)
      (normal : existing.status = .normal) (ended : status = .red ∨ status = .void)
      (stamped : stamps now) :
      ImportMove stamps ledger (ledger.updateInvoiceStatus existing status batch row actor now)
  | saveRow {ledger : Ledger} (row : StagedRow) (change : StagedRow → StagedRow) :
      ImportMove stamps ledger (ledger.updateRow row change)
  | addSnapshot {ledger : Ledger} (snapshot : AccountBalanceSnapshot) :
      ImportMove stamps ledger { ledger with snapshots := ledger.snapshots ++ [snapshot] }
  | saveBatch {ledger : Ledger} (batch : ImportBatch) :
      ImportMove stamps ledger (ledger.saveBatch batch)
  | auditConfirmed {ledger : Ledger} (actor : Uuid) (batch : Uuid) (result : ImportResult)
      (now : ℤ) (stamped : stamps now) :
      ImportMove stamps ledger (ledger.recordAudit actor "import.confirmed" "ImportBatch" batch
        result.asDict now)

/-- A sequence of moves. -/
abbrev ImportMoves (stamps : ℤ → Prop) : Ledger → Ledger → Prop :=
  Relation.ReflTransGen (ImportMove stamps)

theorem postNormalizedRow_moves {stamps : ℤ → Prop} {env : Env} {ledger after : Ledger}
    {batch : Uuid} {row : StagedRow} {key : Uuid} {normalized : Normalized}
    (posted : ledger.postNormalizedRow env batch row key normalized = .ok after) :
    ImportMove stamps ledger after := by
  cases normalized with
  | invoice normalized =>
      rcases Ledger.postInvoice_eq_ok posted with ⟨counterparty, totalAmount, -, -, insertable, rfl⟩
      exact .addInvoice _ insertable
  | transaction normalized =>
      rcases Ledger.postTransaction_eq_ok posted with
        ⟨account, counterparty, fingerprint, amount, balance, -, -, -, -, -, insertable, rfl⟩
      exact .addTransaction _ insertable

theorem RowOutcome.moves {stamps : ℤ → Prop} {context : ConfirmContext}
    {state next : ConfirmState} {row : StagedRow}
    (stamped : ∀ rowNumber, stamps (context.supply.auditedAt rowNumber))
    (outcome : RowOutcome context state row next) :
    ImportMoves stamps state.ledger next.ledger := by
  cases outcome with
  | skipped issues => exact .refl
  | duplicate normalized existing clean decoded found => exact .single (.saveRow row _)
  | conflict normalized existing clean decoded found => exact .single (.saveRow row _)
  | statusUpdate normalized existing clean decoded found =>
      rcases Ledger.formalDispositionFor_statusUpdate found with
        ⟨other, invoice, sameRow, sameInvoice, isFound, -, normal, ended⟩
      cases sameRow
      cases sameInvoice
      exact .tail (.single (.setStatus existing _ _ _ _ _
        (Ledger.invoiceOf?_eq_some isFound).1 normal ended (stamped _))) (.saveRow row _)
  | posted normalized ledger clean decoded found inserted =>
      exact .tail (.single (postNormalizedRow_moves inserted)) (.saveRow row _)

/-- A relation that every successful step keeps is kept by a loop. -/
theorem foldlM_moves {α state : Type} {step : state → α → Except ServiceError state}
    (ledgerOf : state → Ledger) {stamps : ℤ → Prop}
    (stepMoves : ∀ {before item after}, step before item = .ok after →
      ImportMoves stamps (ledgerOf before) (ledgerOf after))
    {items : List α} {before after : state} (succeeded : items.foldlM step before = .ok after) :
    ImportMoves stamps (ledgerOf before) (ledgerOf after) := by
  induction items generalizing before with
  | nil =>
      cases succeeded
      exact .refl
  | cons item items ih =>
      simp only [List.foldlM_cons, bind_eq_ok] at succeeded
      rcases succeeded with ⟨middle, first, rest⟩
      exact (stepMoves first).trans (ih rest)

theorem createBalanceSnapshot_moves {stamps : ℤ → Prop} {batch : Uuid} {ledger after : Ledger}
    {candidate : SnapshotCandidate}
    (succeeded : ledger.createBalanceSnapshot batch candidate = .ok after) :
    ImportMoves stamps ledger after := by
  simp only [Ledger.createBalanceSnapshot] at succeeded
  split at succeeded
  · split_ifs at succeeded
    cases succeeded
    exact .refl
  · simp only [bind_eq_ok] at succeeded
    rcases succeeded with ⟨balance, -, same⟩
    cases same
    exact .single (.addSnapshot _)

theorem createBalanceSnapshots_moves {stamps : ℤ → Prop} {batch : ImportBatch}
    {ledger after : Ledger} (succeeded : ledger.createBalanceSnapshots batch = .ok after) :
    ImportMoves stamps ledger after := by
  simp only [Ledger.createBalanceSnapshots] at succeeded
  split at succeeded
  · exact foldlM_moves id createBalanceSnapshot_moves succeeded
  · cases succeeded
    exact .refl

/-! ## A whole confirmation -/

/-- What a confirmation that was not a repeated one has computed. -/
structure Confirmed (env : Env) (request : ConfirmRequest) (ledger : Ledger) (batch : ImportBatch)
    (state : ConfirmState) (snapshotted : Ledger) : Prop where
  batchFound : ledger.importBatch? request.batchId = some batch
  unconfirmed : batch.confirmedAt = none
  loop : (ledger.pendingRows batch.id).foldlM
    (confirmRow ⟨env, batch.id, request.actor.id, request.supply⟩) ⟨ledger, 0, 0⟩ = .ok state
  snapshots : state.ledger.createBalanceSnapshots batch = .ok snapshotted

/-- The ledger with the counters and the status of the confirmed batch. -/
def savedLedger (request : ConfirmRequest) (batch : ImportBatch) (state : ConfirmState)
    (snapshotted : Ledger) : Ledger :=
  snapshotted.saveBatch
    (confirmedBatch batch state.newDuplicates state.newErrors request.confirmedAt)

/-- The result of a confirmation that was not a repeated one. -/
def confirmedResult (request : ConfirmRequest) (batch : ImportBatch) (state : ConfirmState)
    (snapshotted : Ledger) : ImportResult :=
  (savedLedger request batch state snapshotted).importResult
    (confirmedBatch batch state.newDuplicates state.newErrors request.confirmedAt)

/-- The ledger after a confirmation that was not a repeated one. -/
def confirmedLedger (request : ConfirmRequest) (batch : ImportBatch) (state : ConfirmState)
    (snapshotted : Ledger) : Ledger :=
  (savedLedger request batch state snapshotted).recordAudit request.actor.id "import.confirmed"
    "ImportBatch" batch.id (confirmedResult request batch state snapshotted).asDict
    request.auditedAt

theorem confirmBatch_eq_ok {env : Env} {request : ConfirmRequest} {ledger after : Ledger}
    {result : ImportResult} :
    confirmBatch env request ledger = .ok (after, result) ↔
      request.actor.IsFinance ∧
        ((∃ batch, ledger.importBatch? request.batchId = some batch ∧
            batch.confirmedAt.isSome = true ∧ after = ledger ∧
            result = ledger.importResult batch) ∨
          ∃ batch state snapshotted, Confirmed env request ledger batch state snapshotted ∧
            after = confirmedLedger request batch state snapshotted ∧
            result = confirmedResult request batch state snapshotted) := by
  simp only [confirmBatch, bind_eq_ok, requireFinanceActor_eq_ok, present_eq_ok]
  constructor
  · rintro ⟨-, finance, batch, found, rest⟩
    refine ⟨finance, ?_⟩
    split at rest
    · rename_i repeated
      simp only [pure, Except.pure, Except.ok.injEq, Prod.mk.injEq] at rest
      exact .inl ⟨batch, found, repeated, rest.1.symm, rest.2.symm⟩
    · rename_i unconfirmed
      simp only [bind_eq_ok, pure, Except.pure, Except.ok.injEq, Prod.mk.injEq] at rest
      rcases rest with ⟨state, loop, snapshotted, snapshots, rfl, rfl⟩
      refine .inr ⟨batch, state, snapshotted, ⟨found, ?_, loop, snapshots⟩, rfl, rfl⟩
      simpa using unconfirmed
  · rintro ⟨finance, repeated | ⟨batch, state, snapshotted, confirmed, rfl, rfl⟩⟩
    · rcases repeated with ⟨batch, found, isConfirmed, rfl, rfl⟩
      refine ⟨(), finance, batch, found, ?_⟩
      rw [if_pos isConfirmed]
      rfl
    · refine ⟨(), finance, batch, confirmed.batchFound, ?_⟩
      rw [if_neg (by simp [confirmed.unconfirmed])]
      simp only [bind_eq_ok]
      exact ⟨state, confirmed.loop, snapshotted, confirmed.snapshots, rfl⟩

/-- A batch that was not confirmed before is confirmed by its loop and its balances. -/
theorem confirmBatch_of_unconfirmed {env : Env} {request : ConfirmRequest} {ledger after : Ledger}
    {batch : ImportBatch} {result : ImportResult} (finance : request.actor.IsFinance)
    (found : ledger.importBatch? request.batchId = some batch)
    (unconfirmed : batch.confirmedAt = none) :
    confirmBatch env request ledger = .ok (after, result) ↔
      ∃ state snapshotted, Confirmed env request ledger batch state snapshotted ∧
        after = confirmedLedger request batch state snapshotted ∧
        result = confirmedResult request batch state snapshotted := by
  rw [confirmBatch_eq_ok]
  constructor
  · rintro ⟨-, ⟨other, otherFound, repeated, -⟩ | ⟨other, state, snapshotted, confirmed, rest⟩⟩
    · rw [found, Option.some.injEq] at otherFound
      subst otherFound
      simp [unconfirmed] at repeated
    · have same := confirmed.batchFound
      rw [found, Option.some.injEq] at same
      subst same
      exact ⟨state, snapshotted, confirmed, rest⟩
  · rintro ⟨state, snapshotted, confirmed, rest⟩
    exact ⟨finance, .inr ⟨batch, state, snapshotted, confirmed, rest⟩⟩

/-- A confirmation is a sequence of moves. -/
theorem confirmBatch_moves {env : Env} {request : ConfirmRequest} {ledger after : Ledger}
    {result : ImportResult} {stamps : ℤ → Prop}
    (rowsStamped : ∀ rowNumber, stamps (request.supply.auditedAt rowNumber))
    (stamped : stamps request.auditedAt)
    (succeeded : confirmBatch env request ledger = .ok (after, result)) :
    ImportMoves stamps ledger after := by
  rw [confirmBatch_eq_ok] at succeeded
  rcases succeeded with ⟨-, ⟨batch, -, -, rfl, -⟩ | ⟨batch, state, snapshotted, confirmed, rfl, -⟩⟩
  · exact .refl
  · have loopMoves : ImportMoves stamps ledger state.ledger :=
      foldlM_moves ConfirmState.ledger
        (fun step => (confirmRow_outcome step).moves rowsStamped) confirmed.loop
    have snapshotMoves : ImportMoves stamps state.ledger snapshotted :=
      createBalanceSnapshots_moves confirmed.snapshots
    exact ((loopMoves.trans snapshotMoves).tail (.saveBatch _)).tail
      (.auditConfirmed _ _ _ _ stamped)

end Finrec
