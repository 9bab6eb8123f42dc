import Finrec.Ledger.Invariant

/-!
# What becomes of an invoice

Only an import touches the invoice table: it adds an invoice or ends a normal
one.  Each end leaves one audit entry, which the reports later read to tell what
the status was on an earlier day.
-/

namespace Finrec

namespace Ledger

/-- The audit entries of the status changes of an invoice. -/
def statusChanges (ledger : Ledger) (invoice : Uuid) : List AuditLog :=
  ledger.auditLog.filter fun entry => decide (entry.action = "invoice.status_changed" ∧
    entry.targetType = "Invoice" ∧ entry.targetId = invoice)

theorem statusChanges_recordAudit {ledger : Ledger} {actor : Uuid} {action targetType : String}
    {target : Uuid} {changes : AuditChanges} {now : ℤ} (other : action ≠ "invoice.status_changed")
    (invoice : Uuid) :
    (ledger.recordAudit actor action targetType target changes now).statusChanges invoice =
      ledger.statusChanges invoice := by
  simp [statusChanges, recordAudit, other]

/-- The audit entry of a status update. -/
def statusEntry (existing : Invoice) (status : InvoiceStatus) (batch : Uuid) (row : StagedRow)
    (actor : Uuid) (now : ℤ) : AuditLog :=
  ⟨actor, "invoice.status_changed", "Invoice", existing.id,
    .invoiceStatusChanged existing.status status batch row.rowNumber, now⟩

theorem statusChanges_updateInvoiceStatus {ledger : Ledger} (existing : Invoice)
    (status : InvoiceStatus) (batch : Uuid) (row : StagedRow) (actor : Uuid) (now : ℤ)
    (invoice : Uuid) :
    (ledger.updateInvoiceStatus existing status batch row actor now).statusChanges invoice =
      ledger.statusChanges invoice ++
        if existing.id = invoice then [statusEntry existing status batch row actor now] else [] := by
  by_cases same : existing.id = invoice
  · simp [statusChanges, updateInvoiceStatus, recordAudit, statusEntry, same]
  · simp [statusChanges, updateInvoiceStatus, recordAudit, same]

end Ledger

/-- What a move does to the invoices and to the history of their statuses. -/
inductive InvoiceMove (stamps : ℤ → Prop) (before after : Ledger) : Prop where
  | kept (invoices : after.invoices = before.invoices)
      (changes : ∀ id, after.statusChanges id = before.statusChanges id)
  | added (invoice : Invoice) (insertable : before.InvoiceInsertable invoice)
      (invoices : after.invoices = before.invoices ++ [invoice])
      (changes : ∀ id, after.statusChanges id = before.statusChanges id)
  | ended (existing : Invoice) (status : InvoiceStatus) (batch : Uuid) (row : StagedRow)
      (actor : Uuid) (now : ℤ) (member : existing ∈ before.invoices)
      (normal : existing.status = .normal) (endStatus : status = .red ∨ status = .void)
      (stamped : stamps now)
      (invoices : after.invoices = before.invoices.map (Invoice.withStatus existing.id status))
      (changes : ∀ id, after.statusChanges id = before.statusChanges id ++
        if existing.id = id then [Ledger.statusEntry existing status batch row actor now] else [])

theorem ImportMove.invoices {stamps : ℤ → Prop} {before after : Ledger}
    (move : ImportMove stamps before after) : InvoiceMove stamps before after := by
  cases move with
  | addInvoice invoice insertable => exact .added invoice insertable rfl fun _ => rfl
  | addTransaction money insertable => exact .kept rfl fun _ => rfl
  | setStatus existing status batch row actor now member normal ended stamped =>
      exact .ended existing status batch row actor now member normal ended stamped rfl
        (Ledger.statusChanges_updateInvoiceStatus existing status batch row actor now)
  | saveRow row change => exact .kept rfl fun _ => rfl
  | addSnapshot snapshot => exact .kept rfl fun _ => rfl
  | saveBatch batch => exact .kept rfl fun _ => rfl
  | auditConfirmed actor batch result now stamped =>
      exact .kept rfl (Ledger.statusChanges_recordAudit (by decide))

theorem LedgerMove.invoices {stamps : ℤ → Prop} {before after : Ledger}
    (move : LedgerMove stamps before after) : InvoiceMove stamps before after := by
  cases move with
  | maintain directory => exact .kept rfl fun _ => rfl
  | stage request sha256 batch rows =>
      exact .kept rfl (Ledger.statusChanges_recordAudit (by decide))
  | imports move => exact move.invoices
  | reconcile row lines checked stamped =>
      exact .kept rfl (Ledger.statusChanges_recordAudit (by decide))
  | reverse row original notReversed stamped =>
      exact .kept rfl (Ledger.statusChanges_recordAudit (by decide))
  | draft row invoices transactions now checked =>
      exact .kept rfl (Ledger.statusChanges_recordAudit (by decide))
  | settle batch => exact .kept rfl fun _ => rfl

/-! ## Keys -/

namespace Ledger

structure Keyed (ledger : Ledger) : Prop where
  invoiceKeys : (ledger.invoices.map fun invoice =>
    (invoice.invoiceNumber, invoice.sellerTaxId)).Nodup
  fingerprints : (ledger.transactions.map (·.fingerprint)).Nodup

namespace Keyed

variable {ledger after : Ledger} {stamps : ℤ → Prop}

theorem empty (directory : Directory) : (Ledger.empty directory).Keyed :=
  ⟨List.nodup_nil, List.nodup_nil⟩

theorem invoiceKeys_of_move (keyed : ledger.Keyed) (move : InvoiceMove stamps ledger after) :
    (after.invoices.map fun invoice => (invoice.invoiceNumber, invoice.sellerTaxId)).Nodup := by
  cases move with
  | kept invoices changes =>
      rw [invoices]
      exact keyed.invoiceKeys
  | added invoice insertable invoices changes =>
      rw [invoices, List.map_append, List.nodup_append]
      refine ⟨keyed.invoiceKeys, by simp, ?_⟩
      rintro key member other otherMem rfl
      rcases List.mem_map.mp member with ⟨row, rowMem, same⟩
      simp only [List.map_cons, List.map_nil, List.mem_singleton] at otherMem
      rw [otherMem, Prod.mk.injEq] at same
      exact insertable.freshKey row rowMem same
  | ended existing status batch row actor now member normal endStatus stamped invoices changes =>
      rw [invoices, List.map_map]
      simpa [Function.comp_def] using keyed.invoiceKeys

/-- Only an import writes the transaction table. -/
theorem transactions_of_move (move : LedgerMove stamps ledger after) :
    after.transactions = ledger.transactions ∨
      ∃ money, ledger.TransactionInsertable money ∧
        after.transactions = ledger.transactions ++ [money] := by
  cases move with
  | imports move =>
      cases move with
      | addTransaction money insertable => exact .inr ⟨money, insertable, rfl⟩
      | addInvoice invoice insertable => exact .inl rfl
      | setStatus existing status batch row actor now => exact .inl rfl
      | saveRow row change => exact .inl rfl
      | addSnapshot snapshot => exact .inl rfl
      | saveBatch batch => exact .inl rfl
      | auditConfirmed actor batch result now => exact .inl rfl
  | maintain directory => exact .inl rfl
  | stage request sha256 batch rows => exact .inl rfl
  | reconcile row lines checked => exact .inl rfl
  | reverse row original notReversed => exact .inl rfl
  | draft row invoices transactions now checked => exact .inl rfl
  | settle batch => exact .inl rfl

theorem of_move (keyed : ledger.Keyed) (move : LedgerMove stamps ledger after) : after.Keyed where
  invoiceKeys := keyed.invoiceKeys_of_move move.invoices
  fingerprints := by
    rcases transactions_of_move move with same | ⟨money, insertable, added⟩
    · rw [same]
      exact keyed.fingerprints
    · rw [added, List.map_append, List.nodup_append]
      refine ⟨keyed.fingerprints, by simp, ?_⟩
      rintro fingerprint member other otherMem rfl
      rcases List.mem_map.mp member with ⟨row, rowMem, same⟩
      simp only [List.map_cons, List.map_nil, List.mem_singleton] at otherMem
      exact insertable.freshFingerprint row rowMem (same.trans otherMem)

end Keyed

end Ledger

theorem run_keyed (site : Installation) (directory : Directory) (operations : List Operation) :
    (run site directory operations).Keyed :=
  run_induction _ (.empty directory) (fun keyed move => keyed.of_move move) operations

/-! ## Histories -/

/-- The status stayed, or a normal invoice ended and one audit entry says so. -/
def StatusEvolves (before after : Ledger) (id : Uuid) (old new : InvoiceStatus) : Prop :=
  (new = old ∧ after.statusChanges id = before.statusChanges id) ∨
    (old = .normal ∧ (new = .red ∨ new = .void) ∧ ∃ entry batch rowNumber,
      after.statusChanges id = before.statusChanges id ++ [entry] ∧
        entry.changes = .invoiceStatusChanged .normal new batch rowNumber)

/-- What an invoice has become in a later ledger: only its status may have changed. -/
structure Becomes (before after : Ledger) (invoice later : Invoice) : Prop where
  member : later ∈ after.invoices
  fields : later = { invoice with status := later.status }
  status : StatusEvolves before after invoice.id invoice.status later.status

/-- Every invoice is still there, with its business fields. -/
def InvoicesKept (before after : Ledger) : Prop :=
  ∀ invoice ∈ before.invoices, ∃ later, Becomes before after invoice later

namespace InvoicesKept

variable {before middle after : Ledger} {stamps : ℤ → Prop}

theorem refl (ledger : Ledger) : InvoicesKept ledger ledger :=
  fun invoice member => ⟨invoice, member, rfl, .inl ⟨rfl, rfl⟩⟩

theorem trans (earlier : InvoicesKept before middle) (later : InvoicesKept middle after) :
    InvoicesKept before after := by
  intro invoice member
  rcases earlier invoice member with ⟨between, betweenMem, betweenFields, betweenStatus⟩
  rcases later between betweenMem with ⟨last, lastMem, lastFields, lastStatus⟩
  have sameId : between.id = invoice.id := by rw [betweenFields]
  rw [sameId] at lastStatus
  refine ⟨last, lastMem, ?_, ?_⟩
  · rw [lastFields, betweenFields]
  rcases betweenStatus with ⟨statusSame, changesSame⟩ | ⟨normal, ended, entry, batch, row, changed, named⟩
  · rw [StatusEvolves, changesSame, statusSame] at lastStatus
    exact lastStatus
  · rcases lastStatus with ⟨statusSame, changesSame⟩ | ⟨stillNormal, -⟩
    · refine .inr ⟨normal, ?_, entry, batch, row, ?_, ?_⟩
      · rw [statusSame]
        exact ended
      · rw [changesSame, changed]
      · rw [statusSame]
        exact named
    · -- an invoice that ended once is not normal any more
      rcases ended with red | void
      · simp [red] at stillNormal
      · simp [void] at stillNormal

theorem of_move (sound : before.Sound) (move : InvoiceMove stamps before after) :
    InvoicesKept before after := by
  intro invoice member
  cases move with
  | kept invoices changes =>
      refine ⟨invoice, ?_, rfl, .inl ⟨rfl, changes invoice.id⟩⟩
      rw [invoices]
      exact member
  | added other insertable invoices changes =>
      refine ⟨invoice, ?_, rfl, .inl ⟨rfl, changes invoice.id⟩⟩
      rw [invoices]
      exact List.mem_append_left _ member
  | ended existing status batch row actor now existingMem normal endStatus stamped invoices
      changes =>
      refine ⟨invoice.withStatus existing.id status, ?_, Invoice.withStatus_eq _ _ _, ?_⟩
      · rw [invoices]
        exact List.mem_map_of_mem member
      by_cases same : existing.id = invoice.id
      · have sameRow : existing = invoice :=
          List.inj_on_of_nodup_map sound.invoiceIds existingMem member same
        subst sameRow
        refine .inr ⟨normal, ?_, Ledger.statusEntry existing status batch row actor now, batch,
          row.rowNumber, ?_, ?_⟩
        · simpa [Invoice.withStatus] using endStatus
        · rw [changes, if_pos rfl]
        · simp [Ledger.statusEntry, Invoice.withStatus, normal]
      · refine .inl ⟨?_, ?_⟩
        · simp [Invoice.withStatus, Ne.symm same]
        · rw [changes, if_neg same, List.append_nil]

end InvoicesKept

theorem moves_sound {stamps : ℤ → Prop} {before after : Ledger} (sound : before.Sound)
    (moves : LedgerMoves stamps before after) : after.Sound := by
  induction moves with
  | refl => exact sound
  | tail _ move ih => exact ih.of_move move

theorem moves_invoicesKept {stamps : ℤ → Prop} {before after : Ledger} (sound : before.Sound)
    (moves : LedgerMoves stamps before after) : InvoicesKept before after := by
  induction moves with
  | refl => exact .refl before
  | tail earlier move ih =>
      exact ih.trans (.of_move (moves_sound sound earlier) move.invoices)

/-- Later operations leave every invoice in place and end it at most once. -/
theorem run_invoicesKept (site : Installation) (directory : Directory)
    (earlier later : List Operation) :
    InvoicesKept (run site directory earlier) (run site directory (earlier ++ later)) := by
  have sound := run_sound site directory earlier
  have split : run site directory (earlier ++ later) =
    runFrom site (run site directory earlier) later := runFrom_append _ _ _ _
  rw [split]
  refine (runFrom_induction (fun ledger => ledger.Sound ∧
    InvoicesKept (run site directory earlier) ledger) ⟨sound, .refl _⟩ ?_ later).2
  rintro before after operation ⟨soundBefore, kept⟩ succeeded
  have moves : LedgerMoves (fun _ => True) before after := perform_moves (fun _ _ => trivial) succeeded
  exact ⟨moves_sound soundBefore moves, kept.trans (moves_invoicesKept soundBefore moves)⟩

/-- The audit log tells the history of every status: nothing, or the one change to it. -/
def Ledger.Chronicled (ledger : Ledger) (invoice : Invoice) : Prop :=
  ledger.statusChanges invoice.id = [] ∨
    (invoice.status = .red ∨ invoice.status = .void) ∧ ∃ entry batch rowNumber,
      ledger.statusChanges invoice.id = [entry] ∧
        entry.changes = .invoiceStatusChanged .normal invoice.status batch rowNumber

structure Ledger.Audited (ledger : Ledger) : Prop where
  changesKnown : ∀ id, ledger.statusChanges id ≠ [] → ∃ invoice ∈ ledger.invoices, invoice.id = id
  chronicled : ∀ invoice ∈ ledger.invoices, ledger.Chronicled invoice
  normalUnchanged : ∀ invoice ∈ ledger.invoices, invoice.status = .normal →
    ledger.statusChanges invoice.id = []

namespace Ledger.Audited

variable {ledger after : Ledger} {stamps : ℤ → Prop}

theorem empty (directory : Directory) : (Ledger.empty directory).Audited := by
  constructor <;> simp [Ledger.empty, Ledger.statusChanges]

theorem of_move (sound : ledger.Sound) (audited : ledger.Audited)
    (move : InvoiceMove stamps ledger after) : after.Audited := by
  have chronicledKept : ∀ {invoice : Invoice},
      after.statusChanges invoice.id = ledger.statusChanges invoice.id →
      ledger.Chronicled invoice → after.Chronicled invoice := by
    intro invoice changes chronicled
    rw [Chronicled, changes]
    exact chronicled
  cases move with
  | kept invoices changes =>
      constructor
      case changesKnown =>
        intro id changed
        rw [changes] at changed
        rw [invoices]
        exact audited.changesKnown id changed
      case chronicled =>
        rw [invoices]
        exact fun invoice member => chronicledKept (changes _) (audited.chronicled invoice member)
      case normalUnchanged =>
        rw [invoices]
        intro invoice member normal
        rw [changes]
        exact audited.normalUnchanged invoice member normal
  | added invoice insertable invoices changes =>
      -- the key of a new invoice has no history
      have unchanged : ledger.statusChanges invoice.id = [] := by
        by_contra changed
        rcases audited.changesKnown _ changed with ⟨row, rowMem, sameId⟩
        exact insertable.freshId row rowMem sameId
      constructor
      case changesKnown =>
        intro id changed
        rw [changes] at changed
        rcases audited.changesKnown id changed with ⟨row, rowMem, sameId⟩
        rw [invoices]
        exact ⟨row, List.mem_append_left _ rowMem, sameId⟩
      case chronicled =>
        rw [invoices]
        intro row member
        rcases List.mem_append.mp member with old | new
        · exact chronicledKept (changes _) (audited.chronicled row old)
        · rw [List.mem_singleton.mp new, Chronicled, changes]
          exact .inl unchanged
      case normalUnchanged =>
        rw [invoices]
        intro row member normal
        rw [changes]
        rcases List.mem_append.mp member with old | new
        · exact audited.normalUnchanged row old normal
        · rw [List.mem_singleton.mp new]
          exact unchanged
  | ended existing status batch row actor now existingMem normal endStatus stamped invoices
      changes =>
      constructor
      case changesKnown =>
        intro id changed
        rw [invoices]
        by_cases same : existing.id = id
        · refine ⟨existing.withStatus existing.id status, List.mem_map_of_mem existingMem, ?_⟩
          simpa using same
        · rw [changes, if_neg same, List.append_nil] at changed
          rcases audited.changesKnown id changed with ⟨other, otherMem, sameId⟩
          exact ⟨other.withStatus existing.id status, List.mem_map_of_mem otherMem, by simpa using sameId⟩
      case chronicled =>
        rw [invoices]
        intro later laterMem
        rcases List.mem_map.mp laterMem with ⟨invoice, member, rfl⟩
        by_cases same : invoice.id = existing.id
        · have sameRow : invoice = existing :=
            List.inj_on_of_nodup_map sound.invoiceIds member existingMem same
          subst sameRow
          right
          refine ⟨by simpa [Invoice.withStatus] using endStatus,
            statusEntry invoice status batch row actor now, batch, row.rowNumber, ?_, ?_⟩
          · rw [Invoice.withStatus_id, changes, if_pos rfl,
              audited.normalUnchanged invoice member normal, List.nil_append]
          · simp [statusEntry, Invoice.withStatus, normal]
        · have unchanged : invoice.withStatus existing.id status = invoice := by
            simp [Invoice.withStatus, same]
          rw [unchanged]
          refine chronicledKept ?_ (audited.chronicled invoice member)
          rw [changes, if_neg (Ne.symm same), List.append_nil]
      case normalUnchanged =>
        rw [invoices]
        intro later laterMem stillNormal
        rcases List.mem_map.mp laterMem with ⟨invoice, member, rfl⟩
        by_cases same : invoice.id = existing.id
        · simp only [Invoice.withStatus, same, if_true] at stillNormal
          rcases endStatus with red | void
          · simp [red] at stillNormal
          · simp [void] at stillNormal
        · have unchanged : invoice.withStatus existing.id status = invoice := by
            simp [Invoice.withStatus, same]
          rw [unchanged] at stillNormal ⊢
          rw [changes, if_neg (Ne.symm same), List.append_nil]
          exact audited.normalUnchanged invoice member stillNormal

end Ledger.Audited

theorem run_audited (site : Installation) (directory : Directory) (operations : List Operation) :
    (run site directory operations).Audited :=
  (run_induction (fun ledger => ledger.Sound ∧ ledger.Audited)
    ⟨.empty directory, .empty directory⟩
    (fun holds move => ⟨holds.1.of_move move, .of_move holds.1 holds.2 move.invoices⟩)
    operations).2

end Finrec
