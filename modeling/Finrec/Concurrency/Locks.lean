import Finrec.Imports.Services
import Finrec.Ledger.StatusChanges
import Finrec.Lib.RowLocks
import Finrec.Lib.TableChanges

/-!
# The locks of the ledger

Services run at a time, each in one database transaction at the isolation level
read committed.  This file says what they lock and, for a set of locks, what
others may do to the tables: they add rows and change single columns, but no row
that is locked, and no row that the lock of another one forbids.  An allocation
is only added under the locks of its two records, a reversal under the lock of
its reconciliation, and the staged rows of a batch change under the lock of the
batch.
-/

namespace Finrec

open RowLocks TableChanges Totals

/-- A row, or an entry of a unique index. -/
inductive RowLock where
  | invoice (id : Uuid)
  | transaction (id : Uuid)
  | reconciliation (id : Uuid)
  | allocation (row : ReconciliationAllocation)
  | settlementBatch (id : Uuid)
  | importBatch (id : Uuid)
  | stagedRow (id : Uuid)
  | snapshot (account : Uuid) (asOf : ℤ)
  | invoiceId (id : Uuid)
  | invoiceNumber (invoiceNumber sellerTaxId : String)
  | transactionId (id : Uuid)
  | fingerprint (fingerprint : String)
  | reconciliationId (id : Uuid)
  | snapshotPlace (account : Uuid) (asOf : ℤ)

/-- An invoice without its status. -/
def Invoice.core (invoice : Invoice) : Invoice :=
  { invoice with status := .normal }

/-- A staged row without its flags. -/
def StagedRow.core (row : StagedRow) : StagedRow :=
  { row with issues := [], isDuplicate := false, postedAt := none }

theorem Invoice.eq_of_core {invoice next : Invoice} (same : next.core = invoice.core) :
    next = { invoice with status := next.status } := by
  cases invoice
  cases next
  simp only [Invoice.core, Invoice.mk.injEq] at same ⊢
  tauto

theorem StagedRow.eq_of_core {row next : StagedRow} (same : next.core = row.core) :
    next = { row with
      issues := next.issues, isDuplicate := next.isDuplicate, postedAt := next.postedAt } := by
  cases row
  cases next
  simp only [StagedRow.core, StagedRow.mk.injEq] at same ⊢
  tauto

namespace Ledger

/-- What others may do to the ledger while these locks are held. -/
structure Evolves (held : Set RowLock) (before after : Ledger) : Prop where
  directory : after.directory = before.directory
  batchInvoices : after.batchInvoices = before.batchInvoices
  batchTransactions : after.batchTransactions = before.batchTransactions
  invoices : Changes (Stays (fun invoice => .invoice invoice.id) Invoice.core held)
    (fun invoice => .invoiceId invoice.id ∉ held ∧
      .invoiceNumber invoice.invoiceNumber invoice.sellerTaxId ∉ held)
    before.invoices after.invoices
  transactions : Adds
    (fun money => .transactionId money.id ∉ held ∧ .fingerprint money.fingerprint ∉ held)
    before.transactions after.transactions
  snapshots : Adds (fun snapshot => .snapshotPlace snapshot.account snapshot.asOf ∉ held)
    before.snapshots after.snapshots
  settlementBatches : Edits (fun batch => .settlementBatch batch.id) SettlementBatch.id held
    before.settlementBatches after.settlementBatches
  reconciliations : Adds (fun row => .reconciliationId row.id ∉ held)
    before.reconciliations after.reconciliations
  allocations : Adds
    (fun allocation => .invoice allocation.invoice ∉ held ∧
      .transaction allocation.transaction ∉ held)
    before.allocations after.allocations
  reversals : Adds (fun reversal => .reconciliation reversal.original ∉ held)
    before.reversals after.reversals
  importBatches : Edits (fun batch => .importBatch batch.id) ImportBatch.id held
    before.importBatches after.importBatches
  stagedRows : Edits (fun row => .importBatch row.batch) StagedRow.core held
    before.stagedRows after.stagedRows

end Ledger

namespace Ledger.Evolves

variable {held held' : Set RowLock} {before middle after : Ledger}

theorem refl (held : Set RowLock) (ledger : Ledger) : Evolves held ledger ledger where
  directory := rfl
  batchInvoices := rfl
  batchTransactions := rfl
  invoices := .refl (fun invoice => Stays.refl invoice) _
  transactions := .refl (fun _ => rfl) _
  snapshots := .refl (fun _ => rfl) _
  settlementBatches := Edits.refl _
  reconciliations := .refl (fun _ => rfl) _
  allocations := .refl (fun _ => rfl) _
  reversals := .refl (fun _ => rfl) _
  importBatches := Edits.refl _
  stagedRows := Edits.refl _

theorem trans (earlier : Evolves held before middle) (later : Evolves held middle after) :
    Evolves held before after where
  directory := later.directory.trans earlier.directory
  batchInvoices := later.batchInvoices.trans earlier.batchInvoices
  batchTransactions := later.batchTransactions.trans earlier.batchTransactions
  invoices := by
    refine Changes.trans (fun first second => first.trans second) ?_ earlier.invoices later.invoices
    intro invoice next fresh stays
    rw [Invoice.eq_of_core stays.core]
    exact fresh
  transactions := earlier.transactions.trans later.transactions
  snapshots := earlier.snapshots.trans later.snapshots
  settlementBatches := Edits.trans earlier.settlementBatches later.settlementBatches
  reconciliations := earlier.reconciliations.trans later.reconciliations
  allocations := earlier.allocations.trans later.allocations
  reversals := earlier.reversals.trans later.reversals
  importBatches := Edits.trans earlier.importBatches later.importBatches
  stagedRows := Edits.trans earlier.stagedRows later.stagedRows

theorem antitone (fewer : held ⊆ held') (evolves : Evolves held' before after) :
    Evolves held before after where
  directory := evolves.directory
  batchInvoices := evolves.batchInvoices
  batchTransactions := evolves.batchTransactions
  invoices := evolves.invoices.mono (fun stays => stays.mono fewer)
    fun fresh => ⟨fun locked => fresh.1 (fewer locked), fun locked => fresh.2 (fewer locked)⟩
  transactions := evolves.transactions.mono
    fun fresh => ⟨fun locked => fresh.1 (fewer locked), fun locked => fresh.2 (fewer locked)⟩
  snapshots := evolves.snapshots.mono fun fresh locked => fresh (fewer locked)
  settlementBatches := Edits.mono fewer evolves.settlementBatches
  reconciliations := evolves.reconciliations.mono fun fresh locked => fresh (fewer locked)
  allocations := evolves.allocations.mono
    fun fresh => ⟨fun locked => fresh.1 (fewer locked), fun locked => fresh.2 (fewer locked)⟩
  reversals := evolves.reversals.mono fun fresh locked => fresh (fewer locked)
  importBatches := Edits.mono fewer evolves.importBatches
  stagedRows := Edits.mono fewer evolves.stagedRows

/-! ### What a transaction can rely on -/

theorem invoice?_eq (evolves : Evolves held before after) (sound : before.Sound)
    (sound' : after.Sound) {id : Uuid} (locked : .invoice id ∈ held)
    (visible : (before.invoice? id).isSome = true) : after.invoice? id = before.invoice? id := by
  rcases Option.isSome_iff_exists.mp visible with ⟨invoice, found⟩
  rcases sound.invoice?_eq_some_iff.mp found with ⟨member, rfl⟩
  rcases evolves.invoices.exists_of_mem member with ⟨next, nextMem, stays⟩
  have same := stays.locked locked
  subst same
  rw [found]
  exact sound'.invoice?_eq_some_iff.mpr ⟨nextMem, rfl⟩

theorem transaction?_eq (evolves : Evolves held before after) (sound : before.Sound)
    (sound' : after.Sound) {id : Uuid} (visible : (before.transaction? id).isSome = true) :
    after.transaction? id = before.transaction? id := by
  rcases Option.isSome_iff_exists.mp visible with ⟨money, found⟩
  rcases sound.transaction?_eq_some_iff.mp found with ⟨member, sameId⟩
  rw [found]
  exact sound'.transaction?_eq_some_iff.mpr ⟨evolves.transactions.subset member, sameId⟩

theorem settlementBatch?_eq (evolves : Evolves held before after) {id : Uuid}
    (locked : .settlementBatch id ∈ held) : after.settlementBatch? id = before.settlementBatch? id := by
  refine Edits.find?_eq evolves.settlementBatches ?_ ?_
  · intro batch next same
    rw [same]
  · intro batch _ selected
    rwa [of_decide_eq_true selected]

/-- The keys of settlement batches stay. -/
theorem settlementBatch_exists (evolves : Evolves held before after) {id : Uuid} :
    (∃ batch ∈ after.settlementBatches, batch.id = id) ↔
      ∃ batch ∈ before.settlementBatches, batch.id = id := by
  have same := evolves.settlementBatches.map_core
  rw [← List.mem_map, ← List.mem_map, same]

theorem reconciliation?_eq (evolves : Evolves held before after) (sound : before.Sound)
    (sound' : after.Sound) {id : Uuid} (visible : (before.reconciliation? id).isSome = true) :
    after.reconciliation? id = before.reconciliation? id := by
  rcases Option.isSome_iff_exists.mp visible with ⟨row, found⟩
  rcases (find?_eq_some_iff sound.reconciliationIds).mp found with ⟨member, sameId⟩
  rw [found]
  exact (find?_eq_some_iff sound'.reconciliationIds).mpr
    ⟨evolves.reconciliations.subset member, sameId⟩

theorem isReversed_mono (evolves : Evolves held before after) {id : Uuid}
    (reversed : before.isReversed id = true) : after.isReversed id = true := by
  rcases isReversed_eq_true.mp reversed with ⟨reversal, member, original⟩
  exact isReversed_eq_true.mpr ⟨reversal, evolves.reversals.subset member, original⟩

theorem isReversed_eq (evolves : Evolves held before after) {id : Uuid}
    (locked : .reconciliation id ∈ held) : after.isReversed id = before.isReversed id := by
  apply evolves.reversals.any_eq
  intro reversal free
  apply decide_eq_false
  rintro rfl
  exact free locked

/-- The lock of the record that a key of an allocation names. -/
def OfRecord (lock : Uuid → RowLock) (key : ReconciliationAllocation → Uuid) : Prop :=
  (lock = .invoice ∧ key = (·.invoice)) ∨ (lock = .transaction ∧ key = (·.transaction))

/-- No allocation is added to a locked record. -/
theorem mem_allocations (evolves : Evolves held before after) {lock : Uuid → RowLock}
    {key : ReconciliationAllocation → Uuid} (ofRecord : OfRecord lock key)
    {allocation : ReconciliationAllocation} (locked : lock (key allocation) ∈ held) :
    allocation ∈ after.allocations ↔ allocation ∈ before.allocations := by
  constructor
  · intro member
    rcases evolves.allocations.of_mem member with old | free
    · exact old
    · rcases ofRecord with ⟨rfl, rfl⟩ | ⟨rfl, rfl⟩
      · exact absurd locked free.1
      · exact absurd locked free.2
  · intro member
    exact evolves.allocations.subset member

/-- What is allocated to a locked record stays while its reconciliations are locked. -/
theorem activeAmount_eq (evolves : Evolves held before after) {lock : Uuid → RowLock}
    {key : ReconciliationAllocation → Uuid} (ofRecord : OfRecord lock key) {id : Uuid}
    (locked : lock id ∈ held)
    (settled : ∀ allocation ∈ before.allocations, key allocation = id →
      before.isReversed allocation.reconciliation = after.isReversed allocation.reconciliation) :
    after.activeAmount key id = before.activeAmount key id := by
  have added : after.activeAmount key id =
      total (fun allocation => decide (key allocation = id) && after.isActive allocation)
        (·.amount) before.allocations := by
    apply evolves.allocations.total_eq
    intro allocation free
    have other : key allocation ≠ id := by
      rintro rfl
      rcases ofRecord with ⟨rfl, rfl⟩ | ⟨rfl, rfl⟩
      · exact free.1 locked
      · exact free.2 locked
    simp [other]
  rw [added]
  apply total_congr
  intro allocation member
  by_cases named : key allocation = id
  · simp only [isActive, settled allocation member named]
  · simp [named]

end Ledger.Evolves

/-- The discipline that the services keep. -/
def rowLocking : Discipline RowLock Ledger where
  Evolves := Ledger.Evolves
  refl := Ledger.Evolves.refl
  trans := Ledger.Evolves.trans
  antitone := Ledger.Evolves.antitone

end Finrec
