import Finrec.Concurrency.Statements
import Finrec.Reconciliation.SettledOnce

/-!
# The reconciliation services keep the discipline

The sums that `create_reconciliation` checks are stable once it has locked the
records of the request and the reconciliations that touch them: nobody else adds
an allocation of these records or reverses one.  A record of the request that it
did not find is not locked, but then it fails whatever the sums are.

`confirm_settlement_batch` reads open amounts before it locks reconciliations.
No reconciliation uses its draft yet, so the records that it goes on with are
free of active allocations, and nobody can add one.
-/

namespace Finrec

open Checks RowLocks RowLocks.Transaction TableChanges Totals

/-! ## Locking records -/

section Records

variable {scan : ScanOrder} {held : Set RowLock} {known : Ledger → Prop} {α Row : Type}
  {table : Ledger → List Row} {key : Row → Uuid} {lock : Uuid → RowLock}

/-- The rows that `filter(id__in=ids)` finds at its start, as they are later. -/
def lockedRows (scan : ScanOrder) (table : Ledger → List Row) (key : Row → Uuid) (ids : List Uuid)
    (ledger later : Ledger) : List Row :=
  (scan.order (((table ledger).filter fun row => decide (key row ∈ ids)).map key)).filterMap
    fun id => (table later).find? fun row => decide (key row = id)

theorem mem_lockedRows {ids : List Uuid} {ledger later : Ledger}
    (distinct : ((table later).map key).Nodup) {row : Row} :
    row ∈ lockedRows scan table key ids ledger later ↔
      row ∈ table later ∧ key row ∈ ids ∧ ∃ old ∈ table ledger, key old = key row := by
  simp only [lockedRows, List.mem_filterMap, scan.mem_order, List.mem_map, List.mem_filter,
    decide_eq_true_eq, find?_eq_some_iff distinct]
  constructor
  · rintro ⟨id, ⟨old, ⟨oldMem, listed⟩, rfl⟩, rowMem, same⟩
    rw [same]
    exact ⟨rowMem, listed, old, oldMem, rfl⟩
  · rintro ⟨rowMem, listed, old, oldMem, same⟩
    exact ⟨key row, ⟨old, ⟨oldMem, same ▸ listed⟩, same⟩, rowMem, rfl⟩

theorem map_filterMap_sublist {row : Uuid → Option Row}
    (named : ∀ id found, row id = some found → key found = id) (ids : List Uuid) :
    ((ids.filterMap row).map key).Sublist ids := by
  induction ids with
  | nil => exact .slnil
  | cons id ids ih =>
      cases read : row id with
      | none =>
          rw [List.filterMap_cons_none read]
          exact ih.cons id
      | some found =>
          rw [List.filterMap_cons_some read, List.map_cons, named id found read]
          exact ih.cons_cons id

theorem nodup_lockedRows {ids : List Uuid} {ledger later : Ledger}
    (distinct : ((table ledger).map key).Nodup) :
    ((lockedRows scan table key ids ledger later).map key).Nodup := by
  have listed := (scan.perm _).nodup_iff.mpr
    (distinct.sublist ((List.filter_sublist (p := fun row => decide (key row ∈ ids))).map key))
  refine listed.sublist (map_filterMap_sublist ?_ _)
  intro id found read
  simpa using List.find?_some read

/-- Rows that are locked by their keys. -/
theorem obeys_lockRows {ids : List Uuid} {next : List Row → Transaction RowLock Ledger α}
    (distinct : ∀ ledger, known ledger → ((table ledger).map key).Nodup)
    (persists : ∀ held ledger later, known ledger → known later →
      Ledger.Evolves held ledger later → ∀ old ∈ table ledger,
        ∃ row ∈ table later, key row = key old ∧ (lock (key old) ∈ held → row = old))
    (below : ∀ ledger later, known ledger → known later → ∀ rows rows',
      rows ⊆ rows' → (rows'.map key).Nodup →
      ((∀ id ∈ ids, ∃ row ∈ table ledger, key row = id) → rows' ⊆ rows) →
        Below (next rows) (next rows') later)
    (rest : ∀ locks rows, held ⊆ locks → (∀ row ∈ rows, lock (key row) ∈ locks) →
      ((∀ ledger, known ledger → ∀ id ∈ ids, ∃ row ∈ table ledger, key row = id) →
        ∀ id ∈ ids, lock id ∈ locks) →
      rowLocking.Obeys (next rows) locks known) :
    rowLocking.Obeys (selectForUpdate
      (fun ledger => scan.order
        (((table ledger).filter fun row => decide (key row ∈ ids)).map key))
      lock (fun id ledger => (table ledger).find? fun row => decide (key row = id)) >>= next)
      held known := by
  refine Discipline.Obeys.selectForUpdate
    (fun listed later => ∀ id ∈ listed, ∃ row ∈ table later, key row = id) ?_ ?_ ?_
  · intro ledger later knows knowsLater evolves
    have distinctLater := distinct later knowsLater
    constructor
    · intro id listed
      rcases List.mem_map.mp (scan.mem_order.mp listed) with ⟨old, oldMem, rfl⟩
      rcases persists held ledger later knows knowsLater evolves old
        (List.mem_filter.mp oldMem).1 with ⟨row, rowMem, same, -⟩
      exact ⟨row, rowMem, same⟩
    · apply below ledger later knows knowsLater
      · intro row member
        rcases (mem_lockedRows distinctLater).mp member with ⟨rowMem, listed, -⟩
        exact (mem_lockedRows distinctLater).mpr ⟨rowMem, listed, row, rowMem, rfl⟩
      · exact nodup_lockedRows distinctLater
      · intro complete row member
        rcases (mem_lockedRows distinctLater).mp member with ⟨rowMem, listed, -⟩
        exact (mem_lockedRows distinctLater).mpr
          ⟨rowMem, listed, complete _ listed⟩
  · intro listed id member locks includes ledger later both bothLater evolves
    rcases both.2 id member with ⟨old, oldMem, rfl⟩
    rcases persists locks ledger later both.1 bothLater.1 evolves old oldMem with
      ⟨row, rowMem, same, stays⟩
    have isOld := stays (includes (Set.mem_insert ..))
    subst isOld
    exact ((find?_eq_some_iff (distinct later bothLater.1)).mpr ⟨rowMem, rfl⟩).trans
      ((find?_eq_some_iff (distinct ledger both.1)).mpr ⟨oldMem, rfl⟩).symm
  · intro ledger knows rows
    refine Discipline.Obeys.of_fact _ ?_ fun locked =>
      (rest _ rows Set.subset_union_left locked ?_).mono fun later all => all.1.1
    · rintro later ⟨-, rfl⟩ row member
      rcases List.mem_filterMap.mp member with ⟨id, listed, found⟩
      refine .inr ⟨id, listed, ?_⟩
      have named : key row = id := by simpa using List.find?_some found
      rw [named]
    · intro complete id listed
      rcases complete ledger knows id listed with ⟨row, rowMem, rfl⟩
      refine .inr ⟨key row, scan.mem_order.mpr (List.mem_map_of_mem ?_), rfl⟩
      exact List.mem_filter.mpr ⟨rowMem, decide_eq_true listed⟩

theorem obeys_lockInvoices {ids : List Uuid} {next : List Invoice → Transaction RowLock Ledger α}
    (sound : ∀ ledger, known ledger → ledger.Sound)
    (below : ∀ ledger later, known ledger → known later → ∀ rows rows',
      rows ⊆ rows' → (rows'.map (·.id)).Nodup →
      ((∀ id ∈ ids, ∃ invoice ∈ ledger.invoices, invoice.id = id) → rows' ⊆ rows) →
        Below (next rows) (next rows') later)
    (rest : ∀ locks rows, held ⊆ locks → (∀ invoice ∈ rows, .invoice invoice.id ∈ locks) →
      ((∀ ledger, known ledger → ∀ id ∈ ids, ∃ invoice ∈ ledger.invoices, invoice.id = id) →
        ∀ id ∈ ids, .invoice id ∈ locks) →
      rowLocking.Obeys (next rows) locks known) :
    rowLocking.Obeys (lockInvoices scan ids >>= next) held known := by
  refine obeys_lockRows (fun ledger knows => (sound ledger knows).invoiceIds) ?_ below rest
  intro held ledger later _ _ evolves old oldMem
  rcases evolves.invoices.exists_of_mem oldMem with ⟨row, rowMem, stays⟩
  refine ⟨row, rowMem, ?_, stays.locked⟩
  rw [Invoice.eq_of_core stays.core]

theorem obeys_lockTransactions {ids : List Uuid}
    {next : List MoneyTransaction → Transaction RowLock Ledger α}
    (sound : ∀ ledger, known ledger → ledger.Sound)
    (below : ∀ ledger later, known ledger → known later → ∀ rows rows',
      rows ⊆ rows' → (rows'.map (·.id)).Nodup →
      ((∀ id ∈ ids, ∃ money ∈ ledger.transactions, money.id = id) → rows' ⊆ rows) →
        Below (next rows) (next rows') later)
    (rest : ∀ locks rows, held ⊆ locks → (∀ money ∈ rows, .transaction money.id ∈ locks) →
      ((∀ ledger, known ledger → ∀ id ∈ ids, ∃ money ∈ ledger.transactions, money.id = id) →
        ∀ id ∈ ids, .transaction id ∈ locks) →
      rowLocking.Obeys (next rows) locks known) :
    rowLocking.Obeys (lockTransactions scan ids >>= next) held known := by
  refine obeys_lockRows (fun ledger knows => (sound ledger knows).transactionIds) ?_ below rest
  intro held ledger later _ _ evolves old oldMem
  exact ⟨old, evolves.transactions.subset oldMem, rfl, fun _ => rfl⟩

end Records

/-! ## Creating -/

section Creating

variable {scan : ScanOrder} {held : Set RowLock} {known : Ledger → Prop} {α : Type}
  {invoiceIds transactionIds : List Uuid}

/-- The allocation is on a record of the request that is locked. -/
def OnLocked (held : Set RowLock) (invoiceIds transactionIds : List Uuid)
    (allocation : ReconciliationAllocation) : Prop :=
  (allocation.invoice ∈ invoiceIds ∧ .invoice allocation.invoice ∈ held) ∨
    (allocation.transaction ∈ transactionIds ∧ .transaction allocation.transaction ∈ held)

theorem OnLocked.touches {allocation : ReconciliationAllocation}
    (onLocked : OnLocked held invoiceIds transactionIds allocation) :
    touches invoiceIds transactionIds allocation = true :=
  decide_eq_true (onLocked.imp And.left And.left)

theorem OnLocked.mem_iff {allocation : ReconciliationAllocation} {ledger later : Ledger}
    (onLocked : OnLocked held invoiceIds transactionIds allocation)
    (evolves : Ledger.Evolves held ledger later) :
    allocation ∈ later.allocations ↔ allocation ∈ ledger.allocations := by
  rcases onLocked with ⟨-, locked⟩ | ⟨-, locked⟩
  · exact evolves.mem_allocations (.inl ⟨rfl, rfl⟩) locked
  · exact evolves.mem_allocations (.inr ⟨rfl, rfl⟩) locked

/-- The reconciliations of allocations on locked records are locked. -/
theorem obeys_lockExistingReconciliations {next : Unit → Transaction RowLock Ledger α}
    (sound : ∀ ledger, known ledger → ledger.Sound)
    (rest : ∀ locks, held ⊆ locks → rowLocking.Obeys (next ()) locks fun ledger => known ledger ∧
      ∀ allocation ∈ ledger.allocations, OnLocked held invoiceIds transactionIds allocation →
        .reconciliation allocation.reconciliation ∈ locks) :
    rowLocking.Obeys (lockExistingReconciliations scan invoiceIds transactionIds >>= next) held
      known := by
  simp only [lockExistingReconciliations, lockAllocations, lockReconciliations, bind_assoc,
    pure_eq, done_bind]
  refine Discipline.Obeys.selectForUpdate (fun listed later => ∀ allocation ∈ later.allocations,
    OnLocked held invoiceIds transactionIds allocation → allocation ∈ listed) ?_ ?_ ?_
  · intro ledger later knows knowsLater evolves
    constructor
    · intro allocation member onLocked
      refine scan.mem_order.mpr (List.mem_filter.mpr ⟨?_, onLocked.touches⟩)
      exact (onLocked.mem_iff evolves).mp member
    · apply Below.of_eq
      simp only [alone_selectForUpdate_bind]
  · intro listed allocation _ locks ledger later _ _ _ _
    rfl
  · intro ledger _ rows
    refine Discipline.Obeys.onlySelectForUpdate (fun listed later =>
      ∀ allocation ∈ later.allocations, OnLocked held invoiceIds transactionIds allocation →
        allocation.reconciliation ∈ listed) ?_ ?_
    · rintro state later ⟨⟨knows, -⟩, -⟩ ⟨⟨-, sees⟩, sameRows⟩ evolves allocation member onLocked
      have listed := sees allocation member onLocked
      rw [List.filterMap_some] at sameRows
      rw [sameRows] at listed
      have old := (onLocked.mem_iff (evolves.antitone Set.subset_union_left)).mp member
      rcases ((sound state knows).allocationsFit allocation old).joined with
        ⟨row, rowMem, ofRow, -⟩
      refine scan.mem_order.mpr (List.mem_map.mpr ⟨row, List.mem_filter.mpr ⟨rowMem, ?_⟩, ofRow⟩)
      exact decide_eq_true (List.mem_map.mpr ⟨allocation, listed, ofRow.symm⟩)
    · intro found
      refine (rest _ (Set.subset_union_left.trans Set.subset_union_left)).mono ?_
      rintro later ⟨⟨⟨knows, -⟩, -⟩, sees⟩
      refine ⟨knows, fun allocation member onLocked => ?_⟩
      exact .inr ⟨_, sees allocation member onLocked, rfl⟩

theorem Ledger.Evolves.insertReconciliation {ledger : Ledger} {row : Reconciliation}
    {lines : List AllocationLine} {others : Set RowLock} (disjoint : Disjoint others held)
    (claimed : .reconciliationId row.id ∈ held)
    (locked : ∀ line ∈ lines, .invoice line.invoice.id ∈ held ∧
      .transaction line.transaction.id ∈ held) :
    Ledger.Evolves others ledger (ledger.insertReconciliation row lines) := by
  have free : ∀ {lock}, lock ∈ held → lock ∉ others := fun locked foreign =>
    Set.disjoint_left.mp disjoint foreign locked
  refine { Ledger.Evolves.refl others ledger with reconciliations := ?_, allocations := ?_ }
  · refine Adds.of_append fun added member => ?_
    rw [List.mem_singleton.mp member]
    exact free claimed
  · refine Adds.of_append fun added member => ?_
    rcases List.mem_map.mp member with ⟨line, lineMem, rfl⟩
    exact ⟨free (locked line lineMem).1, free (locked line lineMem).2⟩

theorem Ledger.Evolves.insertReconciliation_both {ledger later : Ledger} {locks : Set RowLock}
    (evolves : Ledger.Evolves locks ledger later) (row : Reconciliation)
    (lines : List AllocationLine) :
    Ledger.Evolves locks (ledger.insertReconciliation row lines)
      (later.insertReconciliation row lines) :=
  { evolves with
    reconciliations := evolves.reconciliations.append [row]
    allocations := evolves.allocations.append _ }

variable {request : ReconciliationRequest} {uuid : Uuid} {now : ℤ}
  {direction : ReconciliationDirection} {mode : ReconciliationMode} {invoices : List Invoice}
  {transactions : List MoneyTransaction}

theorem allocatedAmounts_eq {ledger later : Ledger} {lock : Uuid → RowLock}
    {key : ReconciliationAllocation → Uuid} (ofRecord : Ledger.Evolves.OfRecord lock key)
    {ids : List Uuid} (evolves : Ledger.Evolves held ledger later)
    (locked : ∀ id ∈ ids, lock id ∈ held)
    (settled : ∀ allocation ∈ ledger.allocations, key allocation ∈ ids →
      .reconciliation allocation.reconciliation ∈ held) :
    allocatedAmounts key ids later = allocatedAmounts key ids ledger := by
  funext id
  by_cases listed : id ∈ ids
  · rw [allocatedAmounts_of_mem listed, allocatedAmounts_of_mem listed]
    refine evolves.activeAmount_eq ofRecord (locked id listed) ?_
    rintro allocation member rfl
    exact (evolves.isReversed_eq (settled allocation member listed)).symm
  · rw [allocatedAmounts, allocatedAmounts, if_neg listed, if_neg listed]

/-- A request fails when one of its records was not found. -/
theorem complete_of_validated {invoiceAllocated transactionAllocated : Uuid → ℤ}
    {lines : List AllocationLine}
    (validated : validateAllocations request direction invoices transactions invoiceAllocated
      transactionAllocated = .ok lines) :
    (∀ id ∈ request.allocations.map (·.invoiceId), ∃ invoice ∈ invoices, invoice.id = id) ∧
      ∀ id ∈ request.allocations.map (·.transactionId), ∃ money ∈ transactions, money.id = id := by
  have each := (validateAllocations_eq_ok.mp validated).each
  constructor
  · intro id listed
    rcases List.mem_map.mp listed with ⟨item, itemMem, rfl⟩
    rcases exists_of_forall₂ each itemMem with ⟨line, -, checked⟩
    exact ⟨line.invoice, checked.invoice_mem⟩
  · intro id listed
    rcases List.mem_map.mp listed with ⟨item, itemMem, rfl⟩
    rcases exists_of_forall₂ each itemMem with ⟨line, -, checked⟩
    exact ⟨line.transaction, checked.transaction_mem⟩

theorem obeys_reconcileLocked {next : Transaction RowLock Ledger α}
    (sound : ∀ ledger, known ledger → ledger.Sound)
    (invoicesLocked : ∀ invoice ∈ invoices, .invoice invoice.id ∈ held)
    (transactionsLocked : ∀ money ∈ transactions, .transaction money.id ∈ held)
    (rest : ∀ locks, held ⊆ locks → rowLocking.Obeys next locks fun _ => True) :
    rowLocking.Obeys (reconcileLocked scan request uuid now direction mode invoices transactions >>=
      fun _ => next) held known := by
  simp only [reconcileLocked, bind_assoc, ask_bind, query_bind]
  refine obeys_lockExistingReconciliations sound fun locks more => ?_
  by_cases complete :
      (∀ id ∈ request.allocations.map (·.invoiceId), ∃ invoice ∈ invoices, invoice.id = id) ∧
        ∀ id ∈ request.allocations.map (·.transactionId), ∃ money ∈ transactions, money.id = id
  · have invoiceLocks : ∀ id ∈ request.allocations.map (·.invoiceId), .invoice id ∈ held := by
      intro id listed
      rcases complete.1 id listed with ⟨invoice, member, rfl⟩
      exact invoicesLocked invoice member
    have transactionLocks :
        ∀ id ∈ request.allocations.map (·.transactionId), .transaction id ∈ held := by
      intro id listed
      rcases complete.2 id listed with ⟨money, member, rfl⟩
      exact transactionsLocked money member
    refine Discipline.Obeys.stableQuery ?_ fun invoiceAllocated =>
      Discipline.Obeys.stableQuery ?_ fun transactionAllocated => ?_
    · intro ledger later knows _ evolves
      refine allocatedAmounts_eq (.inl ⟨rfl, rfl⟩) evolves
        (fun id listed => more (invoiceLocks id listed)) fun allocation member listed => ?_
      exact knows.2 allocation member (.inl ⟨listed, invoiceLocks _ listed⟩)
    · intro ledger later knows _ evolves
      refine allocatedAmounts_eq (.inr ⟨rfl, rfl⟩) evolves
        (fun id listed => more (transactionLocks id listed)) fun allocation member listed => ?_
      exact knows.1.2 allocation member (.inr ⟨listed, transactionLocks _ listed⟩)
    · refine .orRollback fun lines validated => .stableQuery ?_ fun isKnown => ?_
      · intro ledger later _ _ evolves
        simp only [evolves.settlementBatch_exists]
      · cases isKnown with
        | false => trivial
        | true =>
            have checked := validateAllocations_eq_ok.mp validated
            refine ⟨?_, ?_, trivial, fun _ => True, fun _ _ => trivial, ?_, ?_, ?_⟩
            · intro ledger later _ _ evolves taken
              rcases List.any_eq_true.mp taken with ⟨row, member, same⟩
              exact List.any_eq_true.mpr ⟨row, evolves.reconciliations.subset member, same⟩
            · intro ledger later _ _ evolves unused
              refine (evolves.reconciliations.any_eq ?_).trans unused
              rintro row foreign
              apply decide_eq_false
              rintro rfl
              exact foreign (Set.mem_insert ..)
            · intro ledger _ others disjoint
              refine .insertReconciliation disjoint (Set.mem_insert ..) fun line member => ?_
              rcases exists_item checked.each member with ⟨item, -, lineChecked⟩
              exact ⟨.inr (more (invoicesLocked _ lineChecked.invoice_mem.1)),
                .inr (more (transactionsLocked _ lineChecked.transaction_mem.1))⟩
            · intro locks _ ledger later _ _ evolves
              exact evolves.insertReconciliation_both _ _
            · exact rest _ (more.trans (Set.subset_insert ..))
  · -- What is not found is not locked, and the request fails with any sums.
    have fails {invoiceAllocated transactionAllocated : Uuid → ℤ} {lines : List AllocationLine} :
        validateAllocations request direction invoices transactions invoiceAllocated
          transactionAllocated ≠ .ok lines := fun validated =>
      complete (complete_of_validated validated)
    refine .freeQuery ?_ fun invoiceAllocated => .freeQuery ?_ fun transactionAllocated =>
      .orRollback fun lines validated => absurd validated fails
    · intro answer other ledger _
      simp only [alone_query]
      rw [alone_orRollback_bind_eq_none fun _ => fails, alone_orRollback_bind_eq_none fun _ => fails]
    · intro answer other ledger _
      rw [alone_orRollback_bind_eq_none fun _ => fails, alone_orRollback_bind_eq_none fun _ => fails]

/-- What is found among some rows is found among more. -/
theorem find?_of_subset {Row : Type} {key : Row → Uuid} {rows rows' : List Row}
    (more : rows ⊆ rows') (distinct : (rows'.map key).Nodup) (id : Uuid) :
    ∀ row ∈ rows.find? fun row => decide (key row = id),
      rows'.find? (fun row => decide (key row = id)) = some row := by
  intro row found
  have named : key row = id := by simpa using List.find?_some found
  exact (find?_eq_some_iff distinct).mpr ⟨more (List.mem_of_find?_eq_some found), named⟩

/-- The rest of the request does the same with more rows. -/
theorem reconcileLocked_below {invoices' : List Invoice} {transactions' : List MoneyTransaction}
    (invoicesFound : ∀ id, ∀ invoice ∈ invoices.find? fun invoice => decide (invoice.id = id),
      invoices'.find? (fun invoice => decide (invoice.id = id)) = some invoice)
    (transactionsFound : ∀ id, ∀ money ∈ transactions.find? fun money => decide (money.id = id),
      transactions'.find? (fun money => decide (money.id = id)) = some money) (ledger : Ledger) :
    Below (reconcileLocked scan request uuid now direction mode invoices transactions)
      (reconcileLocked scan request uuid now direction mode invoices' transactions') ledger := by
  rintro ⟨⟨⟩, after⟩ succeeded
  rcases reconcileLocked_alone.mp succeeded with ⟨lines, checked, insertable, rfl⟩
  exact reconcileLocked_alone.mpr ⟨lines, checked.of_found invoicesFound transactionsFound
    (fun _ _ => rfl) (fun _ _ => rfl), insertable, rfl⟩

theorem obeys_createTransaction {next : Transaction RowLock Ledger α}
    (sound : ∀ ledger, known ledger → ledger.Sound)
    (rest : ∀ locks, held ⊆ locks → rowLocking.Obeys next locks fun _ => True) :
    rowLocking.Obeys (createTransaction scan request uuid now >>= fun _ => next) held known := by
  simp only [createTransaction, bind_assoc]
  refine .orRollback fun accepted _ => obeys_lockInvoices sound ?_ ?_
  · intro ledger later _ _ rows rows' more distinct _ result succeeded
    rw [lockTransactions, alone_selectForUpdate_bind] at succeeded ⊢
    exact (reconcileLocked_below (find?_of_subset more distinct) (fun _ _ found => found)
      later).bind _ _ succeeded
  · intro locks invoices held invoicesLocked _
    refine obeys_lockTransactions sound ?_ ?_
    · intro ledger later _ _ rows rows' more distinct _
      exact (reconcileLocked_below (fun _ _ found => found) (find?_of_subset more distinct)
        later).bind _
    · intro locks' transactions more transactionsLocked _
      refine obeys_reconcileLocked sound
        (fun invoice member => more (invoicesLocked invoice member)) transactionsLocked ?_
      intro locks'' evenMore
      exact rest locks'' (held.trans (more.trans evenMore))

end Creating

/-! ## Reversing -/

section Reversing

variable {scan : ScanOrder} {held : Set RowLock} {known : Ledger → Prop}

theorem Ledger.Evolves.insertReversal {ledger : Ledger} {row : ReconciliationReversal}
    {others : Set RowLock} (disjoint : Disjoint others held)
    (locked : .reconciliation row.original ∈ held) :
    Ledger.Evolves others ledger (ledger.insertReversal row) := by
  refine { Ledger.Evolves.refl others ledger with reversals := ?_ }
  refine Adds.of_append fun added member => ?_
  rw [List.mem_singleton.mp member]
  exact fun foreign => Set.disjoint_left.mp disjoint foreign locked

theorem Ledger.Evolves.insertReversal_both {ledger later : Ledger} {locks : Set RowLock}
    (evolves : Ledger.Evolves locks ledger later) (row : ReconciliationReversal) :
    Ledger.Evolves locks (ledger.insertReversal row) (later.insertReversal row) :=
  { evolves with reversals := evolves.reversals.append [row] }

theorem obeys_reverseTransaction {actor : Actor} {id : Uuid} {reason : Option String} {now : ℤ}
    (sound : ∀ ledger, known ledger → ledger.Sound) :
    rowLocking.Obeys (reverseTransaction scan actor id reason now) held known := by
  simp only [reverseTransaction, ask_bind]
  refine .orRollback fun _ _ => .orRollback fun text _ => .freeQuery ?_ fun rows => ?_
  · intro answer other ledger _
    simp only [lockInvoices, lockTransactions, lockAllocations, alone_selectForUpdate_bind]
  refine .onlySelectForUpdate (fun _ _ => True) (fun _ _ _ _ _ => trivial) fun _ =>
    .onlySelectForUpdate (fun _ _ => True) (fun _ _ _ _ _ => trivial) fun _ =>
      .onlySelectForUpdate (fun _ _ => True) (fun _ _ _ _ _ => trivial) fun _ => ?_
  refine .getForUpdate rfl ?_ ?_ fun original => ?_
  · intro ledger later knows knowsLater evolves visible
    rwa [evolves.reconciliation?_eq (sound ledger knows.1.1.1) (sound later knowsLater.1.1.1) visible]
  · intro locks ledger later _ knows knowsLater evolves visible
    exact evolves.reconciliation?_eq (sound ledger knows.1.1.1) (sound later knowsLater.1.1.1) visible
  · refine .of_fact (original.id = id)
      (fun ledger both => (reconciliation?_eq_some both.2).2) ?_
    rintro rfl
    refine .stableQuery (fun ledger later _ _ evolves => ?_) fun reversed => ?_
    · exact evolves.isReversed_eq (Set.mem_insert ..)
    · cases reversed with
      | true => trivial
      | false =>
          refine ⟨fun _ => True, fun _ _ => trivial, ?_, ?_, trivial⟩
          · intro ledger _ others disjoint
            exact .insertReversal disjoint (Set.mem_insert ..)
          · intro locks _ ledger later _ _ evolves
            exact evolves.insertReversal_both _

end Reversing

/-! ## Confirming a settlement -/

section Settling

variable {scan : ScanOrder} {held : Set RowLock} {known : Ledger → Prop} {α : Type}

/-- No reconciliation refers to a draft, so every active allocation is an external one. -/
theorem Orderly.isExternal_draft {ledger : Ledger} (orderly : Orderly ledger)
    {batch : SettlementBatch} (member : batch ∈ ledger.settlementBatches)
    (isDraft : batch.status = .draft) (allocation : ReconciliationAllocation) :
    ledger.isExternal batch.id allocation = ledger.isActive allocation := by
  have other : ledger.allocationBatch allocation ≠ some batch.id := by
    intro ofBatch
    rcases Option.bind_eq_some_iff.mp ofBatch with ⟨row, found, refers⟩
    rcases orderly.once batch member with ⟨-, -, none⟩ | ⟨isConfirmed, -, -⟩
    · have listed : row ∈ ledger.reconciliationsOf batch.id :=
        List.mem_filter.mpr ⟨(reconciliation?_eq_some found).1, decide_eq_true refers⟩
      rw [List.length_eq_zero_iff.mp none] at listed
      exact List.not_mem_nil listed
    · rw [isDraft] at isConfirmed
      exact SettlementStatus.noConfusion isConfirmed
  simp only [Ledger.isExternal, other, ne_eq, not_false_eq_true, decide_true, Bool.and_true]

/-- A check of all rows passes when it passes with more rows. -/
theorem below_collect {Row ε β : Type} {check : Row → Except ε β} {rows rows' : List Row}
    (fewer : rows' ⊆ rows) (next : Transaction RowLock Ledger α) (ledger : Ledger) :
    Below (orRollback (collect check rows) >>= fun _ => next)
      (orRollback (collect check rows') >>= fun _ => next) ledger := by
  intro result succeeded
  rcases alone_orRollback_bind.mp succeeded with ⟨passed, checked, rest⟩
  have each := exists_collect_eq_ok.mp ⟨passed, checked⟩
  rcases exists_collect_eq_ok.mpr fun row member => each row (fewer member) with
    ⟨passed', checked'⟩
  exact alone_orRollback_bind.mpr ⟨passed', checked', rest⟩

theorem Ledger.DraftsFit.exists_invoice {ledger : Ledger} (drafts : ledger.DraftsFit) {batch : Uuid} :
    ∀ id ∈ ledger.batchInvoiceIds batch, ∃ invoice ∈ ledger.invoices, invoice.id = id := by
  intro id listed
  rcases List.mem_map.mp listed with ⟨item, itemMem, rfl⟩
  rcases drafts.invoicesFit item (List.mem_filter.mp itemMem).1 with
    ⟨-, -, -, invoice, member, same, -⟩
  exact ⟨invoice, member, same⟩

theorem Ledger.DraftsFit.exists_transaction {ledger : Ledger} (drafts : ledger.DraftsFit)
    {batch : Uuid} :
    ∀ id ∈ ledger.batchTransactionIds batch, ∃ money ∈ ledger.transactions, money.id = id := by
  intro id listed
  rcases List.mem_map.mp listed with ⟨item, itemMem, rfl⟩
  rcases drafts.transactionsFit item (List.mem_filter.mp itemMem).1 with
    ⟨-, -, -, money, member, same, -⟩
  exact ⟨money, member, same⟩

/-- No record of the batch has an active allocation. -/
def Unoccupied (invoiceIds transactionIds : List Uuid) (ledger : Ledger) : Prop :=
  ∀ allocation ∈ ledger.allocations, touches invoiceIds transactionIds allocation = true →
    ledger.isActive allocation = false

section Occupied

variable {invoiceIds transactionIds : List Uuid} {ledger later : Ledger}

theorem Unoccupied.activeAmount_eq (unoccupied : Unoccupied invoiceIds transactionIds ledger)
    {key : ReconciliationAllocation → Uuid} {id : Uuid}
    (touching : ∀ allocation, key allocation = id → touches invoiceIds transactionIds allocation = true) :
    ledger.activeAmount key id = 0 := by
  apply total_eq_zero
  intro allocation member
  by_cases named : key allocation = id
  · simp [unoccupied allocation member (touching allocation named)]
  · simp [named]

theorem Unoccupied.evolve (unoccupied : Unoccupied invoiceIds transactionIds ledger)
    (invoicesLocked : ∀ id ∈ invoiceIds, .invoice id ∈ held)
    (transactionsLocked : ∀ id ∈ transactionIds, .transaction id ∈ held)
    (evolves : Ledger.Evolves held ledger later) :
    Unoccupied invoiceIds transactionIds later := by
  intro allocation member touching
  have onLocked : OnLocked held invoiceIds transactionIds allocation :=
    (of_decide_eq_true touching).imp (fun listed => ⟨listed, invoicesLocked _ listed⟩)
      fun listed => ⟨listed, transactionsLocked _ listed⟩
  have inactive := unoccupied allocation ((onLocked.mem_iff evolves).mp member) touching
  simp only [Ledger.isActive, Bool.not_eq_false'] at inactive ⊢
  exact evolves.isReversed_mono inactive

theorem externallyOccupied_eq_false_iff {batch : Uuid} (invoiceIds transactionIds : List Uuid)
    (unused : ∀ allocation, ledger.isExternal batch allocation = ledger.isActive allocation) :
    externallyOccupied batch invoiceIds transactionIds ledger = false ↔
      Unoccupied invoiceIds transactionIds ledger := by
  simp only [externallyOccupied, unused, List.any_eq_false, Bool.and_eq_true, not_and,
    Bool.not_eq_true, Unoccupied]

end Occupied

theorem obeys_readInvoiceOpenAmount {id : Uuid} {next : Uuid × ℤ → Transaction RowLock Ledger α}
    (sound : ∀ ledger, known ledger → ledger.Sound) (locked : .invoice id ∈ held)
    (visible : ∀ ledger, known ledger → ∃ invoice ∈ ledger.invoices, invoice.id = id)
    (free : ∀ ledger, known ledger → ledger.activeAmount (·.invoice) id = 0)
    (rest : ∀ result, rowLocking.Obeys (next result) held known) :
    rowLocking.Obeys (readInvoiceOpenAmount id >>= next) held known := by
  simp only [readInvoiceOpenAmount, bind_assoc, ask_bind, query_bind, pure_eq, done_bind]
  refine .stableQuery ?_ fun found => .orRollback fun invoice _ => .stableQuery ?_ fun allocated =>
    (rest _).mono fun ledger all => all.1.1
  · intro ledger later knows knowsLater evolves
    refine evolves.invoice?_eq (sound ledger knows) (sound later knowsLater) locked ?_
    rcases visible ledger knows with ⟨invoice, member, same⟩
    rw [(sound ledger knows).invoice?_eq_some_iff.mpr ⟨member, same⟩]
    rfl
  · intro ledger later knows knowsLater _
    rw [free ledger knows.1, free later knowsLater.1]

theorem obeys_readTransactionOpenAmount {id : Uuid}
    {next : Uuid × ℤ → Transaction RowLock Ledger α}
    (sound : ∀ ledger, known ledger → ledger.Sound)
    (visible : ∀ ledger, known ledger → ∃ money ∈ ledger.transactions, money.id = id)
    (free : ∀ ledger, known ledger → ledger.activeAmount (·.transaction) id = 0)
    (rest : ∀ result, rowLocking.Obeys (next result) held known) :
    rowLocking.Obeys (readTransactionOpenAmount id >>= next) held known := by
  simp only [readTransactionOpenAmount, bind_assoc, ask_bind, query_bind, pure_eq, done_bind]
  refine .stableQuery ?_ fun found => .orRollback fun money _ => .stableQuery ?_ fun allocated =>
    (rest _).mono fun ledger all => all.1.1
  · intro ledger later knows knowsLater evolves
    refine evolves.transaction?_eq (sound ledger knows) (sound later knowsLater) ?_
    rcases visible ledger knows with ⟨money, member, same⟩
    rw [(sound ledger knows).transaction?_eq_some_iff.mpr ⟨member, same⟩]
    rfl
  · intro ledger later knows knowsLater _
    rw [free ledger knows.1, free later knowsLater.1]

theorem obeys_checkBatchAllocations {batch : SettlementBatch} {allocations : List AllocationInput}
    {next : Transaction RowLock Ledger α} (orderly : ∀ ledger, known ledger → Orderly ledger)
    (unused : ∀ ledger, known ledger → ∀ allocation,
      ledger.isExternal batch.id allocation = ledger.isActive allocation)
    (rest : ∀ locks, held ⊆ locks → rowLocking.Obeys next locks known) :
    rowLocking.Obeys (checkBatchAllocations scan batch allocations >>= fun _ => next) held known := by
  simp only [checkBatchAllocations, bind_assoc, ask_bind, query_bind]
  refine .stableQuery ?_ fun invoiceIds => .stableQuery ?_ fun transactionIds => ?_
  · intro ledger later _ _ evolves
    simp only [Ledger.batchInvoiceIds, evolves.batchInvoices]
  · intro ledger later _ _ evolves
    simp only [Ledger.batchTransactionIds, evolves.batchTransactions]
  refine .orRollback fun _ _ => obeys_lockInvoices ?_ ?_ ?_
  · exact fun ledger knows => (orderly ledger knows.1.1).sound
  · intro ledger later knows _ rows rows' _ _ same result succeeded
    rw [lockTransactions, alone_selectForUpdate_bind] at succeeded ⊢
    refine below_collect (same ?_) _ later result succeeded
    intro id listed
    rw [← knows.1.2] at listed
    exact (orderly ledger knows.1.1).drafts.exists_invoice id listed
  intro locks invoices more _ invoicesLocked
  refine obeys_lockTransactions ?_ ?_ ?_
  · exact fun ledger knows => (orderly ledger knows.1.1).sound
  · intro ledger later knows _ rows rows' _ _ same result succeeded
    rcases alone_orRollback_bind.mp succeeded with ⟨checked, ofInvoices, others⟩
    refine alone_orRollback_bind.mpr ⟨checked, ofInvoices, below_collect (same ?_) _ later _ others⟩
    intro id listed
    rw [← knows.2] at listed
    exact (orderly ledger knows.1.1).drafts.exists_transaction id listed
  intro locks' transactions more' _ transactionsLocked
  have invoiceLocks : ∀ id ∈ invoiceIds, .invoice id ∈ locks' := by
    intro id listed
    refine more' (invoicesLocked ?_ id listed)
    rintro ledger knows id listed
    rw [← knows.1.2] at listed
    exact (orderly ledger knows.1.1).drafts.exists_invoice id listed
  have transactionLocks : ∀ id ∈ transactionIds, .transaction id ∈ locks' := by
    refine transactionsLocked ?_
    rintro ledger knows id listed
    rw [← knows.2] at listed
    exact (orderly ledger knows.1.1).drafts.exists_transaction id listed
  refine .orRollback fun _ _ => .orRollback fun _ _ => ?_
  -- An occupied record may become free, but then the service has given up.
  refine ⟨fun occupied ledger => ((known ledger ∧ ledger.batchInvoiceIds batch.id = invoiceIds) ∧
    ledger.batchTransactionIds batch.id = transactionIds) ∧
      (occupied = false → Unoccupied invoiceIds transactionIds ledger), ?_, ?_⟩
  · intro ledger later knows knowsLater evolves
    have isFree := externallyOccupied_eq_false_iff invoiceIds transactionIds (unused ledger knows.1.1)
    have isFreeLater :=
      externallyOccupied_eq_false_iff invoiceIds transactionIds (unused later knowsLater.1.1)
    cases occupied : externallyOccupied batch.id invoiceIds transactionIds ledger with
    | true =>
        refine ⟨⟨knowsLater, fun free => Bool.noConfusion free⟩, ?_⟩
        intro result succeeded
        simp at succeeded
    | false =>
        have still := (isFree.mp occupied).evolve invoiceLocks transactionLocks evolves
        refine ⟨⟨knowsLater, fun _ => still⟩, .of_eq ?_⟩
        rw [isFreeLater.mpr still]
  · intro ledger knows
    cases occupied : externallyOccupied batch.id invoiceIds transactionIds ledger with
    | true => trivial
    | false =>
        simp only [Bool.false_eq_true, if_false, bind_assoc]
        refine .each ?_ fun invoiceOpenAmounts => .each ?_ fun transactionOpenAmounts =>
          .orRollback fun _ _ => (rest _ (more.trans more')).mono fun later all => all.1.1.1
        · intro id listed others ofOthers
          refine obeys_readInvoiceOpenAmount ?_ (invoiceLocks id listed) ?_ ?_ ofOthers
          · exact fun later all => (orderly later all.1.1.1).sound
          · rintro later ⟨⟨⟨knowsLater, rfl⟩, -⟩, -⟩
            exact (orderly later knowsLater).drafts.exists_invoice id listed
          · rintro later ⟨-, free⟩
            refine (free trivial).activeAmount_eq fun allocation named => ?_
            subst named
            exact decide_eq_true (.inl listed)
        · intro id listed others ofOthers
          refine obeys_readTransactionOpenAmount ?_ ?_ ?_ ofOthers
          · exact fun later all => (orderly later all.1.1.1).sound
          · rintro later ⟨⟨⟨knowsLater, -⟩, rfl⟩, -⟩
            exact (orderly later knowsLater).drafts.exists_transaction id listed
          · rintro later ⟨-, free⟩
            refine (free trivial).activeAmount_eq fun allocation named => ?_
            subst named
            exact decide_eq_true (.inr listed)

theorem Ledger.Evolves.setConfirmed {ledger : Ledger} {batch : Uuid} {others : Set RowLock}
    (disjoint : Disjoint others held) (locked : .settlementBatch batch ∈ held) :
    Ledger.Evolves others ledger (ledger.setConfirmed batch) := by
  refine { Ledger.Evolves.refl others ledger with settlementBatches := ?_ }
  refine Edits.of_map fun row member => ?_
  by_cases named : row.id = batch
  · subst named
    rw [if_pos rfl]
    exact ⟨rfl, fun foreign => absurd locked (Set.disjoint_left.mp disjoint foreign)⟩
  · rw [if_neg named]
    exact Stays.refl row

theorem Ledger.Evolves.setConfirmed_both {ledger later : Ledger} {locks : Set RowLock}
    (evolves : Ledger.Evolves locks ledger later) (batch : Uuid) :
    Ledger.Evolves locks (ledger.setConfirmed batch) (later.setConfirmed batch) := by
  refine { evolves with settlementBatches := Edits.map ?_ ?_ evolves.settlementBatches }
  · intro row
    split
    · rfl
    · rfl
  · intro row next same
    split
    · split
      · exact same
      · exact same
    · split
      · exact same
      · exact same

theorem obeys_confirmSettlementTransaction {id : Uuid} {actor : Actor}
    {allocations : List AllocationInput} {version : ℤ} {uuid : Uuid} {now : ℤ}
    (orderly : ∀ ledger, known ledger → Orderly ledger) :
    rowLocking.Obeys (confirmSettlementTransaction scan id actor allocations version uuid now) held
      known := by
  simp only [confirmSettlementTransaction]
  refine .orRollback fun _ _ => .getForUpdate rfl ?_ ?_ fun batch => ?_
  · intro ledger later _ _ evolves visible
    rcases Option.isSome_iff_exists.mp visible with ⟨batch, found⟩
    have member := List.mem_of_find?_eq_some found
    rcases evolves.settlementBatch_exists.mpr ⟨batch, member, settlementBatch?_id found⟩ with
      ⟨row, rowMem, same⟩
    exact List.find?_isSome.mpr ⟨row, rowMem, decide_eq_true same⟩
  · intro locks ledger later locked _ _ evolves _
    exact evolves.settlementBatch?_eq locked
  · refine .of_fact (batch.id = id) (fun ledger both => settlementBatch?_id both.2) ?_
    rintro rfl
    refine .orRollback fun _ checkedVersion => obeys_checkBatchAllocations ?_ ?_ fun locks more => ?_
    · exact fun ledger both => orderly ledger both.1
    · intro ledger both
      exact (orderly ledger both.1).isExternal_draft (List.mem_of_find?_eq_some both.2)
        (validateBatchVersion_eq_ok.mp checkedVersion).1
    · refine obeys_createTransaction (fun ledger both => (orderly ledger both.1).sound) ?_
      intro locks' more'
      have locked : .settlementBatch batch.id ∈ locks' := more' (more (Set.mem_insert ..))
      refine ⟨fun _ => True, fun _ _ => trivial, ?_, ?_, trivial⟩
      · intro ledger _ others disjoint
        exact .setConfirmed disjoint locked
      · intro locks _ ledger later _ _ evolves
        exact evolves.setConfirmed_both batch.id

end Settling

end Finrec
