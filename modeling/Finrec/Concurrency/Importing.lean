import Finrec.Concurrency.ImportStatements

/-!
# An import confirmation keeps the discipline

A confirmation holds the lock of its batch, so the staged rows that it works on
stay as they are.  What it looks up by a key may appear at any moment, but never
go away or come under another key: a row that looked new may be a duplicate or a
conflict when it is inserted.  The unique index refuses it then, and the second
look decides as a first look would have done.
-/

namespace Finrec

open Checks RowLocks RowLocks.Transaction TableChanges Totals

/-! ## What stays for a confirmation -/

/-- What a confirmation knows of the ledger: unique keys, and that its rows are of its batch. -/
structure Confirming (batch : Uuid) (rows : List StagedRow) (ledger : Ledger) : Prop where
  invoiceKeys : (ledger.invoices.map fun invoice =>
    (invoice.invoiceNumber, invoice.sellerTaxId)).Nodup
  placed : ledger.Placed
  owned : ∀ row ∈ rows, ∀ staged ∈ ledger.stagedRows, staged.id = row.id → staged.batch = batch

theorem Ledger.invoiceOf?_eq_some_iff {ledger : Ledger}
    (keys : (ledger.invoices.map fun invoice =>
      (invoice.invoiceNumber, invoice.sellerTaxId)).Nodup)
    {invoiceNumber sellerTaxId : String} {invoice : Invoice} :
    ledger.invoiceOf? invoiceNumber sellerTaxId = some invoice ↔
      invoice ∈ ledger.invoices ∧ invoice.invoiceNumber = invoiceNumber ∧
        invoice.sellerTaxId = sellerTaxId := by
  rw [← Prod.mk.injEq, ← find?_eq_some_iff keys]
  simp only [invoiceOf?, Prod.mk.injEq]

namespace Ledger.Evolves

variable {held : Set RowLock} {before after : Ledger}

/-- An invoice that was found by its key is found again, and unchanged when it is locked. -/
theorem invoiceOf?_eq_some (evolves : Evolves held before after)
    (keys : (after.invoices.map fun invoice =>
      (invoice.invoiceNumber, invoice.sellerTaxId)).Nodup)
    {invoiceNumber sellerTaxId : String} {invoice : Invoice}
    (found : before.invoiceOf? invoiceNumber sellerTaxId = some invoice) :
    ∃ next, after.invoiceOf? invoiceNumber sellerTaxId = some next ∧ next.id = invoice.id ∧
      (.invoice invoice.id ∈ held → next = invoice) := by
  rcases Ledger.invoiceOf?_eq_some found with ⟨member, rfl, rfl⟩
  rcases evolves.invoices.exists_of_mem member with ⟨next, nextMem, stays⟩
  have same := Invoice.eq_of_core stays.core
  refine ⟨next, (Ledger.invoiceOf?_eq_some_iff keys).mpr ⟨nextMem, ?_, ?_⟩, ?_, stays.locked⟩
  · rw [same]
  · rw [same]
  · rw [same]

theorem invoiceOf?_isSome (evolves : Evolves held before after)
    (keys : (after.invoices.map fun invoice =>
      (invoice.invoiceNumber, invoice.sellerTaxId)).Nodup)
    {invoiceNumber sellerTaxId : String}
    (taken : (before.invoiceOf? invoiceNumber sellerTaxId).isSome = true) :
    (after.invoiceOf? invoiceNumber sellerTaxId).isSome = true := by
  rcases Option.isSome_iff_exists.mp taken with ⟨invoice, found⟩
  rcases evolves.invoiceOf?_eq_some keys found with ⟨next, foundNext, -⟩
  exact Option.isSome_iff_exists.mpr ⟨next, foundNext⟩

/-- No row with a claimed key is added. -/
theorem invoices_unused (evolves : Evolves held before after) {select : Invoice → Bool}
    (byCore : ∀ {invoice next}, next.core = invoice.core → select next = select invoice)
    (claimed : ∀ invoice, select invoice = true → .invoiceId invoice.id ∈ held ∨
      .invoiceNumber invoice.invoiceNumber invoice.sellerTaxId ∈ held)
    (unused : before.invoices.any select = false) : after.invoices.any select = false := by
  rw [List.any_eq_false] at unused ⊢
  intro next member selected
  rcases evolves.invoices.of_mem member with ⟨invoice, invoiceMem, stays⟩ | fresh
  · rw [byCore stays.core] at selected
    exact unused invoice invoiceMem selected
  · exact (claimed next selected).elim fresh.1 fresh.2

theorem invoiceIds_taken (evolves : Evolves held before after) {id : Uuid}
    (taken : (before.invoices.any fun row => decide (row.id = id)) = true) :
    (after.invoices.any fun row => decide (row.id = id)) = true := by
  rcases List.any_eq_true.mp taken with ⟨invoice, member, same⟩
  rcases evolves.invoices.exists_of_mem member with ⟨next, nextMem, stays⟩
  refine List.any_eq_true.mpr ⟨next, nextMem, ?_⟩
  rwa [Invoice.eq_of_core stays.core]

theorem transactions_any (evolves : Evolves held before after) {select : MoneyTransaction → Bool}
    (taken : before.transactions.any select = true) : after.transactions.any select = true := by
  rcases List.any_eq_true.mp taken with ⟨money, member, selected⟩
  exact List.any_eq_true.mpr ⟨money, evolves.transactions.subset member, selected⟩

theorem sourceData_eq (evolves : Evolves held before after) (invoice : Invoice) :
    after.sourceData invoice = before.sourceData invoice := by
  have same : (after.stagedRows.find? fun row => decide (row.batch = invoice.importBatch ∧
      row.rowNumber = invoice.sourceRow)).map StagedRow.core =
        (before.stagedRows.find? fun row => decide (row.batch = invoice.importBatch ∧
          row.rowNumber = invoice.sourceRow)).map StagedRow.core :=
    Edits.find?_core evolves.stagedRows fun same => by rw [StagedRow.eq_of_core same]
  have data : StagedRow.normalizedData = StagedRow.normalizedData ∘ StagedRow.core := rfl
  rw [sourceData, sourceData, data, ← Option.map_map, ← Option.map_map, same]

theorem invoiceDisposition_eq (evolves : Evolves held before after) (existing : Invoice)
    (normalized : NormalizedInvoiceRow) : after.invoiceDisposition existing normalized =
      before.invoiceDisposition existing normalized := by
  have fields : after.BusinessFieldsMatch existing normalized ↔
      before.BusinessFieldsMatch existing normalized := by
    simp only [BusinessFieldsMatch, evolves.sourceData_eq]
  simp only [invoiceDisposition, fields]

/-- The rows of a batch that is locked. -/
theorem rowsOf_eq (evolves : Evolves held before after) {batch : Uuid}
    (locked : .importBatch batch ∈ held) (select : StagedRow → Bool) :
    (after.stagedRows.filter fun row => decide (row.batch = batch) && select row) =
      before.stagedRows.filter fun row => decide (row.batch = batch) && select row := by
  have ofBatch : (after.stagedRows.filter fun row => decide (row.batch = batch)) =
      before.stagedRows.filter fun row => decide (row.batch = batch) := by
    refine Edits.filter_eq evolves.stagedRows ?_ ?_
    · intro row next same
      rw [StagedRow.eq_of_core same]
    · intro row _ selected
      rwa [of_decide_eq_true selected]
  have nested (rows : List StagedRow) :
      (rows.filter fun row => decide (row.batch = batch) && select row) =
        (rows.filter fun row => decide (row.batch = batch)).filter select := by
    rw [List.filter_filter]
    simp only [Bool.and_comm]
  rw [nested, nested, ofBatch]

theorem importBatch?_eq (evolves : Evolves held before after) {id : Uuid}
    (locked : .importBatch id ∈ held) : after.importBatch? id = before.importBatch? id := by
  refine Edits.find?_eq evolves.importBatches ?_ ?_
  · intro batch next same
    rw [same]
  · intro batch _ selected
    rwa [of_decide_eq_true selected]

theorem importBatch?_isSome (evolves : Evolves held before after) {id : Uuid}
    (visible : (before.importBatch? id).isSome = true) : (after.importBatch? id).isSome = true := by
  have same : (after.importBatches.find? fun batch => decide (batch.id = id)).map ImportBatch.id =
      (before.importBatches.find? fun batch => decide (batch.id = id)).map ImportBatch.id :=
    Edits.find?_core evolves.importBatches fun same => by rw [same]
  have visibleId := congrArg Option.isSome same
  rw [Option.isSome_map, Option.isSome_map] at visibleId
  exact visibleId.trans visible

theorem snapshotAt?_eq (evolves : Evolves held before after) (placed : after.Placed)
    {account : Uuid} {asOf : ℤ} (visible : (before.snapshotAt? account asOf).isSome = true) :
    after.snapshotAt? account asOf = before.snapshotAt? account asOf := by
  rcases Option.isSome_iff_exists.mp visible with ⟨snapshot, found⟩
  rw [found]
  have here : snapshot ∈ before.snapshots ∧ snapshot.account = account ∧ snapshot.asOf = asOf :=
    ⟨List.mem_of_find?_eq_some found, by simpa using List.find?_some found⟩
  exact placed.snapshotAt?_eq_some_iff.mpr ⟨evolves.snapshots.subset here.1, here.2⟩

theorem snapshotAt?_isSome (evolves : Evolves held before after) (placed : after.Placed)
    {account : Uuid} {asOf : ℤ} (visible : (before.snapshotAt? account asOf).isSome = true) :
    (after.snapshotAt? account asOf).isSome = true := by
  rwa [evolves.snapshotAt?_eq placed visible]

theorem snapshotAt?_unused (evolves : Evolves held before after) {account : Uuid} {asOf : ℤ}
    (claimed : .snapshotPlace account asOf ∈ held)
    (unused : (before.snapshotAt? account asOf).isSome = false) :
    (after.snapshotAt? account asOf).isSome = false := by
  simp only [snapshotAt?, Option.isSome_eq_false_iff, Option.isNone_iff_eq_none,
    List.find?_eq_none, decide_eq_true_eq, not_and] at unused ⊢
  rintro snapshot member rfl rfl
  rcases evolves.snapshots.of_mem member with old | fresh
  · exact unused snapshot old rfl rfl
  · exact fresh claimed

end Ledger.Evolves

/-! ## Writes -/

section Writes

variable {held : Set RowLock} {known after : Ledger → Prop} {batch : Uuid} {rows : List StagedRow}
  {row : StagedRow}

theorem not_mem_of_disjoint {others : Set RowLock} (disjoint : Disjoint others held)
    {lock : RowLock} (locked : lock ∈ held) : lock ∉ others :=
  fun foreign => Set.disjoint_left.mp disjoint foreign locked

/-- The flags of a row of the batch may change. -/
theorem allows_updateRow {change : StagedRow → StagedRow} (listed : row ∈ rows)
    (locked : .importBatch batch ∈ held) (flags : ∀ staged, (change staged).core = staged.core) :
    rowLocking.Allows held (Confirming batch rows) (fun ledger => ledger.updateRow row change)
      (Confirming batch rows) := by
  have keepsCore (staged : StagedRow) :
      (if staged.id = row.id then change staged else staged).core = staged.core := by
    split
    · exact flags staged
    · rfl
  refine ⟨?_, ?_, ?_⟩
  · intro ledger knows
    refine ⟨knows.invoiceKeys, knows.placed, ?_⟩
    rintro other otherListed staged member same
    rcases List.mem_map.mp member with ⟨old, oldMem, rfl⟩
    have core := StagedRow.eq_of_core (keepsCore old)
    rw [core] at same ⊢
    exact knows.owned other otherListed old oldMem same
  · intro ledger knows others disjoint
    refine { Ledger.Evolves.refl others ledger with stagedRows := Edits.of_map ?_ }
    intro staged member
    refine ⟨keepsCore staged, fun foreign => ?_⟩
    by_cases same : staged.id = row.id
    · rw [knows.owned row listed staged member same] at foreign
      exact absurd foreign (not_mem_of_disjoint disjoint locked)
    · rw [if_neg same]
  · intro locks _ ledger later _ _ evolves
    refine { evolves with stagedRows := Edits.map ?_ ?_ evolves.stagedRows }
    · intro staged
      rw [StagedRow.eq_of_core (keepsCore staged)]
    · intro staged next same
      rw [keepsCore, keepsCore, same]

theorem Invoice.core_withStatus (key : Uuid) (status : InvoiceStatus) (invoice : Invoice) :
    (invoice.withStatus key status).core = invoice.core := by
  rw [withStatus]
  split
  · rfl
  · rfl

/-- The status of a locked invoice may change. -/
theorem allows_updateInvoiceStatus {existing : Invoice} {status : InvoiceStatus} {actor : Uuid}
    {now : ℤ} (locked : .invoice existing.id ∈ held) :
    rowLocking.Allows held (Confirming batch rows)
      (fun ledger => ledger.updateInvoiceStatus existing status batch row actor now)
      (Confirming batch rows) := by
  refine ⟨?_, ?_, ?_⟩
  · intro ledger knows
    refine ⟨?_, knows.placed, knows.owned⟩
    have keys := knows.invoiceKeys
    change ((ledger.invoices.map (Invoice.withStatus existing.id status)).map fun invoice =>
      (invoice.invoiceNumber, invoice.sellerTaxId)).Nodup
    rw [List.map_map]
    simpa [Function.comp_def] using keys
  · intro ledger _ others disjoint
    refine { Ledger.Evolves.refl others ledger with invoices := Changes.of_map ?_ }
    intro invoice _
    refine ⟨Invoice.core_withStatus .., fun foreign => ?_⟩
    by_cases same : invoice.id = existing.id
    · rw [same] at foreign
      exact absurd foreign (not_mem_of_disjoint disjoint locked)
    · rw [Invoice.withStatus, if_neg same]
  · intro locks _ ledger later _ _ evolves
    refine { evolves with invoices := Changes.map ?_ ?_ evolves.invoices }
    · intro invoice next stays
      refine stays.map (fun invoice => ?_) fun same => ?_
      · rw [Invoice.withStatus_id]
      · rw [Invoice.core_withStatus, Invoice.core_withStatus, same]
    · intro invoice fresh
      simpa using fresh

/-- An invoice with claimed keys may be added. -/
theorem allows_addInvoice {invoice : Invoice} (idClaimed : .invoiceId invoice.id ∈ held)
    (numberClaimed : .invoiceNumber invoice.invoiceNumber invoice.sellerTaxId ∈ held) :
    rowLocking.Allows held
      (fun ledger => Confirming batch rows ledger ∧
        (ledger.invoiceOf? invoice.invoiceNumber invoice.sellerTaxId).isSome = false)
      (fun ledger => ledger.addInvoice invoice) (Confirming batch rows) := by
  refine ⟨?_, ?_, ?_⟩
  · rintro ledger ⟨knows, unused⟩
    refine ⟨?_, knows.placed, knows.owned⟩
    simp only [Option.isSome_eq_false_iff, Option.isNone_iff_eq_none,
      Ledger.invoiceOf?_eq_none] at unused
    simp only [Ledger.addInvoice, List.map_append, List.nodup_append, List.map_singleton]
    refine ⟨knows.invoiceKeys, List.nodup_singleton _, ?_⟩
    rintro key member other otherMem rfl
    rcases List.mem_map.mp member with ⟨old, oldMem, same⟩
    rw [List.mem_singleton.mp otherMem, Prod.mk.injEq] at same
    exact unused old oldMem same
  · intro ledger _ others disjoint
    refine { Ledger.Evolves.refl others ledger with
      invoices := Changes.of_append (fun row => Stays.refl row) ?_ }
    intro row member
    rw [List.mem_singleton.mp member]
    exact ⟨not_mem_of_disjoint disjoint idClaimed, not_mem_of_disjoint disjoint numberClaimed⟩
  · intro locks _ ledger later _ _ evolves
    exact { evolves with
      invoices := evolves.invoices.append (fun row => Stays.refl row) [invoice] }

/-- A transaction with claimed keys may be added. -/
theorem allows_addTransaction {money : MoneyTransaction}
    (idClaimed : .transactionId money.id ∈ held)
    (fingerprintClaimed : .fingerprint money.fingerprint ∈ held) :
    rowLocking.Allows held (Confirming batch rows) (fun ledger => ledger.addTransaction money)
      (Confirming batch rows) := by
  refine ⟨?_, ?_, ?_⟩
  · intro ledger knows
    exact ⟨knows.invoiceKeys, knows.placed, knows.owned⟩
  · intro ledger _ others disjoint
    refine { Ledger.Evolves.refl others ledger with transactions := Adds.of_append ?_ }
    intro row member
    rw [List.mem_singleton.mp member]
    exact ⟨not_mem_of_disjoint disjoint idClaimed, not_mem_of_disjoint disjoint fingerprintClaimed⟩
  · intro locks _ ledger later _ _ evolves
    exact { evolves with transactions := evolves.transactions.append [money] }

theorem Ledger.Placed.add {ledger : Ledger} (placed : ledger.Placed)
    {snapshot : AccountBalanceSnapshot}
    (unused : ledger.snapshotAt? snapshot.account snapshot.asOf = none) :
    ({ ledger with snapshots := ledger.snapshots ++ [snapshot] } : Ledger).Placed := by
  rw [Ledger.Placed, List.map_append, List.nodup_append]
  refine ⟨placed, List.nodup_singleton _, ?_⟩
  rintro place member other otherMem rfl
  rcases List.mem_map.mp member with ⟨old, oldMem, same⟩
  rw [List.map_singleton] at otherMem
  rw [List.mem_singleton.mp otherMem, Prod.mk.injEq] at same
  rw [placed.snapshotAt?_eq_some_iff.mpr ⟨oldMem, same⟩] at unused
  cases unused

/-- A balance at a claimed place may be added. -/
theorem allows_addSnapshot (snapshot : AccountBalanceSnapshot)
    (claimed : .snapshotPlace snapshot.account snapshot.asOf ∈ held) :
    rowLocking.Allows held
      (fun ledger => Confirming batch rows ledger ∧
        (ledger.snapshotAt? snapshot.account snapshot.asOf).isSome = false)
      (fun ledger => { ledger with snapshots := ledger.snapshots ++ [snapshot] })
      (Confirming batch rows) := by
  refine ⟨?_, ?_, ?_⟩
  · rintro ledger ⟨knows, unused⟩
    rw [Option.isSome_eq_false_iff, Option.isNone_iff_eq_none] at unused
    exact ⟨knows.invoiceKeys, knows.placed.add unused, knows.owned⟩
  · intro ledger _ others disjoint
    refine { Ledger.Evolves.refl others ledger with snapshots := Adds.of_append ?_ }
    intro row member
    rw [List.mem_singleton.mp member]
    exact not_mem_of_disjoint disjoint claimed
  · intro locks _ ledger later _ _ evolves
    exact { evolves with snapshots := evolves.snapshots.append [snapshot] }

theorem allows_saveBatch {saved : ImportBatch} (locked : .importBatch saved.id ∈ held) :
    rowLocking.Allows held (Confirming batch rows) (fun ledger => ledger.saveBatch saved)
      (Confirming batch rows) := by
  have keepsId (other : ImportBatch) :
      (if other.id = saved.id then saved else other).id = other.id := by
    split
    · rename_i same
      exact same.symm
    · rfl
  refine ⟨?_, ?_, ?_⟩
  · intro ledger knows
    exact ⟨knows.invoiceKeys, knows.placed, knows.owned⟩
  · intro ledger _ others disjoint
    refine { Ledger.Evolves.refl others ledger with importBatches := Edits.of_map ?_ }
    intro other _
    refine ⟨keepsId other, fun foreign => ?_⟩
    by_cases same : other.id = saved.id
    · rw [same] at foreign
      exact absurd foreign (not_mem_of_disjoint disjoint locked)
    · rw [if_neg same]
  · intro locks _ ledger later _ _ evolves
    refine { evolves with importBatches := Edits.map ?_ ?_ evolves.importBatches }
    · intro other
      rw [keepsId]
    · intro other next same
      rw [keepsId, keepsId, same]

theorem allows_recordAudit {actor : Uuid} {action targetType : String} {target : Uuid}
    {changes : AuditChanges} {now : ℤ} :
    rowLocking.Allows held (Confirming batch rows)
      (fun ledger => ledger.recordAudit actor action targetType target changes now)
      (Confirming batch rows) where
  leads _ knows := ⟨knows.invoiceKeys, knows.placed, knows.owned⟩
  guaranteed ledger _ others _ := { Ledger.Evolves.refl others ledger with }
  commutes _ _ _ _ _ _ evolves := { evolves with }

end Writes

/-! ## Looking -/

section Looking

variable {env : Env} {held : Set RowLock} {known : Ledger → Prop} {α : Type}

theorem obeys_lockInvoiceOf {invoiceNumber sellerTaxId : String}
    {next : Option Invoice → Transaction RowLock Ledger α}
    (keys : ∀ ledger, known ledger → (ledger.invoices.map fun invoice =>
      (invoice.invoiceNumber, invoice.sellerTaxId)).Nodup)
    (below : ∀ later, known later → ∀ existing,
      later.invoiceOf? invoiceNumber sellerTaxId = some existing →
        Below (next none) (next (some existing)) later)
    (restNone : rowLocking.Obeys (next none) held known)
    (rest : ∀ existing,
      rowLocking.Obeys (next (some existing)) (insert (.invoice existing.id) held) known) :
    rowLocking.Obeys (lockInvoiceOf invoiceNumber sellerTaxId >>= next) held known := by
  refine .firstForUpdate ?_ ?_ ?_ restNone ?_
  · intro ledger later _ knowsLater evolves id visible
    rcases Option.map_eq_some_iff.mp visible with ⟨existing, found, rfl⟩
    rcases evolves.invoiceOf?_eq_some (keys later knowsLater) found with ⟨again, foundAgain, same, -⟩
    exact Option.map_eq_some_iff.mpr ⟨again, foundAgain, same⟩
  · intro later knowsLater id visible
    rcases Option.map_eq_some_iff.mp visible with ⟨existing, found, -⟩
    rw [found]
    exact below later knowsLater existing found
  · rintro id locks ledger later locked ⟨-, visible⟩ ⟨knowsLater, -⟩ evolves
    rcases Option.map_eq_some_iff.mp visible with ⟨existing, found, rfl⟩
    rcases evolves.invoiceOf?_eq_some (keys later knowsLater) found with ⟨again, foundAgain, -, same⟩
    rw [found, foundAgain, same locked]
  · intro id found
    cases found with
    | none =>
        refine (Discipline.Obeys.never _ _).mono ?_
        rintro ledger ⟨⟨-, visible⟩, missing⟩
        rw [missing] at visible
        cases visible
    | some existing =>
        refine .of_fact (existing.id = id) ?_ ?_
        · rintro ledger ⟨⟨-, visible⟩, found⟩
          rw [found] at visible
          exact Option.some.inj visible
        · rintro rfl
          exact (rest existing).mono fun ledger all => all.1.1

/-- A counterpart may appear after it was looked for in vain. -/
theorem obeys_lockFormalDisposition {normalized : Normalized}
    {next : Disposition × Option Invoice → Transaction RowLock Ledger α}
    (keys : ∀ ledger, known ledger → (ledger.invoices.map fun invoice =>
      (invoice.invoiceNumber, invoice.sellerTaxId)).Nodup)
    (below : ∀ later, known later → ∀ found, later.formalDispositionFor env normalized = .ok found →
      Below (next (.new, none)) (next found) later)
    (rest : ∀ found locks, held ⊆ locks → (∀ existing ∈ found.2, .invoice existing.id ∈ locks) →
      rowLocking.Obeys (next found) locks known) :
    rowLocking.Obeys (lockFormalDisposition env normalized >>= next) held known := by
  cases normalized with
  | invoice normalized =>
      simp only [lockFormalDisposition, bind_assoc]
      refine obeys_lockInvoiceOf keys ?_ ?_ ?_
      · intro later knowsLater existing found
        simp only [pure_eq, done_bind, ask_bind, query_bind]
        refine below later knowsLater (later.invoiceDisposition existing normalized, some existing) ?_
        simp only [Ledger.formalDispositionFor, found]
      · exact rest (.new, none) held (Set.Subset.refl held) fun _ none => by cases none
      · intro existing
        simp only [pure_eq, done_bind, ask_bind, query_bind]
        refine .stableQuery ?_ fun disposition => ?_
        · intro ledger later _ _ evolves
          exact evolves.invoiceDisposition_eq existing normalized
        · refine (rest (disposition, some existing) _ (Set.subset_insert ..) ?_).mono
            fun ledger both => both.1
          rintro other ⟨⟩
          exact Set.mem_insert ..
  | transaction normalized =>
      simp only [lockFormalDisposition, bind_assoc, pure_eq, done_bind, ask_bind, query_bind]
      refine .orRollback fun fingerprint computed => ⟨fun _ => known, ?_, fun ledger knows => ?_⟩
      · intro ledger later knows knowsLater evolves
        refine ⟨knowsLater, ?_⟩
        dsimp only
        cases taken : ledger.hasFingerprint fingerprint with
        | true =>
            have still : later.hasFingerprint fingerprint = true := evolves.transactions_any taken
            rw [still]
            exact .of_eq rfl
        | false =>
            refine below later knowsLater (if later.hasFingerprint fingerprint = true then
              .duplicate else .new, none) ?_
            simp only [Ledger.formalDispositionFor, computed]
            rfl
      · exact rest _ held (Set.Subset.refl held) fun _ none => by cases none

end Looking

/-! ## Rows -/

section Rows

variable {context : ConfirmContext} {rows : List StagedRow} {row : StagedRow}
  {normalized : Normalized} {totals : ConfirmTotals} {held : Set RowLock} {α : Type}
  {settled : (Ledger → Ledger) × ConfirmTotals} {found : Disposition × Option Invoice}

theorem allows_settled
    (isSettled : settledRow context row normalized totals found = some settled)
    (listed : row ∈ rows) (locked : .importBatch context.batch ∈ held)
    (existingLocked : ∀ existing ∈ found.2, .invoice existing.id ∈ held) :
    rowLocking.Allows held (Confirming context.batch rows) settled.1
      (Confirming context.batch rows) := by
  rcases found with ⟨disposition, existing⟩
  cases disposition with
  | new => cases isSettled
  | duplicate =>
      cases isSettled
      exact allows_updateRow listed locked fun _ => rfl
  | conflict =>
      cases isSettled
      exact allows_updateRow listed locked fun _ => rfl
  | statusUpdate =>
      cases existing with
      | none => cases isSettled
      | some existing =>
          cases normalized with
          | transaction normalized => cases isSettled
          | invoice normalized =>
              cases isSettled
              have posts : rowLocking.Allows held (Confirming context.batch rows)
                  (fun ledger => ledger.markPosted row (context.supply.postedAt row.rowNumber))
                  (Confirming context.batch rows) :=
                allows_updateRow listed locked fun _ => rfl
              exact (allows_updateInvoiceStatus (existingLocked existing rfl)).comp posts

theorem obeys_lookAgain {next : ConfirmTotals → Transaction RowLock Ledger α} (listed : row ∈ rows)
    (locked : .importBatch context.batch ∈ held)
    (rest : ∀ totals locks, held ⊆ locks →
      rowLocking.Obeys (next totals) locks (Confirming context.batch rows)) :
    rowLocking.Obeys (lookAgain context row normalized totals >>= next) held
      (Confirming context.batch rows) := by
  simp only [lookAgain, bind_assoc]
  refine obeys_lockFormalDisposition (fun _ knows => knows.invoiceKeys) ?_ ?_
  · intro later _ found _ result succeeded
    simp [settledRow] at succeeded
  · intro found locks more existingLocked
    cases isSettled : settledRow context row normalized totals found with
    | none => trivial
    | some settled =>
        exact .write (allows_settled isSettled listed (more locked) existingLocked)
          (rest settled.2 locks more)

/-- A row is only posted where a look finds no counterpart. -/
theorem formalDispositionFor_of_posted {env : Env} {ledger posted : Ledger} {batch key : Uuid}
    (isPosted : ledger.postNormalizedRow env batch row key normalized = .ok posted) :
    ledger.formalDispositionFor env normalized = .ok (.new, none) := by
  cases normalized with
  | invoice normalized =>
      rcases Ledger.postInvoice_eq_ok isPosted with ⟨_, _, -, -, insertable, -⟩
      have missing := Ledger.invoiceOf?_eq_none.mpr insertable.freshKey
      simp only [Ledger.invoiceOfRow] at missing
      simp only [Ledger.formalDispositionFor, missing]
  | transaction normalized =>
      rcases Ledger.postTransaction_eq_ok isPosted with
        ⟨_, _, fingerprint, _, _, -, -, computed, -, -, insertable, -⟩
      have unused := Ledger.hasFingerprint_eq_false.mpr insertable.freshFingerprint
      simp only [Ledger.transactionOfRow] at unused
      rw [Ledger.formalDispositionFor, computed]
      change Except.ok (if ledger.hasFingerprint fingerprint = true then Disposition.duplicate
        else .new, none) = _
      rw [unused]
      rfl

/--
A row that looked new, while a counterpart has come in since, goes the way of a
row whose first look has found that counterpart.
-/
theorem confirmFound_below {ledger : Ledger}
    (isFound : ledger.formalDispositionFor context.env normalized = .ok found) :
    Below (confirmFound context row normalized totals (.new, none))
      (confirmFound context row normalized totals found) ledger := by
  rintro ⟨totals', after⟩ succeeded
  simp only [confirmFound, settledRow, postRow_alone] at succeeded
  simp only [confirmFound]
  cases isSettled : settledRow context row normalized totals found with
  | none =>
      rw [postRow_alone]
      exact succeeded
  | some settled =>
      cases posted : ledger.postNormalizedRow context.env context.batch row
          (context.supply.key row.rowNumber) normalized with
      | ok next =>
          rw [formalDispositionFor_of_posted posted] at isFound
          cases isFound
          cases isSettled
      | error error =>
          rw [posted] at succeeded
          cases error with
          | integrity =>
              rcases lookAgain_alone.mp succeeded with ⟨again, isAgain, settles⟩
              rw [isFound] at isAgain
              cases isAgain
              rw [settle_eq_settledRow, isSettled] at settles
              exact settleRow_alone.mpr (Option.some.inj settles)
          | _ => cases succeeded

/-! ### Inserts -/

theorem insertRow_bind {β : Type} {positive : Bool} {primary unique : RowLock}
    {primaryTaken uniqueTaken : Ledger → Bool} {refused accepted : Transaction RowLock Ledger α}
    (next : α → Transaction RowLock Ledger β) :
    (insertRow positive primary unique primaryTaken uniqueTaken refused accepted >>= next) =
      insertRow positive primary unique primaryTaken uniqueTaken (refused >>= next)
        (accepted >>= next) := by
  cases positive with
  | false => rfl
  | true => rfl

theorem postRow_bind {β : Type} {refused accepted : Transaction RowLock Ledger α}
    (next : α → Transaction RowLock Ledger β) :
    (postRow context row normalized refused accepted >>= next) =
      postRow context row normalized (refused >>= next) (accepted >>= next) := by
  cases normalized with
  | invoice normalized =>
      simp only [postRow, bind_assoc, insertInvoiceRow, insertRow_bind, write_bind]
  | transaction normalized =>
      simp only [postRow, bind_assoc, insertTransactionRow, insertRow_bind, write_bind]

theorem obeys_insertRow {known : Ledger → Prop} {positive : Bool} {primary unique : RowLock}
    {primaryTaken uniqueTaken : Ledger → Bool} {refused accepted : Transaction RowLock Ledger α}
    (primaryIndex : rowLocking.Index known primary primaryTaken)
    (uniqueIndex : rowLocking.Index known unique uniqueTaken)
    (ofRefused : ∀ locks, held ⊆ locks → rowLocking.Obeys refused locks known)
    (ofAccepted : rowLocking.Obeys accepted (insert unique (insert primary held))
      fun ledger => known ledger ∧ uniqueTaken ledger = false) :
    rowLocking.Obeys (insertRow positive primary unique primaryTaken uniqueTaken refused accepted)
      held known := by
  cases positive with
  | false => exact ofRefused held (Set.Subset.refl held)
  | true =>
      refine .claim primaryIndex (ofRefused held (Set.Subset.refl held)) (.claim ?_ ?_ ?_)
      · exact uniqueIndex.mono fun _ both => both.1
      · exact (ofRefused _ (Set.subset_insert ..)).mono fun _ both => both.1
      · exact ofAccepted.mono fun _ all => ⟨all.1.1, all.2⟩

theorem index_invoiceId (batch id : Uuid) :
    rowLocking.Index (Confirming batch rows) (.invoiceId id)
      (fun ledger => ledger.invoices.any fun row => decide (row.id = id)) where
  staysTaken _ _ _ _ _ evolves taken := evolves.invoiceIds_taken taken
  staysFree _ _ _ claimed _ _ evolves unused := by
    refine evolves.invoices_unused ?_ ?_ unused
    · intro invoice next same
      rw [Invoice.eq_of_core same]
    · intro invoice selected
      rw [of_decide_eq_true selected]
      exact .inl claimed

theorem index_invoiceNumber (batch : Uuid) (invoiceNumber sellerTaxId : String) :
    rowLocking.Index (Confirming batch rows) (.invoiceNumber invoiceNumber sellerTaxId)
      (fun ledger => (ledger.invoiceOf? invoiceNumber sellerTaxId).isSome) where
  staysTaken _ _ _ _ knowsLater evolves taken :=
    evolves.invoiceOf?_isSome knowsLater.invoiceKeys taken
  staysFree _ ledger later claimed _ _ evolves unused := by
    simp only [Ledger.invoiceOf?, List.isSome_find?] at unused ⊢
    refine evolves.invoices_unused ?_ ?_ unused
    · intro invoice next same
      rw [Invoice.eq_of_core same]
    · intro invoice selected
      rcases of_decide_eq_true selected with ⟨rfl, rfl⟩
      exact .inr claimed

theorem index_transactionId (batch id : Uuid) :
    rowLocking.Index (Confirming batch rows) (.transactionId id)
      (fun ledger => ledger.transactions.any fun row => decide (row.id = id)) where
  staysTaken _ _ _ _ _ evolves taken := evolves.transactions_any taken
  staysFree _ _ _ claimed _ _ evolves unused := by
    refine (evolves.transactions.any_eq ?_).trans unused
    rintro money ⟨fresh, -⟩
    apply decide_eq_false
    rintro rfl
    exact fresh claimed

theorem index_fingerprint (batch : Uuid) (fingerprint : String) :
    rowLocking.Index (Confirming batch rows) (.fingerprint fingerprint)
      (fun ledger => ledger.hasFingerprint fingerprint) where
  staysTaken _ _ _ _ _ evolves taken := evolves.transactions_any taken
  staysFree _ _ _ claimed _ _ evolves unused := by
    refine (evolves.transactions.any_eq ?_).trans unused
    rintro money ⟨-, fresh⟩
    apply decide_eq_false
    rintro rfl
    exact fresh claimed

theorem obeys_postRow {refused accepted : Transaction RowLock Ledger α}
    (ofRefused : ∀ locks, held ⊆ locks →
      rowLocking.Obeys refused locks (Confirming context.batch rows))
    (ofAccepted : ∀ locks, held ⊆ locks →
      rowLocking.Obeys accepted locks (Confirming context.batch rows)) :
    rowLocking.Obeys (postRow context row normalized refused accepted) held
      (Confirming context.batch rows) := by
  have more (first second : RowLock) : held ⊆ insert second (insert first held) :=
    (Set.subset_insert ..).trans (Set.subset_insert ..)
  cases normalized with
  | invoice normalized =>
      simp only [postRow, ask_bind]
      refine .stableQuery (fun _ _ _ _ evolves => evolves.directory) fun directory =>
        .orRollback fun invoice _ => ?_
      refine (obeys_insertRow (index_invoiceId ..) (index_invoiceNumber ..) ofRefused
        (.write (allows_addInvoice ?_ ?_) (ofAccepted _ (more _ _)))).mono fun _ both => both.1
      · exact Set.mem_insert_of_mem _ (Set.mem_insert ..)
      · exact Set.mem_insert ..
  | transaction normalized =>
      simp only [postRow, ask_bind]
      refine .stableQuery (fun _ _ _ _ evolves => evolves.directory) fun directory =>
        .orRollback fun money _ => ?_
      have posts : rowLocking.Obeys (.write (fun ledger => ledger.addTransaction money) accepted)
          (insert (.fingerprint money.fingerprint) (insert (.transactionId money.id) held))
          (Confirming context.batch rows) := by
        refine .write (allows_addTransaction ?_ ?_) (ofAccepted _ (more _ _))
        · exact Set.mem_insert_of_mem _ (Set.mem_insert ..)
        · exact Set.mem_insert ..
      exact (obeys_insertRow (index_transactionId ..) (index_fingerprint ..) ofRefused
        (posts.mono fun _ both => both.1)).mono fun _ both => both.1

/-- A row of the batch, in the loop of `confirm_batch`. -/
theorem obeys_confirmRowTransaction {next : ConfirmTotals → Transaction RowLock Ledger α}
    (listed : row ∈ rows) (locked : .importBatch context.batch ∈ held)
    (rest : ∀ totals locks, held ⊆ locks →
      rowLocking.Obeys (next totals) locks (Confirming context.batch rows)) :
    rowLocking.Obeys (confirmRowTransaction context totals row >>= next) held
      (Confirming context.batch rows) := by
  simp only [confirmRowTransaction]
  split
  · exact rest totals held (Set.Subset.refl held)
  · simp only [bind_assoc]
    refine .orRollback fun normalized _ =>
      obeys_lockFormalDisposition (fun _ knows => knows.invoiceKeys) ?_ ?_
    · intro later _ found isFound
      exact (confirmFound_below isFound).bind next
    · intro found locks more existingLocked
      simp only [confirmFound]
      cases isSettled : settledRow context row normalized totals found with
      | some settled =>
          exact .write (allows_settled isSettled listed (more locked) existingLocked)
            (rest settled.2 locks more)
      | none =>
          rw [postRow_bind]
          refine obeys_postRow ?_ ?_
          · intro locks' more'
            exact obeys_lookAgain listed (more' (more locked)) fun totals' locks'' more'' =>
              rest totals' locks'' (more.trans (more'.trans more''))
          · intro locks' more'
            exact .write (allows_updateRow listed (more' (more locked)) fun _ => rfl)
              (rest totals locks' (more.trans more'))

end Rows

/-! ## The batch -/

section Batch

variable {held : Set RowLock} {known : Ledger → Prop} {α : Type} {batch : Uuid}
  {rows : List StagedRow} {candidate : SnapshotCandidate} {next : Transaction RowLock Ledger α}

theorem index_snapshotPlace (account : Uuid) (asOf : ℤ) :
    rowLocking.Index (Confirming batch rows) (.snapshotPlace account asOf)
      (fun ledger => (ledger.snapshotAt? account asOf).isSome) where
  staysTaken _ _ _ _ knowsLater evolves taken := evolves.snapshotAt?_isSome knowsLater.placed taken
  staysFree _ _ _ claimed _ _ evolves unused := evolves.snapshotAt?_unused claimed unused

theorem obeys_compareSnapshot {existing : AccountBalanceSnapshot}
    (rest : rowLocking.Obeys next held known) :
    rowLocking.Obeys (compareSnapshot candidate existing >>= fun _ => next) held known := by
  simp only [compareSnapshot]
  split
  · exact rest
  · trivial

theorem obeys_createSnapshotTransaction
    (rest : ∀ locks, held ⊆ locks → rowLocking.Obeys next locks (Confirming batch rows)) :
    rowLocking.Obeys (createSnapshotTransaction batch candidate >>= fun _ => next) held
      (Confirming batch rows) := by
  have isThere {ledger : Ledger} {place : Unit} :
      ((ledger.snapshotAt? candidate.account candidate.occurredAt).map fun _ => ()) = some place ↔
        (ledger.snapshotAt? candidate.account candidate.occurredAt).isSome = true := by
    rw [Option.map_eq_some_iff, Option.isSome_iff_exists]
    simp
  simp only [createSnapshotTransaction, bind_assoc]
  refine .firstForUpdate ?_ ?_ ?_ ?_ ?_
  · intro ledger later _ knowsLater evolves place visible
    exact isThere.mpr (evolves.snapshotAt?_isSome knowsLater.placed (isThere.mp visible))
  · intro later _ place visible result succeeded
    rcases Option.isSome_iff_exists.mp (isThere.mp visible) with ⟨existing, found⟩
    rw [found]
    simp only [bind_assoc, alone_orRollback_bind, claim_bind, alone_claim, found,
      Option.isSome_some, if_true, alone_getForUpdate_bind] at succeeded
    rcases succeeded with ⟨balance, -, compared⟩
    exact compared
  · rintro place locks ledger later - ⟨-, visible⟩ ⟨knowsLater, -⟩ evolves
    exact evolves.snapshotAt?_eq knowsLater.placed (isThere.mp visible)
  · simp only [bind_assoc, claim_bind]
    refine .orRollback fun balance _ => .claim (index_snapshotPlace ..) (.getForUpdate ?_ ?_ ?_ ?_)
      (.write (allows_addSnapshot ⟨candidate.account, candidate.occurredAt, balance, batch⟩
        (Set.mem_insert ..)) (rest _ (Set.subset_insert ..)))
    · rfl
    · intro ledger later _ knowsLater evolves visible
      exact evolves.snapshotAt?_isSome knowsLater.placed visible
    · intro locks ledger later _ _ knowsLater evolves visible
      exact evolves.snapshotAt?_eq knowsLater.placed visible
    · intro existing
      exact obeys_compareSnapshot ((rest _ (Set.subset_insert ..)).mono fun _ both => both.1)
  · intro place found
    cases found with
    | none =>
        refine (Discipline.Obeys.never _ _).mono ?_
        rintro ledger ⟨⟨-, visible⟩, missing⟩
        have isSome := isThere.mp visible
        rw [missing] at isSome
        cases isSome
    | some existing =>
        exact obeys_compareSnapshot ((rest _ (Set.subset_insert ..)).mono fun _ all => all.1.1)

/-- Rows of a batch that is locked. -/
theorem obeys_lockStagedRows {select : Ledger → List StagedRow}
    {next : List StagedRow → Transaction RowLock Ledger α}
    (locked : .importBatch batch ∈ held)
    (distinct : ∀ ledger, known ledger → (ledger.stagedRows.map (·.id)).Nodup)
    (ofBatch : ∀ ledger, known ledger → ∀ row ∈ select ledger,
      row ∈ ledger.stagedRows ∧ row.batch = batch)
    (stable : ∀ ledger later, known ledger → known later → Ledger.Evolves held ledger later →
      select later = select ledger)
    (rest : ∀ found locks, held ⊆ locks → rowLocking.Obeys (next found) locks fun ledger =>
      known ledger ∧ select ledger = found) :
    rowLocking.Obeys (lockStagedRows select >>= next) held known := by
  refine .selectForUpdate (fun ids ledger => (select ledger).map (·.id) = ids) ?_ ?_ ?_
  · intro ledger later knows knowsLater evolves
    have same := stable ledger later knows knowsLater evolves
    refine ⟨congrArg _ same, .of_eq ?_⟩
    rw [same]
  · rintro ids id member locks includes ledger later ⟨knows, rfl⟩ - evolves
    rcases List.mem_map.mp member with ⟨row, rowMem, rfl⟩
    rcases ofBatch ledger knows row rowMem with ⟨ofTable, inBatch⟩
    refine Edits.find?_eq evolves.stagedRows ?_ ?_
    · intro old new same
      rw [StagedRow.eq_of_core same]
    · intro other otherMem selected
      have same := List.inj_on_of_nodup_map (distinct ledger knows) otherMem ofTable
        (of_decide_eq_true selected)
      rw [same, inBatch]
      exact includes (Set.mem_insert_of_mem _ locked)
  · intro state _ found
    refine (rest found _ Set.subset_union_left).mono ?_
    rintro ledger ⟨⟨knows, seen⟩, read⟩
    refine ⟨knows, ?_⟩
    rw [← seen, filterMap_stagedRows (distinct ledger knows) fun row member =>
      (ofBatch ledger knows row member).1] at read
    exact read

theorem Ledger.Evolves.pendingRows_eq {before after : Ledger}
    (evolves : Ledger.Evolves held before after) (locked : .importBatch batch ∈ held) :
    after.pendingRows batch = before.pendingRows batch := by
  simp only [pendingRows, Bool.and_assoc, evolves.rowsOf_eq locked]

theorem Ledger.Evolves.latestByAccount_eq {before after : Ledger}
    (evolves : Ledger.Evolves held before after) (locked : .importBatch batch ∈ held) :
    after.latestByAccount batch = before.latestByAccount batch := by
  simp only [latestByAccount, evolves.directory, evolves.rowsOf_eq locked]

theorem Ledger.Evolves.importResult_eq {before after : Ledger}
    (evolves : Ledger.Evolves held before after) {batch : ImportBatch}
    (locked : .importBatch batch.id ∈ held) :
    after.importResult batch = before.importResult batch := by
  simp only [importResult, postedRows, evolves.rowsOf_eq locked]

theorem obeys_createSnapshotsTransaction {batch : ImportBatch} (locked : .importBatch batch.id ∈ held)
    (rest : ∀ locks, held ⊆ locks → rowLocking.Obeys next locks (Confirming batch.id rows)) :
    rowLocking.Obeys (createSnapshotsTransaction batch >>= fun _ => next) held
      (Confirming batch.id rows) := by
  simp only [createSnapshotsTransaction]
  split
  · simp only [lockStagedRows, bind_assoc, ask_bind, query_bind]
    refine .onlySelectForUpdate (fun _ _ => True) (fun _ _ _ _ _ => trivial) fun ids => ?_
    refine .stableQuery ?_ fun candidates => ?_
    · intro ledger later _ _ evolves
      exact evolves.latestByAccount_eq (.inl locked)
    · refine Discipline.Obeys.mono (.foldlM ?_ ?_) fun ledger all => all.1.1
      · intro candidate _ _ locks more others ofOthers
        exact obeys_createSnapshotTransaction (ofOthers ())
      · intro _ locks more
        exact rest locks (Set.subset_union_left.trans more)
  · exact rest held (Set.Subset.refl held)

/-- What a confirmation needs of the ledger at its start. -/
structure Importable (ledger : Ledger) : Prop where
  invoiceKeys : (ledger.invoices.map fun invoice =>
    (invoice.invoiceNumber, invoice.sellerTaxId)).Nodup
  placed : ledger.Placed
  rowIds : (ledger.stagedRows.map (·.id)).Nodup

theorem Importable.confirming {ledger : Ledger} (importable : Importable ledger)
    (selected : ledger.pendingRows batch = rows) : Confirming batch rows ledger := by
  refine ⟨importable.invoiceKeys, importable.placed, ?_⟩
  intro row listed staged member same
  rw [← selected, mem_pendingRows] at listed
  rw [List.inj_on_of_nodup_map importable.rowIds member listed.1 same]
  exact listed.2.1

theorem obeys_confirmBatchTransaction {env : Env} {request : ConfirmRequest}
    (importable : ∀ ledger, known ledger → Importable ledger) :
    rowLocking.Obeys (confirmBatchTransaction env request) held known := by
  simp only [confirmBatchTransaction]
  refine .orRollback fun _ _ => .getForUpdate rfl ?_ ?_ fun batch => ?_
  · intro ledger later _ _ evolves visible
    exact evolves.importBatch?_isSome visible
  · intro locks ledger later locked _ _ evolves _
    exact evolves.importBatch?_eq locked
  refine .of_fact (batch.id = request.batchId)
    (fun ledger both => (importBatch?_eq_some both.2).2) fun named => ?_
  rw [← named]
  dsimp only [ask]
  split
  · refine .stableQuery (fun ledger later _ _ evolves => ?_) fun _ => .done
    exact evolves.importResult_eq (Set.mem_insert ..)
  · refine obeys_lockStagedRows (Set.mem_insert ..) ?_ ?_ ?_ fun rows locks more => ?_
    · exact fun ledger both => (importable ledger both.1).rowIds
    · intro ledger _ row member
      exact ⟨(mem_pendingRows.mp member).1, (mem_pendingRows.mp member).2.1⟩
    · intro ledger later _ _ evolves
      exact evolves.pendingRows_eq (Set.mem_insert ..)
    have locked : .importBatch batch.id ∈ locks := more (Set.mem_insert ..)
    refine Discipline.Obeys.mono (.foldlM ?_ ?_) fun ledger both =>
      (importable ledger both.1.1).confirming both.2
    · intro row listed totals locks' more' others ofOthers
      exact obeys_confirmRowTransaction listed (more' locked) ofOthers
    · intro totals locks' more'
      refine obeys_createSnapshotsTransaction (more' locked) fun locks'' more'' => ?_
      simp only [save_bind, query_bind, done_bind]
      refine .write (allows_saveBatch (more'' (more' locked))) (.stableQuery ?_ fun result => ?_)
      · intro ledger later _ _ evolves
        exact evolves.importResult_eq (more'' (more' locked))
      · exact Discipline.Obeys.mono (.write allows_recordAudit .done) fun ledger both => both.1

end Batch

end Finrec
