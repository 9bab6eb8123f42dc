import Finrec.Imports.Invariant

/-!
# The source documents of invoices

The staged row that an invoice came from stays in its place with its document,
so the names that the document carries can always be compared with those of a
later row.
-/

namespace Finrec

open Checks

namespace NormalizedData

/-- The seller's and the buyer's name of the document of an invoice. -/
def names? : NormalizedData → Option (String × String)
  | .invoice _ _ _ sellerName _ buyerName _ _ _ => some (sellerName, buyerName)
  | .empty => none
  | .transaction .. => none

end NormalizedData

theorem namesMatch_iff {document : NormalizedData} {names : String × String}
    (named : document.names? = some names) (normalized : NormalizedInvoiceRow) :
    NamesMatch (some document) normalized ↔
      names = (normalized.sellerName, normalized.buyerName) := by
  cases document with
  | empty => simp [NormalizedData.names?] at named
  | transaction => simp [NormalizedData.names?] at named
  | invoice =>
      simp only [NormalizedData.names?, Option.some.injEq] at named
      subst named
      simp [NamesMatch]

/-- A document that gives back an invoice row carries the row's names. -/
theorem names?_of_deserialize {document : NormalizedData} {normalized : NormalizedInvoiceRow}
    (decoded : deserializeNormalized document = some (.invoice normalized)) :
    document.names? = some (normalized.sellerName, normalized.buyerName) := by
  cases document with
  | empty => simp [deserializeNormalized] at decoded
  | transaction =>
      simp only [deserializeNormalized, Option.bind_eq_bind, Option.bind_eq_some_iff] at decoded
      rcases decoded with ⟨occurredAt, _, amount, _, balance, _, impossible⟩
      simp at impossible
  | invoice =>
      simp only [deserializeNormalized, Option.bind_eq_bind, Option.bind_eq_some_iff] at decoded
      rcases decoded with ⟨issueDate, -, totalAmount, -, same⟩
      simp only [Option.some.injEq, Normalized.invoice.injEq] at same
      subst same
      rfl

namespace Ledger

/-- The staged rows as places with documents. -/
def documents (ledger : Ledger) : List ((Uuid × ℕ) × NormalizedData) :=
  ledger.stagedRows.map fun row => ((row.batch, row.rowNumber), row.normalizedData)

theorem sourceData_eq (ledger : Ledger) (invoice : Invoice) :
    ledger.sourceData invoice =
      (ledger.documents.find? fun entry =>
        decide (entry.1 = (invoice.importBatch, invoice.sourceRow))).map (·.2) := by
  rw [documents, List.find?_map, Option.map_map, sourceData]
  simp [Function.comp_def]

theorem sourceData_congr {ledger after : Ledger} {invoice later : Invoice}
    (documents : after.documents = ledger.documents)
    (batch : later.importBatch = invoice.importBatch) (row : later.sourceRow = invoice.sourceRow) :
    after.sourceData later = ledger.sourceData invoice := by
  rw [sourceData_eq, sourceData_eq, documents, batch, row]

/-- The document of an invoice is the one at its place. -/
theorem sourceData_eq_some_iff {ledger : Ledger} (distinct : (ledger.documents.map (·.1)).Nodup)
    {invoice : Invoice} {document : NormalizedData} :
    ledger.sourceData invoice = some document ↔
      ((invoice.importBatch, invoice.sourceRow), document) ∈ ledger.documents := by
  rw [sourceData_eq, Option.map_eq_some_iff]
  simp only [Totals.find?_eq_some_iff distinct]
  constructor
  · rintro ⟨⟨place, found⟩, ⟨member, rfl⟩, rfl⟩
    exact member
  · intro member
    exact ⟨_, ⟨member, rfl⟩, rfl⟩

/-- The names that the source document of an invoice carries. -/
def sourceNames (ledger : Ledger) (invoice : Invoice) : Option (String × String) :=
  (ledger.sourceData invoice).bind NormalizedData.names?

theorem namesMatch_sourceData_iff {ledger : Ledger} {invoice : Invoice} {names : String × String}
    (named : ledger.sourceNames invoice = some names) (normalized : NormalizedInvoiceRow) :
    NamesMatch (ledger.sourceData invoice) normalized ↔
      names = (normalized.sellerName, normalized.buyerName) := by
  simp only [sourceNames, Option.bind_eq_some_iff] at named
  rcases named with ⟨document, found, named⟩
  rw [found]
  exact namesMatch_iff named normalized

/-- Places are distinct, and the document of every invoice carries names. -/
structure Documented (ledger : Ledger) : Prop where
  distinct : (ledger.documents.map (·.1)).Nodup
  named : ∀ invoice ∈ ledger.invoices, ∃ names, ledger.sourceNames invoice = some names

namespace Documented

variable {ledger after : Ledger}

theorem empty (directory : Directory) : (Ledger.empty directory).Documented := by
  constructor <;> simp [Ledger.empty, documents]

/-- Invoices keep their documents as long as the documents stay and the invoices their places. -/
theorem of_same_documents (documented : ledger.Documented)
    (documents : after.documents = ledger.documents)
    (invoices : ∀ later ∈ after.invoices, ∃ invoice ∈ ledger.invoices,
      later.importBatch = invoice.importBatch ∧ later.sourceRow = invoice.sourceRow) :
    after.Documented where
  distinct := by
    rw [documents]
    exact documented.distinct
  named later member := by
    rcases invoices later member with ⟨invoice, invoiceMem, batch, row⟩
    rw [sourceNames, sourceData_congr documents batch row]
    exact documented.named invoice invoiceMem

/-- Staging adds documents at new places. -/
theorem stageUpload_documents {env : Env} {parsers : List Importer} {request : StageRequest}
    {batch : ImportBatch} (keyed : ledger.ImportKeyed) (documented : ledger.Documented)
    (succeeded : stageUpload env parsers request ledger = .ok (after, batch)) :
    (after.documents.map (·.1)).Nodup ∧ ∀ entry ∈ ledger.documents, entry ∈ after.documents := by
  rcases stageUpload_addsRows succeeded with ⟨parser, sourceKind, rows, state, staged, batchEq, adds⟩
  have documentsEq : after.documents = ledger.documents ++
      (rows.map (stagedRow batch.id request.rowKey)).map fun row =>
        ((row.batch, row.rowNumber), row.normalizedData) := by
    rw [documents, adds.rows, List.map_append, documents]
  refine ⟨?_, fun entry member => by rw [documentsEq]; exact List.mem_append_left _ member⟩
  rw [documentsEq, List.map_append, List.nodup_append]
  refine ⟨documented.distinct, ?_, ?_⟩
  · rw [List.map_map, List.map_map]
    have placed : (rows.map fun row => (batch.id, row.rowNumber)) =
        (rows.map (·.rowNumber)).map fun rowNumber => (batch.id, rowNumber) := by
      rw [List.map_map]
      rfl
    change (rows.map fun row => (batch.id, row.rowNumber)).Nodup
    rw [placed]
    exact staged.insertable.2.2.1.map fun _ _ same => (Prod.mk.inj same).2
  · rintro place member other otherMem rfl
    rw [documents, List.map_map] at member
    rw [List.map_map] at otherMem
    rcases List.mem_map.mp member with ⟨old, oldMem, rfl⟩
    rcases List.mem_map.mp otherMem with ⟨new, newMem, same⟩
    rcases keyed.rowsKnown old oldMem with ⟨known, knownMem, knownId⟩
    have sameBatch : new.batch = old.batch := congrArg Prod.fst same
    rw [adds.ofBatch new newMem] at sameBatch
    exact adds.freshBatch known knownMem (knownId.trans sameBatch.symm)

/-- Staging changes no source document of an invoice. -/
theorem stageUpload_sourceData {env : Env} {parsers : List Importer} {request : StageRequest}
    {batch : ImportBatch} (keyed : ledger.ImportKeyed) (documented : ledger.Documented)
    (succeeded : stageUpload env parsers request ledger = .ok (after, batch)) {invoice : Invoice}
    (member : invoice ∈ ledger.invoices) : after.sourceData invoice = ledger.sourceData invoice := by
  have added := stageUpload_documents keyed documented succeeded
  rcases documented.named invoice member with ⟨names, named⟩
  simp only [sourceNames, Option.bind_eq_some_iff] at named
  rcases named with ⟨document, found, -⟩
  rw [found, sourceData_eq_some_iff added.1]
  rw [sourceData_eq_some_iff documented.distinct] at found
  exact added.2 _ found

theorem of_stageUpload {env : Env} {parsers : List Importer} {request : StageRequest}
    {batch : ImportBatch} (keyed : ledger.ImportKeyed) (documented : ledger.Documented)
    (succeeded : stageUpload env parsers request ledger = .ok (after, batch)) :
    after.Documented := by
  have invoices : after.invoices = ledger.invoices := by
    rcases stageUpload_eq_ok succeeded with ⟨_, _, _, _, -, same⟩
    rw [show after = _ from congrArg Prod.fst same]
    rfl
  refine ⟨(stageUpload_documents keyed documented succeeded).1, ?_⟩
  rw [invoices]
  intro invoice member
  rw [sourceNames, stageUpload_sourceData keyed documented succeeded member]
  exact documented.named invoice member

end Documented

end Ledger

/-! ## The loop -/

theorem StepEffect.documents {row : StagedRow} {state next : ConfirmState}
    {change : StagedRow → StagedRow} {duplicates errors : ℤ}
    (step : StepEffect row state next change duplicates errors) :
    next.ledger.documents = state.ledger.documents := by
  rw [Ledger.documents, step.rows, Tables.map_update, Ledger.documents]
  intro other
  have kept := step.effect.keeps other
  rw [kept.2.1, kept.2.2.1, kept.2.2.2]

theorem RowOutcome.documents {context : ConfirmContext} {state next : ConfirmState}
    {row : StagedRow} (outcome : RowOutcome context state row next) :
    next.ledger.documents = state.ledger.documents := by
  rcases outcome.effect with ⟨change, duplicates, errors, step⟩
  exact step.documents

/-- The document at the place of a row of the batch. -/
def AtPlace (context : ConfirmContext) (ledger : Ledger) (row : StagedRow) : Prop :=
  ((context.batch, row.rowNumber), row.normalizedData) ∈ ledger.documents

theorem RowOutcome.documented {context : ConfirmContext} {state next : ConfirmState}
    {row : StagedRow} (documented : state.ledger.Documented)
    (placed : AtPlace context state.ledger row) (outcome : RowOutcome context state row next) :
    next.ledger.Documented := by
  have documents := outcome.documents
  cases outcome with
  | skipped issues => exact documented
  | duplicate normalized existing clean decoded found =>
      exact documented.of_same_documents documents fun later member => ⟨later, member, rfl, rfl⟩
  | conflict normalized existing clean decoded found =>
      exact documented.of_same_documents documents fun later member => ⟨later, member, rfl, rfl⟩
  | statusUpdate normalized existing clean decoded found =>
      refine documented.of_same_documents documents fun later member => ?_
      rcases List.mem_map.mp member with ⟨invoice, invoiceMem, rfl⟩
      refine ⟨invoice, invoiceMem, ?_, ?_⟩
      · rw [Invoice.withStatus_eq]
      · rw [Invoice.withStatus_eq]
  | posted normalized ledger clean decoded found inserted =>
      cases normalized with
      | transaction normalized =>
          rcases Ledger.postTransaction_eq_ok inserted with
            ⟨account, counterparty, fingerprint, amount, balance, -, -, -, -, -, -, rfl⟩
          exact documented.of_same_documents documents fun later member => ⟨later, member, rfl, rfl⟩
      | invoice normalized =>
          rcases Ledger.postInvoice_eq_ok inserted with ⟨counterparty, totalAmount, -, -, -, rfl⟩
          have distinct : (state.ledger.documents.map (·.1)).Nodup := documented.distinct
          refine ⟨by rw [documents]; exact distinct, fun later member => ?_⟩
          rcases List.mem_append.mp member with old | new
          · rcases documented.named later old with ⟨names, named⟩
            refine ⟨names, ?_⟩
            rw [Ledger.sourceNames, Ledger.sourceData_congr documents rfl rfl]
            exact named
          · rw [List.mem_singleton.mp new]
            refine ⟨(normalized.sellerName, normalized.buyerName), ?_⟩
            have source : state.ledger.sourceData (Ledger.invoiceOfRow context.batch row
                (context.supply.key row.rowNumber) normalized counterparty.id totalAmount) =
                  some row.normalizedData :=
              (Ledger.sourceData_eq_some_iff distinct).mpr placed
            rw [Ledger.sourceNames, Ledger.sourceData_congr documents rfl rfl, source,
              Option.bind_some]
            exact names?_of_deserialize decoded

theorem confirmLoop_documented {context : ConfirmContext} {start state : ConfirmState}
    {rows : List StagedRow} (documented : start.ledger.Documented)
    (placed : ∀ row ∈ rows, AtPlace context start.ledger row)
    (succeeded : rows.foldlM (confirmRow context) start = .ok state) :
    state.ledger.Documented := by
  refine (foldlM_induction (fun state rows => state.ledger.Documented ∧
    ∀ row ∈ rows, AtPlace context state.ledger row) ?_ ⟨documented, placed⟩ succeeded).1
  rintro before row rest next ⟨documentedBefore, placedBefore⟩ step
  have outcome := confirmRow_outcome step
  refine ⟨outcome.documented documentedBefore (placedBefore row (List.mem_cons_self ..)), ?_⟩
  intro other later
  rw [AtPlace, outcome.documents]
  exact placedBefore other (List.mem_cons_of_mem _ later)

theorem atPlace_of_mem {context : ConfirmContext} {ledger : Ledger} {row : StagedRow}
    (member : row ∈ ledger.stagedRows) (ofBatch : row.batch = context.batch) :
    AtPlace context ledger row := by
  rw [AtPlace, ← ofBatch]
  exact List.mem_map_of_mem member

theorem Ledger.Documented.of_confirmBatch {env : Env} {request : ConfirmRequest}
    {ledger after : Ledger} {result : ImportResult} (documented : ledger.Documented)
    (succeeded : confirmBatch env request ledger = .ok (after, result)) : after.Documented := by
  rw [confirmBatch_eq_ok] at succeeded
  rcases succeeded with ⟨-, ⟨batch, -, -, rfl, -⟩ | ⟨batch, state, snapshotted, confirmed, rfl, -⟩⟩
  · exact documented
  have looped : state.ledger.Documented := by
    refine confirmLoop_documented documented (fun row member => ?_) confirmed.loop
    have pending := mem_pendingRows.mp member
    exact atPlace_of_mem pending.1 pending.2.1
  have same : snapshotted.invoices = state.ledger.invoices := by
    rw [createBalanceSnapshots_eq confirmed.snapshots]
  refine looped.of_same_documents ?_ fun later member => ⟨later, same ▸ member, rfl, rfl⟩
  rw [documents, confirmed.stagedRows, documents]

theorem perform_documented {site : Installation} {ledger after : Ledger} {operation : Operation}
    (tallies : ledger.Tallies) (documented : ledger.Documented)
    (succeeded : operation.perform site ledger = .ok after) : after.Documented := by
  rcases perform_cases succeeded with ⟨request, batch, -, staged⟩ | ⟨request, result, -, confirmed⟩ |
    same
  · exact documented.of_stageUpload tallies.keyed staged
  · exact documented.of_confirmBatch confirmed
  · refine documented.of_same_documents ?_ fun later member => ⟨later, ?_, rfl, rfl⟩
    · rw [Ledger.documents, same.rows, Ledger.documents]
    · rw [← same.invoices]
      exact member

theorem run_documented (site : Installation) (directory : Directory) (operations : List Operation) :
    (run site directory operations).Documented := by
  refine (runFrom_induction (fun ledger => ledger.Tallies ∧ ledger.Documented)
    ⟨.empty directory, .empty directory⟩ ?_ operations).2
  rintro before after operation ⟨tallies, documented⟩ succeeded
  exact ⟨perform_tallies tallies succeeded, perform_documented tallies documented succeeded⟩

end Finrec
