import Finrec.Imports.Mirror
import Finrec.Imports.ParsedRows

/-!
# The preview is truthful

If nothing else changes the database between staging a file and confirming it,
every row meets the fate that staging announced.  The proof goes through the
file once, with staging and confirming in lockstep.
-/

namespace Finrec

open Checks

/-! ## Staging a row -/

/-- A row that passed its validation was compared with the rows before it and the ledger. -/
structure Compared (env : Env) (base : Ledger) (sourceKind : SourceKind) (row : ParsedRow)
    (seenRows : List (DuplicateKey × Normalized)) (normalized : Normalized) (key : DuplicateKey)
    (disposition : Disposition) : Prop where
  clean : rowIssues env base.directory sourceKind row = []
  isNormalized : row.normalized = some normalized
  keyed : duplicateKey env normalized = .ok key
  compared : ∃ status, stagedDispositionFor env base (seenRows.lookup key) normalized =
    .ok (disposition, status)

/-- The outcomes of staging a row, with the rows that are seen after it. -/
inductive StagingOutcome (env : Env) (base : Ledger) (sourceKind : SourceKind) (row : ParsedRow)
    (seenRows : List (DuplicateKey × Normalized)) :
    PreparedRow → List (DuplicateKey × Normalized) → Prop where
  | faulty (prepared : PreparedRow) (invalid : rowIssues env base.directory sourceKind row ≠ [])
      (issues : prepared.issues ≠ []) (single : prepared.isDuplicate = false) :
      StagingOutcome env base sourceKind row seenRows prepared seenRows
  | conflict (prepared : PreparedRow) (normalized : Normalized) (key : DuplicateKey)
      (compared : Compared env base sourceKind row seenRows normalized key .conflict)
      (issues : prepared.issues ≠ []) (single : prepared.isDuplicate = false) :
      StagingOutcome env base sourceKind row seenRows prepared seenRows
  | duplicate (prepared : PreparedRow) (normalized : Normalized) (key : DuplicateKey)
      (compared : Compared env base sourceKind row seenRows normalized key .duplicate)
      (clean : prepared.issues = []) (flagged : prepared.isDuplicate = true) :
      StagingOutcome env base sourceKind row seenRows prepared ((key, normalized) :: seenRows)
  | accepted (prepared : PreparedRow) (normalized : Normalized) (key : DuplicateKey)
      (disposition : Disposition)
      (compared : Compared env base sourceKind row seenRows normalized key disposition)
      (accepts : disposition = .new ∨ disposition = .statusUpdate) (clean : prepared.issues = [])
      (single : prepared.isDuplicate = false)
      (document : prepared.normalizedData = serializeNormalized normalized) :
      StagingOutcome env base sourceKind row seenRows prepared ((key, normalized) :: seenRows)

section Staging

variable {env : Env} {base : Ledger} {sourceKind : SourceKind}

/-- A row without a normalized form is never valid. -/
theorem rowIssues_ne_nil {directory : Directory} {row : ParsedRow} (missing : row.normalized = none) :
    rowIssues env directory sourceKind row ≠ [] := by
  simp only [rowIssues, validateParsedRow, missing]
  split_ifs with noIssues
  · simp
  · intro none
    rw [List.append_eq_nil_iff] at none
    simp [none.2] at noIssues

theorem prepareStagedRow_outcome {row : ParsedRow} {state next : PrepareState}
    {prepared : PreparedRow}
    (succeeded : prepareStagedRow env base sourceKind row state = .ok (prepared, next)) :
    prepared.rowNumber = row.rowNumber ∧
      StagingOutcome env base sourceKind row state.seenRows prepared next.seenRows := by
  simp only [prepareStagedRow] at succeeded
  split at succeeded
  · rename_i normalized clean isNormalized
    simp only [prepareValidRow, bind_eq_ok, pure, Except.pure, Except.ok.injEq] at succeeded
    rcases succeeded with ⟨key, keyed, ⟨disposition, status⟩, compared, same⟩
    have facts : Compared env base sourceKind row state.seenRows normalized key disposition :=
      ⟨clean, isNormalized, keyed, status, compared⟩
    cases disposition with
    | new =>
        cases same
        exact ⟨rfl, .accepted _ normalized key .new facts (.inl rfl) rfl rfl rfl⟩
    | statusUpdate =>
        cases same
        exact ⟨rfl, .accepted _ normalized key .statusUpdate facts (.inr rfl) rfl rfl rfl⟩
    | duplicate =>
        cases same
        exact ⟨rfl, .duplicate _ normalized key facts rfl rfl⟩
    | conflict =>
        cases same
        exact ⟨rfl, .conflict _ normalized key facts (by simp) rfl⟩
  · rename_i clean missing
    exact absurd clean (rowIssues_ne_nil missing)
  · rename_i issues normalized notSome notNone
    cases succeeded
    have invalid : rowIssues env base.directory sourceKind row ≠ [] := by
      intro clean
      cases found : row.normalized with
      | none => exact notNone clean found
      | some normalized => exact notSome normalized clean found
    exact ⟨rfl, .faulty _ invalid invalid rfl⟩

theorem prepareLoop_rowNumber {rowCount : ℕ} {rows : List ParsedRow} {state next : PrepareState}
    {prepared : List PreparedRow}
    (succeeded : prepareLoop env base sourceKind rowCount rows state = .ok (prepared, next)) :
    prepared.map (·.rowNumber) = rows.map (·.rowNumber) := by
  induction rows generalizing rowCount state prepared with
  | nil =>
      cases succeeded
      rfl
  | cons row rows ih =>
      simp only [prepareLoop] at succeeded
      split at succeeded
      · simp at succeeded
      simp only [bind_eq_ok, pure, Except.pure, Except.ok.injEq, Prod.mk.injEq] at succeeded
      rcases succeeded with ⟨⟨first, middle⟩, head, ⟨rest, last⟩, tail, rfl, rfl⟩
      rw [List.map_cons, List.map_cons, ih tail, (prepareStagedRow_outcome head).1]

/-- A loop over a file goes through each part of it. -/
theorem prepareLoop_append {rowCount : ℕ} {before after : List ParsedRow}
    {state last : PrepareState} {prepared : List PreparedRow}
    (succeeded : prepareLoop env base sourceKind rowCount (before ++ after) state =
      .ok (prepared, last)) :
    ∃ middle earlier later,
      prepareLoop env base sourceKind rowCount before state = .ok (earlier, middle) ∧
      prepareLoop env base sourceKind (rowCount + before.length) after middle = .ok (later, last) ∧
      prepared = earlier ++ later := by
  induction before generalizing rowCount state prepared with
  | nil => exact ⟨state, [], prepared, rfl, succeeded, rfl⟩
  | cons row before ih =>
      simp only [List.cons_append, prepareLoop] at succeeded ⊢
      split at succeeded
      · simp at succeeded
      rename_i few
      simp only [bind_eq_ok, pure, Except.pure, Except.ok.injEq, Prod.mk.injEq] at succeeded
      rcases succeeded with ⟨⟨first, next⟩, head, ⟨rest, final⟩, tail, rfl, rfl⟩
      rcases ih tail with ⟨middle, earlier, later, earlierRows, laterRows, rfl⟩
      refine ⟨middle, first :: earlier, later, ?_, ?_, rfl⟩
      · rw [if_neg few]
        simp only [head, earlierRows, bind, Except.bind, pure, Except.pure]
      · rw [List.length_cons, ← add_assoc, add_right_comm]
        exact laterRows

end Staging

/-! ## Staging and confirming in lockstep -/

section Lockstep

variable {base : Ledger} {context : ConfirmContext} {sourceKind : SourceKind} {rowKey : ℕ → Uuid}

/-- The step of a confirmation for a prepared row. -/
def confirmPrepared (context : ConfirmContext) (rowKey : ℕ → Uuid) (state : ConfirmState)
    (prepared : PreparedRow) : Except ServiceError ConfirmState :=
  if prepared.isDuplicate then .ok state
  else confirmRow context state (Ledger.stagedRow context.batch rowKey prepared)

/-- The counters of the loop stay, and so do the documents. -/
structure Quiet (state final : ConfirmState) : Prop where
  newDuplicates : final.newDuplicates = state.newDuplicates
  newErrors : final.newErrors = state.newErrors
  documents : final.ledger.documents = state.ledger.documents

theorem Quiet.refl (state : ConfirmState) : Quiet state state :=
  ⟨rfl, rfl, rfl⟩

theorem Quiet.trans {state middle final : ConfirmState} (earlier : Quiet state middle)
    (later : Quiet middle final) : Quiet state final :=
  ⟨later.newDuplicates.trans earlier.newDuplicates, later.newErrors.trans earlier.newErrors,
    later.documents.trans earlier.documents⟩

theorem confirmPrepared_of_issues {state final : ConfirmState} {prepared : PreparedRow}
    (issues : prepared.issues ≠ [])
    (confirmed : confirmPrepared context rowKey state prepared = .ok final) : final = state := by
  have skipped : confirmRow context state (Ledger.stagedRow context.batch rowKey prepared) =
      .ok state := if_pos issues
  rw [confirmPrepared, skipped, ite_self, Except.ok.injEq] at confirmed
  exact confirmed.symm

theorem Lockstep.step {state final : ConfirmState} {row : ParsedRow} {prepared : PreparedRow}
    {seenRows seenAfter : List (DuplicateKey × Normalized)} (lockstep : Lockstep base state seenRows)
    (fits : row.FitsColumns)
    (outcome : StagingOutcome context.env base sourceKind row seenRows prepared seenAfter)
    (placed : AtPlace context state.ledger (Ledger.stagedRow context.batch rowKey prepared))
    (confirmed : confirmPrepared context rowKey state prepared = .ok final) :
    Lockstep base final seenAfter ∧ Quiet state final := by
  cases outcome with
  | faulty invalid issues single =>
      rw [confirmPrepared_of_issues issues confirmed]
      exact ⟨lockstep, .refl state⟩
  | conflict normalized key compared issues single =>
      rw [confirmPrepared_of_issues issues confirmed]
      exact ⟨lockstep, .refl state⟩
  | duplicate normalized key compared clean flagged =>
      rw [confirmPrepared, if_pos flagged] at confirmed
      cases confirmed
      rcases compared.compared with ⟨status, staged⟩
      rcases lockstep.mirrors.disposition_eq lockstep.documented compared.keyed staged with
        ⟨existing, found⟩
      have records := Ledger.records_of_duplicate compared.keyed found
      exact ⟨⟨lockstep.mirrors.remember rfl (fun _ _ => rfl) records, lockstep.documented,
        lockstep.sound⟩, .refl state⟩
  | accepted normalized key disposition compared accepts clean single document =>
      rw [confirmPrepared, single] at confirmed
      have stepped := confirmRow_outcome confirmed
      rcases compared.compared with ⟨status, staged⟩
      rcases lockstep.mirrors.disposition_eq lockstep.documented compared.keyed staged with
        ⟨existing, found⟩
      have decoded : deserializeNormalized
          (Ledger.stagedRow context.batch rowKey prepared).normalizedData = some normalized := by
        rw [Ledger.stagedRow, document, deserializeNormalized_serializeNormalized]
      have fitsColumns : normalized.FitsColumns := by
        rintro invoice rfl
        exact fits invoice compared.isNormalized
      rcases lockstep.accept stepped clean decoded compared.keyed fitsColumns placed found accepts with
        ⟨remembered, sameDuplicates, sameErrors⟩
      exact ⟨remembered, sameDuplicates, sameErrors, stepped.documents⟩

/-- Confirming the rows of a file, or of a part of it, stays in lockstep with staging them. -/
theorem Lockstep.loop {rows : List ParsedRow} {prepared : List PreparedRow} {rowCount : ℕ}
    {state final : ConfirmState} {before after : PrepareState}
    (lockstep : Lockstep base state before.seenRows) (fits : ∀ row ∈ rows, row.FitsColumns)
    (staged : prepareLoop context.env base sourceKind rowCount rows before = .ok (prepared, after))
    (placed : ∀ row ∈ prepared,
      AtPlace context state.ledger (Ledger.stagedRow context.batch rowKey row))
    (confirmed : prepared.foldlM (confirmPrepared context rowKey) state = .ok final) :
    Lockstep base final after.seenRows ∧ Quiet state final := by
  induction rows generalizing rowCount state before prepared with
  | nil =>
      cases staged
      cases confirmed
      exact ⟨lockstep, .refl final⟩
  | cons row rows ih =>
      simp only [prepareLoop] at staged
      split at staged
      · simp at staged
      simp only [bind_eq_ok, pure, Except.pure, Except.ok.injEq, Prod.mk.injEq] at staged
      rcases staged with ⟨⟨first, middle⟩, head, ⟨rest, last⟩, tail, rfl, rfl⟩
      simp only [List.foldlM_cons, bind_eq_ok] at confirmed
      rcases confirmed with ⟨next, headConfirmed, tailConfirmed⟩
      rcases lockstep.step (fits row (List.mem_cons_self ..)) (prepareStagedRow_outcome head).2
        (placed first (List.mem_cons_self ..)) headConfirmed with ⟨lockstepNext, quiet⟩
      have placedNext : ∀ other ∈ rest,
          AtPlace context next.ledger (Ledger.stagedRow context.batch rowKey other) := by
        intro other later
        rw [AtPlace, quiet.documents]
        exact placed other (List.mem_cons_of_mem _ later)
      rcases ih lockstepNext (fun other later => fits other (List.mem_cons_of_mem _ later)) tail
        placedNext tailConfirmed with ⟨lockstepFinal, quietRest⟩
      exact ⟨lockstepFinal, quiet.trans quietRest⟩

end Lockstep

/-! ## The rows that a confirmation posts -/

/-- The row after a confirmation that posted every valid row. -/
def StagedRow.posting (supply : RowSupply) (row : StagedRow) : StagedRow :=
  if row.issues = [] then row.asPosted (supply.postedAt row.rowNumber) else row

theorem StagedRow.posting_id (supply : RowSupply) (row : StagedRow) :
    (row.posting supply).id = row.id := by
  simp only [StagedRow.posting]
  split_ifs <;> rfl

theorem RowOutcome.posts {context : ConfirmContext} {state next : ConfirmState} {row : StagedRow}
    (distinct : (state.ledger.stagedRows.map (·.id)).Nodup)
    (member : row ∈ state.ledger.stagedRows) (outcome : RowOutcome context state row next)
    (newDuplicates : next.newDuplicates = state.newDuplicates)
    (newErrors : next.newErrors = state.newErrors) :
    next.ledger.stagedRows =
      Tables.update (·.id) row.id (StagedRow.posting context.supply) state.ledger.stagedRows := by
  have changed : ∀ change : StagedRow → StagedRow, change row = row.posting context.supply →
      Tables.update (·.id) row.id change state.ledger.stagedRows =
        Tables.update (·.id) row.id (StagedRow.posting context.supply) state.ledger.stagedRows := by
    intro change same
    refine Tables.update_congr fun other otherMem sameId => ?_
    rw [List.inj_on_of_nodup_map distinct otherMem member sameId, same]
  cases outcome with
  | skipped issues =>
      rw [← changed id (by rw [StagedRow.posting, if_neg issues, id_eq])]
      simp [Tables.update]
  | duplicate normalized existing clean decoded found => simp at newDuplicates
  | conflict normalized existing clean decoded found => simp at newErrors
  | statusUpdate normalized existing clean decoded found =>
      exact changed (StagedRow.asPosted (context.supply.postedAt row.rowNumber))
        (by rw [StagedRow.posting, if_pos clean])
  | posted normalized ledger clean decoded found inserted =>
      rw [← changed (StagedRow.asPosted (context.supply.postedAt row.rowNumber))
        (by rw [StagedRow.posting, if_pos clean]), ← (postNormalizedRow_tables inserted).1]
      rfl

theorem confirmRow_counters_le {context : ConfirmContext} {state next : ConfirmState}
    {row : StagedRow} (confirmed : confirmRow context state row = .ok next) :
    state.newDuplicates ≤ next.newDuplicates ∧ state.newErrors ≤ next.newErrors := by
  rcases (confirmRow_outcome confirmed).effect with ⟨change, duplicates, errors, effect⟩
  have nonneg := effect.effect.nonneg
  rw [effect.newDuplicates, effect.newErrors]
  omega

theorem confirmLoop_counters_le {context : ConfirmContext} {state final : ConfirmState}
    {rows : List StagedRow} (confirmed : rows.foldlM (confirmRow context) state = .ok final) :
    state.newDuplicates ≤ final.newDuplicates ∧ state.newErrors ≤ final.newErrors := by
  refine foldlM_induction (fun reached _ => state.newDuplicates ≤ reached.newDuplicates ∧
    state.newErrors ≤ reached.newErrors) ?_ ⟨le_refl _, le_refl _⟩ confirmed
  rintro before row rest next ⟨duplicates, errors⟩ step
  have more := confirmRow_counters_le step
  exact ⟨duplicates.trans more.1, errors.trans more.2⟩

/-- A loop that found no duplicate and no error posted all its valid rows. -/
theorem LoopTally.posts {context : ConfirmContext} {batch : ImportBatch} {start : Ledger}
    {state final : ConfirmState} {waiting : List StagedRow} (keyed : start.ImportKeyed)
    (tally : LoopTally batch start state waiting)
    (confirmed : waiting.foldlM (confirmRow context) state = .ok final)
    (newDuplicates : final.newDuplicates = state.newDuplicates)
    (newErrors : final.newErrors = state.newErrors) :
    final.ledger.stagedRows = (waiting.map (·.id)).foldl (fun table id =>
      Tables.update (·.id) id (StagedRow.posting context.supply) table) state.ledger.stagedRows := by
  induction waiting generalizing state with
  | nil =>
      cases confirmed
      rfl
  | cons row rest ih =>
      simp only [List.foldlM_cons, bind_eq_ok] at confirmed
      rcases confirmed with ⟨next, head, tail⟩
      have nextTally := tally.step keyed head
      have headLe := confirmRow_counters_le head
      have tailLe := confirmLoop_counters_le tail
      have distinct : (state.ledger.stagedRows.map (·.id)).Nodup := by
        rw [tally.keys]
        exact keyed.rowIds
      have posted := (confirmRow_outcome head).posts distinct
        (tally.rows.member row (List.mem_cons_self ..)) (by omega) (by omega)
      rw [ih nextTally tail (by omega) (by omega), posted]
      rfl

/-- A confirmation loop that found no duplicate and no error, from its start. -/
theorem Ledger.stagedRows_of_loop {context : ConfirmContext} {ledger : Ledger} {batch : ImportBatch}
    {state : ConfirmState} (keyed : ledger.ImportKeyed) (tallied : ledger.Tallied batch)
    (unconfirmed : batch.confirmedAt = none)
    (loop : (ledger.pendingRows batch.id).foldlM (confirmRow context) ⟨ledger, 0, 0⟩ = .ok state)
    (newDuplicates : state.newDuplicates = 0) (newErrors : state.newErrors = 0) :
    state.ledger.stagedRows = ledger.stagedRows.map fun row =>
      if row.batch = batch.id ∧ row.postedAt = none ∧ row.isDuplicate = false then
        row.posting context.supply else row := by
  have started : LoopTally batch ledger ⟨ledger, 0, 0⟩ (ledger.pendingRows batch.id) :=
    .start keyed tallied unconfirmed
  rw [started.posts keyed loop newDuplicates newErrors,
    Tables.foldl_update (StagedRow.posting_id context.supply) started.rows.distinct]
  refine List.map_congr_left fun row member => ?_
  have listed : row.id ∈ (ledger.pendingRows batch.id).map (·.id) ↔
      row.batch = batch.id ∧ row.postedAt = none ∧ row.isDuplicate = false := by
    rw [List.mem_map]
    constructor
    · rintro ⟨other, otherMem, sameId⟩
      rw [mem_pendingRows] at otherMem
      rw [← List.inj_on_of_nodup_map keyed.rowIds otherMem.1 member sameId]
      exact otherMem.2
    · exact fun pending => ⟨row, mem_pendingRows.mpr ⟨member, pending⟩, rfl⟩
  simp only [listed]

/-- A confirmation whose loop found no duplicate and no error. -/
theorem Confirmed.posts {env : Env} {request : ConfirmRequest} {ledger snapshotted : Ledger}
    {batch : ImportBatch} {state : ConfirmState}
    (confirmed : Confirmed env request ledger batch state snapshotted) (tallies : ledger.Tallies)
    (newDuplicates : state.newDuplicates = 0) (newErrors : state.newErrors = 0) :
    (confirmedLedger request batch state snapshotted).stagedRows =
      ledger.stagedRows.map fun row =>
        if row.batch = batch.id ∧ row.postedAt = none ∧ row.isDuplicate = false then
          row.posting request.supply else row := by
  have tallied := tallies.tallied batch (importBatch?_eq_some confirmed.batchFound).1
  rw [confirmed.stagedRows]
  exact Ledger.stagedRows_of_loop tallies.keyed tallied confirmed.unconfirmed confirmed.loop
    newDuplicates newErrors

/-! ## The rows of a file just staged -/

theorem foldlM_confirmPrepared {context : ConfirmContext} (rowKey : ℕ → Uuid)
    (prepared : List PreparedRow) (state : ConfirmState) :
    prepared.foldlM (confirmPrepared context rowKey) state =
      ((prepared.map (Ledger.stagedRow context.batch rowKey)).filter
        fun row => !row.isDuplicate).foldlM (confirmRow context) state := by
  rw [List.foldlM_filter, List.foldlM_map]
  congr 1
  funext reached row
  cases duplicate : row.isDuplicate with
  | true =>
      simp only [confirmPrepared, Ledger.stagedRow, duplicate]
      rfl
  | false => simp [confirmPrepared, Ledger.stagedRow, duplicate]

/-- What staging a file has left for its confirmation. -/
structure StagedFile (env : Env) (request : StageRequest) (base ledger : Ledger)
    (batch : ImportBatch) (sourceKind : SourceKind) (parsed : List ParsedRow)
    (prepared : List PreparedRow) (state : PrepareState) : Prop where
  wellParsed : WellParsed parsed
  loop : prepareLoop env base sourceKind 0 parsed .start = .ok (prepared, state)
  isBatch : batch = Ledger.stagedBatch request sourceKind state
  adds : AddsRows base ledger batch (prepared.map (Ledger.stagedRow batch.id request.rowKey))

namespace StagedFile

variable {env : Env} {request : StageRequest} {base ledger : Ledger} {batch : ImportBatch}
  {sourceKind : SourceKind} {parsed : List ParsedRow} {prepared : List PreparedRow}
  {state : PrepareState}

theorem ordered (file : StagedFile env request base ledger batch sourceKind parsed prepared state) :
    prepared.Pairwise fun earlier later => earlier.rowNumber < later.rowNumber := by
  have numbers := prepareLoop_rowNumber file.loop
  have parsedOrdered := file.wellParsed.ordered
  rw [← List.pairwise_map (f := ParsedRow.rowNumber) (R := (· < ·)), ← numbers, List.pairwise_map]
    at parsedOrdered
  exact parsedOrdered

/-- The confirmation goes through the rows of the file in their order. -/
theorem pendingRows (file : StagedFile env request base ledger batch sourceKind parsed prepared state)
    (keyed : base.ImportKeyed) :
    ledger.pendingRows batch.id = (prepared.map (Ledger.stagedRow batch.id request.rowKey)).filter
      fun row => !row.isDuplicate := by
  have noOld : base.stagedRows.filter (fun row =>
      decide (row.batch = batch.id) && row.postedAt.isNone && !row.isDuplicate) = [] := by
    rw [List.filter_eq_nil_iff]
    intro row member
    rcases keyed.rowsKnown row member with ⟨known, knownMem, knownId⟩
    have other : row.batch ≠ batch.id := knownId ▸ file.adds.freshBatch known knownMem
    simp [other]
  have selected : (prepared.map (Ledger.stagedRow batch.id request.rowKey)).filter (fun row =>
      decide (row.batch = batch.id) && row.postedAt.isNone && !row.isDuplicate) =
      (prepared.map (Ledger.stagedRow batch.id request.rowKey)).filter
        fun row => !row.isDuplicate := by
    refine List.filter_congr fun row member => ?_
    rcases List.mem_map.mp member with ⟨prepared, -, rfl⟩
    simp [Ledger.stagedRow]
  rw [Ledger.pendingRows, file.adds.rows, List.filter_append, noOld, List.nil_append, selected,
    Ledger.orderRows]
  refine List.Pairwise.insertionSort_eq (List.Pairwise.filter _ ?_)
  rw [List.pairwise_map]
  exact file.ordered.imp fun less => less.le

/-- Confirming a part of the file stays in lockstep with staging it. -/
theorem lockstep {request' : ConfirmRequest} {final : ConfirmState} {part : List ParsedRow}
    {rows : List PreparedRow} {seen : PrepareState}
    (file : StagedFile env request base ledger batch sourceKind parsed prepared state)
    (started : Lockstep base ⟨ledger, 0, 0⟩ [])
    (partOf : part ⊆ parsed) (rowsOf : rows ⊆ prepared)
    (staged : prepareLoop env base sourceKind 0 part .start = .ok (rows, seen))
    (confirmed : ((rows.map (Ledger.stagedRow batch.id request.rowKey)).filter
      fun row => !row.isDuplicate).foldlM
        (confirmRow ⟨env, batch.id, request'.actor.id, request'.supply⟩) ⟨ledger, 0, 0⟩ = .ok final) :
    Lockstep base final seen.seenRows ∧ Quiet ⟨ledger, 0, 0⟩ final := by
  have looped : rows.foldlM (confirmPrepared ⟨env, batch.id, request'.actor.id, request'.supply⟩
      request.rowKey) ⟨ledger, 0, 0⟩ = .ok final := by
    rw [foldlM_confirmPrepared]
    exact confirmed
  refine started.loop (fun row member => file.wellParsed.fits row (partOf member)) staged ?_ looped
  intro row member
  refine atPlace_of_mem ?_ rfl
  rw [file.adds.rows]
  exact List.mem_append_right _ (List.mem_map_of_mem (rowsOf member))

end StagedFile

/-- Staging leaves the records as they are, so the lockstep can start. -/
theorem Lockstep.start {env : Env} {parsers : List Importer} {request : StageRequest}
    {base ledger : Ledger} {batch : ImportBatch} (keyed : base.ImportKeyed)
    (documented : base.Documented) (sound : base.Sound)
    (succeeded : stageUpload env parsers request base = .ok (ledger, batch)) :
    Lockstep base ⟨ledger, 0, 0⟩ [] where
  mirrors := by
    refine ⟨fun invoice member => ?_, fun key _ => ?_, by simp⟩
    · exact Ledger.Documented.stageUpload_sourceData keyed documented succeeded member
    · rcases stageUpload_eq_ok succeeded with ⟨parser, sourceKind, rows, state, -, same⟩
      rw [show ledger = _ from congrArg Prod.fst same]
      cases key <;> rfl
  documented := documented.of_stageUpload keyed succeeded
  sound := by
    rcases stageUpload_eq_ok succeeded with ⟨parser, sourceKind, rows, state, -, same⟩
    have move : LedgerMove (fun _ => True) base ledger := by
      rw [show ledger = _ from congrArg Prod.fst same]
      exact .stage _ _ _ _
    exact sound.of_move move

/-! ## The dispositions of a row -/

/-- The disposition of a row when it is staged after the rows before it. -/
def previewDisposition (env : Env) (base : Ledger) (sourceKind : SourceKind)
    (before : List ParsedRow) (normalized : Normalized) : Except ServiceError Disposition := do
  let (_, state) ← prepareLoop env base sourceKind 0 before .start
  let key ← duplicateKey env normalized
  let (disposition, _) ← stagedDispositionFor env base (state.seenRows.lookup key) normalized
  return disposition

/-- The disposition of a row once the rows with a smaller number are posted. -/
def confirmDisposition (context : ConfirmContext) (ledger : Ledger) (rowNumber : ℕ)
    (normalized : Normalized) : Except ServiceError Disposition := do
  let state ← ((ledger.pendingRows context.batch).filter fun row =>
    row.rowNumber < rowNumber).foldlM (confirmRow context) ⟨ledger, 0, 0⟩
  let (disposition, _) ← state.ledger.formalDispositionFor context.env normalized
  return disposition

/-- The flags of the staged row of a disposition. -/
def StagedRow.Shows (row : StagedRow) (disposition : Disposition) : Prop :=
  (row.issues ≠ [] ↔ disposition = .conflict) ∧ (row.isDuplicate = true ↔ disposition = .duplicate)

/-- A row is staged and confirmed with one and the same disposition. -/
def DispositionKept (context : ConfirmContext) (sourceKind : SourceKind) (base ledger : Ledger)
    (before : List ParsedRow) (row : ParsedRow) (normalized : Normalized) : Prop :=
  ∃ disposition,
    previewDisposition context.env base sourceKind before normalized = .ok disposition ∧
    confirmDisposition context ledger row.rowNumber normalized = .ok disposition ∧
    ∃ staged ∈ ledger.stagedRows, staged.batch = context.batch ∧
      staged.rowNumber = row.rowNumber ∧ staged.Shows disposition

theorem StagingOutcome.shows {env : Env} {base : Ledger} {sourceKind : SourceKind} {row : ParsedRow}
    {seenRows seenAfter : List (DuplicateKey × Normalized)} {prepared : PreparedRow}
    (outcome : StagingOutcome env base sourceKind row seenRows prepared seenAfter)
    (clean : rowIssues env base.directory sourceKind row = []) {normalized : Normalized}
    (isNormalized : row.normalized = some normalized) (batch : Uuid) (rowKey : ℕ → Uuid) :
    ∃ key disposition, Compared env base sourceKind row seenRows normalized key disposition ∧
      (Ledger.stagedRow batch rowKey prepared).Shows disposition := by
  cases outcome with
  | faulty invalid issues single => exact absurd clean invalid
  | conflict other key compared issues single =>
      cases isNormalized.symm.trans compared.isNormalized
      exact ⟨key, .conflict, compared, by simp [StagedRow.Shows, Ledger.stagedRow, issues, single]⟩
  | duplicate other key compared noIssues flagged =>
      cases isNormalized.symm.trans compared.isNormalized
      exact ⟨key, .duplicate, compared,
        by simp [StagedRow.Shows, Ledger.stagedRow, noIssues, flagged]⟩
  | accepted other key disposition compared accepts noIssues single document =>
      cases isNormalized.symm.trans compared.isNormalized
      refine ⟨key, disposition, compared, ?_⟩
      rcases accepts with rfl | rfl <;> simp [StagedRow.Shows, Ledger.stagedRow, noIssues, single]

namespace StagedFile

variable {env : Env} {request : StageRequest} {base ledger : Ledger} {batch : ImportBatch}
  {sourceKind : SourceKind} {parsed : List ParsedRow} {prepared : List PreparedRow}
  {state : PrepareState}

/-- The rows of a file up to a row number, of those that its confirmation goes through. -/
theorem pendingRows_before
    (file : StagedFile env request base ledger batch sourceKind parsed prepared state)
    (keyed : base.ImportKeyed) {earlier later : List PreparedRow} {rowNumber : ℕ}
    (split : prepared = earlier ++ later) (smaller : ∀ row ∈ earlier, row.rowNumber < rowNumber)
    (notSmaller : ∀ row ∈ later, rowNumber ≤ row.rowNumber) :
    (ledger.pendingRows batch.id).filter (fun row => row.rowNumber < rowNumber) =
      (earlier.map (Ledger.stagedRow batch.id request.rowKey)).filter
        fun row => !row.isDuplicate := by
  have keeps : (earlier.map (Ledger.stagedRow batch.id request.rowKey)).filter
      (fun row => decide (row.rowNumber < rowNumber)) =
        earlier.map (Ledger.stagedRow batch.id request.rowKey) := by
    rw [List.filter_eq_self]
    intro row member
    rcases List.mem_map.mp member with ⟨prepared, preparedMem, rfl⟩
    exact decide_eq_true (smaller prepared preparedMem)
  have drops : (later.map (Ledger.stagedRow batch.id request.rowKey)).filter
      (fun row => decide (row.rowNumber < rowNumber)) = [] := by
    rw [List.filter_eq_nil_iff]
    intro row member
    rcases List.mem_map.mp member with ⟨prepared, preparedMem, rfl⟩
    rw [decide_eq_true_eq, not_lt]
    exact notSmaller prepared preparedMem
  rw [file.pendingRows keyed, List.filter_comm, split, List.map_append, List.filter_append, keeps,
    drops, List.append_nil]

/-- Staged and confirmed, a row has the same disposition. -/
theorem dispositionKept {confirm : ConfirmRequest} {final : ConfirmState}
    (file : StagedFile env request base ledger batch sourceKind parsed prepared state)
    (keyed : base.ImportKeyed) (started : Lockstep base ⟨ledger, 0, 0⟩ [])
    (confirmed : (ledger.pendingRows batch.id).foldlM
      (confirmRow ⟨env, batch.id, confirm.actor.id, confirm.supply⟩) ⟨ledger, 0, 0⟩ = .ok final)
    {before later : List ParsedRow} {row : ParsedRow} {normalized : Normalized}
    (split : parsed = before ++ row :: later) (isNormalized : row.normalized = some normalized)
    (clean : rowIssues env base.directory sourceKind row = []) :
    DispositionKept ⟨env, batch.id, confirm.actor.id, confirm.supply⟩ sourceKind base ledger before
      row normalized := by
  have loop := file.loop
  rw [split] at loop
  rcases prepareLoop_append loop with ⟨middle, earlier, rest, earlierLoop, restLoop, preparedEq⟩
  simp only [prepareLoop] at restLoop
  split at restLoop
  · simp at restLoop
  simp only [bind_eq_ok, pure, Except.pure, Except.ok.injEq, Prod.mk.injEq] at restLoop
  rcases restLoop with ⟨⟨first, next⟩, head, ⟨tail, last⟩, -, rfl, -⟩
  have outcome := prepareStagedRow_outcome head
  rcases outcome.2.shows clean isNormalized batch.id request.rowKey with
    ⟨key, disposition, compared, shows⟩
  rcases compared.compared with ⟨status, staged⟩
  -- the rows before this one are those with a smaller number
  have ordered := file.ordered
  rw [preparedEq, List.pairwise_append] at ordered
  have smaller : ∀ other ∈ earlier, other.rowNumber < row.rowNumber := by
    intro other member
    rw [← outcome.1]
    exact ordered.2.2 other member first (List.mem_cons_self ..)
  have notSmaller : ∀ other ∈ first :: tail, row.rowNumber ≤ other.rowNumber := by
    intro other member
    rw [← outcome.1]
    rcases List.mem_cons.mp member with rfl | behind
    · exact le_refl _
    · exact (List.rel_of_pairwise_cons ordered.2.1 behind).le
  have pendingBefore := file.pendingRows_before keyed preparedEq smaller notSmaller
  rw [file.pendingRows keyed, preparedEq, List.map_append, List.filter_append, List.foldlM_append,
    bind_eq_ok] at confirmed
  rcases confirmed with ⟨reached, reachedLoop, -⟩
  have partOf : before ⊆ parsed := by
    rw [split]
    exact List.subset_append_left ..
  have rowsOf : earlier ⊆ prepared := by
    rw [preparedEq]
    exact List.subset_append_left ..
  rcases file.lockstep started partOf rowsOf earlierLoop reachedLoop with ⟨lockstep, -⟩
  rcases lockstep.mirrors.disposition_eq lockstep.documented compared.keyed staged with
    ⟨existing, found⟩
  refine ⟨disposition, ?_, ?_, Ledger.stagedRow batch.id request.rowKey first, ?_, rfl, outcome.1,
    shows⟩
  · simp only [previewDisposition, earlierLoop, compared.keyed, staged, bind, Except.bind, pure,
      Except.pure]
  · simp only [confirmDisposition, pendingBefore, reachedLoop, found, bind, Except.bind, pure,
      Except.pure]
  · rw [file.adds.rows, preparedEq]
    exact List.mem_append_right _ (List.mem_map_of_mem (by simp))

end StagedFile

theorem stagedFile_of_stageUpload {env : Env} {request : StageRequest} {base ledger : Ledger}
    {batch : ImportBatch}
    (succeeded : stageUpload env (defaultParsers env) request base = .ok (ledger, batch)) :
    ∃ headers parser prepared state, readHeaders env request.upload = .ok headers ∧
      detect (defaultParsers env) request.upload.name headers = .ok parser ∧
      StagedFile env request base ledger batch batch.sourceKind
        (parser.parse request.upload.content).1 prepared state := by
  rcases stageUpload_addsRows succeeded with ⟨parser, sourceKind, prepared, state, staged, isBatch,
    adds⟩
  rcases staged.detected with ⟨headers, read, detected⟩
  have kind : batch.sourceKind = sourceKind := by
    rw [isBatch]
    rfl
  subst kind
  exact ⟨headers, parser, prepared, state, read, detected,
    defaultParsers_wellParsed (mem_of_detect detected) _, staged.prepared, isBatch, adds⟩

/-- Every row meets the fate that staging announced: exactly the valid rows are posted, the counters
stay, and every row keeps its disposition. -/
theorem preview_truthful (site : Installation) (directory : Directory)
    (operations : List Operation) (stage : StageRequest) (confirm : ConfirmRequest)
    {staged after : Ledger} {batch : ImportBatch} {result : ImportResult}
    (stageSucceeded : stageUpload site.env (defaultParsers site.env) stage
      (run site directory operations) = .ok (staged, batch))
    (sameBatch : confirm.batchId = batch.id)
    (confirmSucceeded : confirmBatch site.env confirm staged = .ok (after, result)) :
    (after.stagedRows = staged.stagedRows.map fun row =>
      if row.batch = batch.id ∧ row.issues = [] ∧ row.isDuplicate = false then
        { row with postedAt := some (confirm.supply.postedAt row.rowNumber) } else row) ∧
    (∃ confirmed ∈ after.importBatches, confirmed.id = batch.id ∧
      confirmed.totalRows = batch.totalRows ∧ confirmed.validRows = batch.validRows ∧
      confirmed.duplicateRows = batch.duplicateRows ∧ confirmed.errorRows = batch.errorRows) ∧
    ((result.postedRows : ℤ) = batch.validRows ∧ result.duplicateRows = batch.duplicateRows ∧
      result.errorRows = batch.errorRows) ∧
    ∃ headers parser, readHeaders site.env stage.upload = .ok headers ∧
      detect (defaultParsers site.env) stage.upload.name headers = .ok parser ∧
      ∀ before row later normalized,
        (parser.parse stage.upload.content).1 = before ++ row :: later →
        row.normalized = some normalized →
        rowIssues site.env (run site directory operations).directory batch.sourceKind row = [] →
        DispositionKept ⟨site.env, batch.id, confirm.actor.id, confirm.supply⟩ batch.sourceKind
          (run site directory operations) staged before row normalized := by
  have tallies := run_tallies site directory operations
  have documented := run_documented site directory operations
  have sound := run_sound site directory operations
  have stagedTallies := stageUpload_tallies tallies stageSucceeded
  rcases stagedFile_of_stageUpload stageSucceeded with
    ⟨headers, parser, prepared, state, read, detected, file⟩
  have started := Lockstep.start tallies.keyed documented sound stageSucceeded
  have batchMem : batch ∈ staged.importBatches := by
    rw [file.adds.batches]
    exact List.mem_append_right _ (by simp)
  have unconfirmed : batch.confirmedAt = none := by
    rw [file.isBatch]
    rfl
  have unposted := ((stagedTallies.tallied batch batchMem).staged unconfirmed).2
  rw [Ledger.countRows, List.countP_eq_zero] at unposted
  have afterTallies := confirmBatch_tallies stagedTallies confirmSucceeded
  rw [confirmBatch_eq_ok] at confirmSucceeded
  rcases confirmSucceeded with ⟨-, ⟨other, found, repeated, -, -⟩ |
    ⟨other, final, snapshotted, confirmed, rfl, rfl⟩⟩
  · have same := List.inj_on_of_nodup_map stagedTallies.keyed.batchIds
      (importBatch?_eq_some found).1 batchMem ((importBatch?_eq_some found).2.trans sameBatch)
    rw [same, unconfirmed] at repeated
    simp at repeated
  have located := importBatch?_eq_some confirmed.batchFound
  have same := List.inj_on_of_nodup_map stagedTallies.keyed.batchIds located.1 batchMem
    (located.2.trans sameBatch)
  subst same
  have loop := confirmed.loop
  rw [file.pendingRows tallies.keyed] at loop
  have quiet := (file.lockstep started (List.Subset.refl _) (List.Subset.refl _) file.loop loop).2
  have noDuplicates : final.newDuplicates = 0 := quiet.newDuplicates
  have noErrors : final.newErrors = 0 := quiet.newErrors
  have savedMem : confirmedBatch other final.newDuplicates final.newErrors confirm.confirmedAt ∈
      (confirmedLedger confirm other final snapshotted).importBatches := by
    rw [confirmed.importBatches stagedTallies]
    exact List.mem_map.mpr ⟨other, batchMem, if_pos rfl⟩
  refine ⟨?_, ⟨_, savedMem, rfl, rfl, ?_, ?_, ?_⟩, ⟨?_, ?_, ?_⟩, headers, parser, read, detected, ?_⟩
  · rw [confirmed.posts stagedTallies noDuplicates noErrors]
    refine List.map_congr_left fun row member => ?_
    by_cases ofBatch : row.batch = other.id
    · have notPosted : row.postedAt = none := by simpa [ofBatch] using unposted row member
      by_cases clean : row.issues = []
      · simp [ofBatch, notPosted, clean, StagedRow.posting, StagedRow.asPosted]
      · simp [ofBatch, notPosted, clean, StagedRow.posting]
    · simp [ofBatch]
  · simp only [confirmedBatch, noDuplicates, noErrors, sub_zero]
  · simp only [confirmedBatch, noDuplicates, add_zero]
  · simp only [confirmedBatch, noErrors, add_zero]
  · have counted := ((afterTallies.tallied _ savedMem).confirmed rfl).1
    rw [← postedRows_eq_countRows] at counted
    simp only [confirmedBatch, noDuplicates, noErrors, sub_zero] at counted
    exact counted
  · simp only [confirmedResult, Ledger.importResult, confirmedBatch, noDuplicates, add_zero]
  · simp only [confirmedResult, Ledger.importResult, confirmedBatch, noErrors, add_zero]
  · intro before row later normalized split isNormalized clean
    exact file.dispositionKept tallies.keyed started confirmed.loop split isNormalized clean

/-- An invoice, its annulment, the annulment again, the invoice once more, and another amount. -/
theorem preview_truthful_chain :
    let row := fun amount status =>
      Sample.invoiceCells "I2" ⟨2026, 1, 5, by decide, by decide, by decide, by decide⟩ amount status
    let site := Sample.site [Sample.invoiceBook [Sample.invoiceCells "I1"
        ⟨2026, 1, 4, by decide, by decide, by decide, by decide⟩ "9.00" "正常"],
      Sample.invoiceBook [row "100.00" "正常", row "100.00" "作废", row "100.0" "作废",
        row "100.00" "正常", row "99.00" "作废"]] []
    let stage : StageRequest := ⟨⟨"invoices.xlsx", [0x50, 0x4B, 0x03, 0x04, 1]⟩, none,
      Sample.finance, 12, 12, fun rowNumber => 1200 + rowNumber, 2, 2⟩
    let confirm : ConfirmRequest := ⟨12, Sample.finance,
      ⟨fun rowNumber => 1200 + rowNumber, fun _ => 3, fun _ => 3⟩, 3, 3⟩
    ∃ staged after batch result, stageUpload site.env (defaultParsers site.env) stage
        (run site Sample.directory [Sample.stageInvoices 0 11 0, Sample.confirm 11 1]) =
          .ok (staged, batch) ∧
      confirmBatch site.env confirm staged = .ok (after, result) ∧ batch.validRows = 2 ∧
      (result.postedRows : ℤ) = batch.validRows ∧ result.errorRows = batch.errorRows := by
  intro row site stage confirm
  have computed : (do
      let staged ← stageUpload site.env (defaultParsers site.env) stage
        (run site Sample.directory [Sample.stageInvoices 0 11 0, Sample.confirm 11 1])
      let confirmed ← confirmBatch site.env confirm staged.1
      return (staged.2.id, staged.2.validRows, confirmed.2.batchId) :
        Except ServiceError (Uuid × ℤ × Uuid)).toOption = some (12, 2, 12) := by
    decide +kernel
  rw [toOption_eq_some] at computed
  simp only [bind_eq_ok, pure, Except.pure, Except.ok.injEq, Prod.mk.injEq] at computed
  rcases computed with ⟨⟨staged, batch⟩, stageSucceeded, ⟨after, result⟩, confirmSucceeded, batchId,
    validRows, -⟩
  have kept := preview_truthful site Sample.directory
    [Sample.stageInvoices 0 11 0, Sample.confirm 11 1] stage confirm stageSucceeded batchId.symm
    confirmSucceeded
  exact ⟨staged, after, batch, result, stageSucceeded, confirmSucceeded, validRows, kept.2.2.1.1,
    kept.2.2.1.2.2⟩

end Finrec
