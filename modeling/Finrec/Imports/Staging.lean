import Finrec.Imports.Services

/-!
# What staging a file does

A successful `stageUpload` writes one batch, one source file and the prepared
rows.  This file opens the hypothesis that it succeeded.
-/

namespace Finrec

open Calendar Checks

/-- What a successful `stage_upload` has checked and computed. -/
structure Staged (env : Env) (parsers : List Importer) (request : StageRequest) (ledger : Ledger)
    (parser : Importer) (sourceKind : SourceKind) (rows : List PreparedRow)
    (state : PrepareState) : Prop where
  finance : request.actor.IsFinance
  newFile : ∀ file ∈ ledger.sourceFiles, file.sha256 ≠ env.sha256 request.upload.content
  detected : ∃ headers, readHeaders env request.upload = .ok headers ∧
    detect parsers request.upload.name headers = .ok parser
  complete : (parser.parse request.upload.content).2 = none
  prepared : prepareLoop env ledger sourceKind 0 (parser.parse request.upload.content).1 .start =
    .ok (rows, state)
  insertable : ledger.CanInsertUpload request rows

theorem mem_of_detect {parsers : List Importer} {filename : String} {headers : List String}
    {parser : Importer} (detected : detect parsers filename headers = .ok parser) :
    parser ∈ parsers := by
  simp only [detect] at detected
  split at detected
  · rename_i found matched
    cases detected
    have member : parser ∈ parsers.filter fun parser => parser.supports filename headers := by
      simp [matched]
    exact (List.mem_filter.mp member).1
  · simp at detected

theorem prepareRows_eq_ok {env : Env} {ledger : Ledger} {sourceKind : SourceKind}
    {parsed : List ParsedRow × Option ServiceError} {result : List PreparedRow × PrepareState}
    (succeeded : prepareRows env ledger sourceKind parsed = .ok result) :
    parsed.2 = none ∧ prepareLoop env ledger sourceKind 0 parsed.1 .start = .ok result := by
  simp only [prepareRows, bind_eq_ok] at succeeded
  rcases succeeded with ⟨prepared, loop, rest⟩
  split at rest
  · simp at rest
  · rename_i complete
    cases rest
    exact ⟨complete, loop⟩

theorem stageUpload_eq_ok {env : Env} {parsers : List Importer} {request : StageRequest}
    {ledger after : Ledger} {batch : ImportBatch}
    (succeeded : stageUpload env parsers request ledger = .ok (after, batch)) :
    ∃ parser sourceKind rows state,
      Staged env parsers request ledger parser sourceKind rows state ∧
        (after, batch) = ledger.insertUpload request (env.sha256 request.upload.content)
          (Ledger.stagedBatch request sourceKind state) rows := by
  simp only [stageUpload, bind_eq_ok, requireFinanceActor_eq_ok, require_eq_ok] at succeeded
  rcases succeeded with ⟨-, finance, ⟨⟩, -, -, newFile, headers, read, parser, detected, sourceKind,
    -, ⟨rows, state⟩, prepared, -, -, -, insertable, same⟩
  rcases prepareRows_eq_ok prepared with ⟨complete, loop⟩
  cases same
  exact ⟨parser, sourceKind, rows, state,
    ⟨finance, newFile, ⟨headers, read, detected⟩, complete, loop, insertable⟩, rfl⟩

end Finrec
