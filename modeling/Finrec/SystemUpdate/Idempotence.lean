import Finrec.SystemUpdate.Views
import Finrec.Updater.Executions

/-!
# Starting an update once

However often a start is posted, and whatever the updater answers, a task id has
one row, one audit entry for its start and at most one for its end.
-/

namespace Finrec.SystemUpdate

open Finrec.Updater

def startedAudits (database : Database) (taskId : String) : ℕ :=
  database.audits.countP fun entry => entry.taskId = taskId && entry.terminal.isNone

def endedAudits (database : Database) (taskId : String) : ℕ :=
  database.audits.countP fun entry => entry.taskId = taskId && entry.terminal.isSome

/-- The audit log tells of each row once that it was started, and once that it ended where the row
says so. -/
structure Consistent (database : Database) : Prop where
  ids : (database.requests.map (·.id)).Nodup
  below : ∀ request ∈ database.requests, request.id < database.nextId
  taskIds : (database.requests.map (·.taskId)).Nodup
  started : ∀ taskId,
    startedAudits database taskId = database.requests.countP fun row => row.taskId = taskId
  ended : ∀ taskId, endedAudits database taskId =
    database.requests.countP fun row => row.taskId = taskId && row.terminalRecordedAt.isSome

theorem consistent_empty : Consistent {} where
  ids := List.nodup_nil
  below := nofun
  taskIds := List.nodup_nil
  started := fun _ => rfl
  ended := fun _ => rfl

section Tables

variable {database created : Database} {request : SystemUpdateRequest} {taskId targetVersion : String}
  {actor : ℕ}

theorem Database.find?_some (found : database.find? taskId = some request) :
    request ∈ database.requests ∧ request.taskId = taskId := by
  have same := List.find?_some found
  exact ⟨List.mem_of_find?_eq_some found, by simpa using same⟩

theorem Database.find?_none (missing : database.find? taskId = none) :
    taskId ∉ database.requests.map (·.taskId) := by
  intro member
  rcases List.mem_map.mp member with ⟨row, rowMem, same⟩
  have differs := List.find?_eq_none.mp missing row rowMem
  simp [same] at differs

theorem Consistent.find?_mem (consistent : Consistent database)
    (member : request ∈ database.requests) : database.find? request.taskId = some request := by
  cases found : database.find? request.taskId with
  | none => exact absurd (List.mem_map_of_mem member) (Database.find?_none found)
  | some other =>
      have ⟨otherMem, same⟩ := Database.find?_some found
      rw [List.inj_on_of_nodup_map consistent.taskIds otherMem member same]

theorem Consistent.rows_le_one (consistent : Consistent database) (taskId : String) :
    database.requests.countP (fun row => row.taskId = taskId) ≤ 1 := by
  have distinct := List.nodup_iff_count_le_one.mp consistent.taskIds taskId
  rw [List.count, List.countP_map] at distinct
  refine le_trans (List.countP_mono_left ?_) distinct
  intro row _ same
  simpa using same

theorem Consistent.started_le_one (consistent : Consistent database) (taskId : String) :
    startedAudits database taskId ≤ 1 := by
  rw [consistent.started]
  exact consistent.rows_le_one taskId

theorem Consistent.ended_le_one (consistent : Consistent database) (taskId : String) :
    endedAudits database taskId ≤ 1 := by
  rw [consistent.ended]
  refine le_trans (List.countP_mono_left ?_) (consistent.rows_le_one taskId)
  intro row _ recorded
  simp only [Bool.and_eq_true] at recorded
  exact recorded.1

/-- A row is created for a short version of a task id without a row. -/
theorem Database.create_ok (succeeded : database.create taskId actor targetVersion =
      .ok (request, created)) :
    targetVersion.length ≤ 32 ∧ database.find? taskId = none ∧
      request = ⟨database.nextId, taskId, actor, targetVersion, .active, none⟩ ∧
      created = { database with
        requests := database.requests ++ [request], nextId := database.nextId + 1 } := by
  unfold Database.create at succeeded
  split at succeeded
  · cases succeeded
  rename_i short
  split at succeeded
  · cases succeeded
  rename_i missing
  cases succeeded
  exact ⟨by omega, by simpa using missing, rfl, rfl⟩

/-- A reservation leaves the database as it was, or adds a row and its audit entry. -/
theorem reserve_ok {reserved : Database}
    (succeeded : reserveUpdateRequest taskId actor targetVersion database = .ok reserved) :
    reserved = database ∨ database.find? taskId = none ∧ reserved = {
      requests := database.requests ++ [⟨database.nextId, taskId, actor, targetVersion, .active,
        none⟩],
      audits := database.audits ++ [⟨actor, database.nextId, taskId, targetVersion, none⟩],
      nextId := database.nextId + 1 } := by
  unfold reserveUpdateRequest at succeeded
  cases creates : database.create taskId actor targetVersion with
  | ok both =>
      rcases both with ⟨request, created⟩
      rcases Database.create_ok creates with ⟨-, missing, rfl, rfl⟩
      simp only [creates] at succeeded
      cases succeeded
      exact .inr ⟨missing, rfl⟩
  | error error =>
      left
      simp only [creates] at succeeded
      cases error with
      | dataError => cases succeeded
      | integrityError =>
          dsimp only at succeeded
          split at succeeded
          · cases succeeded
          · split at succeeded
            · cases succeeded
              rfl
            · cases succeeded

theorem Consistent.insert (consistent : Consistent database)
    (missing : database.find? taskId = none) :
    Consistent {
      requests := database.requests ++ [⟨database.nextId, taskId, actor, targetVersion, .active,
        none⟩],
      audits := database.audits ++ [⟨actor, database.nextId, taskId, targetVersion, none⟩],
      nextId := database.nextId + 1 } where
  ids := by
    have fresh : database.nextId ∉ database.requests.map (·.id) := by
      intro member
      rcases List.mem_map.mp member with ⟨row, rowMem, same⟩
      have below := consistent.below row rowMem
      omega
    rw [List.map_append, List.nodup_append]
    refine ⟨consistent.ids, by simp, ?_⟩
    rintro id idMem other otherMem rfl
    simp only [List.map_cons, List.map_nil, List.mem_singleton] at otherMem
    exact fresh (otherMem ▸ idMem)
  below := by
    intro request member
    rcases List.mem_append.mp member with old | new
    · have below := consistent.below request old
      exact Nat.lt_succ_of_lt below
    · obtain rfl := List.mem_singleton.mp new
      exact Nat.lt_succ_self _
  taskIds := by
    rw [List.map_append, List.nodup_append]
    refine ⟨consistent.taskIds, by simp, ?_⟩
    rintro id idMem other otherMem rfl
    simp only [List.map_cons, List.map_nil, List.mem_singleton] at otherMem
    exact Database.find?_none missing (otherMem ▸ idMem)
  started := by
    intro other
    have counted := consistent.started other
    simp only [startedAudits] at counted ⊢
    simp [List.countP_append, counted, List.countP_cons]
  ended := by
    intro other
    have counted := consistent.ended other
    simp only [endedAudits] at counted ⊢
    simp [List.countP_append, counted]

theorem Consistent.reserve {reserved : Database} (consistent : Consistent database)
    (succeeded : reserveUpdateRequest taskId actor targetVersion database = .ok reserved) :
    Consistent reserved := by
  rcases reserve_ok succeeded with rfl | ⟨missing, rfl⟩
  · exact consistent
  · exact consistent.insert missing

/-- The record of an outcome leaves the database as it was, or finishes an unrecorded row. -/
theorem recordTerminalAudit_cases (task : TaskView) (now : ℤ) (database : Database) :
    recordTerminalAudit task now database = database ∨
      ∃ result request, terminalResult? task.stage = some result ∧
        request ∈ database.requests ∧ request.taskId = task.id ∧
        request.terminalRecordedAt = none ∧ recordTerminalAudit task now database = {
          requests := Tables.update (·.id) request.id (·.finish result now) database.requests,
          audits := database.audits ++ [terminalAudit request task],
          nextId := database.nextId } := by
  unfold recordTerminalAudit
  cases ended : terminalResult? task.stage with
  | none => exact .inl rfl
  | some result =>
      dsimp only
      cases found : database.find? task.id with
      | none => exact .inl rfl
      | some request =>
          dsimp only
          split
          · exact .inl rfl
          · rename_i unrecorded
            rcases Database.find?_some found with ⟨member, same⟩
            exact .inr ⟨result, request, rfl, member, same, by simpa using unrecorded, rfl⟩

theorem Consistent.finish (consistent : Consistent database) (member : request ∈ database.requests)
    (unrecorded : request.terminalRecordedAt = none) (result : Result) (now : ℤ) {task : TaskView}
    (same : request.taskId = task.id) :
    Consistent {
      requests := Tables.update (·.id) request.id (·.finish result now) database.requests,
      audits := database.audits ++ [terminalAudit request task],
      nextId := database.nextId } where
  ids := by
    have kept : (Tables.update (·.id) request.id (·.finish result now) database.requests).map
        (·.id) = database.requests.map (·.id) := Tables.map_update fun _ => rfl
    simpa only [kept] using consistent.ids
  below := by
    intro row rowMem
    rcases Tables.mem_update rowMem with ⟨old, -⟩ | ⟨old, oldMem, -, rfl⟩
    · exact consistent.below row old
    · exact consistent.below old oldMem
  taskIds := by
    have kept : (Tables.update (·.id) request.id (·.finish result now) database.requests).map
        (·.taskId) = database.requests.map (·.taskId) := Tables.map_update fun _ => rfl
    simpa only [kept] using consistent.taskIds
  started := by
    intro other
    have counted := consistent.started other
    have kept : (Tables.update (·.id) request.id (·.finish result now) database.requests).countP
        (fun row => row.taskId = other) = database.requests.countP fun row => row.taskId = other :=
      Tables.countP_update_of_kept fun _ => rfl
    simp only [startedAudits] at counted ⊢
    simp [List.countP_append, counted, terminalAudit, kept]
  ended := by
    intro other
    have counted := consistent.ended other
    have updated := Tables.countP_update (·.finish result now) consistent.ids member
      fun row => row.taskId = other && row.terminalRecordedAt.isSome
    simp only [endedAudits] at counted ⊢
    simp [unrecorded, same, SystemUpdateRequest.finish] at updated
    simp [List.countP_append, counted, List.countP_cons, terminalAudit, SystemUpdateRequest.finish,
      updated]

theorem Consistent.recordTerminalAudit (consistent : Consistent database) (task : TaskView)
    (now : ℤ) : Consistent (recordTerminalAudit task now database) := by
  rcases recordTerminalAudit_cases task now database with
    unchanged | ⟨result, request, -, member, same, unrecorded, recorded⟩
  · rw [unchanged]
    exact consistent
  · rw [recorded]
    exact consistent.finish member unrecorded result now same

theorem Consistent.perform (consistent : Consistent database) (call : Call) :
    Consistent (call.perform database).2 := by
  cases call with
  | start actor body answers =>
      simp only [Call.perform, Views.start]
      split
      · exact consistent
      · rename_i post _
        cases reserves : reserveUpdateRequest post.taskId actor post.targetVersion database with
        | ok reserved => exact consistent.reserve reserves
        | error error =>
            cases error with
            | taskIdConflict => exact consistent
            | uncaught error => exact consistent
  | status answer now =>
      simp only [Call.perform, Views.status]
      cases answer with
      | error error => exact consistent
      | ok status =>
          dsimp only
          split
          · exact consistent.recordTerminalAudit _ now
          · exact consistent
  | check wellFormed answer =>
      simp only [Call.perform, Views.check]
      split
      · cases answer with
        | error error => exact consistent
        | ok status => exact consistent
      · exact consistent

theorem Consistent.serve (consistent : Consistent database) (calls : List Call) :
    Consistent (serve calls database) := by
  induction calls generalizing database with
  | nil => exact consistent
  | cons call rest ih => exact ih (consistent.perform call)

end Tables

section Starts

variable {database : Database} {request : SystemUpdateRequest} {taskId targetVersion : String}
  {actor : ℕ}

/-- A reconciled start names what was asked for, as the second status does. -/
theorem reconcileStart_some {answer : Answer StatusView} {task : TaskView}
    (reconciled : reconcileStart answer taskId targetVersion = some task) :
    (task.id = taskId ∧ task.toVersion = targetVersion) ∧
      ∃ status, answer = .ok status ∧ status.task = some task := by
  cases answer with
  | error error => cases reconciled
  | ok status =>
      have ⟨shown, named⟩ := Option.filter_eq_some_iff.mp reconciled
      exact ⟨by simpa using named, status, rfl, shown⟩

theorem UpdaterClient.start_ok {answer : Answer TaskView} {task : TaskView}
    (started : UpdaterClient.start targetVersion taskId answer = .ok task) :
    (task.id = taskId ∧ task.toVersion = targetVersion) ∧ answer = .ok task := by
  unfold UpdaterClient.start at started
  split at started
  · cases answer with
    | error error => cases started
    | ok view =>
        dsimp only at started
        split at started
        · cases started
        · rename_i named
          cases started
          rw [not_or, not_not, not_not] at named
          exact ⟨named, rfl⟩
  · cases started

theorem clientError_ne_task (error : ClientError) (task : TaskView) :
    clientError error ≠ .task task := by
  cases error with
  | valueError => exact nofun
  | updaterUnavailable code =>
      simp only [clientError, updaterError]
      cases updaterErrorResponses.lookup code with
      | none => exact nofun
      | some known => exact nofun

/-- An accepted start names the task and the version that were asked for, as one of the two answers
of the updater does. -/
theorem startReserved_task {answers : StartAnswers} {task : TaskView}
    (accepted : startReserved targetVersion taskId answers = .task task) :
    (task.id = taskId ∧ task.toVersion = targetVersion) ∧
      (answers.start = .ok task ∨
        ∃ status, answers.status = .ok status ∧ status.task = some task) := by
  unfold startReserved at accepted
  cases client : answers.client with
  | error error =>
      simp only [client] at accepted
      exact absurd accepted (clientError_ne_task error task)
  | ok _ =>
      simp only [client] at accepted
      cases started : UpdaterClient.start targetVersion taskId answers.start with
      | error error =>
          simp only [started] at accepted
          cases error with
          | valueError => cases accepted
          | updaterUnavailable code =>
              have refused : updaterError code ≠ .task task :=
                clientError_ne_task (.updaterUnavailable code) task
              dsimp only at accepted
              split at accepted
              · split at accepted
                · rename_i reconciled
                  cases accepted
                  exact (reconcileStart_some reconciled).imp_right .inr
                · exact absurd accepted refused
              · exact absurd accepted refused
      | ok answered =>
          have ⟨named, given⟩ := UpdaterClient.start_ok started
          simp only [started] at accepted
          rw [if_neg (by simp [named])] at accepted
          cases accepted
          exact ⟨named, .inl given⟩

theorem start_task {body : Option StartBody} {answers : StartAnswers} {task : TaskView}
    (accepted : (Views.start actor body answers database).1 = .task task) :
    body = some ⟨task.toVersion, task.id⟩ := by
  unfold Views.start at accepted
  cases parsed : parseStart body with
  | none =>
      simp only [parsed] at accepted
      cases accepted
  | some post =>
      simp only [parsed] at accepted
      have posted : body = some post := (Option.filter_eq_some_iff.mp parsed).1
      cases reserves : reserveUpdateRequest post.taskId actor post.targetVersion database with
      | error error =>
          simp only [reserves] at accepted
          cases error with
          | taskIdConflict => cases accepted
          | uncaught error => cases accepted
      | ok reserved =>
          simp only [reserves] at accepted
          have ⟨⟨id, version⟩, _⟩ := startReserved_task accepted
          rw [posted, id, version]

/-- The reservation of an id that has another version or another owner fails. -/
theorem reserve_reused (consistent : Consistent database) (member : request ∈ database.requests)
    (differs : request.requestedBy ≠ actor ∨ request.targetVersion ≠ targetVersion) :
    reserveUpdateRequest request.taskId actor targetVersion database =
      .error (if targetVersion.length ≤ 32 then .taskIdConflict else .uncaught .dataError) := by
  have found := consistent.find?_mem member
  have other : ¬(request.requestedBy = actor ∧ request.targetVersion = targetVersion ∧
      request.result = .active) := by
    rintro ⟨sameActor, sameVersion, -⟩
    rcases differs with actorDiffers | versionDiffers
    · exact actorDiffers sameActor
    · exact versionDiffers sameVersion
  unfold reserveUpdateRequest Database.create
  by_cases short : targetVersion.length ≤ 32
  · simp [short, not_lt.mpr short, found, other]
  · simp [short, not_le.mp short]

theorem start_reused (consistent : Consistent database) (member : request ∈ database.requests)
    (accepted : acceptsTaskId request.taskId = true) (valid : validateVersion targetVersion = true)
    (differs : request.requestedBy ≠ actor ∨ request.targetVersion ≠ targetVersion)
    (answers : StartAnswers) :
    Views.start actor (some ⟨targetVersion, request.taskId⟩) answers database =
      (if targetVersion.length ≤ 32 then .error 409 "update_conflict" else .serverError,
        database) := by
  have parsed : parseStart (some ⟨targetVersion, request.taskId⟩) =
      some ⟨targetVersion, request.taskId⟩ := by
    simp [parseStart, accepted, valid]
  unfold Views.start
  simp only [parsed, reserve_reused consistent member differs]
  by_cases short : targetVersion.length ≤ 32
  · simp [short]
  · simp [short]

end Starts

/-- Whatever was called before: an id has at most one row, one entry for its start and one for its
end, an accepted start names what was asked for, and a reuse with another version or by another
owner changes nothing and is a conflict exactly where the version fits into its column. -/
theorem start_idempotent (calls : List Call) (taskId : String) :
    ((serve calls {}).requests.countP (fun row => row.taskId = taskId) ≤ 1 ∧
      startedAudits (serve calls {}) taskId ≤ 1 ∧ endedAudits (serve calls {}) taskId ≤ 1) ∧
    (∀ actor body answers task,
      (Views.start actor body answers (serve calls {})).1 = .task task →
        body = some ⟨task.toVersion, task.id⟩) ∧
    ∀ request ∈ (serve calls {}).requests, request.taskId = taskId →
      ∀ actor targetVersion answers, acceptsTaskId taskId = true →
        validateVersion targetVersion = true →
        (request.requestedBy ≠ actor ∨ request.targetVersion ≠ targetVersion) →
        (Views.start actor (some ⟨targetVersion, taskId⟩) answers (serve calls {})).2 =
            serve calls {} ∧
          ((Views.start actor (some ⟨targetVersion, taskId⟩) answers (serve calls {})).1 =
            .error 409 "update_conflict" ↔ targetVersion.length ≤ 32) := by
  have consistent : Consistent (serve calls {}) := consistent_empty.serve calls
  refine ⟨⟨consistent.rows_le_one taskId, consistent.started_le_one taskId,
    consistent.ended_le_one taskId⟩, fun actor body answers task => start_task, ?_⟩
  rintro request member rfl actor targetVersion answers accepted valid differs
  rw [start_reused consistent member accepted valid differs]
  refine ⟨rfl, ?_⟩
  by_cases short : targetVersion.length ≤ 32
  · simp [short]
  · simp [short]

namespace Sample

/-- An updater that cannot be reached. -/
def silent : StartAnswers :=
  ⟨.ok (), .error (.updaterUnavailable "network_error"),
    .error (.updaterUnavailable "network_error")⟩

def firstStart : Call :=
  .start 1 (some ⟨"v0.3.0", Updater.Sample.task.id⟩) silent

/-- A version that is well formed and does not fit into its column. -/
def longVersion : String := "v1000000000000000000000000000000.0.0"

end Sample

theorem firstStart_reserves : (serve [Sample.firstStart] {}).requests =
    [⟨1, Updater.Sample.task.id, 1, "v0.3.0", .active, none⟩] := by
  decide +kernel

theorem firstStart_accepted : acceptsTaskId Updater.Sample.task.id = true := by decide +kernel

/-- A reuse of an id with another version lets an error of the database through. -/
theorem start_reuse_fails :
    ∃ (calls : List Call) (request : SystemUpdateRequest) (targetVersion : String)
      (answers : StartAnswers), request ∈ (serve calls {}).requests ∧
        acceptsTaskId request.taskId = true ∧ validateVersion targetVersion = true ∧
        request.targetVersion ≠ targetVersion ∧
        (Views.start request.requestedBy (some ⟨targetVersion, request.taskId⟩) answers
          (serve calls {})).1 = .serverError := by
  have valid : validateVersion Sample.longVersion = true := by decide +kernel
  have differs : "v0.3.0" ≠ Sample.longVersion := by decide +kernel
  have long : ¬Sample.longVersion.length ≤ 32 := by decide +kernel
  have member : ⟨1, Updater.Sample.task.id, 1, "v0.3.0", .active, none⟩ ∈
      (serve [Sample.firstStart] {}).requests := by simp [firstStart_reserves]
  refine ⟨[Sample.firstStart], _, Sample.longVersion, Sample.silent, member, firstStart_accepted, valid,
    differs, ?_⟩
  rw [start_reused (consistent_empty.serve _) member firstStart_accepted valid (.inr differs),
    if_neg long]

/-- A reuse of an id with another version of usual length. -/
theorem start_idempotent_conflict :
    (Views.start 1 (some ⟨"v0.4.0", Updater.Sample.task.id⟩) Sample.silent
        (serve [Sample.firstStart] {})).1 = .error 409 "update_conflict" := by
  have valid : validateVersion "v0.4.0" = true := by decide +kernel
  have short : "v0.4.0".length ≤ 32 := by decide +kernel
  have member : ⟨1, Updater.Sample.task.id, 1, "v0.3.0", .active, none⟩ ∈
      (serve [Sample.firstStart] {}).requests := by simp [firstStart_reserves]
  have reused := (start_idempotent [Sample.firstStart] Updater.Sample.task.id).2.2 _ member rfl 1
    "v0.4.0" Sample.silent firstStart_accepted valid (.inr (by decide))
  exact reused.2.mpr short

end Finrec.SystemUpdate
