import Finrec.Lib.Tables
import Finrec.Updater.References

/-!
# The views of the system update

A start reserves a row for its task id before it asks the updater, and reads the
status of the updater again when the answer leaves it in doubt.  A status records
the outcome of a finished task in the audit log.  What the network and the updater
answer is arbitrary: an answer is whatever the client can make of a response.
-/

namespace Finrec.SystemUpdate

open Finrec.Updater

inductive Result where
  | active
  | succeeded
  | failed
  | manualIntervention
deriving DecidableEq, Repr

/-- The result that `_record_terminal_audit` saves; a stage that is not terminal has none. -/
def terminalResult? : Stage → Option Result
  | .succeeded => some .succeeded
  | .failed => some .failed
  | .manualIntervention => some .manualIntervention
  | _ => none

structure SystemUpdateRequest where
  id : ℕ
  taskId : String
  requestedBy : ℕ
  targetVersion : String
  result : Result
  terminalRecordedAt : Option ℤ := none
deriving DecidableEq

structure TerminalChanges where
  stage : Stage
  rolledBack : Bool
  cleanup : CleanupStatus
  errorCode : String
deriving DecidableEq

/-- `system_update.started` has no terminal changes, the other actions are named by their stage. -/
structure AuditLog where
  actor : ℕ
  targetId : ℕ
  taskId : String
  targetVersion : String
  terminal : Option TerminalChanges := none
deriving DecidableEq

structure Database where
  requests : List SystemUpdateRequest := []
  audits : List AuditLog := []
  nextId : ℕ := 1
deriving DecidableEq

inductive DatabaseError where
  | integrityError
  | dataError
deriving DecidableEq

namespace Database

def find? (database : Database) (taskId : String) : Option SystemUpdateRequest :=
  database.requests.find? (·.taskId = taskId)

/-- The columns hold 32 characters of the version, and task ids are unique. -/
def create (database : Database) (taskId : String) (actor : ℕ) (targetVersion : String) :
    Except DatabaseError (SystemUpdateRequest × Database) :=
  if 32 < targetVersion.length then .error .dataError
  else if (database.find? taskId).isSome then .error .integrityError
  else
    let request : SystemUpdateRequest := {
      id := database.nextId, taskId := taskId, requestedBy := actor, targetVersion := targetVersion,
      result := .active }
    .ok (request, { database with
      requests := database.requests ++ [request], nextId := database.nextId + 1 })

def recordAudit (database : Database) (entry : AuditLog) : Database :=
  { database with audits := database.audits ++ [entry] }

end Database

inductive ReserveError where
  | taskIdConflict
  | uncaught (error : DatabaseError)
deriving DecidableEq

/-- `_reserve_update_request`; where it raises, its transaction leaves nothing. -/
def reserveUpdateRequest (taskId : String) (actor : ℕ) (targetVersion : String)
    (database : Database) : Except ReserveError Database :=
  match database.create taskId actor targetVersion with
  | .ok (request, created) =>
      .ok (created.recordAudit {
        actor := actor, targetId := request.id, taskId := taskId, targetVersion := targetVersion })
  | .error .dataError => .error (.uncaught .dataError)
  | .error .integrityError =>
      match database.find? taskId with
      | none => .error (.uncaught .integrityError)
      | some existing =>
          if existing.requestedBy = actor ∧ existing.targetVersion = targetVersion ∧
              existing.result = .active then .ok database
          else .error .taskIdConflict

def SystemUpdateRequest.finish (result : Result) (now : ℤ) (request : SystemUpdateRequest) :
    SystemUpdateRequest :=
  { request with result := result, terminalRecordedAt := some now }

def terminalAudit (request : SystemUpdateRequest) (task : TaskView) : AuditLog where
  actor := request.requestedBy
  targetId := request.id
  taskId := task.id
  targetVersion := request.targetVersion
  terminal := some {
    stage := task.stage, rolledBack := task.rolledBack, cleanup := task.cleanup,
    errorCode := task.errorCode }

/-- `_record_terminal_audit`. -/
def recordTerminalAudit (task : TaskView) (now : ℤ) (database : Database) : Database :=
  match terminalResult? task.stage with
  | none => database
  | some result =>
      match database.find? task.id with
      | none => database
      | some request =>
          if request.terminalRecordedAt.isSome then database
          else
            let saved := { database with
              requests := Tables.update (·.id) request.id (·.finish result now) database.requests }
            saved.recordAudit (terminalAudit request task)

/-- What a call of the updater client raises. -/
inductive ClientError where
  | updaterUnavailable (code : String)
  | valueError
deriving DecidableEq

abbrev Answer := Except ClientError

inductive Response where
  /-- 202 -/
  | task (task : TaskView)
  /-- 200 -/
  | status (status : StatusView)
  | error (status : ℕ) (code : String)
  /-- 500, for an exception that the view lets through -/
  | serverError

/-- The task that a 202 names. -/
def Response.taskId? : Response → Option String
  | .task view => some view.id
  | _ => none

def updaterErrorResponses : List (String × (ℕ × String)) :=
  [("invalid_request", (400, "invalid_request")), ("update_conflict", (409, "update_conflict"))]

def reconcilableStartErrors : List String :=
  ["network_error", "invalid_response", "unexpected_response", "update_conflict",
    "service_unavailable"]

def updaterError (code : String) : Response :=
  match updaterErrorResponses.lookup code with
  | some (status, error) => .error status error
  | none => .error 503 "updater_unavailable"

def clientError : ClientError → Response
  | .updaterUnavailable code => updaterError code
  | .valueError => .error 503 "updater_unavailable"

/-- `UpdaterClient.start`, with the task that the response holds. -/
def UpdaterClient.start (targetVersion taskId : String) (answer : Answer TaskView) :
    Answer TaskView :=
  if validateVersion targetVersion then
    match answer with
    | .error error => .error error
    | .ok task =>
        if task.id ≠ taskId ∨ task.toVersion ≠ targetVersion then
          .error (.updaterUnavailable "invalid_response")
        else .ok task
  else .error (.updaterUnavailable "invalid_request")

def matchingTask (status : StatusView) (taskId targetVersion : String) : Option TaskView :=
  status.task.filter fun task => task.id = taskId && task.toVersion = targetVersion

def reconcileStart (answer : Answer StatusView) (taskId targetVersion : String) :
    Option TaskView :=
  match answer with
  | .ok status => matchingTask status taskId targetVersion
  | .error _ => none

/-- What a start is answered, one after another, as far as it asks. -/
structure StartAnswers where
  client : Answer Unit
  start : Answer TaskView
  status : Answer StatusView

/-- The part of `start` after the reservation, which only talks to the updater. -/
def startReserved (targetVersion taskId : String) (answers : StartAnswers) : Response :=
  match answers.client with
  | .error error => clientError error
  | .ok () =>
      match UpdaterClient.start targetVersion taskId answers.start with
      | .error (.updaterUnavailable code) =>
          if code ∈ reconcilableStartErrors then
            match reconcileStart answers.status taskId targetVersion with
            | some task => .task task
            | none => updaterError code
          else updaterError code
      | .error .valueError => .error 503 "updater_unavailable"
      | .ok task =>
          if task.id ≠ taskId ∨ task.toVersion ≠ targetVersion then
            match reconcileStart answers.status taskId targetVersion with
            | some reconciled => .task reconciled
            | none => .error 503 "updater_unavailable"
          else .task task

structure StartBody where
  targetVersion : String
  taskId : String
deriving DecidableEq

/-- The checks on the body; `none` stands for one that is no object of these two texts. -/
def parseStart (body : Option StartBody) : Option StartBody :=
  body.filter fun start => acceptsTaskId start.taskId && validateVersion start.targetVersion

namespace Views

def start (actor : ℕ) (body : Option StartBody) (answers : StartAnswers) (database : Database) :
    Response × Database :=
  match parseStart body with
  | none => (.error 400 "invalid_request", database)
  | some post =>
      match reserveUpdateRequest post.taskId actor post.targetVersion database with
      | .error .taskIdConflict => (.error 409 "update_conflict", database)
      | .error (.uncaught _) => (.serverError, database)
      | .ok reserved => (startReserved post.targetVersion post.taskId answers, reserved)

def status (answer : Answer StatusView) (now : ℤ) (database : Database) : Response × Database :=
  match answer with
  | .error error => (clientError error, database)
  | .ok status =>
      match status.task with
      | some task => (.status status, recordTerminalAudit task now database)
      | none => (.status status, database)

/-- A check records nothing. -/
def check (wellFormed : Bool) (answer : Answer StatusView) (database : Database) :
    Response × Database :=
  if wellFormed then
    match answer with
    | .error error => (clientError error, database)
    | .ok status => (.status status, database)
  else (.error 400 "invalid_request", database)

end Views

/-- A call of an owner, with what it is answered by the updater. -/
inductive Call where
  | start (actor : ℕ) (body : Option StartBody) (answers : StartAnswers)
  | status (answer : Answer StatusView) (now : ℤ)
  | check (wellFormed : Bool) (answer : Answer StatusView)

def Call.perform : Call → Database → Response × Database
  | .start actor body answers => Views.start actor body answers
  | .status answer now => Views.status answer now
  | .check wellFormed answer => Views.check wellFormed answer

/-- What a sequence of calls leaves.  Only the reservation of a start and the record of a status
touch the database, each in one transaction, so calls that overlap leave what some sequence
leaves. -/
def serve (calls : List Call) (database : Database) : Database :=
  calls.foldl (fun database call => (call.perform database).2) database

end Finrec.SystemUpdate
