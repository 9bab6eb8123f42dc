import Finrec.Updater.Manager

/-!
# The requests of the updater

A check looks up the stable version, a start saves a new task and hands back its
execution, a status only reads, and a pending cleanup is completed by a process
of its own.  The one task slot is given to a new task only when the old task
failed, or succeeded with its cleanup complete.
-/

namespace Finrec.Updater

open CrashLogic

/-- The pull of the stable image changes neither the tag nor the web container. -/
def DockerPlatform.resolveStable : Process ImageIdentity :=
  observe (fun _ _ => true) "pull_failed" (·.inspected)

namespace UpdateManager

/-- A task that may be replaced by a new one. -/
def isReplaceable (task : UpdateTask) : Bool :=
  task.stage = .failed || task.stage = .succeeded && task.cleanup = .complete

/-- The guard of `_reject_active_task`. -/
def admitsNewTask (state : PersistentState) : Bool :=
  match state.task with
  | none => true
  | some task => isReplaceable task

def rejectActiveTask (state : PersistentState) : Process Unit :=
  if admitsNewTask state then pure () else .raise (.conflict "task_active")

def requireMatchingRepositories (current target : ImageIdentity) : Process Unit :=
  if current.repository = target.repository then pure ()
  else .raise (.conflict "repository_mismatch")

def statusFromCheck (checked : CheckResult) (task : Option UpdateTask) : StatusView where
  currentVersion := checked.current.version
  currentPublishedAt := checked.current.publishedAt
  latestVersion := some checked.target.version
  latestPublishedAt := checked.target.publishedAt
  updateAvailable := checked.available
  checkedAt := some checked.checkedAt
  task := task.map (·.publicView)

def versionKeyOf (version : String) : Process (ℕ × ℕ × ℕ) :=
  match versionKey version with
  | some key => pure key
  | none => .raise .invalidState

def check : Process StatusView := do
  let state ← loadState
  rejectActiveTask state
  let current ← DockerPlatform.inspectWeb
  let target ← DockerPlatform.resolveStable
  requireMatchingRepositories current target
  let targetKey ← versionKeyOf target.version
  let currentKey ← versionKeyOf current.version
  let checkedAt ← now
  let result : CheckResult := {
    current := current, target := target, available := isNewer targetKey currentKey,
    checkedAt := checkedAt }
  saveState { lastCheck := some result, task := state.task }
  return statusFromCheck result state.task

/-- Two minutes. -/
def checkMaxAge : ℤ := 120000000

def requireFreshCheck (checked : Option CheckResult) (targetVersion : String) :
    Process CheckResult := do
  let _ ← versionKeyOf targetVersion
  match checked with
  | none => .raise (.conflict "stale_check")
  | some checked =>
      if targetVersion ≠ checked.target.version then .raise (.conflict "target_mismatch")
      else if !checked.available then .raise (.conflict "no_update")
      else do
        let age := (← now) - checked.checkedAt
        if age < 0 ∨ checkMaxAge ≤ age then .raise (.conflict "stale_check")
        else do
          requireMatchingRepositories checked.current checked.target
          return checked

/-- What a start hands back: the view of the task, and the task to execute, if any. -/
abbrev Started := TaskView × Option String

/-- The answer to a start that repeats the id of the task in the slot. -/
def repeatStart (existing : UpdateTask) (targetVersion : String) : Process Started :=
  if existing.target.version ≠ targetVersion then .raise (.conflict "task_id_conflict")
  else
    pure (existing.publicView, if existing.stage = .checking then some existing.id else none)

/-- The task that a start puts into the slot. -/
def newTask (checked : CheckResult) (taskId : String) (createdAt : ℤ) : UpdateTask where
  id := taskId
  original := checked.current
  target := checked.target
  stage := .checking
  createdAt := createdAt

def startNew (state : PersistentState) (targetVersion taskId : String) : Process Started := do
  rejectActiveTask state
  let checked ← requireFreshCheck state.lastCheck targetVersion
  let resolved ← DockerPlatform.resolveStable
  if resolved.version ≠ checked.target.version ∨ resolved.digest ≠ checked.target.digest then
    .raise (.conflict "target_changed")
  else do
    let createdAt ← now
    let task := newTask checked taskId createdAt
    saveState { lastCheck := some checked, task := some task }
    return (task.publicView, some task.id)

def start (targetVersion taskId : String) : Process Started := do
  let state ← loadState
  match state.task with
  | none => startNew state targetVersion taskId
  | some existing =>
      if existing.id = taskId then repeatStart existing targetVersion
      else startNew state targetVersion taskId

def status : Process StatusView := do
  let state ← loadState
  match state.lastCheck with
  | some checked => return statusFromCheck checked state.task
  | none => do
      let current ← DockerPlatform.inspectWeb
      return {
        currentVersion := current.version, currentPublishedAt := current.publishedAt,
        latestVersion := none, latestPublishedAt := none, updateAvailable := false,
        checkedAt := none, task := state.task.map (·.publicView) }

/-- The last part of the completion of a cleanup: the journal has to be complete. -/
def closeCleanup (taskId : String) : Process PersistentState := do
  let task ← taskOf taskId
  match task.cleanupJournal with
  | none => .raise (.conflict "cleanup_incomplete")
  | some journal =>
      if journal.imageId = .completed then do
        saveTask { task with cleanup := .complete }
        loadState
      else .raise (.conflict "cleanup_incomplete")

def completePendingCleanup : Process PersistentState := do
  let state ← loadState
  match state.task with
  | none => .raise (.conflict "cleanup_not_pending")
  | some task =>
      if task.stage ≠ .succeeded ∨ task.cleanup ≠ .pending ∨ task.cleanupJournal = none then
        .raise (.conflict "cleanup_not_pending")
      else do
        let done ← cleanupOriginal task.id
        if done then closeCleanup task.id else .raise (.conflict "cleanup_incomplete")

end UpdateManager

/-- `_OperationRunner`: the task it gave out last, and whether its worker is alive. -/
structure OperationRunner where
  task : Option TaskView := none
  busy : Bool := false

namespace OperationRunner

/-- A start for an id that is not in the slot.  The flag says that a worker is started. -/
def startOther (runner : OperationRunner) (targetVersion taskId : String) :
    Process (TaskView × Bool) :=
  if runner.busy then
    match runner.task.filter fun task => task.id = taskId && task.toVersion = targetVersion with
    | some task => pure (task, false)
    | none => .raise (.conflict "task_active")
  else do
    let started ← UpdateManager.start targetVersion taskId
    return (started.1, true)

/-- An id that is in the slot is answered by its task, and nothing is started. -/
def start (runner : OperationRunner) (targetVersion taskId : String) :
    Process (TaskView × Bool) := do
  let status ← UpdateManager.status
  match status.task.filter (·.id = taskId) with
  | some persisted =>
      if persisted.toVersion ≠ targetVersion then .raise (.conflict "task_id_conflict")
      else pure (persisted, false)
  | none => startOther runner targetVersion taskId

/-- What the runner remembers after a start. -/
def after (runner : OperationRunner) (outcome : Outcome UpdaterError (TaskView × Bool)) :
    OperationRunner :=
  match outcome with
  | .returned (task, started) => { task := some task, busy := runner.busy || started }
  | .raised _ => runner
  | .crashed => {}

end OperationRunner

end Finrec.Updater
