import Finrec.Lib.CrashLogic
import Finrec.Updater.Types

/-!
# The update manager

The manager saves the stage of its task before each thing it does to the host.
The platform is known by what its calls do to the tag in the environment file
and to the web container: a call succeeds or raises `SafeOperationError`, and a
call that raises or dies may have had its effect all the same.  `Choice` holds
what the surroundings decide at one step.
-/

namespace Finrec.Updater

open CrashLogic

structure Web where
  image : Image
  serving : Bool
deriving DecidableEq, Repr

@[ext]
structure Host where
  environmentTag : String
  web : Web
deriving DecidableEq, Repr

/-- What a crash leaves: the state file and the host. -/
structure World where
  state : PersistentState
  host : Host

structure Choice where
  /-- The process dies at this step. -/
  dies : Bool := false
  /-- The call raises `SafeOperationError` with this code. -/
  raises : Option String := none
  /-- The step takes effect although it dies or raises. -/
  applied : Bool := false
  /-- A container that was started, or only partly stopped, serves. -/
  serving : Bool := true
  /-- The identity that an inspection reads. -/
  inspected : ImageIdentity
  backups : String × String := ("", "")
  now : ℤ := 0

inductive UpdaterError where
  | safeOperation (code : String)
  | conflict (code : String)
  | invalidState

/-- What `except SafeOperationError` catches. -/
def UpdaterError.safeCode? : UpdaterError → Option String
  | .safeOperation code => some code
  | .conflict _ => none
  | .invalidState => none

abbrev Process := Program Choice World UpdaterError

namespace DockerPlatform

/-- A platform call with an effect on the host. -/
def call (effect : Choice → Host → Host) (answer : Choice → α) : Process α :=
  .act fun choice world =>
    let affected := { world with host := effect choice world.host }
    if choice.dies then (.crashed, if choice.applied then affected else world)
    else
      match choice.raises with
      | some code => (.raised (.safeOperation code), if choice.applied then affected else world)
      | none => (.returned (answer choice), affected)

/-- A platform call that only looks at the host, and can succeed only if what it found is so. -/
def observe (possible : Choice → Host → Bool) (code : String) (answer : Choice → α) : Process α :=
  .act fun choice world =>
    if choice.dies then (.crashed, world)
    else
      match choice.raises with
      | some code => (.raised (.safeOperation code), world)
      | none =>
          if possible choice world.host then (.returned (answer choice), world)
          else (.raised (.safeOperation code), world)

def inspectWeb : Process ImageIdentity :=
  observe (fun choice host => choice.inspected.image = host.web.image) "inspect_failed"
    (·.inspected)

def verifyTarget (_target : ImageIdentity) : Process Unit :=
  observe (fun _ _ => true) "target_identity_mismatch" fun _ => ()

def createBackup : Process (String × String) :=
  observe (fun _ _ => true) "backup_failed" (·.backups)

def aliasOf (taskId : String) : String := "finance-reconciliation-rollback-web:" ++ taskId

/-- The alias is recorded in the task that the caller saves. -/
def tagRollback (task : UpdateTask) : Process UpdateTask :=
  observe (fun _ _ => task.original.rollbackAlias = "" ||
      task.original.rollbackAlias = aliasOf task.id) "rollback_identity_mismatch"
    fun _ => { task with original := { task.original with rollbackAlias := aliasOf task.id } }

def stopWeb : Process Unit :=
  call (fun choice host =>
    let serving := host.web.serving && choice.raises.isSome && choice.serving
    { host with web := { host.web with serving := serving } }) fun _ => ()

def migrateTarget (_target : ImageIdentity) (_taskId : String) : Process Unit :=
  observe (fun _ _ => true) "migration_failed" fun _ => ()

def startTarget (target : ImageIdentity) (_taskId : String) : Process Unit :=
  call (fun choice host => { host with web := ⟨target.image, choice.serving⟩ }) fun _ => ()

def startRollback (task : UpdateTask) : Process Unit :=
  call (fun choice host => { host with web := ⟨task.original.image, choice.serving⟩ }) fun _ => ()

def health (expected : ImageIdentity) : Process Unit :=
  observe (fun _ host => host.web = ⟨expected.image, true⟩) "health_check_failed" fun _ => ()

def persistVersion (version : String) : Process Unit :=
  call (fun _ host => { host with environmentTag := version }) fun _ => ()

/-- Cleanup removes references to the recorded original image, never a container. -/
def cleanupOriginalStep (_task : UpdateTask) (_step : CleanupStep) : Process Unit :=
  observe (fun _ _ => true) "cleanup_refused" fun _ => ()

end DockerPlatform

namespace UpdateManager

/-- `try` with `except SafeOperationError`. -/
def attempt (program : Process α) : Process (Except String α) :=
  Program.attempt UpdaterError.safeCode? program

def now : Process ℤ :=
  .act fun choice world => if choice.dies then (.crashed, world) else (.returned choice.now, world)

def loadState : Process PersistentState := do
  let world ← Program.read
  return world.state

def saveState (state : PersistentState) : Process Unit :=
  .act fun choice world =>
    if choice.dies then (.crashed, if choice.applied then { world with state } else world)
    else (.returned (), { world with state })

def requireTask (state : PersistentState) (taskId : String) : Process UpdateTask :=
  match state.task with
  | some task =>
      if task.id = taskId then pure task else .raise (.conflict "task_not_found")
  | none => .raise (.conflict "task_not_found")

def taskOf (taskId : String) : Process UpdateTask := do
  let state ← loadState
  requireTask state taskId

def saveTask (task : UpdateTask) : Process Unit := do
  let state ← loadState
  saveState { lastCheck := state.lastCheck, task := some task }

def checkpoint (taskId : String) (stage : Stage) : Process Unit := do
  let task ← taskOf taskId
  match task.startedAt with
  | some _ => saveTask { task with stage := stage }
  | none => do
      let startedAt ← now
      saveTask { task with stage := stage, startedAt := some startedAt }

def finishFailed (taskId code : String) (rolledBack : Bool) : Process Unit := do
  let task ← taskOf taskId
  let finishedAt ← now
  saveTask { task with
    stage := .failed, rolledBack := rolledBack, errorCode := code, finishedAt := some finishedAt }

def finishManual (taskId : String) : Process Unit := do
  let task ← taskOf taskId
  let finishedAt ← now
  saveTask { task with
    stage := .manualIntervention, errorCode := "rollback_failed", finishedAt := some finishedAt }

def commitSuccess (taskId : String) (cleanupComplete : Bool) : Process Unit := do
  let task ← taskOf taskId
  let finishedAt ← now
  let checkedAt ← now
  saveState {
    lastCheck := some {
      current := task.target, target := task.target, available := false, checkedAt := checkedAt },
    task := some { task with
      stage := .succeeded, cleanup := if cleanupComplete then .complete else .pending,
      finishedAt := some finishedAt } }

def recordBackups (taskId : String) (backups : String × String) : Process Unit := do
  let task ← taskOf taskId
  saveTask { task with databaseBackup := backups.1, uploadsBackup := backups.2 }

def safeErrorCode (code : String) : String :=
  if code ∈ ["backup_failed", "pull_failed", "migration_failed", "health_check_failed"] then code
  else "update_failed"

/-- The attempts of `_wait_for_startup_health` that are left; the last one lets its error through. -/
def healthAttempts (expected : ImageIdentity) : ℕ → Process Unit
  | 0 => pure ()
  | 1 => DockerPlatform.health expected
  | left + 2 => do
      match ← attempt (DockerPlatform.health expected) with
      | .ok () => pure ()
      | .error _ => healthAttempts expected (left + 1)

def startupHealthMaxAttempts : ℕ := 30

def waitForStartupHealth (expected : ImageIdentity) : Process Unit :=
  healthAttempts expected startupHealthMaxAttempts

def stabilizeRounds (taskId : String) : ℕ → Process Unit
  | 0 => pure ()
  | rounds + 1 => do
      checkpoint taskId .stabilizing
      let task ← taskOf taskId
      DockerPlatform.health task.target
      stabilizeRounds taskId rounds

def stabilize (taskId : String) : Process Unit := do
  checkpoint taskId .stabilizing
  stabilizeRounds taskId 3

def saveJournal (task : UpdateTask) (journal : Option CleanupJournal) : Process Unit :=
  match journal with
  | some journal => saveTask { task with cleanupJournal := some journal }
  | none => .raise .invalidState

def startStep (task : UpdateTask) (journal : CleanupJournal) (step : CleanupStep) :
    Process Unit :=
  if journal.status step = .notStarted then saveJournal task (journal.replace step .started)
  else pure ()

def completeStep (taskId : String) (step : CleanupStep) : Process Bool := do
  let task ← taskOf taskId
  match task.cleanupJournal with
  | none => return false
  | some journal =>
      if journal.status step = .started then do
        saveJournal task (journal.replace step .completed)
        return true
      else return false

/-- One round of the loop over the cleanup steps; `false` ends the loop. -/
def cleanupStep (taskId : String) (step : CleanupStep) : Process Bool := do
  let task ← taskOf taskId
  match task.cleanupJournal with
  | none => return false
  | some journal =>
      if journal.status step = .completed then return true
      else do
        startStep task journal step
        let started ← taskOf taskId
        match ← attempt (DockerPlatform.cleanupOriginalStep started step) with
        | .error _ => return false
        | .ok () => completeStep taskId step

def cleanupSteps (taskId : String) : List CleanupStep → Process Bool
  | [] => pure true
  | step :: rest => do
      let goOn ← cleanupStep taskId step
      if goOn then cleanupSteps taskId rest else return false

def markPending (task : UpdateTask) : Process Unit :=
  if task.cleanup = .notRun then saveTask { task with cleanup := .pending } else pure ()

def cleanupOriginal (taskId : String) : Process Bool := do
  let task ← taskOf taskId
  match task.cleanupJournal with
  | none => return false
  | some _ => do
      markPending task
      cleanupSteps taskId [.versionTag, .rollbackAlias, .imageId]

/-- A checkpoint and the change of the version after it, where the version is changed. -/
def persistAfterCheckpoint (taskId : String) (stage : Stage) (version : String) (wanted : Bool) :
    Process Unit :=
  if wanted then do
    checkpoint taskId stage
    DockerPlatform.persistVersion version
  else pure ()

/-- The `try` block of the rollback. -/
def restoreOriginal (taskId : String) (checkpointStage : Stage) (restoreOriginalVersion : Bool) :
    Process Unit := do
  let task ← taskOf taskId
  DockerPlatform.startRollback task
  checkpoint taskId checkpointStage
  waitForStartupHealth task.original
  persistAfterCheckpoint taskId checkpointStage task.original.version restoreOriginalVersion

def rollbackToOriginal (taskId code : String) (restoreOriginalVersion : Bool)
    (preserveSourceStage : Bool) : Process Unit := do
  let task ← taskOf taskId
  let checkpointStage := if preserveSourceStage then task.stage else .rollingBack
  saveTask { task with stage := checkpointStage, errorCode := code }
  match ← attempt (restoreOriginal taskId checkpointStage restoreOriginalVersion) with
  | .error _ => finishManual taskId
  | .ok () => finishFailed taskId code true

def handleFailure (taskId code : String) (webWasStopped : Bool) : Process Unit := do
  if webWasStopped then do
    let task ← taskOf taskId
    rollbackToOriginal taskId code (task.stage = .persistingVersion) false
  else finishFailed taskId code false

def requireReadyTask (taskId : String) : Process Unit := do
  let task ← taskOf taskId
  if task.stage = .checking then pure () else .raise (.conflict "task_not_ready")

/-- The `try` block of the execution up to the point where `web_was_stopped` is set. -/
def prepareUpdate (taskId : String) : Process Unit := do
  checkpoint taskId .backingUp
  recordBackups taskId (← DockerPlatform.createBackup)
  checkpoint taskId .pulling
  let task ← taskOf taskId
  DockerPlatform.verifyTarget task.target
  checkpoint taskId .pulling
  let task ← taskOf taskId
  saveTask (← DockerPlatform.tagRollback task)
  checkpoint taskId .stoppingWeb

/-- The rest of the `try` block. -/
def replaceWeb (taskId : String) : Process Unit := do
  DockerPlatform.stopWeb
  checkpoint taskId .migrating
  let task ← taskOf taskId
  DockerPlatform.migrateTarget task.target task.id
  checkpoint taskId .startingWeb
  let task ← taskOf taskId
  DockerPlatform.startTarget task.target task.id
  checkpoint taskId .checkingHealth
  let task ← taskOf taskId
  waitForStartupHealth task.target
  stabilize taskId
  checkpoint taskId .persistingVersion
  let task ← taskOf taskId
  DockerPlatform.persistVersion task.target.version

def execute (taskId : String) : Process Unit := do
  requireReadyTask taskId
  match ← attempt (prepareUpdate taskId) with
  | .error code => handleFailure taskId (safeErrorCode code) false
  | .ok () =>
      match ← attempt (replaceWeb taskId) with
      | .error code => handleFailure taskId (safeErrorCode code) true
      | .ok () => do
          checkpoint taskId .cleaning
          let cleanupComplete ← cleanupOriginal taskId
          commitSuccess taskId cleanupComplete

/-- The `try` block of the completion of a target that a restart finds running. -/
def confirmTarget (taskId : String) (stage : Stage) (persistTargetVersion : Bool) :
    Process Unit := do
  checkpoint taskId stage
  let task ← taskOf taskId
  DockerPlatform.health task.target
  persistAfterCheckpoint taskId task.stage task.target.version persistTargetVersion

def enterCleaning (taskId : String) (stage : Stage) : Process Unit :=
  if stage = .persistingVersion then checkpoint taskId .cleaning else pure ()

def completeRecoveredTarget (taskId : String) : Process Unit := do
  let task ← taskOf taskId
  if task.stage = .cleaning ∧ task.cleanupJournal = none then
    finishManual taskId
  else do
    match ← attempt (confirmTarget taskId task.stage (task.stage = .persistingVersion)) with
    | .error _ => rollbackToOriginal taskId "update_failed" true true
    | .ok () => do
        enterCleaning taskId task.stage
        let cleanupComplete ← cleanupOriginal taskId
        commitSuccess taskId cleanupComplete

def hasCompleteImageIdentity (identity : ImageIdentity) : Bool :=
  identity.repository ≠ "" && identity.version ≠ "" && identity.digest ≠ "" &&
    identity.imageId ≠ "" && identity.tags ≠ [] && identity.tags.all (· ≠ "")

def hasCompleteRecoveryIdentities (task : UpdateTask) : Bool :=
  hasCompleteImageIdentity task.original && hasCompleteImageIdentity task.target

def sameRuntimeIdentity (actual expected : ImageIdentity) : Bool :=
  actual.repository = expected.repository && actual.version = expected.version &&
    actual.digest = expected.digest && actual.imageId = expected.imageId &&
    actual.tags = expected.tags && actual.publishedAt = expected.publishedAt

def preTagStages : List Stage := [.checking, .backingUp, .pulling]
def targetCompletionStages : List Stage := [.persistingVersion, .cleaning]
def terminalStages : List Stage := [.succeeded, .failed, .manualIntervention]

/-- A restart that finds the original web before it was tagged for a rollback. -/
def recoverBeforeTag (task : UpdateTask) : Process Unit := do
  checkpoint task.id task.stage
  let current ← taskOf task.id
  match ← attempt (DockerPlatform.health current.original) with
  | .error _ => finishManual task.id
  | .ok () => finishFailed task.id "update_failed" false

/-- The decision of a restart that knows which image the web container has. -/
def recoverFrom (task : UpdateTask) (actual : ImageIdentity) : Process Unit :=
  let isOriginal := sameRuntimeIdentity actual task.original
  let isTarget := sameRuntimeIdentity actual task.target
  if isOriginal = isTarget then
    finishManual task.id
  else if task.stage ∈ targetCompletionStages ∧ isTarget then
    completeRecoveredTarget task.id
  else if task.stage ∈ preTagStages then
    if isOriginal then recoverBeforeTag task else finishManual task.id
  else if task.original.rollbackAlias = "" then
    finishManual task.id
  else
    rollbackToOriginal task.id "update_failed"
      (task.stage ∈ [Stage.persistingVersion, .cleaning, .rollingBack]) true

def recover : Process Unit := do
  let state ← loadState
  match state.task with
  | none => return ()
  | some task =>
      if task.stage ∈ terminalStages then
        return ()
      else if !hasCompleteRecoveryIdentities task then
        finishManual task.id
      else
        match ← attempt DockerPlatform.inspectWeb with
        | .error _ => finishManual task.id
        | .ok actual =>
            if !hasCompleteImageIdentity actual then finishManual task.id
            else recoverFrom task actual

end UpdateManager

end Finrec.Updater
