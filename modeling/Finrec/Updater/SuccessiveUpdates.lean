import Finrec.Updater.Installation
import Finrec.Updater.PendingCleanup

/-!
# Successive updates

The manager hears from the platform what Docker makes of its calls.  When all
commands of an update succeed, only the platform itself can refuse a call, and
it refuses none before the cleanup.
-/

namespace Finrec.Updater

open CrashLogic UpdateManager Relation

/-- A step at which nothing fails. -/
def plain (seen : ImageIdentity) : Choice := { inspected := seen }

/-- A step at which the platform refuses the call. -/
def refusal (seen : ImageIdentity) (code : String) : Choice :=
  { inspected := seen, raises := some code }

section Plain

variable {seen : ImageIdentity} {world : World} {task : UpdateTask} {stage : Stage}

theorem runs_taskOf {taskId : String} (saved : world.state.task = some task)
    (same : task.id = taskId) : Runs [] (taskOf taskId) world task world := by
  subst same
  exact fun rest => taskOf_saved saved rest

theorem runs_saved (task : UpdateTask) :
    Runs [] (taskOf task.id) (world.withTask task) task (world.withTask task) :=
  runs_taskOf rfl rfl

theorem runs_saveTask (edited : UpdateTask) :
    Runs [plain seen] (saveTask edited) world () (world.withTask edited) := by
  intro rest
  rfl

theorem runs_now : Runs [plain seen] now world 0 world := by
  intro rest
  rfl

theorem runs_checkpoint (started : task.startedAt = some 0) (stage : Stage) :
    Runs [plain seen] (checkpoint task.id stage) (world.withTask task) ()
      (world.withTask { task with stage := stage }) := by
  unfold checkpoint
  refine Runs.bind_free (runs_taskOf rfl rfl) ?_
  rw [started]
  exact runs_saveTask _

theorem runs_first_checkpoint (unstarted : task.startedAt = none) (stage : Stage) :
    Runs [plain seen, plain seen] (checkpoint task.id stage) (world.withTask task) ()
      (world.withTask { task with stage := stage, startedAt := some 0 }) := by
  unfold checkpoint
  refine Runs.bind_free (runs_taskOf rfl rfl) ?_
  rw [unstarted]
  exact Runs.bind runs_now (runs_saveTask _)

theorem runs_observe {α : Type} {possible : Choice → Host → Bool} {code : String} {answer : Choice → α}
    (found : possible (plain seen) world.host = true) :
    Runs [plain seen] (DockerPlatform.observe possible code answer) world (answer (plain seen))
      world := by
  have lives : (plain seen).dies = false := rfl
  have succeeds : (plain seen).raises = none := rfl
  unfold DockerPlatform.observe
  apply Runs.act
  simp only [lives, succeeds, found, if_true, Bool.false_eq_true, if_false]

/-- The task at the end of a preparation. -/
def UpdateTask.prepared (task : UpdateTask) : UpdateTask :=
  { DockerPlatform.tagged task with
    stage := .stoppingWeb
    startedAt := some 0
    databaseBackup := ""
    uploadsBackup := "" }

theorem runs_prepareUpdate (unstarted : task.startedAt = none)
    (fresh : task.original.rollbackAlias = "") :
    Runs (List.replicate 10 (plain seen)) (prepareUpdate task.id) (world.withTask task) ()
      (world.withTask task.prepared) := by
  have backups : Runs [plain seen] (recordBackups task.id ("", ""))
      (world.withTask { task with stage := .backingUp, startedAt := some 0 }) ()
      (world.withTask { task with
        stage := .backingUp, startedAt := some 0, databaseBackup := "", uploadsBackup := "" }) := by
    unfold recordBackups
    exact Runs.bind (runs_saved _) (runs_saveTask _)
  unfold prepareUpdate
  refine Runs.bind (runs_first_checkpoint unstarted .backingUp) ?_
  refine Runs.bind (runs_observe rfl) ?_
  refine Runs.bind backups ?_
  refine Runs.bind (runs_checkpoint rfl .pulling) ?_
  refine Runs.bind_free (runs_saved _) ?_
  refine Runs.bind (runs_observe rfl) ?_
  refine Runs.bind (runs_checkpoint rfl .pulling) ?_
  refine Runs.bind_free (runs_saved _) ?_
  refine Runs.bind (runs_observe (by simp [fresh])) ?_
  refine Runs.bind (runs_saveTask _) ?_
  exact runs_checkpoint rfl .stoppingWeb

/-- The host with the target in place. -/
def installed (target : ImageIdentity) : Host where
  environmentTag := target.version
  web := ⟨target.image, true⟩

theorem runs_health {expected : ImageIdentity} (serving : world.host.web = ⟨expected.image, true⟩) :
    Runs [plain seen] (DockerPlatform.health expected) world () world := by
  unfold DockerPlatform.health
  exact runs_observe (by simp [serving])

theorem runs_waitForStartupHealth {expected : ImageIdentity}
    (serving : world.host.web = ⟨expected.image, true⟩) :
    Runs [plain seen] (waitForStartupHealth expected) world () world := by
  unfold waitForStartupHealth startupHealthMaxAttempts healthAttempts
  exact Runs.bind (runs_health serving).attempt Runs.pure

theorem runs_stabilizeRounds (started : task.startedAt = some 0)
    (stabilizing : task.stage = .stabilizing)
    (serving : world.host.web = ⟨task.target.image, true⟩) (rounds : ℕ) :
    Runs (List.replicate (2 * rounds) (plain seen)) (stabilizeRounds task.id rounds)
      (world.withTask task) () (world.withTask task) := by
  have same : { task with stage := .stabilizing } = task := by rw [← stabilizing]
  have marks : Runs [plain seen] (checkpoint task.id .stabilizing) (world.withTask task) ()
      (world.withTask { task with stage := .stabilizing }) := runs_checkpoint started .stabilizing
  have healthy : Runs [plain seen] (DockerPlatform.health task.target) (world.withTask task) ()
      (world.withTask task) := runs_health serving
  rw [same] at marks
  induction rounds with
  | zero => exact Runs.pure
  | succ rounds ih =>
      unfold stabilizeRounds
      refine Runs.bind marks ?_
      refine Runs.bind_free (runs_saved _) ?_
      exact Runs.bind healthy ih

theorem runs_replaceWeb (started : task.startedAt = some 0) :
    Runs (List.replicate 16 (plain seen)) (replaceWeb task.id) (world.withTask task) ()
      ({ world with host := installed task.target }.withTask
        { task with stage := .persistingVersion }) := by
  let stopped : World := { world with host := { world.host with web := { world.host.web with
    serving := false } } }
  let replaced : World := { world with host := { world.host with web := ⟨task.target.image, true⟩ } }
  have stops : Runs [plain seen] DockerPlatform.stopWeb (world.withTask task) ()
      (stopped.withTask task) := by
    intro rest
    simp [DockerPlatform.stopWeb, DockerPlatform.call, Program.act, plain, stopped,
      World.withTask]
  have starts : Runs [plain seen] (DockerPlatform.startTarget task.target task.id)
      (stopped.withTask { task with stage := .startingWeb }) ()
      (replaced.withTask { task with stage := .startingWeb }) := fun rest => rfl
  have waits : Runs [plain seen] (waitForStartupHealth task.target)
      (replaced.withTask { task with stage := .checkingHealth }) ()
      (replaced.withTask { task with stage := .checkingHealth }) := runs_waitForStartupHealth rfl
  have stabilizes : Runs (List.replicate 7 (plain seen)) (stabilize task.id)
      (replaced.withTask { task with stage := .checkingHealth }) ()
      (replaced.withTask { task with stage := .stabilizing }) := by
    unfold stabilize
    have rounds : Runs (List.replicate 6 (plain seen)) (stabilizeRounds task.id 3)
        (replaced.withTask { task with stage := .stabilizing }) ()
        (replaced.withTask { task with stage := .stabilizing }) :=
      runs_stabilizeRounds (by exact started) rfl rfl 3
    refine Runs.bind (runs_checkpoint (by exact started) .stabilizing) ?_
    exact rounds
  have persists : Runs [plain seen] (DockerPlatform.persistVersion task.target.version)
      (replaced.withTask { task with stage := .persistingVersion }) ()
      ({ world with host := installed task.target }.withTask
        { task with stage := .persistingVersion }) := fun rest => rfl
  unfold replaceWeb
  refine Runs.bind stops ?_
  refine Runs.bind (runs_checkpoint started .migrating) ?_
  refine Runs.bind_free (runs_saved _) ?_
  refine Runs.bind (runs_observe rfl) ?_
  refine Runs.bind (runs_checkpoint (by exact started) .startingWeb) ?_
  refine Runs.bind_free (runs_saved _) ?_
  refine Runs.bind starts ?_
  refine Runs.bind (runs_checkpoint (by exact started) .checkingHealth) ?_
  refine Runs.bind_free (runs_saved _) ?_
  refine Runs.bind waits ?_
  refine Runs.bind stabilizes ?_
  refine Runs.bind (runs_checkpoint (by exact started) .persistingVersion) ?_
  refine Runs.bind_free (runs_saved _) ?_
  exact persists

end Plain

/-- What the calls of an update act on: Docker, the environment file, and the task as the manager
hands it over. -/
structure Scene where
  docker : Docker
  environmentTag : String
  task : UpdateTask

/-- The calls of an execution before its cleanup. -/
inductive Call where
  | createBackup
  | verifyTarget
  | tagRollback
  | stopWeb
  | migrateTarget
  | startTarget
  | health
  | persistVersion

namespace Scene

/-- What a call changes, or the code with which the platform refuses it. -/
def answer (scene : Scene) (registry : Registry) : Call → Except String Scene
  | .createBackup => .ok scene
  | .verifyTarget =>
      match scene.docker.verifyTarget registry scene.task.target with
      | some docker => .ok { scene with docker := docker }
      | none => .error "target_identity_mismatch"
  | .tagRollback =>
      match scene.docker.tagRollback scene.task with
      | some (task, docker) => .ok { scene with docker := docker, task := task }
      | none => .error "rollback_identity_mismatch"
  | .stopWeb => .ok scene
  | .migrateTarget =>
      match Docker.migrateTarget scene.task.target with
      | some () => .ok scene
      | none => .error "migration_failed"
  | .startTarget =>
      match scene.docker.startTarget scene.task.target with
      | some docker => .ok { scene with docker := docker }
      | none => .error "start_failed"
  | .health =>
      match scene.docker.health scene.task.target with
      | some () => .ok scene
      | none => .error "health_check_failed"
  | .persistVersion => .ok { scene with environmentTag := scene.task.target.version }

/-- The steps of an execution before its cleanup: calls, and between them reads of the clock and
saves of the task. -/
def script : List (Option Call) := [
  none, none, some .createBackup, none, none, some .verifyTarget, none, some .tagRollback, none, none,
  some .stopWeb, none, some .migrateTarget, none, some .startTarget, none, some .health, none,
  none, some .health, none, some .health, none, some .health, none, some .persistVersion, none]

/-- What the manager hears from the platform at these steps, up to the first refusal. -/
def hears (registry : Registry) : Scene → List (Option Call) → List Choice × Scene
  | scene, [] => ([], scene)
  | scene, none :: rest =>
      let later := hears registry scene rest
      (plain scene.task.target :: later.1, later.2)
  | scene, some call :: rest =>
      match scene.answer registry call with
      | .error code => ([refusal scene.task.target code], scene)
      | .ok after =>
          let later := hears registry after rest
          (plain scene.task.target :: later.1, later.2)

/-- The save before a step of the cleanup, unless an earlier process made it. -/
def begins (scene : Scene) (journal : CleanupJournal) (step : CleanupStep) : List Choice × Scene :=
  if journal.status step = .notStarted then
    ([plain scene.task.target], { scene with
      task := { scene.task with cleanupJournal := journal.replace step .started } })
  else ([], scene)

/-- A step of the cleanup is done and saved. -/
def completes (scene : Scene) (docker : Docker) (step : CleanupStep) : Scene :=
  { scene with
    docker := docker
    task := { scene.task with
      cleanupJournal := scene.task.cleanupJournal.bind (·.replace step .completed) } }

/-- What it hears at the steps of a cleanup, which the first refusal ends. -/
def hearsCleanup : Scene → List CleanupStep → List Choice × Scene
  | scene, [] => ([], scene)
  | scene, step :: rest =>
      match scene.task.cleanupJournal with
      | none => ([], scene)
      | some journal =>
          if journal.status step = .completed then scene.hearsCleanup rest
          else
            let begun := scene.begins journal step
            match begun.2.docker.cleanupOriginalStep begun.2.environmentTag begun.2.task step with
            | none => (begun.1 ++ [refusal scene.task.target "cleanup_refused"], begun.2)
            | some docker =>
                let later := (begun.2.completes docker step).hearsCleanup rest
                (begun.1 ++ plain scene.task.target :: plain scene.task.target :: later.1, later.2)

def cleanupSteps : List CleanupStep := [.versionTag, .rollbackAlias, .imageId]

/-- An execution all of whose commands succeed: the save before the cleanup, and the end of the
task after it. -/
def execution (scene : Scene) (registry : Registry) : List Choice × Scene :=
  let before := scene.hears registry script
  let cleanup := before.2.hearsCleanup cleanupSteps
  (before.1 ++ plain scene.task.target :: cleanup.1 ++
    List.replicate 3 (plain scene.task.target), cleanup.2)

/-- A completion of its cleanup all of whose commands succeed. -/
def completion (scene : Scene) : List Choice :=
  (scene.hearsCleanup cleanupSteps).1 ++ [plain scene.task.target]

/-- The world after an execution and one completion of its cleanup. -/
def updates (scene : Scene) (registry : Registry) (world : World) : World :=
  let executed := (Operation.execute scene.task.id).leaves world (scene.execution registry).1
  Operation.completePendingCleanup.leaves executed (scene.execution registry).2.completion

end Scene

theorem hears_save {registry : Registry} {scene after : Scene} {rest : List (Option Call)}
    {choices : List Choice} (later : scene.hears registry rest = (choices, after)) :
    scene.hears registry (none :: rest) = (plain scene.task.target :: choices, after) := by
  change (plain scene.task.target :: (scene.hears registry rest).1, _) = _
  rw [later]

theorem hears_call {registry : Registry} {scene middle after : Scene} {call : Call}
    {rest : List (Option Call)} {choices : List Choice}
    (answers : scene.answer registry call = .ok middle)
    (later : middle.hears registry rest = (choices, after)) :
    scene.hears registry (some call :: rest) = (plain scene.task.target :: choices, after) := by
  rw [Scene.hears, answers]
  simp only [later]

section Scenes

variable {docker : Docker} {task : UpdateTask} {registry : Registry} {environmentTag : String}
  (ready : Ready docker task) (fresh : task.original.rollbackAlias = "")
include ready fresh

/-- Before the cleanup the platform refuses nothing. -/
theorem Ready.hears (registry : Registry) (environmentTag : String) :
    Scene.hears registry ⟨docker, environmentTag, task⟩ Scene.script =
      (List.replicate 27 (plain task.target),
        ⟨docker.running task, task.target.version, DockerPlatform.tagged task⟩) := by
  have verifies : Scene.answer ⟨docker, environmentTag, task⟩ registry .verifyTarget =
      .ok ⟨docker, environmentTag, task⟩ := by
    simp only [Scene.answer, ready.verifyTarget registry]
  have tags : Scene.answer ⟨docker, environmentTag, task⟩ registry .tagRollback =
      .ok ⟨docker.tagImage task.original.imageId (DockerPlatform.aliasOf task.id), environmentTag,
        DockerPlatform.tagged task⟩ := by
    simp only [Scene.answer, ready.tagRollback fresh]
  have migrates : ∀ other, Scene.answer ⟨other, environmentTag, DockerPlatform.tagged task⟩ registry
      .migrateTarget = .ok ⟨other, environmentTag, DockerPlatform.tagged task⟩ := by
    intro other
    have target : (DockerPlatform.tagged task).target = task.target := rfl
    simp only [Scene.answer, target, ready.migrateTarget]
  have starts : Scene.answer
      ⟨docker.tagImage task.original.imageId (DockerPlatform.aliasOf task.id), environmentTag,
        DockerPlatform.tagged task⟩ registry .startTarget =
      .ok ⟨docker.running task, environmentTag, DockerPlatform.tagged task⟩ := by
    have target : (DockerPlatform.tagged task).target = task.target := rfl
    simp only [Scene.answer, target, ready.startTarget]
  have healthy : Scene.answer ⟨docker.running task, environmentTag, DockerPlatform.tagged task⟩
      registry .health = .ok ⟨docker.running task, environmentTag, DockerPlatform.tagged task⟩ := by
    have target : (DockerPlatform.tagged task).target = task.target := rfl
    simp only [Scene.answer, target, ready.health]
  unfold Scene.script
  refine hears_save (hears_save (hears_call rfl (hears_save (hears_save (hears_call verifies ?_)))))
  refine hears_save (hears_call tags (hears_save (hears_save (hears_call rfl (hears_save ?_)))))
  refine hears_call (migrates _) (hears_save (hears_call starts (hears_save ?_)))
  refine hears_call healthy (hears_save (hears_save (hears_call healthy (hears_save ?_))))
  refine hears_call healthy (hears_save (hears_call healthy (hears_save ?_)))
  exact hears_call rfl (hears_save rfl)

end Scenes

/-- The journal of a cleanup that began and did nothing. -/
def begunJournal : CleanupJournal where
  versionTag := .started
  aliasAfterTag := CleanupJournal.untouched
  imageAfterAlias := CleanupJournal.untouched

theorem replace_fresh : ({} : CleanupJournal).replace .versionTag .started = some begunJournal := rfl

section Refused

variable {docker : Docker} {task : UpdateTask} {environmentTag : String} {world : World}
  {seen : ImageIdentity}

/-- A step that is refused ends the cleanup. -/
theorem hearsCleanup_refuses {scene begun : Scene} {journal : CleanupJournal} {step : CleanupStep}
    {rest : List CleanupStep} {saves : List Choice}
    (found : scene.task.cleanupJournal = some journal) (undone : journal.status step ≠ .completed)
    (begins : scene.begins journal step = (saves, begun))
    (refuses : begun.docker.cleanupOriginalStep begun.environmentTag begun.task step = none) :
    scene.hearsCleanup (step :: rest) =
      (saves ++ [refusal scene.task.target "cleanup_refused"], begun) := by
  unfold Scene.hearsCleanup
  rw [found]
  change (if _ then _ else _) = _
  rw [if_neg undone, begins]
  change (match begun.docker.cleanupOriginalStep begun.environmentTag begun.task step with
    | none => _
    | some docker => _) = _
  rw [refuses]

/-- A cleanup that Docker refuses at its first step hears nothing else. -/
theorem hearsCleanup_refused (unbegun : task.cleanupJournal = some {})
    (refuses : docker.cleanupOriginalStep environmentTag (task.withJournal begunJournal)
      .versionTag = none) :
    Scene.hearsCleanup ⟨docker, environmentTag, task⟩ Scene.cleanupSteps =
      ([plain task.target, refusal task.target "cleanup_refused"],
        ⟨docker, environmentTag, task.withJournal begunJournal⟩) := by
  have undone : ({} : CleanupJournal).status .versionTag ≠ .completed := by decide
  have begins : Scene.begins ⟨docker, environmentTag, task⟩ {} .versionTag =
      ([plain task.target], ⟨docker, environmentTag, task.withJournal begunJournal⟩) := rfl
  exact hearsCleanup_refuses unbegun undone begins refuses

/-- And the same again when the cleanup is completed later. -/
theorem hearsCleanup_refused_again
    (refuses : docker.cleanupOriginalStep environmentTag (task.withJournal begunJournal)
      .versionTag = none) :
    Scene.hearsCleanup ⟨docker, environmentTag, task.withJournal begunJournal⟩
        Scene.cleanupSteps =
      ([refusal task.target "cleanup_refused"],
        ⟨docker, environmentTag, task.withJournal begunJournal⟩) := by
  have undone : begunJournal.status .versionTag ≠ .completed := by decide
  have begins : Scene.begins ⟨docker, environmentTag, task.withJournal begunJournal⟩ begunJournal
      .versionTag = ([], ⟨docker, environmentTag, task.withJournal begunJournal⟩) := rfl
  exact hearsCleanup_refuses rfl undone begins refuses

theorem runs_refusal (code : String) (step : CleanupStep) :
    Runs [refusal seen code] (attempt (DockerPlatform.cleanupOriginalStep task step)) world
      (.error code) world := by
  intro rest
  rfl

/-- A step that was begun and is refused again ends the loop. -/
theorem runs_cleanupSteps_refused (code : String) :
    Runs [refusal seen code] (cleanupSteps task.id [.versionTag, .rollbackAlias, .imageId])
      (world.withTask (task.withJournal begunJournal)) false
      (world.withTask (task.withJournal begunJournal)) := by
  have step : Runs [refusal seen code] (cleanupStep task.id .versionTag)
      (world.withTask (task.withJournal begunJournal)) false
      (world.withTask (task.withJournal begunJournal)) := by
    unfold cleanupStep
    refine Runs.bind_free (runs_saved (task.withJournal begunJournal)) ?_
    refine Runs.bind_free Runs.pure ?_
    refine Runs.bind_free (runs_saved (task.withJournal begunJournal)) ?_
    exact Runs.bind (runs_refusal code .versionTag) Runs.pure
  exact Runs.bind step Runs.pure

theorem runs_cleanupSteps_refused_fresh (code : String) :
    Runs [plain seen, refusal seen code]
      (cleanupSteps task.id [.versionTag, .rollbackAlias, .imageId])
      (world.withTask (task.withJournal {})) false
      (world.withTask (task.withJournal begunJournal)) := by
  have step : Runs [plain seen, refusal seen code] (cleanupStep task.id .versionTag)
      (world.withTask (task.withJournal {})) false
      (world.withTask (task.withJournal begunJournal)) := by
    unfold cleanupStep
    refine Runs.bind_free (runs_saved (task.withJournal {})) ?_
    refine Runs.bind (runs_saveTask (task.withJournal begunJournal)) ?_
    refine Runs.bind_free (runs_saved (task.withJournal begunJournal)) ?_
    exact Runs.bind (runs_refusal code .versionTag) Runs.pure
  exact Runs.bind step Runs.pure

theorem runs_markPending (unbegun : task.cleanupJournal = some {})
    (unmarked : task.cleanup = .notRun) :
    Runs [plain seen] (markPending task) (world.withTask task) ()
      (world.withTask ({ task with cleanup := .pending }.withJournal {})) := by
  have same : { task with cleanup := .pending }.withJournal {} =
      { task with cleanup := .pending } := by
    rw [UpdateTask.withJournal, ← unbegun]
  rw [same]
  unfold markPending
  rw [if_pos unmarked]
  exact runs_saveTask _

/-- The cleanup of an execution that is refused leaves its journal begun. -/
theorem runs_cleanupOriginal_refused (unbegun : task.cleanupJournal = some {})
    (unmarked : task.cleanup = .notRun) (code : String) :
    Runs [plain seen, plain seen, refusal seen code] (cleanupOriginal task.id)
      (world.withTask task) false
      (world.withTask ({ task with cleanup := .pending }.withJournal begunJournal)) := by
  have marks : Runs [plain seen] (markPending task) (world.withTask task) ()
      (world.withTask ({ task with cleanup := .pending }.withJournal {})) :=
    runs_markPending unbegun unmarked
  unfold cleanupOriginal
  refine Runs.bind_free (runs_saved task) ?_
  rw [unbegun]
  refine Runs.bind marks ?_
  exact runs_cleanupSteps_refused_fresh code

end Refused

section Cleaned

variable {docker : Docker} {task : UpdateTask} {world : World} {seen : ImageIdentity}

/-- A step that is done is saved, and the cleanup goes on. -/
theorem hearsCleanup_cleans {scene begun after : Scene} {journal : CleanupJournal}
    {step : CleanupStep} {rest : List CleanupStep} {saves choices : List Choice}
    (found : scene.task.cleanupJournal = some journal) (undone : journal.status step ≠ .completed)
    (begins : scene.begins journal step = (saves, begun))
    (cleans : begun.docker.cleanupOriginalStep begun.environmentTag begun.task step = some docker)
    (later : (begun.completes docker step).hearsCleanup rest = (choices, after)) :
    scene.hearsCleanup (step :: rest) =
      (saves ++ plain scene.task.target :: plain scene.task.target :: choices, after) := by
  unfold Scene.hearsCleanup
  rw [found]
  change (if _ then _ else _) = _
  rw [if_neg undone, begins]
  change (match begun.docker.cleanupOriginalStep begun.environmentTag begun.task step with
    | none => _
    | some docker => _) = _
  rw [cleans]
  change (saves ++ plain scene.task.target :: plain scene.task.target ::
    ((begun.completes docker step).hearsCleanup rest).1, _) = _
  rw [later]

theorem runs_cleanupStep {journal begun done : CleanupJournal} {step : CleanupStep}
    (unstarted : journal.status step = .notStarted)
    (begins : journal.replace step .started = some begun) (started : begun.status step = .started)
    (completes : begun.replace step .completed = some done) :
    Runs (List.replicate 3 (plain seen)) (cleanupStep task.id step)
      (world.withTask (task.withJournal journal)) true
      (world.withTask (task.withJournal done)) := by
  have starts : Runs [plain seen] (startStep (task.withJournal journal) journal step)
      (world.withTask (task.withJournal journal)) ()
      (world.withTask (task.withJournal begun)) := by
    unfold startStep
    rw [if_pos unstarted, begins]
    exact runs_saveTask (task.withJournal begun)
  have cleans : Runs [plain seen]
      (attempt (DockerPlatform.cleanupOriginalStep (task.withJournal begun) step))
      (world.withTask (task.withJournal begun)) (.ok ())
      (world.withTask (task.withJournal begun)) := fun rest => rfl
  have saves : Runs [plain seen] (completeStep task.id step)
      (world.withTask (task.withJournal begun)) true
      (world.withTask (task.withJournal done)) := by
    unfold completeStep
    refine Runs.bind_free (runs_saved (task.withJournal begun)) ?_
    change Runs _ (if begun.status step = .started then _ else _) _ _ _
    rw [if_pos started, completes]
    exact Runs.bind (runs_saveTask (task.withJournal done)) Runs.pure
  unfold cleanupStep
  refine Runs.bind_free (runs_saved (task.withJournal journal)) ?_
  change Runs _ (if journal.status step = .completed then _ else _) _ _ _
  rw [if_neg (by rw [unstarted]; decide)]
  refine Runs.bind starts ?_
  refine Runs.bind_free (runs_saved (task.withJournal begun)) ?_
  exact Runs.bind cleans saves

/-- The journal of a cleanup that is done. -/
def doneJournal : CleanupJournal where
  versionTag := .completed
  rollbackAlias := .completed
  imageId := .completed

/-- The journal with the version tag done, and the alias begun or not. -/
def tagJournal (rollbackAlias : CleanupStepStatus) : CleanupJournal where
  versionTag := .completed
  rollbackAlias := rollbackAlias
  aliasAfterTag := fun _ => rfl
  imageAfterAlias := fun begun => absurd rfl begun

/-- The journal with the alias done as well, and the image begun or not. -/
def aliasJournal (imageId : CleanupStepStatus) : CleanupJournal where
  versionTag := .completed
  rollbackAlias := .completed
  imageId := imageId
  imageAfterAlias := fun _ => rfl

theorem replace_tagJournal : (tagJournal .notStarted).replace .rollbackAlias .started =
    some (tagJournal .started) := rfl

theorem replace_aliasJournal : (aliasJournal .notStarted).replace .imageId .started =
    some (aliasJournal .started) := rfl

theorem runs_cleanupOriginal (unbegun : task.cleanupJournal = some {})
    (unmarked : task.cleanup = .notRun) :
    Runs (List.replicate 10 (plain seen)) (cleanupOriginal task.id) (world.withTask task) true
      (world.withTask ({ task with cleanup := .pending }.withJournal doneJournal)) := by
  have marks : Runs [plain seen] (markPending task) (world.withTask task) ()
      (world.withTask ({ task with cleanup := .pending }.withJournal {})) :=
    runs_markPending unbegun unmarked
  have tags : Runs (List.replicate 3 (plain seen)) (cleanupStep task.id .versionTag)
      (world.withTask ({ task with cleanup := .pending }.withJournal {})) true
      (world.withTask ({ task with cleanup := .pending }.withJournal (tagJournal .notStarted))) :=
    runs_cleanupStep rfl replace_fresh rfl rfl
  have aliases : Runs (List.replicate 3 (plain seen)) (cleanupStep task.id .rollbackAlias)
      (world.withTask ({ task with cleanup := .pending }.withJournal (tagJournal .notStarted))) true
      (world.withTask
        ({ task with cleanup := .pending }.withJournal (aliasJournal .notStarted))) :=
    runs_cleanupStep rfl replace_tagJournal rfl rfl
  have images : Runs (List.replicate 3 (plain seen)) (cleanupStep task.id .imageId)
      (world.withTask ({ task with cleanup := .pending }.withJournal (aliasJournal .notStarted)))
      true (world.withTask ({ task with cleanup := .pending }.withJournal doneJournal)) :=
    runs_cleanupStep rfl replace_aliasJournal rfl rfl
  unfold cleanupOriginal
  refine Runs.bind_free (runs_saved task) ?_
  rw [unbegun]
  refine Runs.bind marks ?_
  refine Runs.bind tags ?_
  refine Runs.bind aliases ?_
  exact Runs.bind images Runs.pure

end Cleaned

section Executions

variable {docker : Docker} {task : UpdateTask} {world : World} {seen : ImageIdentity}

/-- What a success is saved with. -/
def committed (task : UpdateTask) (cleanup : CleanupStatus) : PersistentState where
  lastCheck := some { current := task.target, target := task.target, available := false, checkedAt := 0 }
  task := some { task with stage := .succeeded, cleanup := cleanup, finishedAt := some 0 }

theorem runs_commitSuccess (complete : Bool) :
    Runs (List.replicate 3 (plain seen)) (commitSuccess task.id complete) (world.withTask task) ()
      { world with state := committed task (if complete then .complete else .pending) } := by
  unfold commitSuccess
  refine Runs.bind_free (runs_saved task) ?_
  refine Runs.bind runs_now (Runs.bind runs_now ?_)
  intro rest
  rfl

/-- A task as a start leaves it. -/
structure Fresh (task : UpdateTask) : Prop where
  stage : task.stage = .checking
  unstarted : task.startedAt = none
  unaliased : task.original.rollbackAlias = ""
  unmarked : task.cleanup = .notRun
  unbegun : task.cleanupJournal = some {}

/-- The task when the execution comes to its cleanup. -/
def UpdateTask.cleaning (task : UpdateTask) : UpdateTask := { task.prepared with stage := .cleaning }

/-- The world when the execution comes to its cleanup. -/
def World.cleaning (world : World) (task : UpdateTask) : World :=
  { world with host := installed task.target }.withTask task.cleaning

/-- An execution all of whose commands succeed comes to its cleanup. -/
theorem execute_enters (fresh : Fresh task) (heard : List Choice) :
    execute task.id (world.withTask task) (List.replicate 27 (plain seen) ++ heard) = (do
      let complete ← cleanupOriginal task.id
      commitSuccess task.id complete) (world.cleaning task) heard := by
  have isReady : Runs [] (requireReadyTask task.id) (world.withTask task) ()
      (world.withTask task) := by
    unfold requireReadyTask
    refine Runs.bind_free (runs_saved task) ?_
    rw [if_pos fresh.stage]
    exact Runs.pure
  have prepares : Runs (List.replicate 10 (plain seen)) (attempt (prepareUpdate task.id))
      (world.withTask task) (.ok ()) (world.withTask task.prepared) :=
    (runs_prepareUpdate fresh.unstarted fresh.unaliased).attempt
  have replaces : Runs (List.replicate 16 (plain seen)) (attempt (replaceWeb task.id))
      (world.withTask task.prepared) (.ok ())
      ({ world with host := installed task.target }.withTask
        { task.prepared with stage := .persistingVersion }) := (runs_replaceWeb rfl).attempt
  have enters : Runs [plain seen] (checkpoint task.id .cleaning)
      ({ world with host := installed task.target }.withTask
        { task.prepared with stage := .persistingVersion }) () (world.cleaning task) :=
    runs_checkpoint rfl .cleaning
  have parts : List.replicate 27 (plain seen) ++ heard =
      List.replicate 10 (plain seen) ++
        (List.replicate 16 (plain seen) ++ ([plain seen] ++ heard)) := rfl
  rw [parts]
  unfold execute
  refine (Program.bind_returned (isReady _)).trans ?_
  refine (Program.bind_returned (prepares _)).trans ?_
  refine (Program.bind_returned (replaces _)).trans ?_
  exact Program.bind_returned (enters _)

theorem runs_execute (fresh : Fresh task) {choices : List Choice} {after : World}
    (cleans : Runs choices (do
        let cleanupComplete ← cleanupOriginal task.id
        commitSuccess task.id cleanupComplete) (world.cleaning task) () after) :
    Runs (List.replicate 27 (plain seen) ++ choices) (execute task.id) (world.withTask task) ()
      after := by
  intro rest
  rw [List.append_assoc, execute_enters fresh]
  exact cleans rest

/-- The task when its cleanup ends with this journal. -/
def UpdateTask.ending (task : UpdateTask) (journal : CleanupJournal) : UpdateTask :=
  { task.cleaning with cleanup := .pending }.withJournal journal

/-- The world when its execution ends. -/
def UpdateTask.ended (task : UpdateTask) (journal : CleanupJournal) (cleanup : CleanupStatus) :
    World where
  state := committed (task.ending journal) cleanup
  host := installed task.target

theorem runs_refused (fresh : Fresh task) (code : String) :
    Runs (List.replicate 27 (plain seen) ++
        ([plain seen, plain seen, refusal seen code] ++ List.replicate 3 (plain seen)))
      (execute task.id) (world.withTask task) () (task.ended begunJournal .pending) := by
  have cleans : Runs [plain seen, plain seen, refusal seen code] (cleanupOriginal task.id)
      (world.cleaning task) false
      ({ world with host := installed task.target }.withTask (task.ending begunJournal)) :=
    runs_cleanupOriginal_refused (by exact fresh.unbegun) (by exact fresh.unmarked) code
  have commits : Runs (List.replicate 3 (plain seen)) (commitSuccess task.id false)
      ({ world with host := installed task.target }.withTask (task.ending begunJournal)) ()
      (task.ended begunJournal .pending) := runs_commitSuccess false
  exact runs_execute fresh (Runs.bind cleans commits)

theorem runs_completed (fresh : Fresh task) :
    Runs (List.replicate 40 (plain seen)) (execute task.id) (world.withTask task) ()
      (task.ended doneJournal .complete) := by
  have cleans : Runs (List.replicate 10 (plain seen)) (cleanupOriginal task.id)
      (world.cleaning task) true
      ({ world with host := installed task.target }.withTask (task.ending doneJournal)) :=
    runs_cleanupOriginal (by exact fresh.unbegun) (by exact fresh.unmarked)
  have commits : Runs (List.replicate 3 (plain seen)) (commitSuccess task.id true)
      ({ world with host := installed task.target }.withTask (task.ending doneJournal)) ()
      (task.ended doneJournal .complete) := runs_commitSuccess true
  have parts : List.replicate 40 (plain seen) =
      List.replicate 27 (plain seen) ++ (List.replicate 10 (plain seen) ++
        List.replicate 3 (plain seen)) := rfl
  rw [parts]
  exact runs_execute fresh (Runs.bind cleans commits)

/-- The task of a success whose cleanup ended with this journal. -/
def UpdateTask.done (task : UpdateTask) (journal : CleanupJournal) (cleanup : CleanupStatus) :
    UpdateTask :=
  { task.ending journal with stage := .succeeded, cleanup := cleanup, finishedAt := some 0 }

theorem runs_cleanupOriginal_refused_again (code : String) :
    Runs [refusal seen code] (cleanupOriginal (task.done begunJournal .pending).id)
      (task.ended begunJournal .pending) false (task.ended begunJournal .pending) := by
  have loads : Runs [] (taskOf (task.done begunJournal .pending).id)
      (task.ended begunJournal .pending) (task.done begunJournal .pending)
      (task.ended begunJournal .pending) := runs_taskOf rfl rfl
  have marked : Runs [] (markPending (task.done begunJournal .pending))
      (task.ended begunJournal .pending) () (task.ended begunJournal .pending) := Runs.pure
  have steps : Runs [refusal seen code]
      (cleanupSteps (task.done begunJournal .pending).id [.versionTag, .rollbackAlias, .imageId])
      ((task.ended begunJournal .pending).withTask
        ((task.done begunJournal .pending).withJournal begunJournal)) false
      ((task.ended begunJournal .pending).withTask
        ((task.done begunJournal .pending).withJournal begunJournal)) :=
    runs_cleanupSteps_refused code
  unfold cleanupOriginal
  refine Runs.bind_free loads ?_
  exact Runs.bind_free marked steps

/-- A completion that is refused again changes nothing. -/
theorem completePendingCleanup_refused (code : String) (rest : List Choice) :
    completePendingCleanup.leaves (task.ended begunJournal .pending) (refusal seen code :: rest) =
      task.ended begunJournal .pending := by
  have loads : Runs [] loadState (task.ended begunJournal .pending)
      (task.ended begunJournal .pending).state (task.ended begunJournal .pending) := fun _ => rfl
  have refused : cleanupOriginal (task.done begunJournal .pending).id
      (task.ended begunJournal .pending) ([refusal seen code] ++ rest) =
        (.returned false, task.ended begunJournal .pending, rest) :=
    runs_cleanupOriginal_refused_again code rest
  have ran : completePendingCleanup (task.ended begunJournal .pending)
      (refusal seen code :: rest) =
        (.raised (.conflict "cleanup_incomplete"), task.ended begunJournal .pending, rest) := by
    unfold completePendingCleanup
    refine (Program.bind_returned (loads _)).trans ?_
    exact Program.bind_returned refused
  exact Program.leaves_of_eq ran

/-- A completion leaves a complete cleanup alone. -/
theorem completePendingCleanup_complete (choices : List Choice) :
    completePendingCleanup.leaves (task.ended doneJournal .complete) choices =
      task.ended doneJournal .complete := rfl

end Executions

section Outcome

variable {docker : Docker} {task : UpdateTask} {environmentTag : String} {world : World}
  (ready : Ready docker task) (fresh : Fresh task)
include ready fresh

/-- The steps of a cleanup that finds no tags but its own. -/
theorem Ready.hears_cleaned (recognised : DockerPlatform.isAlias
      (DockerPlatform.aliasOf task.id) = true) (own : OwnTags (docker.running task) task) :
    Scene.hearsCleanup ⟨docker.running task, task.target.version, DockerPlatform.tagged task⟩
        Scene.cleanupSteps =
      (List.replicate 9 (plain task.target), ⟨docker.cleaned task, task.target.version,
        (DockerPlatform.tagged task).withJournal doneJournal⟩) := by
  let version := task.target.version
  let cleaning (journal : CleanupJournal) := (DockerPlatform.tagged task).withJournal journal
  have tagCleans : Cleans task (cleaning begunJournal) .versionTag := ⟨rfl, rfl, rfl, rfl⟩
  have aliasCleans : Cleans task (cleaning (tagJournal .started)) .rollbackAlias :=
    ⟨rfl, rfl, rfl, rfl⟩
  have imageCleans : Cleans task (cleaning (aliasJournal .started)) .imageId :=
    ⟨rfl, rfl, rfl, rfl⟩
  have tags := ready.cleans_versionTag fresh.unaliased tagCleans recognised own
  have aliases := ready.cleans_alias fresh.unaliased aliasCleans recognised own
  have images := ready.cleans_imageId fresh.unaliased imageCleans recognised
  have imageBegins : Scene.begins ⟨docker.cleaned task, version, cleaning (aliasJournal .notStarted)⟩
      (aliasJournal .notStarted) .imageId =
        ([plain task.target], ⟨docker.cleaned task, version, cleaning (aliasJournal .started)⟩) := rfl
  have aliasBegins : Scene.begins ⟨docker.untagged task, version, cleaning (tagJournal .notStarted)⟩
      (tagJournal .notStarted) .rollbackAlias =
        ([plain task.target], ⟨docker.untagged task, version, cleaning (tagJournal .started)⟩) := rfl
  have tagBegins : Scene.begins ⟨docker.running task, version, DockerPlatform.tagged task⟩
      {} .versionTag =
        ([plain task.target], ⟨docker.running task, version, cleaning begunJournal⟩) := rfl
  have afterAlias : Scene.hearsCleanup
      ⟨docker.cleaned task, version, cleaning (aliasJournal .notStarted)⟩ [.imageId] =
        (List.replicate 3 (plain task.target),
          ⟨docker.cleaned task, version, cleaning doneJournal⟩) :=
    hearsCleanup_cleans rfl (by decide) imageBegins images rfl
  have afterTag : Scene.hearsCleanup
      ⟨docker.untagged task, version, cleaning (tagJournal .notStarted)⟩
        [.rollbackAlias, .imageId] =
        (List.replicate 6 (plain task.target),
          ⟨docker.cleaned task, version, cleaning doneJournal⟩) :=
    hearsCleanup_cleans rfl (by decide) aliasBegins aliases afterAlias
  exact hearsCleanup_cleans fresh.unbegun (by decide) tagBegins tags afterTag

/-- The update is recorded as done, its cleanup too, and blocks no later check or start. -/
def Completed (world : World) : Prop :=
  ∃ done, world.state.task = some done ∧ done.stage = .succeeded ∧ done.cleanup = .complete ∧
    admitsNewTask world.state = true

theorem Ready.updates_completed (recognised : DockerPlatform.isAlias
      (DockerPlatform.aliasOf task.id) = true) (own : OwnTags (docker.running task) task)
    (registry : Registry) :
    Scene.updates ⟨docker, environmentTag, task⟩ registry (world.withTask task) =
      task.ended doneJournal .complete := by
  have choices : (Scene.execution ⟨docker, environmentTag, task⟩ registry).1 =
      List.replicate 40 (plain task.target) := by
    unfold Scene.execution
    rw [ready.hears fresh.unaliased]
    change _ ++ _ :: (Scene.hearsCleanup ⟨docker.running task, task.target.version,
      DockerPlatform.tagged task⟩ _).1 ++ _ = _
    rw [ready.hears_cleaned fresh recognised own]
    rfl
  have executed : (execute task.id).leaves (world.withTask task)
      (List.replicate 40 (plain task.target)) = task.ended doneJournal .complete :=
    (runs_completed fresh).leaves
  unfold Scene.updates
  rw [choices]
  change completePendingCleanup.leaves ((execute task.id).leaves _ _) _ = _
  rw [executed]
  exact completePendingCleanup_complete _

theorem Ready.updates_refused (refuses : ∀ cleaning, Cleans task cleaning .versionTag →
      (docker.running task).cleanupOriginalStep task.target.version cleaning .versionTag = none)
    (registry : Registry) :
    Scene.updates ⟨docker, environmentTag, task⟩ registry (world.withTask task) =
      task.ended begunJournal .pending := by
  have refused : (docker.running task).cleanupOriginalStep task.target.version
      ((DockerPlatform.tagged task).withJournal begunJournal) .versionTag = none :=
    refuses _ ⟨rfl, rfl, rfl, rfl⟩
  have first : Scene.hearsCleanup ⟨docker.running task, task.target.version,
      DockerPlatform.tagged task⟩ Scene.cleanupSteps =
        ([plain task.target, refusal task.target "cleanup_refused"], ⟨docker.running task,
          task.target.version, (DockerPlatform.tagged task).withJournal begunJournal⟩) :=
    hearsCleanup_refused fresh.unbegun refused
  have again : Scene.hearsCleanup ⟨docker.running task, task.target.version,
      (DockerPlatform.tagged task).withJournal begunJournal⟩ Scene.cleanupSteps =
        ([refusal task.target "cleanup_refused"], ⟨docker.running task,
          task.target.version, (DockerPlatform.tagged task).withJournal begunJournal⟩) :=
    hearsCleanup_refused_again refused
  have execution : Scene.execution ⟨docker, environmentTag, task⟩ registry =
      (List.replicate 27 (plain task.target) ++
        ([plain task.target, plain task.target, refusal task.target "cleanup_refused"] ++
          List.replicate 3 (plain task.target)), ⟨docker.running task,
          task.target.version, (DockerPlatform.tagged task).withJournal begunJournal⟩) := by
    unfold Scene.execution
    rw [ready.hears fresh.unaliased]
    change (_ ++ _ :: (Scene.hearsCleanup ⟨docker.running task, task.target.version,
      DockerPlatform.tagged task⟩ _).1 ++ _, (Scene.hearsCleanup ⟨docker.running task,
        task.target.version, DockerPlatform.tagged task⟩ _).2) = _
    rw [first]
    rfl
  have executed : (execute task.id).leaves (world.withTask task)
      (List.replicate 27 (plain task.target) ++
        ([plain task.target, plain task.target, refusal task.target "cleanup_refused"] ++
          List.replicate 3 (plain task.target))) = task.ended begunJournal .pending :=
    (runs_refused fresh "cleanup_refused").leaves
  unfold Scene.updates
  rw [execution]
  change completePendingCleanup.leaves ((execute task.id).leaves _ _) (Scene.completion _) = _
  rw [executed, Scene.completion, again]
  exact completePendingCleanup_refused _ _

theorem Ready.updates_iff (registry : Registry) :
    Completed (Scene.updates ⟨docker, environmentTag, task⟩ registry (world.withTask task)) ↔
      DockerPlatform.isAlias (DockerPlatform.aliasOf task.id) = true ∧
        OwnTags (docker.running task) task := by
  have blocked : ¬ Completed (task.ended begunJournal .pending) := by
    rintro ⟨done, saved, -, complete, -⟩
    cases saved
    cases complete
  constructor
  · intro completed
    by_contra stopped
    rw [ready.updates_refused fresh ?_] at completed
    · exact blocked completed
    intro cleaning cleans
    by_cases recognised : DockerPlatform.isAlias (DockerPlatform.aliasOf task.id) = true
    · exact ready.versionTag_refused cleans (fun own => stopped ⟨recognised, own⟩) _
    · exact ready.versionTag_unrecognised fresh.unaliased cleans (by simpa using recognised) _
  · rintro ⟨recognised, own⟩
    rw [ready.updates_completed fresh recognised own]
    exact ⟨_, rfl, rfl, rfl, rfl⟩

end Outcome

section Later

variable {docker before after : Docker} {failed : List UpdateTask} {checked : CheckResult}
  {taskId version : String} {createdAt : ℤ}

theorem fresh_newTask (ready : Ready after (newTask checked taskId createdAt)) :
    Fresh (newTask checked taskId createdAt) := by
  have recorded := ready.original.isOriginal.2
  simp only [DockerPlatform.isRecordedTarget, Bool.and_eq_true, decide_eq_true_eq] at recorded
  exact ⟨rfl, rfl, recorded.2, rfl, rfl⟩

/-- The tags of the original image are those of the task itself exactly when no other task left its
alias there. -/
theorem ownTags_iff
    (stained : Stained before before.web.imageId version (failed.map (·.id)))
    (admitted : Admitted before checked.current checked.target after) :
    OwnTags (after.running (newTask checked taskId createdAt))
        (newTask checked taskId createdAt) ↔
      ∀ task ∈ failed, before.tags.lookup (DockerPlatform.aliasOf task.id) =
        some before.web.imageId → task.id = taskId := by
  have current := stained.version_eq admitted.inspected
  have imageId : (newTask checked taskId createdAt).original.imageId = before.web.imageId :=
    current.2
  have kept : ∀ otherId, after.tags.lookup (DockerPlatform.aliasOf otherId) =
      before.tags.lookup (DockerPlatform.aliasOf otherId) := fun otherId =>
    admitted.resolved.tags _ (aliasOf_ne_stableTag otherId) (aliasOf_ne_versionTag otherId _)
  have running : ∀ name, name ≠ DockerPlatform.aliasOf taskId →
      (after.running (newTask checked taskId createdAt)).tags.lookup name =
        after.tags.lookup name := fun name another => AList.lookup_insert_ne another
  constructor
  · intro own task member names
    by_contra another
    have differ : DockerPlatform.aliasOf task.id ≠ DockerPlatform.aliasOf taskId :=
      fun same => another (aliasOf_injective same)
    rw [← kept, ← running _ differ, ← imageId] at names
    rcases own _ names with version | alone
    · exact aliasOf_ne_versionTag _ _ version
    · exact differ alone
  · intro alone name names
    by_cases mine : name = DockerPlatform.aliasOf taskId
    · exact .inr mine
    left
    rw [running name mine, imageId] at names
    have stainedAfter := stained.resolved admitted.resolved (current.1 ▸ admitted.newer)
      admitted.another
    rcases stainedAfter.tags name names with rfl | versioned | ⟨otherId, member, rfl⟩
    · rw [admitted.resolved.stable] at names
      exact absurd (Option.some.inj names) admitted.another
    · rw [versioned, ← current.1]
      rfl
    · obtain ⟨task, taskMember, rfl⟩ := List.mem_map.mp member
      rw [kept] at names
      exact absurd (by rw [alone task taskMember names]) mine

/-- After any number of failed tasks an update all of whose commands succeed completes exactly when
its id is a UUID of the usual variant, and no failed task with another id left its alias on the
image that the update replaces. -/
theorem update_after_failures_completes_iff (tidy : Tidy docker)
    (failures : Failures docker failed before) (accepted : acceptsTaskId taskId = true)
    {registry atStart : Registry}
    (admits : before.admitUpdate registry atStart = some ((checked.current, checked.target), after))
    (world : World) (saved : world.state.task = some (newTask checked taskId createdAt))
    (environmentTag : String) (atExecution : Registry) :
    Completed (Scene.updates ⟨after, environmentTag, newTask checked taskId createdAt⟩ atExecution
        world) ↔
      (∃ digit ∈ DockerPlatform.variantOf taskId, DockerPlatform.isUsualVariant digit = true) ∧
        ∀ task ∈ failed, before.tags.lookup (DockerPlatform.aliasOf task.id) =
          some before.web.imageId → task.id = taskId := by
  rcases stained_of_failures tidy failures with ⟨version, stained⟩
  have admitted := admitted_of_admitUpdate admits
  have ready : Ready after (newTask checked taskId createdAt) := ready_of_admitted stained admitted
  have slot : world.withTask (newTask checked taskId createdAt) = world := by
    rw [World.withTask, ← saved]
  rw [← slot, ready.updates_iff (fresh_newTask ready), ownTags_iff stained admitted]
  exact and_congr_left' (DockerPlatform.isAlias_aliasOf_iff accepted)

end Later

namespace Sample

def installedLabels : ImageLabels where
  version := "v0.2.0"
  revision := "0123456"
  created := "2026-08-01T00:00:00+00:00"
  publishedAt := some 0

def installedImage : ImageIdentity := { taggableImage with publishedAt := some 0 }

/-- Docker as the installation of the first version leaves it. -/
def installation : Docker where
  tags := AList.singleton (DockerPlatform.versionTag "v0.2.0") installedImage.imageId
  digests := AList.singleton installedImage.digest installedImage.imageId
  images := AList.singleton installedImage.imageId installedLabels
  architecture := "amd64"
  web := ⟨installedImage.imageId, DockerPlatform.versionTag "v0.2.0"⟩

def nextRelease : Release where
  digest := "sha256:0000000000000000000000000000000000000000000000000000000000000003"
  imageId := "sha256:0000000000000000000000000000000000000000000000000000000000000004"
  labels := { installedLabels with version := "v0.3.0" }

def nextImage : ImageIdentity where
  repository := DockerPlatform.webRepository
  version := "v0.3.0"
  digest := nextRelease.digest
  imageId := nextRelease.imageId
  tags := [DockerPlatform.versionTag "v0.3.0"]
  publishedAt := some 0
  versionValid := targetImage.versionValid

def nextCheck : CheckResult where
  current := installedImage
  target := nextImage
  available := true
  checkedAt := 0

def firstTask : UpdateTask := newTask nextCheck "11111111-1111-4111-8111-111111111111" 0

def secondTask : UpdateTask := newTask nextCheck otherId 0

def worldOf (task : UpdateTask) : World where
  state := { task := some task }
  host := ⟨"v0.2.0", ⟨installedImage.image, true⟩⟩

/-- The target is never healthy, and the rollback succeeds. -/
def neverHealthy : List Choice :=
  List.replicate 16 (plain nextImage) ++
    List.replicate startupHealthMaxAttempts (refusal nextImage "health_check_failed") ++
    List.replicate 6 (plain nextImage)

theorem tidy_installation : Tidy installation := by
  refine ⟨"v0.2.0", ⟨installedLabels, by decide +kernel, rfl⟩, by decide +kernel,
    by decide +kernel, ?_⟩
  intro name names
  have listed : name ∈ installation.allTags installedImage.imageId := Docker.mem_allTags.mpr names
  have only : installation.allTags installedImage.imageId = [DockerPlatform.versionTag "v0.2.0"] := by
    decide +kernel
  rw [only, List.mem_singleton] at listed
  exact .inr (.inl listed)

theorem inspectWeb_installation : installation.inspectWeb = some installedImage := by
  decide +kernel

/-- The image of the next release as an inspection reads it. -/
def nextCore : InspectedImage where
  identity := { nextImage with tags := [] }
  revision := "0123456"
  created := "2026-08-01T00:00:00+00:00"
  osName := "linux"
  architecture := "amd64"
  allTags := []

theorem admitUpdate_installation : ∃ started, installation.admitUpdate (.always nextRelease)
    (.always nextRelease) = some ((installedImage, nextImage), started) := by
  have fetched : installation.fetch nextRelease =
      (nextRelease.imageId, (installation.fetch nextRelease).2) :=
    Prod.ext (by decide +kernel) rfl
  have read : (installation.fetch nextRelease).2.inspectCore nextRelease.imageId none =
      some nextCore := by decide +kernel
  exact admitUpdate_of_fetch inspectWeb_installation fetched read rfl (by decide +kernel)

end Sample

theorem Sample.admitUpdate_rolledBack {started : Docker}
    (admits : Sample.installation.admitUpdate (.always Sample.nextRelease) (.always Sample.nextRelease) =
      some ((Sample.installedImage, Sample.nextImage), started))
    (recognised : DockerPlatform.isAlias (DockerPlatform.aliasOf Sample.firstTask.id) = true) :
    ∃ after, (started.rolledBack Sample.firstTask).admitUpdate (.always Sample.nextRelease)
      (.always Sample.nextRelease) = some ((Sample.installedImage, Sample.nextImage), after) := by
  rcases Sample.tidy_installation with ⟨version, stained⟩
  have ready : Ready started Sample.firstTask :=
    ready_of_admitted stained (admitted_of_admitUpdate admits)
  have original := ready.original.tagImage Sample.firstTask.original.imageId Sample.firstTask.id
  have target := ready.target.tagImage Sample.firstTask.original.imageId Sample.firstTask.id
  have container : DockerPlatform.isWebImageReference
      (started.rolledBack Sample.firstTask).web.configImage = true := by
    change DockerPlatform.isWebImageReference (DockerPlatform.aliasOf Sample.firstTask.id) = true
    rw [DockerPlatform.isWebImageReference_aliasOf, recognised]
  exact admits_again ⟨original.tag, original.read⟩ ⟨target.tag, target.read⟩ rfl container rfl
    (by decide +kernel)

/-- The order of the smoke tests of the runbook: a first update that is rolled back, and then a
second one that succeeds.  The cleanup of the second stays pending. -/
theorem update_after_rollback_stays_pending :
    ∃ before after, Tidy Sample.installation ∧
      ((Operation.execute Sample.firstTask.id).leaves (Sample.worldOf Sample.firstTask)
        Sample.neverHealthy).state.task.map (fun task => (task.stage, task.rolledBack)) =
          some (.failed, true) ∧
      Failures Sample.installation [Sample.firstTask] before ∧
      acceptsTaskId Sample.secondTask.id = true ∧
      (∃ digit ∈ DockerPlatform.variantOf Sample.secondTask.id,
        DockerPlatform.isUsualVariant digit = true) ∧
      before.admitUpdate (.always Sample.nextRelease) (.always Sample.nextRelease) =
        some ((Sample.installedImage, Sample.nextImage), after) ∧
      ¬ Completed (Scene.updates ⟨after, "v0.2.0", Sample.secondTask⟩ (.always Sample.nextRelease)
        (Sample.worldOf Sample.secondTask)) := by
  obtain ⟨started, admits⟩ := Sample.admitUpdate_installation
  have recognised : DockerPlatform.isAlias (DockerPlatform.aliasOf Sample.firstTask.id) = true := by
    decide +kernel
  have failures : Failures Sample.installation [Sample.firstTask]
      (started.rolledBack Sample.firstTask) :=
    .another .none (fails_rolledBack Sample.tidy_installation admits rfl recognised)
  obtain ⟨after, admitsAgain⟩ := Sample.admitUpdate_rolledBack admits recognised
  refine ⟨_, after, Sample.tidy_installation, by decide +kernel, failures, by decide +kernel,
    ⟨'8', by decide +kernel, by decide⟩, admitsAgain, ?_⟩
  rcases stained_of_failures Sample.tidy_installation failures with ⟨version, stained⟩
  have admitted := admitted_of_admitUpdate admitsAgain
  have ready : Ready after Sample.secondTask := ready_of_admitted stained admitted
  have slot : (Sample.worldOf Sample.secondTask).withTask Sample.secondTask =
      Sample.worldOf Sample.secondTask := rfl
  rw [← slot, ready.updates_iff ⟨rfl, rfl, rfl, rfl, rfl⟩]
  rintro ⟨-, own⟩
  have alone := (ownTags_iff stained admitted).mp own Sample.firstTask List.mem_cons_self
    lookup_running_alias
  exact absurd alone (by decide +kernel)

/-- After a first task that failed before it tagged anything the next update completes. -/
theorem update_after_failures_completes_untagged :
    ∃ before after, Failures Sample.installation [Sample.firstTask] before ∧
      before.admitUpdate (.always Sample.nextRelease) (.always Sample.nextRelease) =
        some ((Sample.installedImage, Sample.nextImage), after) ∧
      Completed (Scene.updates ⟨after, "v0.2.0", Sample.secondTask⟩ (.always Sample.nextRelease)
        (Sample.worldOf Sample.secondTask)) := by
  obtain ⟨started, admits⟩ := Sample.admitUpdate_installation
  have admitted := admitted_of_admitUpdate admits
  rcases Sample.tidy_installation with ⟨version, stained⟩
  have ready : Ready started Sample.firstTask := ready_of_admitted stained admitted
  have failures : Failures Sample.installation [Sample.firstTask] started :=
    .another .none ⟨⟨_, _, started, admits, .refl⟩,
      congrArg Container.imageId admitted.resolved.others.web⟩
  obtain ⟨after, admitsAgain⟩ := admits_again ready.original ready.target ready.web
    ready.recognised rfl (by decide +kernel)
  refine ⟨started, after, failures, admitsAgain, ?_⟩
  refine (update_after_failures_completes_iff Sample.tidy_installation failures (by decide +kernel)
    admitsAgain (Sample.worldOf Sample.secondTask) rfl "v0.2.0" (.always Sample.nextRelease)).mpr
    ⟨⟨'8', by decide +kernel, by decide⟩, ?_⟩
  -- the first task left no alias
  intro task member names
  rw [admitted.resolved.tags _ (aliasOf_ne_stableTag _) (aliasOf_ne_versionTag _ _),
    admitted.resolved.others.web] at names
  rcases stained.tags _ names with stable | versioned | ⟨taskId, none, -⟩
  · exact absurd stable (aliasOf_ne_stableTag _)
  · exact absurd versioned (aliasOf_ne_versionTag _ _)
  · simp at none

end Finrec.Updater
