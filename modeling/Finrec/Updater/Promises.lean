import Finrec.Updater.Manager

/-!
# What a saved stage promises about the host

Every step of the manager is taken in a host that keeps the promise of the saved
stage, whether the step has its effect or not.  So the promise of the saved stage
holds wherever a process dies, and a restart can start from it.  The promises of
`succeeded` and `failed` are the two outcomes an update may have.

This file proves it for saves, for platform calls and for the loops made of them.
-/

namespace Finrec.Updater

open CrashLogic UpdateManager

/-- An update: the task and the two images it recorded when it was started. -/
structure Journey where
  taskId : String
  original : Image
  target : Image

namespace Journey

variable (journey : Journey)

/-- The host before anything was changed, and after an update failed. -/
def before : Host := ⟨journey.original.version, ⟨journey.original, true⟩⟩

/-- The host after the update. -/
def after : Host := ⟨journey.target.version, ⟨journey.target, true⟩⟩

def EitherImage (host : Host) : Prop :=
  host.web.image = journey.original ∨ host.web.image = journey.target

def EitherVersion (host : Host) : Prop :=
  host.environmentTag = journey.original.version ∨ host.environmentTag = journey.target.version

/-- What a saved stage promises about the host. -/
def Supports : Stage → Host → Prop
  | .checking, host | .backingUp, host | .pulling, host => host = journey.before
  | .stoppingWeb, host | .migrating, host | .startingWeb, host | .checkingHealth, host
  | .stabilizing, host =>
      host.environmentTag = journey.original.version ∧ journey.EitherImage host
  | .persistingVersion, host | .rollingBack, host =>
      journey.EitherVersion host ∧ journey.EitherImage host
  | .cleaning, host =>
      journey.EitherVersion host ∧ journey.EitherImage host ∧
        (host.web.image = journey.target → host.environmentTag = journey.target.version)
  | .succeeded, host => host = journey.after
  | .failed, host => host = journey.before
  | .manualIntervention, _ => True

/-- The task is the one of this update. -/
structure Known (task : UpdateTask) : Prop where
  id : task.id = journey.taskId
  original : task.original.image = journey.original
  target : task.target.image = journey.target

/-- The task of this update is saved with a stage, and the host has a property. -/
def Saved (stage : Stage) (facts : Host → Prop) (world : World) : Prop :=
  ∃ task, world.state.task = some task ∧ journey.Known task ∧ task.stage = stage ∧
    facts world.host

/-- The saved stage keeps its promise. -/
def Recoverable (world : World) : Prop :=
  ∃ stage, journey.Saved stage (journey.Supports stage) world

variable {journey}
variable {stage : Stage} {facts : Host → Prop}

theorem Saved.mono {weaker : Host → Prop} {world : World} (saved : journey.Saved stage facts world)
    (implies : ∀ host, facts host → weaker host) : journey.Saved stage weaker world := by
  rcases saved with ⟨task, found, known, stageEq, holds⟩
  exact ⟨task, found, known, stageEq, implies _ holds⟩

theorem Saved.recoverable {world : World} (saved : journey.Saved stage facts world)
    (supported : ∀ host, facts host → journey.Supports stage host) :
    journey.Recoverable world :=
  ⟨stage, saved.mono supported⟩

variable (journey)

/-- A contract under which every state between two steps is recoverable. -/
def Keeps (start : World → Prop) (process : Process α) (returns : α → World → Prop)
    (fails : World → Prop) : Prop :=
  Satisfies start process ⟨returns,
    fun error world => match error.safeCode? with
      | some _ => fails world
      | none => journey.Recoverable world,
    journey.Recoverable⟩

variable {journey} {α β : Type}

theorem keeps_iff_guarded {start : World → Prop} {process : Process α}
    {returns : α → World → Prop} {fails : World → Prop} :
    journey.Keeps start process returns fails ↔
      Guarded UpdaterError.safeCode? journey.Recoverable start process returns fails := by
  unfold Keeps Guarded
  refine iff_of_eq (congrArg (Satisfies start process) ?_)
  congr 1
  funext error world
  cases error.safeCode? <;> rfl

namespace Keeps

variable {start : World → Prop} {process : Process α} {returns : α → World → Prop}
  {fails : World → Prop}

theorem conseq {start' : World → Prop} {returns' : α → World → Prop} {fails' : World → Prop}
    (keeps : journey.Keeps start' process returns' fails')
    (startHolds : ∀ world, start world → start' world)
    (returnsHold : ∀ value world, returns' value world → returns value world)
    (failsHold : ∀ world, fails' world → fails world) :
    journey.Keeps start process returns fails :=
  keeps_iff_guarded.mpr
    ((keeps_iff_guarded.mp keeps).conseq startHolds returnsHold failsHold)

theorem weaken {start' : World → Prop} (keeps : journey.Keeps start' process returns fails)
    (startHolds : ∀ world, start world → start' world) :
    journey.Keeps start process returns fails :=
  Satisfies.weaken keeps startHolds

theorem bind {next : α → Process β} {returns : β → World → Prop} {middle : α → World → Prop}
    (first : journey.Keeps start process middle fails)
    (rest : ∀ value, journey.Keeps (middle value) (next value) returns fails) :
    journey.Keeps start (process >>= next) returns fails :=
  Satisfies.bind first rest

/-- A sequence, with the condition between its parts written out. -/
theorem through (middle : α → World → Prop) {next : α → Process β} {returns : β → World → Prop}
    (first : journey.Keeps start process middle fails)
    (rest : ∀ value, journey.Keeps (middle value) (next value) returns fails) :
    journey.Keeps start (process >>= next) returns fails :=
  bind first rest

theorem pure {value : α} (result : ∀ world, start world → returns value world) :
    journey.Keeps start (Pure.pure value : Process α) returns fails :=
  Satisfies.pure result

/-- A caught failure goes on like a result. -/
theorem attempt {returns : Except String α → World → Prop}
    (keeps : journey.Keeps start process (fun value => returns (.ok value))
      fun world => ∀ code, returns (.error code) world) :
    journey.Keeps start (UpdateManager.attempt process) returns fails :=
  keeps_iff_guarded.mpr (Guarded.attempt (keeps_iff_guarded.mp keeps))

theorem raiseOther {error : UpdaterError} (unsafeError : error.safeCode? = none)
    (supported : ∀ world, start world → journey.Recoverable world) :
    journey.Keeps start (Program.raise error : Process α) returns fails :=
  keeps_iff_guarded.mpr (Guarded.raiseOther unsafeError supported)

end Keeps

section Steps

variable {fails : World → Prop}

theorem keeps_loadState {start : World → Prop} :
    journey.Keeps start loadState (fun state world => start world ∧ world.state = state) fails := by
  refine Keeps.through (fun world after => start after ∧ after = world) ?_ ?_
  · exact Satisfies.read fun world started => ⟨started, rfl⟩
  · intro world
    refine Keeps.pure ?_
    rintro after ⟨started, rfl⟩
    exact ⟨started, rfl⟩

/-- A loaded task is the task of this update, with the saved stage. -/
theorem keeps_taskOf {next : UpdateTask → Process β} {returns : β → World → Prop}
    (rest : ∀ task, journey.Known task → task.stage = stage →
      journey.Keeps (journey.Saved stage facts) (next task) returns fails) :
    journey.Keeps (journey.Saved stage facts) (taskOf journey.taskId >>= next) returns fails := by
  refine Keeps.through (fun task world => (journey.Known task ∧ task.stage = stage) ∧
    journey.Saved stage facts world) ?_ ?_
  · refine Keeps.bind keeps_loadState fun state => ?_
    intro world choices started
    rcases started with ⟨⟨task, found, known, stageEq, holds⟩, rfl⟩
    simp only [requireTask, found, known.id, if_true]
    exact ⟨⟨known, stageEq⟩, task, found, known, stageEq, holds⟩
  · intro task world choices started
    exact rest task started.1.1 started.1.2 world choices started.2

theorem keeps_saveState {state : PersistentState} {task : UpdateTask} {next : Stage}
    (nextStage : task.stage = next) (found : state.task = some task) (known : journey.Known task)
    (supportedBefore : ∀ host, facts host → journey.Supports stage host)
    (supportedAfter : ∀ host, facts host → journey.Supports next host) :
    journey.Keeps (journey.Saved stage facts) (saveState state)
      (fun _ => journey.Saved next facts) fails := by
  have saves : ∀ world, journey.Saved stage facts world →
      journey.Saved next facts { world with state } := by
    rintro world ⟨-, -, -, -, holds⟩
    exact ⟨task, found, known, nextStage, holds⟩
  refine Satisfies.act (fun world saved => saved.recoverable supportedBefore) ?_
  intro choice world saved
  by_cases dies : choice.dies
  · by_cases applied : choice.applied
    · simp only [dies, applied, if_true]
      exact (saves world saved).recoverable supportedAfter
    · simp only [dies, applied, if_true]
      exact saved.recoverable supportedBefore
  · simp only [dies]
    exact saves world saved

theorem keeps_saveTask {task : UpdateTask} {next : Stage} (nextStage : task.stage = next)
    (known : journey.Known task)
    (supportedBefore : ∀ host, facts host → journey.Supports stage host)
    (supportedAfter : ∀ host, facts host → journey.Supports next host) :
    journey.Keeps (journey.Saved stage facts) (saveTask task)
      (fun _ => journey.Saved next facts) fails := by
  refine Keeps.bind keeps_loadState fun state => ?_
  exact Keeps.weaken (keeps_saveState nextStage rfl known supportedBefore supportedAfter)
    fun _ started => started.1

theorem keeps_now (supported : ∀ host, facts host → journey.Supports stage host) :
    journey.Keeps (journey.Saved stage facts) now (fun _ => journey.Saved stage facts) fails := by
  refine Satisfies.act (fun world saved => saved.recoverable supported) ?_
  intro choice world saved
  by_cases dies : choice.dies
  · simp only [dies, if_true]
    exact saved.recoverable supported
  · simp only [dies]
    exact saved

theorem keeps_checkpoint {next : Stage}
    (supportedBefore : ∀ host, facts host → journey.Supports stage host)
    (supportedAfter : ∀ host, facts host → journey.Supports next host) :
    journey.Keeps (journey.Saved stage facts) (checkpoint journey.taskId next)
      (fun _ => journey.Saved next facts) fails := by
  refine keeps_taskOf fun task known _ => ?_
  have same : ∀ startedAt, journey.Known { task with stage := next, startedAt } :=
    fun _ => ⟨known.id, known.original, known.target⟩
  cases task.startedAt with
  | some startedAt => exact keeps_saveTask rfl (same _) supportedBefore supportedAfter
  | none =>
      refine Keeps.bind (keeps_now supportedBefore) fun startedAt => ?_
      exact keeps_saveTask rfl (same _) supportedBefore supportedAfter

/-- The last save of a process, with a stage whose promise holds. -/
theorem keeps_finish {state : PersistentState} {task : UpdateTask} {next : Stage}
    (nextStage : task.stage = next) (found : state.task = some task) (known : journey.Known task)
    (supportedBefore : ∀ host, facts host → journey.Supports stage host)
    (supportedAfter : ∀ host, facts host → journey.Supports next host) :
    journey.Keeps (journey.Saved stage facts) (saveState state)
      (fun _ => journey.Recoverable) fails :=
  (keeps_saveState nextStage found known supportedBefore supportedAfter).conseq
    (fun _ started => started) (fun _ _ saved => saved.recoverable supportedAfter)
    fun _ failed => failed

theorem keeps_finishFailed {code : String} {rolledBack : Bool}
    (supportedBefore : ∀ host, facts host → journey.Supports stage host)
    (restored : ∀ host, facts host → journey.Supports .failed host) :
    journey.Keeps (journey.Saved stage facts) (finishFailed journey.taskId code rolledBack)
      (fun _ => journey.Recoverable) fails := by
  refine keeps_taskOf fun task known _ => ?_
  refine Keeps.bind (keeps_now supportedBefore) fun finishedAt => ?_
  refine Keeps.bind keeps_loadState fun state => ?_
  exact Keeps.weaken (keeps_finish rfl rfl ⟨known.id, known.original, known.target⟩
    supportedBefore restored) fun _ started => started.1

theorem keeps_finishManual
    (supported : ∀ host, facts host → journey.Supports stage host) :
    journey.Keeps (journey.Saved stage facts) (finishManual journey.taskId)
      (fun _ => journey.Recoverable) fails := by
  have anyHost : ∀ host, facts host → journey.Supports .manualIntervention host :=
    fun _ _ => trivial
  refine keeps_taskOf fun task known _ => ?_
  refine Keeps.bind (keeps_now supported) fun finishedAt => ?_
  refine Keeps.bind keeps_loadState fun state => ?_
  exact Keeps.weaken (keeps_finish rfl rfl ⟨known.id, known.original, known.target⟩
    supported anyHost) fun _ started => started.1

theorem keeps_commitSuccess {cleanupComplete : Bool}
    (supportedBefore : ∀ host, facts host → journey.Supports stage host)
    (updated : ∀ host, facts host → journey.Supports .succeeded host) :
    journey.Keeps (journey.Saved stage facts) (commitSuccess journey.taskId cleanupComplete)
      (fun _ => journey.Recoverable) fails := by
  refine keeps_taskOf fun task known _ => ?_
  refine Keeps.bind (keeps_now supportedBefore) fun finishedAt => ?_
  refine Keeps.bind (keeps_now supportedBefore) fun checkedAt => ?_
  exact keeps_finish rfl rfl ⟨known.id, known.original, known.target⟩ supportedBefore updated

theorem keeps_recordBackups {backups : String × String}
    (supported : ∀ host, facts host → journey.Supports stage host) :
    journey.Keeps (journey.Saved stage facts) (recordBackups journey.taskId backups)
      (fun _ => journey.Saved stage facts) fails := by
  refine keeps_taskOf fun task known stageEq => ?_
  exact keeps_saveTask stageEq ⟨known.id, known.original, known.target⟩ supported supported

/-- A platform call, with what the host is like once it may have had its effect. -/
theorem keeps_call {effect : Choice → Host → Host} {answer : Choice → α}
    (meanwhile done : Host → Prop)
    (untouched : ∀ host, facts host → meanwhile host)
    (affected : ∀ choice host, facts host → meanwhile (effect choice host))
    (succeeds : ∀ choice host, facts host → choice.raises = none → done (effect choice host))
    (supported : ∀ host, meanwhile host → journey.Supports stage host)
    (failing : ∀ world, journey.Saved stage meanwhile world → fails world) :
    journey.Keeps (journey.Saved stage facts) (DockerPlatform.call effect answer)
      (fun _ => journey.Saved stage done) fails := by
  have lasting : ∀ world, journey.Saved stage facts world → journey.Saved stage meanwhile world :=
    fun world saved => saved.mono untouched
  have moved : ∀ choice world, journey.Saved stage facts world →
      journey.Saved stage meanwhile { world with host := effect choice world.host } := by
    rintro choice world ⟨task, found, known, stageEq, holds⟩
    exact ⟨task, found, known, stageEq, affected choice _ holds⟩
  refine Satisfies.act (fun world saved => (lasting world saved).recoverable supported) ?_
  intro choice world saved
  by_cases dies : choice.dies
  · by_cases applied : choice.applied
    · simp only [dies, applied, if_true]
      exact (moved choice world saved).recoverable supported
    · simp only [dies, applied, if_true]
      exact (lasting world saved).recoverable supported
  · cases raises : choice.raises with
    | some code =>
        by_cases applied : choice.applied
        · simp only [dies, applied, if_true]
          exact failing _ (moved choice world saved)
        · simp only [dies, applied]
          exact failing _ (lasting world saved)
    | none =>
        simp only [dies]
        rcases saved with ⟨task, found, known, stageEq, holds⟩
        exact ⟨task, found, known, stageEq, succeeds choice _ holds raises⟩

/-- A platform call that only looks leaves the host as it is. -/
theorem keeps_observe {possible : Choice → Host → Bool} {code : String} {answer : Choice → α}
    (supported : ∀ host, facts host → journey.Supports stage host)
    (failing : ∀ world, journey.Saved stage facts world → fails world) :
    journey.Keeps (journey.Saved stage facts) (DockerPlatform.observe possible code answer)
      (fun value => journey.Saved stage fun host =>
        facts host ∧ ∃ choice, value = answer choice ∧ possible choice host) fails := by
  refine Satisfies.act (fun world saved => saved.recoverable supported) ?_
  intro choice world saved
  by_cases dies : choice.dies
  · simp only [dies, if_true]
    exact saved.recoverable supported
  · cases raises : choice.raises with
    | some raised =>
        simp only [dies]
        exact failing _ saved
    | none =>
        by_cases possibleHere : possible choice world.host
        · simp only [dies, possibleHere, if_true]
          rcases saved with ⟨task, found, known, stageEq, holds⟩
          exact ⟨task, found, known, stageEq, holds, choice, rfl, possibleHere⟩
        · simp only [dies, possibleHere]
          exact failing _ saved

/-- A call that only looks, where nothing depends on what it saw. -/
theorem keeps_look {possible : Choice → Host → Bool} {code : String} {answer : Choice → α}
    (supported : ∀ host, facts host → journey.Supports stage host)
    (failing : ∀ world, journey.Saved stage facts world → fails world) :
    journey.Keeps (journey.Saved stage facts) (DockerPlatform.observe possible code answer)
      (fun _ => journey.Saved stage facts) fails := by
  refine (keeps_observe supported failing).conseq (fun _ started => started) ?_
    fun _ failed => failed
  exact fun _ _ saved => saved.mono fun _ holds => holds.1

theorem keeps_health {expected : ImageIdentity}
    (supported : ∀ host, facts host → journey.Supports stage host)
    (failing : ∀ world, journey.Saved stage facts world → fails world) :
    journey.Keeps (journey.Saved stage facts) (DockerPlatform.health expected)
      (fun _ => journey.Saved stage fun host => facts host ∧ host.web = ⟨expected.image, true⟩)
      fails := by
  refine (keeps_observe supported failing).conseq (fun _ started => started) ?_
    fun _ failed => failed
  intro _ _ saved
  refine saved.mono fun host holds => ?_
  rcases holds with ⟨factsHold, choice, -, asExpected⟩
  exact ⟨factsHold, by simpa using asExpected⟩

theorem keeps_healthAttempts {expected : ImageIdentity} (left : ℕ)
    (supported : ∀ host, facts host → journey.Supports stage host)
    (failing : ∀ world, journey.Saved stage facts world → fails world) :
    journey.Keeps (journey.Saved stage facts) (healthAttempts expected (left + 1))
      (fun _ => journey.Saved stage fun host => facts host ∧ host.web = ⟨expected.image, true⟩)
      fails := by
  induction left with
  | zero => exact keeps_health supported failing
  | succ left ih =>
      refine Keeps.through (fun result => match result with
        | .ok _ => journey.Saved stage fun host => facts host ∧ host.web = ⟨expected.image, true⟩
        | .error _ => journey.Saved stage facts) (Keeps.attempt ?_) ?_
      · exact keeps_health supported fun world saved _ => saved
      · intro result
        cases result with
        | ok _ => exact Keeps.pure fun _ saved => saved
        | error _ => exact ih

theorem keeps_waitForStartupHealth {expected : ImageIdentity}
    (supported : ∀ host, facts host → journey.Supports stage host)
    (failing : ∀ world, journey.Saved stage facts world → fails world) :
    journey.Keeps (journey.Saved stage facts) (waitForStartupHealth expected)
      (fun _ => journey.Saved stage fun host => facts host ∧ host.web = ⟨expected.image, true⟩)
      fails :=
  keeps_healthAttempts 29 supported failing

theorem keeps_stabilizeRounds (rounds : ℕ)
    (supported : ∀ host, facts host → journey.Supports .stabilizing host)
    (failing : ∀ world, journey.Saved .stabilizing facts world → fails world) :
    journey.Keeps (journey.Saved .stabilizing facts) (stabilizeRounds journey.taskId rounds)
      (fun _ => journey.Saved .stabilizing facts) fails := by
  induction rounds with
  | zero => exact Keeps.pure fun _ saved => saved
  | succ rounds ih =>
      refine Keeps.bind (keeps_checkpoint supported supported) fun _ => ?_
      refine keeps_taskOf fun task known _ => ?_
      refine Keeps.bind (keeps_look supported failing) fun _ => ?_
      exact ih

end Steps

section Cleanup

variable {fails : World → Prop}

theorem keeps_saveJournal {task : UpdateTask} {journal : Option CleanupJournal}
    (known : journey.Known task) (stageEq : task.stage = stage)
    (supported : ∀ host, facts host → journey.Supports stage host) :
    journey.Keeps (journey.Saved stage facts) (saveJournal task journal)
      (fun _ => journey.Saved stage facts) fails := by
  cases journal with
  | none => exact Keeps.raiseOther rfl fun _ saved => saved.recoverable supported
  | some journal =>
      exact keeps_saveTask stageEq ⟨known.id, known.original, known.target⟩ supported supported

theorem keeps_completeStep {step : CleanupStep}
    (supported : ∀ host, facts host → journey.Supports stage host) :
    journey.Keeps (journey.Saved stage facts) (completeStep journey.taskId step)
      (fun _ => journey.Saved stage facts) fails := by
  refine keeps_taskOf fun task known stageEq => ?_
  cases task.cleanupJournal with
  | none => exact Keeps.pure fun _ saved => saved
  | some journal =>
      by_cases started : journal.status step = .started
      · simp only [started, if_true]
        refine Keeps.bind (keeps_saveJournal known stageEq supported) fun _ => ?_
        exact Keeps.pure fun _ saved => saved
      · simp only [started, if_false]
        exact Keeps.pure fun _ saved => saved

theorem keeps_startStep {task : UpdateTask} {journal : CleanupJournal} {step : CleanupStep}
    (known : journey.Known task) (stageEq : task.stage = stage)
    (supported : ∀ host, facts host → journey.Supports stage host) :
    journey.Keeps (journey.Saved stage facts) (startStep task journal step)
      (fun _ => journey.Saved stage facts) fails := by
  simp only [startStep]
  split
  · exact keeps_saveJournal known stageEq supported
  · exact Keeps.pure fun _ saved => saved

theorem keeps_cleanupStep {step : CleanupStep}
    (supported : ∀ host, facts host → journey.Supports stage host) :
    journey.Keeps (journey.Saved stage facts) (cleanupStep journey.taskId step)
      (fun _ => journey.Saved stage facts) fails := by
  refine keeps_taskOf fun task known stageEq => ?_
  cases task.cleanupJournal with
  | none => exact Keeps.pure fun _ saved => saved
  | some journal =>
      by_cases completed : journal.status step = .completed
      · simp only [completed, if_true]
        exact Keeps.pure fun _ saved => saved
      · simp only [completed, if_false]
        refine Keeps.bind (keeps_startStep known stageEq supported) fun _ => ?_
        refine keeps_taskOf fun started _ _ => ?_
        refine Keeps.through (fun _ => journey.Saved stage facts) (Keeps.attempt ?_) ?_
        · exact keeps_look supported fun _ saved _ => saved
        · intro result
          cases result with
          | error code => exact Keeps.pure fun _ saved => saved
          | ok _ => exact keeps_completeStep supported

theorem keeps_cleanupSteps (steps : List CleanupStep)
    (supported : ∀ host, facts host → journey.Supports stage host) :
    journey.Keeps (journey.Saved stage facts) (cleanupSteps journey.taskId steps)
      (fun _ => journey.Saved stage facts) fails := by
  induction steps with
  | nil => exact Keeps.pure fun _ saved => saved
  | cons step rest ih =>
      refine Keeps.bind (keeps_cleanupStep supported) fun goOn => ?_
      cases goOn with
      | true => exact ih
      | false => exact Keeps.pure fun _ saved => saved

/-- Cleaning up changes neither the stage nor what the updater relies on. -/
theorem keeps_cleanupOriginal
    (supported : ∀ host, facts host → journey.Supports stage host) :
    journey.Keeps (journey.Saved stage facts) (cleanupOriginal journey.taskId)
      (fun _ => journey.Saved stage facts) fails := by
  refine keeps_taskOf fun task known stageEq => ?_
  cases task.cleanupJournal with
  | none => exact Keeps.pure fun _ saved => saved
  | some journal =>
      refine Keeps.through (fun _ => journey.Saved stage facts) ?_ fun _ => ?_
      · simp only [markPending]
        split
        · exact keeps_saveTask stageEq ⟨known.id, known.original, known.target⟩ supported supported
        · exact Keeps.pure fun _ saved => saved
      · exact keeps_cleanupSteps _ supported

/-- The end of an update whose target runs under its own version. -/
theorem keeps_completion (supported : ∀ host, facts host → journey.Supports stage host)
    (updated : ∀ host, facts host → host = journey.after) :
    journey.Keeps (journey.Saved stage facts)
      (do
        let cleanupComplete ← cleanupOriginal journey.taskId
        commitSuccess journey.taskId cleanupComplete)
      (fun _ => journey.Recoverable) fails := by
  refine Keeps.bind (keeps_cleanupOriginal supported) fun cleanupComplete => ?_
  exact keeps_commitSuccess supported updated

end Cleanup

end Journey

end Finrec.Updater
