import Finrec.Updater.Requests
import Mathlib.Logic.Relation

/-!
# What the manager saves

An execution, a recovery and the completion of a cleanup change the saved task
by a few kinds of edits.  Every state that one of them can leave, also by dying,
is reached from the task it found by such edits, and each fact about saved tasks
follows from a case analysis over the edits.
-/

namespace Finrec.Updater

open CrashLogic UpdateManager Relation

section Steps

variable {invariant start fails : World → Prop} {α : Type}

theorem guarded_loadState :
    Guarded UpdaterError.safeCode? invariant start loadState
      (fun state world => start world ∧ world.state = state) fails := by
  refine Guarded.bind (?_ : Guarded _ _ _ _ (fun world after => start after ∧ after = world) _)
    fun world => ?_
  · exact Satisfies.read fun world started => ⟨started, rfl⟩
  · refine Satisfies.pure ?_
    rintro after ⟨started, rfl⟩
    exact ⟨started, rfl⟩

theorem guarded_saveState {state : PersistentState} {after : World → Prop}
    (within : ∀ world, start world → invariant world)
    (afterWithin : ∀ world, after world → invariant world)
    (saves : ∀ world, start world → after { world with state }) :
    Guarded UpdaterError.safeCode? invariant start (saveState state) (fun _ => after) fails := by
  refine Satisfies.act within ?_
  intro choice world started
  by_cases dies : choice.dies
  · by_cases applied : choice.applied
    · simp only [dies, applied, if_true]
      exact afterWithin _ (saves world started)
    · simp only [dies, applied, if_true]
      exact within world started
  · simp only [dies]
    exact saves world started

theorem guarded_now (within : ∀ world, start world → invariant world) :
    Guarded UpdaterError.safeCode? invariant start now (fun _ => start) fails := by
  refine Satisfies.act within ?_
  intro choice world started
  by_cases dies : choice.dies
  · simp only [dies, if_true]
    exact within world started
  · simp only [dies]
    exact started

/-- A call that only looks, with the choice that its answer comes from. -/
theorem guarded_observe {possible : Choice → Host → Bool} {code : String} {answer : Choice → α}
    (within : ∀ world, start world → invariant world)
    (failing : ∀ world, start world → fails world) :
    Guarded UpdaterError.safeCode? invariant start (DockerPlatform.observe possible code answer)
      (fun value world => (∃ choice, value = answer choice) ∧ start world) fails := by
  refine Satisfies.act within ?_
  intro choice world started
  by_cases dies : choice.dies
  · simp only [dies, if_true]
    exact within world started
  · simp only [dies]
    cases raises : choice.raises with
    | some raised => exact failing world started
    | none =>
        by_cases possibleHere : possible choice world.host
        · simp only [possibleHere, if_true]
          exact ⟨⟨choice, rfl⟩, started⟩
        · simp only [possibleHere]
          exact failing world started

end Steps

/-- The stage after a stage, on the way of a successful update. -/
def follows : Stage → Option Stage
  | .checking => some .backingUp
  | .backingUp => some .pulling
  | .pulling => some .stoppingWeb
  | .stoppingWeb => some .migrating
  | .migrating => some .startingWeb
  | .startingWeb => some .checkingHealth
  | .checkingHealth => some .stabilizing
  | .stabilizing => some .persistingVersion
  | .persistingVersion => some .cleaning
  | .cleaning | .rollingBack | .succeeded | .failed | .manualIntervention => none

/-- One edit of the saved task.  The update is brought to its end only where it `completes`, and a
rollback keeps the stage of the task only where the process `undoes` it. -/
inductive Edit (completes undoes : Prop) : UpdateTask → UpdateTask → Prop where
  | checkpoint (task : UpdateTask) (stage : Stage) (startedAt : Option ℤ)
      (active : task.stage ∉ terminalStages)
      (next : stage = task.stage ∨ follows task.stage = some stage) :
      Edit completes undoes task { task with stage := stage, startedAt := startedAt }
  | backups (task : UpdateTask) (database uploads : String) (active : task.stage = .backingUp) :
      Edit completes undoes task
        { task with databaseBackup := database, uploadsBackup := uploads }
  | tagged (task : UpdateTask) (rollbackAlias : String) (active : task.stage = .pulling) :
      Edit completes undoes task
        { task with original := { task.original with rollbackAlias := rollbackAlias } }
  | rollBack (task : UpdateTask) (code : String) (named : code ≠ "")
      (active : task.stage ∉ terminalStages) (tagged : task.stage ∉ preTagStages)
      (uncleaned : task.stage ≠ .cleaning) :
      Edit completes undoes task { task with stage := .rollingBack, errorCode := code }
  | undo (task : UpdateTask) (code : String) (named : code ≠ "") (allowed : undoes)
      (active : task.stage ∉ terminalStages) (tagged : task.stage ∉ preTagStages) :
      Edit completes undoes task { task with errorCode := code }
  | failed (task : UpdateTask) (code : String) (rolledBack : Bool) (finishedAt : ℤ)
      (named : code ≠ "") (active : task.stage ∉ terminalStages)
      (origin : task.stage ∈ preTagStages ∨ task.stage = .rollingBack ∨ undoes) :
      Edit completes undoes task { task with
        stage := .failed, rolledBack := rolledBack, errorCode := code,
        finishedAt := some finishedAt }
  | manual (task : UpdateTask) (finishedAt : ℤ) (active : task.stage ∉ terminalStages) :
      Edit completes undoes task { task with
        stage := .manualIntervention, errorCode := "rollback_failed",
        finishedAt := some finishedAt }
  | pending (task : UpdateTask) (active : task.stage = .cleaning) (allowed : completes)
      (unmarked : task.cleanup = .notRun) :
      Edit completes undoes task { task with cleanup := .pending }
  | journal (task : UpdateTask) (old new : CleanupJournal)
      (active : task.stage = .cleaning ∨ task.stage = .succeeded)
      (kept : task.cleanupJournal = some old) :
      Edit completes undoes task { task with cleanupJournal := some new }
  | succeeded (task : UpdateTask) (cleanup : CleanupStatus) (finishedAt : ℤ)
      (active : task.stage = .cleaning) (allowed : completes)
      (marked : cleanup = .complete ∨ cleanup = .pending) :
      Edit completes undoes task { task with
        stage := .succeeded, cleanup := cleanup, finishedAt := some finishedAt }
  | closed (task : UpdateTask) (active : task.stage = .succeeded) :
      Edit completes undoes task { task with cleanup := .complete }

/-- The saved task came from the first one by edits, and has the facts. -/
def Edited (completes undoes : Prop) (first : UpdateTask) (facts : UpdateTask → Prop)
    (world : World) : Prop :=
  ∃ task, world.state.task = some task ∧ ReflTransGen (Edit completes undoes) first task ∧
    facts task

/-- The saved task came from the first one by edits. -/
abbrev Traced (completes undoes : Prop) (first : UpdateTask) : World → Prop :=
  Edited completes undoes first fun _ => True

/-- Every state between two steps is traced back to the first task. -/
abbrev Tracks (completes undoes : Prop) (first : UpdateTask) (start : World → Prop)
    (process : Process α) (returns : α → World → Prop) (fails : World → Prop) : Prop :=
  Guarded UpdaterError.safeCode? (Traced completes undoes first) start process returns fails

section Saves

variable {completes undoes : Prop} {first : UpdateTask} {facts : UpdateTask → Prop}
  {fails : World → Prop} {α β : Type}

theorem Edited.mono {weaker : UpdateTask → Prop} {world : World}
    (edited : Edited completes undoes first facts world)
    (implies : ∀ task, facts task → weaker task) : Edited completes undoes first weaker world := by
  rcases edited with ⟨task, saved, edits, holds⟩
  exact ⟨task, saved, edits, implies task holds⟩

theorem Edited.traced {world : World} (edited : Edited completes undoes first facts world) :
    Traced completes undoes first world :=
  edited.mono fun _ _ => trivial

theorem tracks_through {start : World → Prop} {process : Process α} (middle : α → World → Prop)
    {next : α → Process β} {returns : β → World → Prop}
    (before : Tracks completes undoes first start process middle fails)
    (rest : ∀ value, Tracks completes undoes first (middle value) (next value) returns fails) :
    Tracks completes undoes first start (process >>= next) returns fails :=
  Guarded.bind before rest

theorem tracks_pure {start : World → Prop} {value : α} {returns : α → World → Prop}
    (result : ∀ world, start world → returns value world) :
    Tracks completes undoes first start (pure value : Process α) returns fails :=
  Satisfies.pure result

theorem tracks_raise {error : UpdaterError} {returns : α → World → Prop}
    (uncaught : error.safeCode? = none) :
    Tracks completes undoes first (Edited completes undoes first facts)
      (Program.raise error : Process α) returns fails :=
  Guarded.raiseOther uncaught fun _ edited => edited.traced

/-- What comes after loading the task may rely on the saved task being the loaded one. -/
theorem tracks_taskOf {taskId : String} {next : UpdateTask → Process β} {returns : β → World → Prop}
    (rest : ∀ task, facts task → Tracks completes undoes first
      (Edited completes undoes first (· = task)) (next task) returns fails) :
    Tracks completes undoes first (Edited completes undoes first facts) (taskOf taskId >>= next)
      returns fails := by
  refine tracks_through (fun task world => facts task ∧
    Edited completes undoes first (· = task) world) ?_ ?_
  · refine tracks_through _ guarded_loadState fun state => ?_
    rintro world choices ⟨⟨task, saved, edits, holds⟩, rfl⟩
    simp only [requireTask, saved]
    split
    · exact ⟨holds, task, saved, edits, rfl⟩
    · exact ⟨task, saved, edits, trivial⟩
  · rintro task world choices ⟨holds, edited⟩
    exact rest task holds world choices edited

/-- What comes after loading a task may keep the facts about the saved one. -/
theorem tracks_withTask {taskId : String} {next : UpdateTask → Process β}
    {returns : β → World → Prop}
    (rest : ∀ task, facts task → Tracks completes undoes first
      (Edited completes undoes first facts) (next task) returns fails) :
    Tracks completes undoes first (Edited completes undoes first facts) (taskOf taskId >>= next)
      returns fails := by
  refine tracks_taskOf fun task holds => ?_
  refine Satisfies.weaken (rest task holds) fun world edited => edited.mono ?_
  rintro task rfl
  exact holds

theorem tracks_saveState {task edited : UpdateTask} {state : PersistentState}
    (saves : state.task = some edited) (edit : Edit completes undoes task edited) :
    Tracks completes undoes first (Edited completes undoes first (· = task)) (saveState state)
      (fun _ => Edited completes undoes first (· = edited)) fails := by
  refine guarded_saveState (fun _ started => started.traced) (fun _ saved => saved.traced) ?_
  rintro world ⟨found, saved, edits, rfl⟩
  exact ⟨edited, saves, edits.tail edit, rfl⟩

theorem tracks_saveTask {task edited : UpdateTask} (edit : Edit completes undoes task edited)
    (holds : facts edited) :
    Tracks completes undoes first (Edited completes undoes first (· = task)) (saveTask edited)
      (fun _ => Edited completes undoes first facts) fails := by
  refine tracks_through _ guarded_loadState fun state => ?_
  refine (tracks_saveState rfl edit).conseq (fun _ started => started.1) ?_ fun _ failed => failed
  rintro - world saved
  refine saved.mono ?_
  rintro task rfl
  exact holds

theorem tracks_now :
    Tracks completes undoes first (Edited completes undoes first facts) now
      (fun _ => Edited completes undoes first facts) fails :=
  guarded_now fun _ started => started.traced

/-- A platform call leaves the saved task alone. -/
theorem tracks_call {effect : Choice → Host → Host} {answer : Choice → α}
    (failing : ∀ world, Edited completes undoes first facts world → fails world) :
    Tracks completes undoes first (Edited completes undoes first facts)
      (DockerPlatform.call effect answer) (fun _ => Edited completes undoes first facts) fails := by
  refine Satisfies.act (fun world started => started.traced) ?_
  intro choice world started
  have affected : Edited completes undoes first facts
    { world with host := effect choice world.host } := started
  by_cases dies : choice.dies
  · simp only [dies, if_true]
    split
    · exact affected.traced
    · exact started.traced
  · simp only [dies]
    cases raises : choice.raises with
    | none => exact affected
    | some code =>
        by_cases applied : choice.applied
        · simp only [applied]
          exact failing _ affected
        · simp only [applied]
          exact failing _ started

theorem tracks_observe {possible : Choice → Host → Bool} {code : String} {answer : Choice → α}
    (failing : ∀ world, Edited completes undoes first facts world → fails world) :
    Tracks completes undoes first (Edited completes undoes first facts)
      (DockerPlatform.observe possible code answer) (fun _ => Edited completes undoes first facts)
      fails :=
  (guarded_observe (fun _ started => started.traced) failing).conseq (fun _ started => started)
    (fun _ _ answered => answered.2) fun _ failed => failed

end Saves

section Checkpoints

variable {completes undoes : Prop} {first : UpdateTask} {facts : UpdateTask → Prop}
  {fails : World → Prop} {taskId : String} {stage : Stage}

theorem tracks_checkpoint {next : Stage} (active : stage ∉ terminalStages)
    (moves : next = stage ∨ follows stage = some next) :
    Tracks completes undoes first (Edited completes undoes first (·.stage = stage))
      (checkpoint taskId next) (fun _ => Edited completes undoes first (·.stage = next)) fails := by
  refine tracks_taskOf ?_
  rintro task rfl
  have edit : ∀ startedAt, Edit completes undoes task { task with stage := next, startedAt } :=
    fun startedAt => .checkpoint task next startedAt active moves
  cases started : task.startedAt with
  | some startedAt => exact tracks_saveTask (edit _) rfl
  | none =>
      refine tracks_through _ tracks_now fun startedAt => ?_
      exact tracks_saveTask (edit _) rfl

theorem tracks_finishFailed {code : String} {rolledBack : Bool} (named : code ≠ "")
    (active : ∀ task, facts task → task.stage ∉ terminalStages ∧
      (task.stage ∈ preTagStages ∨ task.stage = .rollingBack ∨ undoes)) :
    Tracks completes undoes first (Edited completes undoes first facts)
      (finishFailed taskId code rolledBack) (fun _ => Traced completes undoes first) fails := by
  refine tracks_taskOf fun task holds => ?_
  refine tracks_through _ tracks_now fun finishedAt => ?_
  exact tracks_saveTask
    (.failed task code rolledBack finishedAt named (active task holds).1 (active task holds).2)
    trivial

theorem tracks_finishManual (active : ∀ task, facts task → task.stage ∉ terminalStages) :
    Tracks completes undoes first (Edited completes undoes first facts) (finishManual taskId)
      (fun _ => Traced completes undoes first) fails := by
  refine tracks_taskOf fun task holds => ?_
  refine tracks_through _ tracks_now fun finishedAt => ?_
  exact tracks_saveTask (.manual task finishedAt (active task holds)) trivial

theorem tracks_commitSuccess {cleanupComplete : Bool} (allowed : completes) :
    Tracks completes undoes first (Edited completes undoes first (·.stage = .cleaning))
      (commitSuccess taskId cleanupComplete) (fun _ => Traced completes undoes first) fails := by
  refine tracks_taskOf fun task cleaning => ?_
  refine tracks_through _ tracks_now fun finishedAt => ?_
  refine tracks_through _ tracks_now fun checkedAt => ?_
  have edit : Edit completes undoes task { task with
      stage := .succeeded, cleanup := if cleanupComplete then .complete else .pending,
      finishedAt := some finishedAt } := by
    refine .succeeded task _ finishedAt cleaning allowed ?_
    cases cleanupComplete
    · exact .inr rfl
    · exact .inl rfl
  exact (tracks_saveState rfl edit).conseq (fun _ started => started)
    (fun _ _ saved => saved.traced) fun _ failed => failed

theorem tracks_healthAttempts {expected : ImageIdentity} (left : ℕ)
    (failing : ∀ world, Edited completes undoes first facts world → fails world) :
    Tracks completes undoes first (Edited completes undoes first facts)
      (healthAttempts expected left) (fun _ => Edited completes undoes first facts) fails := by
  induction left with
  | zero => exact tracks_pure fun _ edited => edited
  | succ left ih =>
      cases left with
      | zero => exact tracks_observe failing
      | succ left =>
          refine tracks_through (fun _ => Edited completes undoes first facts)
            (Guarded.attempt ?_) fun result => ?_
          · exact tracks_observe fun _ edited _ => edited
          · cases result with
            | ok _ => exact tracks_pure fun _ edited => edited
            | error _ => exact ih

theorem tracks_stabilizeRounds (rounds : ℕ)
    (failing : ∀ world, Edited completes undoes first (·.stage = .stabilizing) world →
      fails world) :
    Tracks completes undoes first (Edited completes undoes first (·.stage = .stabilizing))
      (stabilizeRounds taskId rounds)
      (fun _ => Edited completes undoes first (·.stage = .stabilizing)) fails := by
  induction rounds with
  | zero => exact tracks_pure fun _ edited => edited
  | succ rounds ih =>
      refine tracks_through _ (tracks_checkpoint (by decide) (.inl rfl)) fun _ => ?_
      refine tracks_withTask fun task _ => ?_
      exact tracks_through _ (tracks_observe failing) fun _ => ih

end Checkpoints

section Cleanup

variable {completes undoes : Prop} {first : UpdateTask} {facts : UpdateTask → Prop}
  {fails : World → Prop} {taskId : String}

/-- Facts that the cleanup keeps: they speak neither about the journal nor about a stage in which
there is nothing to clean up. -/
structure Cleanable (facts : UpdateTask → Prop) : Prop where
  stage : ∀ task, facts task → task.stage = .cleaning ∨ task.stage = .succeeded
  journal : ∀ task journal, facts task → facts { task with cleanupJournal := some journal }

theorem tracks_saveJournal {task : UpdateTask} {old : CleanupJournal}
    {journal : Option CleanupJournal} (cleanable : Cleanable facts) (holds : facts task)
    (kept : task.cleanupJournal = some old) :
    Tracks completes undoes first (Edited completes undoes first (· = task))
      (saveJournal task journal) (fun _ => Edited completes undoes first facts) fails := by
  cases journal with
  | none => exact tracks_raise rfl
  | some journal =>
      exact tracks_saveTask (.journal task old journal (cleanable.stage task holds) kept)
        (cleanable.journal task journal holds)

theorem Edited.relax {task : UpdateTask} {world : World}
    (edited : Edited completes undoes first (· = task) world) (holds : facts task) :
    Edited completes undoes first facts world :=
  edited.mono fun _ same => same ▸ holds

theorem tracks_completeStep {step : CleanupStep} (cleanable : Cleanable facts) :
    Tracks completes undoes first (Edited completes undoes first facts)
      (completeStep taskId step) (fun _ => Edited completes undoes first facts) fails := by
  refine tracks_taskOf fun task holds => ?_
  have relaxed : ∀ world, Edited completes undoes first (· = task) world →
      Edited completes undoes first facts world := fun world edited => edited.relax holds
  cases kept : task.cleanupJournal with
  | none => exact tracks_pure relaxed
  | some journal =>
      by_cases started : journal.status step = .started
      · simp only [started, if_true]
        refine tracks_through _ (tracks_saveJournal cleanable holds kept) fun _ => ?_
        exact tracks_pure fun _ edited => edited
      · simp only [started, if_false]
        exact tracks_pure relaxed

theorem tracks_cleanupStep {step : CleanupStep} (cleanable : Cleanable facts) :
    Tracks completes undoes first (Edited completes undoes first facts)
      (cleanupStep taskId step) (fun _ => Edited completes undoes first facts) fails := by
  refine tracks_taskOf fun task holds => ?_
  have relaxed : ∀ world, Edited completes undoes first (· = task) world →
      Edited completes undoes first facts world := fun world edited => edited.relax holds
  cases kept : task.cleanupJournal with
  | none => exact tracks_pure relaxed
  | some journal =>
      by_cases completed : journal.status step = .completed
      · simp only [completed, if_true]
        exact tracks_pure relaxed
      simp only [completed, if_false]
      refine tracks_through (fun _ => Edited completes undoes first facts) ?_ fun _ => ?_
      · simp only [startStep]
        split
        · exact tracks_saveJournal cleanable holds kept
        · exact tracks_pure relaxed
      refine tracks_withTask fun started _ => ?_
      refine tracks_through (fun _ => Edited completes undoes first facts)
        (Guarded.attempt ?_) fun result => ?_
      · exact tracks_observe fun _ edited _ => edited
      · cases result with
        | error code => exact tracks_pure fun _ edited => edited
        | ok _ => exact tracks_completeStep cleanable

theorem tracks_cleanupSteps (steps : List CleanupStep) (cleanable : Cleanable facts) :
    Tracks completes undoes first (Edited completes undoes first facts)
      (cleanupSteps taskId steps) (fun _ => Edited completes undoes first facts) fails := by
  induction steps with
  | nil => exact tracks_pure fun _ edited => edited
  | cons step rest ih =>
      refine tracks_through _ (tracks_cleanupStep cleanable) fun goOn => ?_
      cases goOn with
      | true => exact ih
      | false => exact tracks_pure fun _ edited => edited

theorem tracks_cleanupOriginal (cleanable : Cleanable facts)
    (pending : ∀ task, facts task → task.cleanup = .notRun →
      Edit completes undoes task { task with cleanup := .pending } ∧
        facts { task with cleanup := .pending }) :
    Tracks completes undoes first (Edited completes undoes first facts)
      (cleanupOriginal taskId) (fun _ => Edited completes undoes first facts) fails := by
  refine tracks_taskOf fun task holds => ?_
  have relaxed : ∀ world, Edited completes undoes first (· = task) world →
      Edited completes undoes first facts world := fun world edited => edited.relax holds
  cases task.cleanupJournal with
  | none => exact tracks_pure relaxed
  | some journal =>
      refine tracks_through (fun _ => Edited completes undoes first facts) ?_ fun _ =>
        tracks_cleanupSteps _ cleanable
      simp only [markPending]
      split
      · rename_i unmarked
        exact tracks_saveTask (pending task holds unmarked).1 (pending task holds unmarked).2
      · exact tracks_pure relaxed

/-- The end of an update: clean up and commit the success. -/
theorem tracks_completion (allowed : completes) :
    Tracks completes undoes first (Edited completes undoes first (·.stage = .cleaning))
      (do
        let cleanupComplete ← cleanupOriginal taskId
        commitSuccess taskId cleanupComplete)
      (fun _ => Traced completes undoes first) fails := by
  refine tracks_through _ (tracks_cleanupOriginal ⟨?_, ?_⟩ ?_) fun _ =>
    tracks_commitSuccess allowed
  · exact fun _ cleaning => .inl cleaning
  · exact fun _ _ cleaning => cleaning
  · exact fun task cleaning unmarked => ⟨.pending task cleaning allowed unmarked, cleaning⟩

end Cleanup

section Execution

variable {completes undoes : Prop} {first : UpdateTask} {facts : UpdateTask → Prop}
  {fails : World → Prop} {taskId : String} {stage : Stage}

/-- A failure in one of some stages leaves the task in one of them. -/
theorem Edited.stageIn {stages : List Stage} {world : World}
    (edited : Edited completes undoes first (·.stage = stage) world) (member : stage ∈ stages) :
    Edited completes undoes first (·.stage ∈ stages) world :=
  edited.mono fun _ same => same ▸ member

/-- The stages of the two `try` blocks of an execution. -/
def preparingStages : List Stage := [.backingUp, .pulling]
def replacingWebStages : List Stage :=
  [.stoppingWeb, .migrating, .startingWeb, .checkingHealth, .stabilizing, .persistingVersion]

theorem preparing_preTag : ∀ stage ∈ preparingStages,
    stage ∉ terminalStages ∧ stage ∈ preTagStages := by decide

theorem replacingWeb_active : ∀ stage ∈ replacingWebStages,
    stage ∉ terminalStages ∧ stage ∉ preTagStages ∧ stage ≠ .cleaning := by decide

theorem tracks_prepareUpdate :
    Tracks completes undoes first (Edited completes undoes first (·.stage = .checking))
      (prepareUpdate taskId) (fun _ => Edited completes undoes first (·.stage = .stoppingWeb))
      (Edited completes undoes first (·.stage ∈ preparingStages)) := by
  have failing : ∀ stage ∈ preparingStages, ∀ world,
      Edited completes undoes first (·.stage = stage) world →
        Edited completes undoes first (·.stage ∈ preparingStages) world :=
    fun stage member world edited => edited.stageIn member
  have backingUp := failing .backingUp (by decide)
  have pulling := failing .pulling (by decide)
  refine tracks_through _ (tracks_checkpoint (by decide) (.inr rfl)) fun _ => ?_
  refine tracks_through _ (tracks_observe backingUp) fun backups => ?_
  refine tracks_through (fun _ => Edited completes undoes first (·.stage = .backingUp)) ?_
    fun _ => ?_
  · refine tracks_taskOf fun task active => ?_
    exact tracks_saveTask (.backups task backups.1 backups.2 active) active
  refine tracks_through _ (tracks_checkpoint (by decide) (.inr rfl)) fun _ => ?_
  refine tracks_withTask fun task _ => ?_
  refine tracks_through _ (tracks_observe pulling) fun _ => ?_
  refine tracks_through _ (tracks_checkpoint (by decide) (.inl rfl)) fun _ => ?_
  refine tracks_taskOf fun task active => ?_
  -- the alias is set in the task that was loaded
  refine tracks_through _ (guarded_observe (fun _ started => started.traced)
    fun world edited => pulling world (edited.relax active)) fun tagged => ?_
  rintro world choices ⟨⟨choice, rfl⟩, edited⟩
  refine tracks_through (fun _ => Edited completes undoes first (·.stage = .pulling))
    (tracks_saveTask (.tagged task (DockerPlatform.aliasOf task.id) active) active) (fun _ => ?_)
    world choices edited
  exact tracks_checkpoint (by decide) (.inr rfl)

theorem tracks_replaceWeb :
    Tracks completes undoes first (Edited completes undoes first (·.stage = .stoppingWeb))
      (replaceWeb taskId)
      (fun _ => Edited completes undoes first (·.stage = .persistingVersion))
      (Edited completes undoes first (·.stage ∈ replacingWebStages)) := by
  have failing : ∀ stage ∈ replacingWebStages, ∀ world,
      Edited completes undoes first (·.stage = stage) world →
        Edited completes undoes first (·.stage ∈ replacingWebStages) world :=
    fun stage member world edited => edited.stageIn member
  refine tracks_through _ (tracks_call (failing _ (by decide))) fun _ => ?_
  refine tracks_through _ (tracks_checkpoint (by decide) (.inr rfl)) fun _ => ?_
  refine tracks_withTask fun task _ => ?_
  refine tracks_through _ (tracks_observe (failing _ (by decide))) fun _ => ?_
  refine tracks_through _ (tracks_checkpoint (by decide) (.inr rfl)) fun _ => ?_
  refine tracks_withTask fun task _ => ?_
  refine tracks_through _ (tracks_call (failing _ (by decide))) fun _ => ?_
  refine tracks_through _ (tracks_checkpoint (by decide) (.inr rfl)) fun _ => ?_
  refine tracks_withTask fun task _ => ?_
  refine tracks_through _ (tracks_healthAttempts _ (failing _ (by decide))) fun _ => ?_
  refine tracks_through (fun _ => Edited completes undoes first (·.stage = .stabilizing)) ?_
    fun _ => ?_
  · refine tracks_through _ (tracks_checkpoint (by decide) (.inr rfl)) fun _ => ?_
    exact tracks_stabilizeRounds 3 (failing _ (by decide))
  refine tracks_through _ (tracks_checkpoint (by decide) (.inr rfl)) fun _ => ?_
  refine tracks_withTask fun task _ => ?_
  exact tracks_call (failing _ (by decide))

/-- The rollback of a failed execution moves the task to its own stage; the rollback of a restart
keeps the stage. -/
theorem tracks_rollbackToOriginal {code : String} {restoreVersion preserve : Bool}
    (named : code ≠ "") (active : ∀ task, facts task → task.stage ∉ terminalStages)
    (tagged : ∀ task, facts task → task.stage ∉ preTagStages)
    (uncleaned : preserve = false → ∀ task, facts task → task.stage ≠ .cleaning)
    (allowed : preserve = true → undoes) :
    Tracks completes undoes first (Edited completes undoes first facts)
      (rollbackToOriginal taskId code restoreVersion preserve)
      (fun _ => Traced completes undoes first) fails := by
  refine tracks_taskOf fun task holds => ?_
  generalize chosen : (if preserve = true then task.stage else Stage.rollingBack) = stage
  have stillActive : stage ∉ terminalStages := by
    subst chosen
    cases preserve
    · exact show Stage.rollingBack ∉ terminalStages by decide
    · exact active task holds
  have origin : stage = .rollingBack ∨ undoes := by
    subst chosen
    cases preserve
    · exact .inl rfl
    · exact .inr (allowed rfl)
  have edit : Edit completes undoes task { task with stage := stage, errorCode := code } := by
    subst chosen
    cases preserve
    · exact .rollBack task code named (active task holds) (tagged task holds)
        (uncleaned rfl task holds)
    · exact .undo task code named (allowed rfl) (active task holds) (tagged task holds)
  have finished : ∀ task : UpdateTask, task.stage = stage → task.stage ∉ terminalStages ∧
      (task.stage ∈ preTagStages ∨ task.stage = .rollingBack ∨ undoes) := by
    rintro task rfl
    exact ⟨stillActive, .inr origin⟩
  refine tracks_through (fun _ => Edited completes undoes first (·.stage = stage))
    (tracks_saveTask edit rfl) fun _ => ?_
  refine tracks_through (fun _ => Edited completes undoes first (·.stage = stage))
    (Guarded.attempt ?_) fun result => ?_
  · have failing : ∀ world, Edited completes undoes first (·.stage = stage) world →
        ∀ code : String, Edited completes undoes first (·.stage = stage) world :=
      fun world edited _ => edited
    refine tracks_withTask fun task _ => ?_
    refine tracks_through _ (tracks_call failing) fun _ => ?_
    refine tracks_through _ (tracks_checkpoint stillActive (.inl rfl)) fun _ => ?_
    refine tracks_through _ (tracks_healthAttempts _ failing) fun _ => ?_
    cases restoreVersion with
    | false => exact tracks_pure fun _ edited => edited
    | true =>
        refine tracks_through _ (tracks_checkpoint stillActive (.inl rfl)) fun _ => ?_
        exact tracks_call failing
  · cases result with
    | error code => exact tracks_finishManual fun task same => (finished task same).1
    | ok _ => exact tracks_finishFailed named finished

theorem safeErrorCode_ne_empty (code : String) : safeErrorCode code ≠ "" := by
  simp only [safeErrorCode]
  split
  · rintro rfl
    revert ‹"" ∈ _›
    decide
  · decide

theorem tracks_execute (allowed : completes) :
    Tracks completes undoes first (Traced completes undoes first) (execute taskId)
      (fun _ => Traced completes undoes first) (Traced completes undoes first) := by
  refine tracks_through (fun _ => Edited completes undoes first (·.stage = .checking)) ?_
    fun _ => ?_
  · refine tracks_taskOf fun task _ => ?_
    split
    · rename_i ready
      exact tracks_pure fun world edited => edited.relax ready
    · exact tracks_raise rfl
  refine tracks_through (fun result world => match result with
    | .ok _ => Edited completes undoes first (·.stage = .stoppingWeb) world
    | .error _ => Edited completes undoes first (·.stage ∈ preparingStages) world)
    (Guarded.attempt ?_) fun prepared => ?_
  · exact tracks_prepareUpdate.conseq (fun _ started => started) (fun _ _ edited => edited)
      fun _ edited _ => edited
  cases prepared with
  | error code =>
      refine tracks_finishFailed (safeErrorCode_ne_empty code) fun task preparing => ?_
      have early := preparing_preTag task.stage preparing
      exact ⟨early.1, .inl early.2⟩
  | ok _ =>
      refine tracks_through (fun result world => match result with
        | .ok _ => Edited completes undoes first (·.stage = .persistingVersion) world
        | .error _ => Edited completes undoes first (·.stage ∈ replacingWebStages) world)
        (Guarded.attempt ?_) fun replaced => ?_
      · exact tracks_replaceWeb.conseq (fun _ started => started) (fun _ _ edited => edited)
          fun _ edited _ => edited
      cases replaced with
      | error code =>
          refine tracks_withTask fun task _ => ?_
          exact tracks_rollbackToOriginal (safeErrorCode_ne_empty code)
            (fun task replacing => (replacingWeb_active task.stage replacing).1)
            (fun task replacing => (replacingWeb_active task.stage replacing).2.1)
            (fun _ task replacing => (replacingWeb_active task.stage replacing).2.2) nofun
      | ok _ =>
          refine tracks_through _ (tracks_checkpoint (by decide) (.inr rfl)) fun _ => ?_
          exact tracks_completion allowed

end Execution

section Recovery

section Attempts

variable {process : Process α} {world after : World} {choices rest : List Choice}

theorem attempt_returned {value : α} (ran : process world choices = (.returned value, after, rest)) :
    attempt process world choices = (.returned (.ok value), after, rest) :=
  Program.attempt_returned ran

theorem attempt_caught {error : UpdaterError} {code : String}
    (ran : process world choices = (.raised error, after, rest))
    (caught : error.safeCode? = some code) :
    attempt process world choices = (.returned (.error code), after, rest) :=
  Program.attempt_caught ran caught

theorem attempt_uncaught {error : UpdaterError}
    (ran : process world choices = (.raised error, after, rest))
    (uncaught : error.safeCode? = none) :
    attempt process world choices = (.raised error, after, rest) :=
  Program.attempt_uncaught ran uncaught

theorem attempt_crashed (ran : process world choices = (.crashed, after, rest)) :
    attempt process world choices = (.crashed, after, rest) :=
  Program.attempt_crashed ran

end Attempts

/-- A restart reads the identity of the web container, and has the rest of the choices left. -/
def FindsWeb (world : World) (choices : List Choice) (actual : ImageIdentity)
    (rest : List Choice) : Prop :=
  DockerPlatform.inspectWeb world choices = (.returned actual, world, rest)

/-- The outcome of the confirmation of a target that a restart finds. -/
def confirmation (task : UpdateTask) (world : World) (rest : List Choice) :
    Outcome UpdaterError Unit :=
  (confirmTarget task.id task.stage (task.stage = .persistingVersion) world rest).1

/-- A restart completes the update: it finds the target, and the confirmation succeeds. -/
def Completes (task : UpdateTask) (world : World) (choices : List Choice) : Prop :=
  ∃ actual rest, FindsWeb world choices actual rest ∧
    task.stage ∈ targetCompletionStages ∧ sameRuntimeIdentity actual task.target ∧
    confirmation task world rest = .returned ()

/-- A restart undoes the update: the confirmation of the target fails, or it does not find the
target and has an alias of the original to start. -/
def RollsBack (task : UpdateTask) (world : World) (choices : List Choice) : Prop :=
  ∃ actual rest, FindsWeb world choices actual rest ∧ task.stage ∉ preTagStages ∧
    if task.stage ∈ targetCompletionStages ∧ sameRuntimeIdentity actual task.target then
      ∃ code, confirmation task world rest = .raised (.safeOperation code)
    else task.original.rollbackAlias ≠ ""

variable {completes undoes : Prop} {first : UpdateTask} {facts : UpdateTask → Prop}
  {fails : World → Prop} {taskId : String} {stage : Stage} {task : UpdateTask} {world : World}

theorem tracks_confirmTarget (taskId : String) (persistTargetVersion : Bool)
    (active : stage ∉ terminalStages) :
    Tracks completes undoes first (Edited completes undoes first (·.stage = stage))
      (confirmTarget taskId stage persistTargetVersion)
      (fun _ => Edited completes undoes first (·.stage = stage))
      (Edited completes undoes first (·.stage = stage)) := by
  refine tracks_through _ (tracks_checkpoint active (.inl rfl)) fun _ => ?_
  refine tracks_withTask ?_
  rintro task rfl
  refine tracks_through _ (tracks_observe fun _ edited => edited) fun _ => ?_
  cases persistTargetVersion with
  | false => exact tracks_pure fun _ edited => edited
  | true =>
      refine tracks_through _ (tracks_checkpoint active (.inl rfl)) fun _ => ?_
      exact tracks_call fun _ edited => edited

theorem tracks_recoverBeforeTag {current : UpdateTask} (early : current.stage ∈ preTagStages) :
    Tracks completes undoes first (Edited completes undoes first (·.stage = current.stage))
      (recoverBeforeTag current) (fun _ => Traced completes undoes first) fails := by
  have active : current.stage ∉ terminalStages := by
    revert early
    cases current.stage <;> decide
  refine tracks_through _ (tracks_checkpoint active (.inl rfl)) fun _ => ?_
  refine tracks_withTask fun loaded _ => ?_
  refine tracks_through (fun _ => Edited completes undoes first (·.stage = current.stage))
    (Guarded.attempt ?_) fun healthy => ?_
  · exact tracks_observe fun _ edited _ => edited
  cases healthy with
  | error code =>
      refine tracks_finishManual ?_
      rintro task same
      exact same ▸ active
  | ok _ =>
      refine tracks_finishFailed (by decide) ?_
      rintro task same
      exact ⟨same ▸ active, .inl (same ▸ early)⟩

/-- The last part of the completion of a target that a restart finds running. -/
theorem tracks_finishTarget (late : stage ∈ targetCompletionStages) (allowed : completes) :
    Tracks completes undoes first (Edited completes undoes first (·.stage = stage))
      (do
        enterCleaning taskId stage
        let cleanupComplete ← cleanupOriginal taskId
        commitSuccess taskId cleanupComplete)
      (fun _ => Traced completes undoes first) fails := by
  refine tracks_through (fun _ => Edited completes undoes first (·.stage = .cleaning)) ?_
    fun _ => tracks_completion allowed
  simp only [targetCompletionStages, List.mem_cons, List.not_mem_nil, or_false] at late
  rcases late with rfl | rfl
  · exact tracks_checkpoint (by decide) (.inr rfl)
  · exact tracks_pure fun _ edited => edited

/-- A call that only looks leaves everything as it is. -/
theorem looks_observe {possible : Choice → Host → Bool} {code : String} {answer : Choice → α} :
    Looks (DockerPlatform.observe possible code answer) := by
  refine Looks.act fun choice world => ?_
  split
  · rfl
  · cases choice.raises with
    | some raised => rfl
    | none =>
        by_cases possibleHere : possible choice world.host
        · simp only [possibleHere, if_true]
        · simp only [possibleHere]
          rfl

/-- A process that tracks its task leaves it traced, whatever its surroundings do. -/
theorem Tracks.leaves_traced {start : World → Prop} {process : Process α}
    (tracks : Tracks completes undoes first start process
      (fun _ => Traced completes undoes first) (Traced completes undoes first))
    (started : start world) (choices : List Choice) :
    Traced completes undoes first (process.leaves world choices) :=
  Guarded.leaves_of tracks (fun _ _ traced => traced) started choices

theorem taskOf_saved (saved : world.state.task = some task) (choices : List Choice) :
    taskOf task.id world choices = (.returned task, world, choices) := by
  simp [taskOf, loadState, requireTask, saved, Bind.bind, Program.bind, Program.read, pure,
    Program.pure]

theorem completeRecoveredTarget_traced {choices rest : List Choice} {actual : ImageIdentity}
    (saved : world.state.task = some task) (found : FindsWeb world choices actual rest)
    (late : task.stage ∈ targetCompletionStages)
    (same : sameRuntimeIdentity actual task.target = true) :
    Traced (Completes task world choices) (RollsBack task world choices) task
      ((completeRecoveredTarget task.id).leaves world rest) := by
  have active : task.stage ∉ terminalStages := by
    revert late
    cases task.stage <;> decide
  have tagged : task.stage ∉ preTagStages := by
    revert late
    cases task.stage <;> decide
  have started : Edited (Completes task world choices) (RollsBack task world choices) task
      (·.stage = task.stage) world := ⟨task, saved, .refl, rfl⟩
  have stays : ∀ other : UpdateTask, other.stage = task.stage →
      other.stage ∉ terminalStages ∧ other.stage ∉ preTagStages := by
    intro other kept
    rw [kept]
    exact ⟨active, tagged⟩
  unfold completeRecoveredTarget Program.leaves
  rw [Program.bind_returned (taskOf_saved saved rest)]
  split
  · exact (tracks_finishManual fun other kept => (stays other kept).1).leaves_traced started rest
  · have kept := tracks_confirmTarget task.id (task.stage = .persistingVersion) active world rest
      started
    rcases ran : confirmTarget task.id task.stage (task.stage = .persistingVersion) world rest
      with ⟨outcome, after, left⟩
    rw [Program.leaves_of_eq ran, ran] at kept
    cases outcome with
    | returned confirmed =>
        have completes : Completes task world choices :=
          ⟨actual, rest, found, late, same, congrArg Prod.fst ran⟩
        rw [Program.bind_returned (attempt_returned ran)]
        exact (tracks_finishTarget late completes).leaves_traced kept left
    | raised error =>
        cases code : error.safeCode? with
        | none =>
            rw [Program.bind_raised (attempt_uncaught ran code)]
            simp only [Contract.Holds, code] at kept
            exact kept
        | some caught =>
            have undoes : RollsBack task world choices := by
              refine ⟨actual, rest, found, tagged, ?_⟩
              rw [if_pos ⟨late, same⟩]
              refine ⟨caught, (congrArg Prod.fst ran).trans ?_⟩
              cases error with
              | safeOperation raised =>
                  simp only [UpdaterError.safeCode?, Option.some.injEq] at code
                  rw [code]
              | conflict raised => simp [UpdaterError.safeCode?] at code
              | invalidState => simp [UpdaterError.safeCode?] at code
            simp only [Contract.Holds, code] at kept
            rw [Program.bind_returned (attempt_caught ran code)]
            refine (tracks_rollbackToOriginal (by decide) ?_ ?_ ?_
              fun _ => undoes).leaves_traced kept left
            · exact fun other kept => (stays other kept).1
            · exact fun other kept => (stays other kept).2
            · intro impossible
              cases impossible
    | crashed =>
        rw [Program.bind_crashed (attempt_crashed ran)]
        exact kept

theorem recoverFrom_traced {choices rest : List Choice} {actual : ImageIdentity}
    (saved : world.state.task = some task) (found : FindsWeb world choices actual rest)
    (active : task.stage ∉ terminalStages) :
    Traced (Completes task world choices) (RollsBack task world choices) task
      ((recoverFrom task actual).leaves world rest) := by
  have started : Edited (Completes task world choices) (RollsBack task world choices) task
      (· = task) world := ⟨task, saved, .refl, rfl⟩
  have manual : Traced (Completes task world choices) (RollsBack task world choices) task
      ((finishManual task.id).leaves world rest) := by
    refine (tracks_finishManual ?_).leaves_traced started rest
    rintro other rfl
    exact active
  unfold recoverFrom
  dsimp only
  split
  · exact manual
  split
  · rename_i completing
    exact completeRecoveredTarget_traced saved found completing.1 completing.2
  rename_i incomplete
  split
  · rename_i early
    split
    · refine (tracks_recoverBeforeTag early).leaves_traced (started.mono ?_) rest
      rintro other rfl
      rfl
    · exact manual
  rename_i tagged
  split
  · exact manual
  · rename_i aliased
    have undoes : RollsBack task world choices := by
      refine ⟨actual, rest, found, tagged, ?_⟩
      rw [if_neg incomplete]
      exact aliased
    refine (tracks_rollbackToOriginal (by decide) ?_ ?_ nofun fun _ => undoes).leaves_traced
      started rest
    · rintro other rfl
      exact active
    · rintro other rfl
      exact tagged

/-- Every state that a restart can leave is reached by edits of the task it found. -/
theorem recover_traced (saved : world.state.task = some task) (choices : List Choice) :
    Traced (Completes task world choices) (RollsBack task world choices) task
      (recover.leaves world choices) := by
  have started : Edited (Completes task world choices) (RollsBack task world choices) task
      (· = task) world := ⟨task, saved, .refl, rfl⟩
  have manual : task.stage ∉ terminalStages → ∀ rest,
      Traced (Completes task world choices) (RollsBack task world choices) task
        ((finishManual task.id).leaves world rest) := by
    intro active rest
    refine (tracks_finishManual ?_).leaves_traced started rest
    rintro other rfl
    exact active
  have loaded : loadState world choices = (.returned world.state, world, choices) := rfl
  unfold recover Program.leaves
  rw [Program.bind_returned loaded]
  simp only [saved]
  split
  · exact started.traced
  rename_i active
  split
  · exact manual active choices
  rcases ran : DockerPlatform.inspectWeb world choices with ⟨outcome, after, rest⟩
  obtain rfl : world = after := by
    rw [← Program.leaves_of_eq ran]
    exact (looks_observe.unchanged world choices).symm
  cases outcome with
  | returned actual =>
      rw [Program.bind_returned (attempt_returned ran)]
      dsimp only
      split
      · exact manual active rest
      · exact recoverFrom_traced saved ran active
  | raised error =>
      cases code : error.safeCode? with
      | none =>
          rw [Program.bind_raised (attempt_uncaught ran code)]
          exact started.traced
      | some caught =>
          rw [Program.bind_returned (attempt_caught ran code)]
          exact manual active rest
  | crashed =>
      rw [Program.bind_crashed (attempt_crashed ran)]
      exact started.traced

/-- Every state that an execution can leave is reached by edits of the task it found. -/
theorem execute_traced (saved : world.state.task = some task) (taskId : String)
    (choices : List Choice) :
    Traced True False task ((execute taskId).leaves world choices) :=
  (tracks_execute trivial).leaves_traced ⟨task, saved, .refl, trivial⟩ choices

theorem tracks_completePendingCleanup :
    Tracks completes undoes first (Traced completes undoes first) completePendingCleanup
      (fun _ => Traced completes undoes first) (Traced completes undoes first) := by
  refine tracks_through _ guarded_loadState fun state => ?_
  rintro world choices ⟨⟨task, saved, edits, -⟩, rfl⟩
  simp only [saved]
  have edited : Traced completes undoes first world := ⟨task, saved, edits, trivial⟩
  split
  · exact edited
  rename_i pending
  simp only [not_or, not_not] at pending
  have started : Edited completes undoes first
      (fun task => task.stage = .succeeded ∧ task.cleanup = .pending) world :=
    ⟨task, saved, edits, pending.1, pending.2.1⟩
  refine tracks_through _ (tracks_cleanupOriginal ⟨?_, ?_⟩ ?_) (fun done => ?_) world choices started
  · exact fun _ holds => .inr holds.1
  · exact fun _ _ holds => holds
  · intro task holds unmarked
    rw [holds.2] at unmarked
    cases unmarked
  cases done with
  | false => exact tracks_raise rfl
  | true =>
      refine tracks_taskOf fun task holds => ?_
      have edit : Edit completes undoes task { task with cleanup := .complete } :=
        .closed task holds.1
      cases kept : task.cleanupJournal with
      | none => exact tracks_raise rfl
      | some journal =>
          by_cases complete : journal.imageId = .completed
          · simp only [complete, if_true]
            simp only [kept] at edit
            refine tracks_through (fun _ => Traced completes undoes first)
              (tracks_saveTask edit trivial) fun _ => ?_
            exact guarded_loadState.conseq (fun _ edited => edited) (fun _ _ loaded => loaded.1)
              fun _ failed => failed
          · simp only [complete, if_false]
            exact tracks_raise rfl

/-- The completion of a cleanup neither brings an update to its end nor undoes one. -/
theorem completePendingCleanup_traced (saved : world.state.task = some task)
    (choices : List Choice) :
    Traced False False task (completePendingCleanup.leaves world choices) :=
  tracks_completePendingCleanup.leaves_traced ⟨task, saved, .refl, trivial⟩ choices

end Recovery

end Finrec.Updater
