import Finrec.Updater.Histories

/-!
# The result of the last check

Next to its task the updater keeps the result of the last check.  An execution
saves its task over and over and keeps the result it finds there, until a success
puts one in its place that says there is nothing newer.
-/

namespace Finrec.Updater

open CrashLogic UpdateManager

section LastCheck

variable {check : Option CheckResult} {invariant : World → Prop} {α β : Type}

/-- The result of the last check is the one that the process found. -/
def HasCheck (check : Option CheckResult) (world : World) : Prop :=
  world.state.lastCheck = check

/-- A process that leaves the result of the last check alone. -/
abbrev KeepsCheck (invariant : World → Prop) (check : Option CheckResult) (process : Process α) :
    Prop :=
  Guarded UpdaterError.safeCode? invariant (HasCheck check) process (fun _ => HasCheck check)
    (HasCheck check)

theorem keepsCheck_bind {process : Process α} {next : α → Process β}
    (first : KeepsCheck invariant check process)
    (rest : ∀ value, KeepsCheck invariant check (next value)) :
    KeepsCheck invariant check (process >>= next) :=
  Guarded.bind first rest

theorem keepsCheck_pure {value : α} : KeepsCheck invariant check (pure value : Process α) :=
  Satisfies.pure fun _ has => has

theorem keepsCheck_attempt {process : Process α} (keeps : KeepsCheck invariant check process) :
    KeepsCheck invariant check (attempt process) :=
  Guarded.attempt (keeps.conseq (fun _ has => has) (fun _ _ has => has) fun _ has _ => has)

section Processes

variable (within : ∀ world, HasCheck check world → invariant world)

include within

theorem keepsCheck_raise {code : String} :
    KeepsCheck invariant check (Program.raise (.conflict code) : Process α) :=
  Guarded.raiseOther rfl within

theorem keepsCheck_call {effect : Choice → Host → Host} {answer : Choice → α} :
    KeepsCheck invariant check (DockerPlatform.call effect answer) := by
  refine Satisfies.act within fun choice world has => ?_
  have affected : HasCheck check { world with host := effect choice world.host } := has
  by_cases dies : choice.dies
  · simp only [dies, if_true]
    split
    · exact within _ affected
    · exact within _ has
  · simp only [dies]
    cases raises : choice.raises with
    | none => exact affected
    | some code =>
        by_cases applied : choice.applied
        · simp only [applied]
          exact affected
        · simp only [applied]
          exact has

theorem keepsCheck_observe {possible : Choice → Host → Bool} {code : String} {answer : Choice → α} :
    KeepsCheck invariant check (DockerPlatform.observe possible code answer) :=
  (guarded_observe within fun _ has => has).conseq (fun _ has => has) (fun _ _ answered => answered.2)
    fun _ has => has

theorem keepsCheck_saveTask (task : UpdateTask) : KeepsCheck invariant check (saveTask task) := by
  refine Guarded.bind guarded_loadState fun state => ?_
  refine guarded_saveState (fun world started => within world started.1) within ?_
  rintro world ⟨has, rfl⟩
  exact has

theorem keepsCheck_taskOf (taskId : String) : KeepsCheck invariant check (taskOf taskId) := by
  refine Guarded.bind (guarded_loadState.conseq (fun _ has => has) (fun _ _ loaded => loaded.1)
    fun _ has => has) fun state => ?_
  unfold requireTask
  split
  · split
    · exact keepsCheck_pure
    · exact keepsCheck_raise within
  · exact keepsCheck_raise within

theorem keepsCheck_now : KeepsCheck invariant check now :=
  guarded_now within

theorem keepsCheck_checkpoint (taskId : String) (stage : Stage) :
    KeepsCheck invariant check (checkpoint taskId stage) := by
  refine keepsCheck_bind (keepsCheck_taskOf within taskId) fun task => ?_
  cases task.startedAt with
  | some startedAt => exact keepsCheck_saveTask within _
  | none => exact keepsCheck_bind (keepsCheck_now within) fun _ => keepsCheck_saveTask within _

theorem keepsCheck_finishFailed (taskId code : String) (rolledBack : Bool) :
    KeepsCheck invariant check (finishFailed taskId code rolledBack) := by
  refine keepsCheck_bind (keepsCheck_taskOf within taskId) fun task => ?_
  exact keepsCheck_bind (keepsCheck_now within) fun _ => keepsCheck_saveTask within _

theorem keepsCheck_finishManual (taskId : String) :
    KeepsCheck invariant check (finishManual taskId) := by
  refine keepsCheck_bind (keepsCheck_taskOf within taskId) fun task => ?_
  exact keepsCheck_bind (keepsCheck_now within) fun _ => keepsCheck_saveTask within _

theorem keepsCheck_health (expected : ImageIdentity) (attempts : ℕ) :
    KeepsCheck invariant check (healthAttempts expected attempts) := by
  induction attempts with
  | zero => exact keepsCheck_pure
  | succ left ih =>
      cases left with
      | zero => exact keepsCheck_observe within
      | succ left =>
          refine keepsCheck_bind (keepsCheck_attempt (keepsCheck_observe within)) fun healthy => ?_
          cases healthy with
          | ok _ => exact keepsCheck_pure
          | error code => exact ih

theorem keepsCheck_stabilize (taskId : String) :
    KeepsCheck invariant check (stabilize taskId) := by
  refine keepsCheck_bind (keepsCheck_checkpoint within taskId _) fun _ => ?_
  have rounds : ∀ left, KeepsCheck invariant check (stabilizeRounds taskId left) := by
    intro left
    induction left with
    | zero => exact keepsCheck_pure
    | succ left ih =>
        refine keepsCheck_bind (keepsCheck_checkpoint within taskId _) fun _ => ?_
        refine keepsCheck_bind (keepsCheck_taskOf within taskId) fun task => ?_
        exact keepsCheck_bind (keepsCheck_observe within) fun _ => ih
  exact rounds 3

theorem keepsCheck_prepareUpdate (taskId : String) :
    KeepsCheck invariant check (prepareUpdate taskId) := by
  refine keepsCheck_bind (keepsCheck_checkpoint within taskId _) fun _ => ?_
  refine keepsCheck_bind (keepsCheck_observe within) fun backups => ?_
  refine keepsCheck_bind (keepsCheck_bind (keepsCheck_taskOf within taskId) fun _ =>
    keepsCheck_saveTask within _) fun _ => ?_
  refine keepsCheck_bind (keepsCheck_checkpoint within taskId _) fun _ => ?_
  refine keepsCheck_bind (keepsCheck_taskOf within taskId) fun task => ?_
  refine keepsCheck_bind (keepsCheck_observe within) fun _ => ?_
  refine keepsCheck_bind (keepsCheck_checkpoint within taskId _) fun _ => ?_
  refine keepsCheck_bind (keepsCheck_taskOf within taskId) fun task => ?_
  refine keepsCheck_bind (keepsCheck_observe within) fun tagged => ?_
  refine keepsCheck_bind (keepsCheck_saveTask within tagged) fun _ => ?_
  exact keepsCheck_checkpoint within taskId _

theorem keepsCheck_replaceWeb (taskId : String) :
    KeepsCheck invariant check (replaceWeb taskId) := by
  refine keepsCheck_bind (keepsCheck_call within) fun _ => ?_
  refine keepsCheck_bind (keepsCheck_checkpoint within taskId _) fun _ => ?_
  refine keepsCheck_bind (keepsCheck_taskOf within taskId) fun task => ?_
  refine keepsCheck_bind (keepsCheck_observe within) fun _ => ?_
  refine keepsCheck_bind (keepsCheck_checkpoint within taskId _) fun _ => ?_
  refine keepsCheck_bind (keepsCheck_taskOf within taskId) fun task => ?_
  refine keepsCheck_bind (keepsCheck_call within) fun _ => ?_
  refine keepsCheck_bind (keepsCheck_checkpoint within taskId _) fun _ => ?_
  refine keepsCheck_bind (keepsCheck_taskOf within taskId) fun task => ?_
  refine keepsCheck_bind (keepsCheck_health within task.target _) fun _ => ?_
  refine keepsCheck_bind (keepsCheck_stabilize within taskId) fun _ => ?_
  refine keepsCheck_bind (keepsCheck_checkpoint within taskId _) fun _ => ?_
  refine keepsCheck_bind (keepsCheck_taskOf within taskId) fun task => ?_
  exact keepsCheck_call within

theorem keepsCheck_restoreOriginal (taskId : String) (stage : Stage) (restore : Bool) :
    KeepsCheck invariant check (restoreOriginal taskId stage restore) := by
  refine keepsCheck_bind (keepsCheck_taskOf within taskId) fun task => ?_
  refine keepsCheck_bind (keepsCheck_call within) fun _ => ?_
  refine keepsCheck_bind (keepsCheck_checkpoint within taskId _) fun _ => ?_
  refine keepsCheck_bind (keepsCheck_health within task.original _) fun _ => ?_
  unfold persistAfterCheckpoint
  split
  · exact keepsCheck_bind (keepsCheck_checkpoint within taskId _) fun _ => keepsCheck_call within
  · exact keepsCheck_pure

theorem keepsCheck_handleFailure (taskId code : String) (webWasStopped : Bool) :
    KeepsCheck invariant check (handleFailure taskId code webWasStopped) := by
  unfold handleFailure
  split
  · refine keepsCheck_bind (keepsCheck_taskOf within taskId) fun task => ?_
    refine keepsCheck_bind (keepsCheck_taskOf within taskId) fun task => ?_
    refine keepsCheck_bind (keepsCheck_saveTask within _) fun _ => ?_
    refine keepsCheck_bind (keepsCheck_attempt (keepsCheck_restoreOriginal within taskId _ _))
      fun restored => ?_
    cases restored with
    | error caught => exact keepsCheck_finishManual within taskId
    | ok _ => exact keepsCheck_finishFailed within taskId code true
  · exact keepsCheck_finishFailed within taskId code false

theorem keepsCheck_cleanupOriginal (taskId : String) :
    KeepsCheck invariant check (cleanupOriginal taskId) := by
  have journals : ∀ task journal, KeepsCheck invariant check (saveJournal task journal) := by
    intro task journal
    cases journal with
    | none => exact Guarded.raiseOther rfl within
    | some journal => exact keepsCheck_saveTask within _
  have step : ∀ cleanup, KeepsCheck invariant check (cleanupStep taskId cleanup) := by
    intro cleanup
    refine keepsCheck_bind (keepsCheck_taskOf within taskId) fun task => ?_
    cases task.cleanupJournal with
    | none => exact keepsCheck_pure
    | some journal =>
        dsimp only
        split
        · exact keepsCheck_pure
        refine keepsCheck_bind ?_ fun _ => ?_
        · unfold startStep
          split
          · exact journals task _
          · exact keepsCheck_pure
        refine keepsCheck_bind (keepsCheck_taskOf within taskId) fun started => ?_
        refine keepsCheck_bind (keepsCheck_attempt (keepsCheck_observe within)) fun cleaned => ?_
        cases cleaned with
        | error code => exact keepsCheck_pure
        | ok _ =>
            refine keepsCheck_bind (keepsCheck_taskOf within taskId) fun done => ?_
            cases done.cleanupJournal with
            | none => exact keepsCheck_pure
            | some journal =>
                dsimp only
                split
                · exact keepsCheck_bind (journals done _) fun _ => keepsCheck_pure
                · exact keepsCheck_pure
  have steps : ∀ cleanups, KeepsCheck invariant check (cleanupSteps taskId cleanups) := by
    intro cleanups
    induction cleanups with
    | nil => exact keepsCheck_pure
    | cons cleanup rest ih =>
        refine keepsCheck_bind (step cleanup) fun goOn => ?_
        cases goOn with
        | true => exact ih
        | false => exact keepsCheck_pure
  refine keepsCheck_bind (keepsCheck_taskOf within taskId) fun task => ?_
  cases task.cleanupJournal with
  | none => exact keepsCheck_pure
  | some journal =>
      refine keepsCheck_bind ?_ fun _ => steps _
      unfold markPending
      split
      · exact keepsCheck_saveTask within _
      · exact keepsCheck_pure

end Processes

/-- The result that a successful update puts in the place of the last check. -/
def Committed (world : World) : Prop :=
  ∃ task checkedAt, world.state.task = some task ∧ task.stage = .succeeded ∧
    world.state.lastCheck = some {
      current := task.target, target := task.target, available := false, checkedAt := checkedAt }

/-- The last check is the one that an execution found, or the one that it saved at its end. -/
theorem execute_lastCheck (taskId : String) (world : World) (choices : List Choice) :
    ((execute taskId).leaves world choices).state.lastCheck = world.state.lastCheck ∨
      Committed ((execute taskId).leaves world choices) := by
  let check := world.state.lastCheck
  let invariant : World → Prop := fun after => HasCheck check after ∨ Committed after
  have within : ∀ after, HasCheck check after → invariant after := fun _ has => .inl has
  have failing : ∀ code stopped, Guarded UpdaterError.safeCode? invariant (HasCheck check)
      (handleFailure taskId code stopped) (fun _ => invariant) invariant := by
    intro code stopped
    exact (keepsCheck_handleFailure within taskId code stopped).conseq (fun _ has => has)
      (fun _ => within) within
  have guarded : Guarded UpdaterError.safeCode? invariant (HasCheck check) (execute taskId)
      (fun _ => invariant) invariant := by
    refine Guarded.bind (?_ : Guarded _ _ _ _ (fun _ => HasCheck check) _) fun _ => ?_
    · refine (keepsCheck_bind (keepsCheck_taskOf within taskId) fun task => ?_).conseq
        (fun _ has => has) (fun _ _ has => has) within
      split
      · exact keepsCheck_pure
      · exact keepsCheck_raise within
    refine Guarded.bind ((keepsCheck_attempt (keepsCheck_prepareUpdate within taskId)).conseq
      (fun _ has => has) (fun _ _ has => has) within) fun prepared => ?_
    cases prepared with
    | error code => exact failing _ _
    | ok _ =>
        refine Guarded.bind ((keepsCheck_attempt (keepsCheck_replaceWeb within taskId)).conseq
          (fun _ has => has) (fun _ _ has => has) within) fun replaced => ?_
        cases replaced with
        | error code => exact failing _ _
        | ok _ =>
            refine Guarded.bind ((keepsCheck_checkpoint within taskId _).conseq
              (fun _ has => has) (fun _ _ has => has) within) fun _ => ?_
            refine Guarded.bind ((keepsCheck_cleanupOriginal within taskId).conseq
              (fun _ has => has) (fun _ _ has => has) within) fun complete => ?_
            refine Guarded.bind ((keepsCheck_taskOf within taskId).conseq
              (fun _ has => has) (fun _ _ has => has) within) fun task => ?_
            refine Guarded.bind ((keepsCheck_now within).conseq
              (fun _ has => has) (fun _ _ has => has) within) fun finishedAt => ?_
            refine Guarded.bind ((keepsCheck_now within).conseq
              (fun _ has => has) (fun _ _ has => has) within) fun checkedAt => ?_
            refine guarded_saveState within (fun _ holds => holds) fun after _ => .inr ?_
            exact ⟨_, checkedAt, rfl, rfl, rfl⟩
  exact guarded.leaves_of (fun _ _ holds => holds) rfl choices

end LastCheck

end Finrec.Updater
