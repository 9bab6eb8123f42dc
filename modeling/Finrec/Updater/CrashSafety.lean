import Finrec.Updater.Promises

/-!
# Crash safety of the updater

An execution, a rollback and a recovery keep the promises of the stages they
save.  So after any number of crashes and restarts a task saved as succeeded
runs the target under the target's version, and a task saved as failed runs the
original under the original's version.
-/

namespace Finrec.Updater

open CrashLogic UpdateManager

namespace Journey

variable {journey : Journey} {stage : Stage} {facts : Host → Prop} {fails : World → Prop}

theorem supports_preTag (early : stage ∈ preTagStages) (host : Host) :
    journey.Supports stage host ↔ host = journey.before := by
  simp only [preTagStages, List.mem_cons, List.not_mem_nil, or_false] at early
  rcases early with rfl | rfl | rfl <;> exact Iff.rfl

theorem keeps_persistAfterCheckpoint {version : String} {wanted : Bool}
    (meanwhile done : Host → Prop)
    (supported : ∀ host, meanwhile host → journey.Supports stage host)
    (untouched : ∀ host, facts host → meanwhile host)
    (persisted : wanted → ∀ host, facts host →
      meanwhile { host with environmentTag := version } ∧ done { host with environmentTag := version })
    (unwanted : wanted = false → ∀ host, facts host → done host)
    (failing : ∀ world, journey.Saved stage meanwhile world → fails world) :
    journey.Keeps (journey.Saved stage facts)
      (persistAfterCheckpoint journey.taskId stage version wanted)
      (fun _ => journey.Saved stage done) fails := by
  have supportedFacts : ∀ host, facts host → journey.Supports stage host :=
    fun host holds => supported host (untouched host holds)
  cases wanted with
  | false => exact Keeps.pure fun _ saved => saved.mono (unwanted rfl)
  | true =>
      refine Keeps.bind (keeps_checkpoint supportedFacts supportedFacts) fun _ => ?_
      exact keeps_call meanwhile done untouched (fun _ host holds => (persisted rfl host holds).1)
        (fun _ host holds _ => (persisted rfl host holds).2) supported failing

section Rollback

variable (journey)

/-- The tag that a rollback finds: the original's, or any of the two if it is going to be restored. -/
def Undoable (restoreVersion : Bool) (host : Host) : Prop :=
  host.environmentTag = journey.original.version ∨
    restoreVersion ∧ host.environmentTag = journey.target.version

variable {journey} {restoreVersion : Bool}

theorem keeps_restoreOriginal
    (lands : ∀ host, journey.Undoable restoreVersion host → host.web.image = journey.original →
      journey.Supports stage host) :
    journey.Keeps
      (journey.Saved stage fun host =>
        journey.Supports stage host ∧ journey.Undoable restoreVersion host)
      (restoreOriginal journey.taskId stage restoreVersion)
      (fun _ => journey.Saved stage fun host =>
        journey.Supports stage host ∧ host = journey.before)
      (journey.Saved stage (journey.Supports stage)) := by
  refine keeps_taskOf fun task known _ => ?_
  refine Keeps.through (fun _ => journey.Saved stage fun host =>
    journey.Undoable restoreVersion host ∧ host.web.image = journey.original)
    (keeps_call _ _ (fun host holds => holds) ?_ ?_ (fun host holds => holds.1)
      fun world saved => saved.mono fun _ holds => holds.1) fun _ => ?_
  · intro choice host holds
    have undoable : journey.Undoable restoreVersion
      { host with web := ⟨task.original.image, choice.serving⟩ } := holds.2
    exact ⟨lands _ undoable known.original, undoable⟩
  · exact fun choice host holds _ => ⟨holds.2, known.original⟩
  have landed : ∀ host, journey.Undoable restoreVersion host ∧ host.web.image = journey.original →
      journey.Supports stage host := fun host holds => lands host holds.1 holds.2
  refine Keeps.bind (keeps_checkpoint landed landed) fun _ => ?_
  refine Keeps.bind (keeps_waitForStartupHealth landed fun world saved => saved.mono landed)
    fun _ => ?_
  refine keeps_persistAfterCheckpoint _ _ (fun host holds => landed host holds)
    (fun host holds => holds.1) ?_ ?_ fun world saved => saved.mono landed
  · rintro - host ⟨⟨undoable, sameImage⟩, serves⟩
    have restored : journey.Undoable restoreVersion
      { host with environmentTag := task.original.version } :=
      .inl (congrArg Image.version known.original)
    refine ⟨⟨restored, sameImage⟩, lands _ restored sameImage, ?_⟩
    rw [before, ← known.original, ← serves]
    rfl
  · rintro unrestored host ⟨⟨undoable, sameImage⟩, serves⟩
    refine ⟨lands host undoable sameImage, ?_⟩
    have tag : host.environmentTag = journey.original.version := by
      rcases undoable with tag | ⟨wanted, -⟩
      · exact tag
      · simp [unrestored] at wanted
    rw [before, ← tag, ← known.original, ← serves]

/-- A rollback from a stage whose promise it can undo, with the stage its checkpoints keep. -/
theorem keeps_rollbackToOriginal {code : String} {preserve : Bool} {checkpointStage : Stage}
    (chosen : checkpointStage = if preserve then stage else .rollingBack)
    (enters : ∀ host, journey.Supports stage host →
      journey.Supports checkpointStage host ∧ journey.Undoable restoreVersion host)
    (lands : ∀ host, journey.Undoable restoreVersion host → host.web.image = journey.original →
      journey.Supports checkpointStage host) :
    journey.Keeps (journey.Saved stage (journey.Supports stage))
      (rollbackToOriginal journey.taskId code restoreVersion preserve)
      (fun _ => journey.Recoverable) fails := by
  refine keeps_taskOf fun task known stageEq => ?_
  rw [stageEq, ← chosen]
  refine Keeps.bind (keeps_saveTask rfl ⟨known.id, known.original, known.target⟩
    (fun _ holds => holds) fun host holds => (enters host holds).1) fun _ => ?_
  refine Keeps.through (fun result world => match result with
    | .ok _ => journey.Saved checkpointStage
        (fun host => journey.Supports checkpointStage host ∧ host = journey.before) world
    | .error _ => journey.Saved checkpointStage (journey.Supports checkpointStage) world)
    (Keeps.attempt ?_) ?_
  · refine (keeps_restoreOriginal lands).conseq ?_ (fun _ _ saved => saved) fun _ saved _ => saved
    exact fun world saved => saved.mono enters
  · intro result
    cases result with
    | error code => exact keeps_finishManual fun _ holds => holds
    | ok _ => exact keeps_finishFailed (fun _ holds => holds.1) fun _ holds => holds.2

end Rollback

section Execution

/-- The stages in which the web container is replaced. -/
def replacingStages : List Stage :=
  [.stoppingWeb, .migrating, .startingWeb, .checkingHealth, .stabilizing]

theorem supports_replacing (replacing : stage ∈ replacingStages) (host : Host) :
    journey.Supports stage host ↔
      host.environmentTag = journey.original.version ∧ journey.EitherImage host := by
  simp only [replacingStages, List.mem_cons, List.not_mem_nil, or_false] at replacing
  rcases replacing with rfl | rfl | rfl | rfl | rfl <;> exact Iff.rfl

variable (journey)

/-- The task is saved with one of the stages, and the stage keeps its promise. -/
def SavedIn (stages : List Stage) (world : World) : Prop :=
  ∃ stage ∈ stages, journey.Saved stage (journey.Supports stage) world

variable {journey}

/-- What holds from any one of some saved stages holds from their union. -/
theorem Keeps.ofSavedIn {α : Type} {stages : List Stage} {process : Process α}
    {returns : α → World → Prop}
    (each : ∀ stage ∈ stages,
      journey.Keeps (journey.Saved stage (journey.Supports stage)) process returns fails) :
    journey.Keeps (journey.SavedIn stages) process returns fails := by
  rintro world choices ⟨stage, member, saved⟩
  exact each stage member world choices saved

theorem keeps_prepareUpdate :
    journey.Keeps (journey.Saved .checking (journey.Supports .checking))
      (prepareUpdate journey.taskId)
      (fun _ => journey.Saved .stoppingWeb (· = journey.before)) (journey.SavedIn preTagStages) := by
  have tagged : journey.EitherImage journey.before := .inl rfl
  have stopping : ∀ host, host = journey.before → journey.Supports .stoppingWeb host := by
    rintro host rfl
    exact ⟨rfl, tagged⟩
  have kept : ∀ host, host = journey.before → host = journey.before := fun _ same => same
  have backingUp : ∀ world, journey.Saved .backingUp (· = journey.before) world →
      journey.SavedIn preTagStages world := fun world saved => ⟨.backingUp, by decide, saved⟩
  have pulling : ∀ world, journey.Saved .pulling (· = journey.before) world →
      journey.SavedIn preTagStages world := fun world saved => ⟨.pulling, by decide, saved⟩
  refine Keeps.bind (keeps_checkpoint kept kept) fun _ => ?_
  refine Keeps.bind (keeps_look kept backingUp) fun backups => ?_
  refine Keeps.bind (keeps_recordBackups kept) fun _ => ?_
  refine Keeps.bind (keeps_checkpoint kept kept) fun _ => ?_
  refine keeps_taskOf fun task _ _ => ?_
  refine Keeps.bind (keeps_look kept pulling) fun _ => ?_
  refine Keeps.bind (keeps_checkpoint kept kept) fun _ => ?_
  refine keeps_taskOf fun task known stageEq => ?_
  -- the task that is saved carries the alias, which is no part of its image
  refine Keeps.through (fun tagged world => (journey.Known tagged ∧ tagged.stage = .pulling) ∧
    journey.Saved .pulling (· = journey.before) world) ?_ fun tagged => ?_
  · refine (keeps_observe kept pulling).conseq (fun _ started => started) ?_ fun _ failed => failed
    intro value world saved
    have found := saved
    rcases found with ⟨-, -, -, -, -, choice, rfl, -⟩
    exact ⟨⟨⟨known.id, known.original, known.target⟩, stageEq⟩, saved.mono fun _ holds => holds.1⟩
  · rintro world choices ⟨⟨knownTagged, stageTagged⟩, saved⟩
    refine Keeps.bind (keeps_saveTask stageTagged knownTagged kept kept) (fun _ => ?_)
      world choices saved
    exact keeps_checkpoint kept stopping

theorem keeps_replaceWeb :
    journey.Keeps (journey.Saved .stoppingWeb (· = journey.before)) (replaceWeb journey.taskId)
      (fun _ => journey.Saved .persistingVersion (· = journey.after))
      (journey.SavedIn (.persistingVersion :: replacingStages)) := by
  have failing : ∀ (stage : Stage) (facts : Host → Prop),
      stage ∈ Stage.persistingVersion :: replacingStages →
      (∀ host, facts host → journey.Supports stage host) →
      ∀ world, journey.Saved stage facts world →
        journey.SavedIn (.persistingVersion :: replacingStages) world :=
    fun stage facts member supported world saved => ⟨stage, member, saved.mono supported⟩
  -- the host before the target is started, and after it was started
  let stopped : Host → Prop := fun host =>
    host.environmentTag = journey.original.version ∧ host.web.image = journey.original
  let started : Host → Prop := fun host =>
    host.environmentTag = journey.original.version ∧ host.web.image = journey.target
  let serving : Host → Prop := fun host =>
    host.environmentTag = journey.original.version ∧ host.web = ⟨journey.target, true⟩
  have ofStopped : ∀ stage ∈ replacingStages, ∀ host, stopped host →
      journey.Supports stage host := fun stage member host holds =>
    (supports_replacing member host).mpr ⟨holds.1, .inl holds.2⟩
  have ofStarted : ∀ stage ∈ replacingStages, ∀ host, started host →
      journey.Supports stage host := fun stage member host holds =>
    (supports_replacing member host).mpr ⟨holds.1, .inr holds.2⟩
  have ofServing : ∀ stage ∈ replacingStages, ∀ host, serving host →
      journey.Supports stage host := fun stage member host holds =>
    ofStarted stage member host ⟨holds.1, congrArg Web.image holds.2⟩
  have persisting : ∀ host, serving host → journey.Supports .persistingVersion host :=
    fun host holds => ⟨.inl holds.1, .inr (congrArg Web.image holds.2)⟩
  refine Keeps.through (fun _ => journey.Saved .stoppingWeb stopped) ?_ fun _ => ?_
  · refine keeps_call stopped stopped ?_ ?_ ?_ (ofStopped _ (by decide))
      (failing _ _ (by decide) (ofStopped _ (by decide)))
    · rintro host rfl
      exact ⟨rfl, rfl⟩
    · rintro choice host rfl
      exact ⟨rfl, rfl⟩
    · rintro choice host rfl -
      exact ⟨rfl, rfl⟩
  refine Keeps.bind (keeps_checkpoint (ofStopped _ (by decide)) (ofStopped .migrating (by decide)))
    fun _ => ?_
  refine keeps_taskOf fun task _ _ => ?_
  refine Keeps.bind (keeps_look (ofStopped _ (by decide))
    (failing _ _ (by decide) (ofStopped _ (by decide)))) fun _ => ?_
  refine Keeps.bind (keeps_checkpoint (ofStopped _ (by decide))
    (ofStopped .startingWeb (by decide))) fun _ => ?_
  refine keeps_taskOf fun task known _ => ?_
  refine Keeps.through (fun _ => journey.Saved .startingWeb started) ?_ fun _ => ?_
  · refine keeps_call (fun host => stopped host ∨ started host) started
      (fun host holds => Or.inl holds)
      (fun choice host holds => Or.inr ⟨holds.1, known.target⟩)
      (fun choice host holds _ => ⟨holds.1, known.target⟩) ?_ ?_
    · rintro host (holds | holds)
      · exact ofStopped _ (by decide) host holds
      · exact ofStarted _ (by decide) host holds
    · refine failing _ _ (by decide) ?_
      rintro host (holds | holds)
      · exact ofStopped _ (by decide) host holds
      · exact ofStarted _ (by decide) host holds
  refine Keeps.bind (keeps_checkpoint (ofStarted _ (by decide))
    (ofStarted .checkingHealth (by decide))) fun _ => ?_
  refine keeps_taskOf fun task known _ => ?_
  refine Keeps.through (fun _ => journey.Saved .checkingHealth serving) ?_ fun _ => ?_
  · refine (keeps_waitForStartupHealth (ofStarted _ (by decide))
      (failing _ _ (by decide) (ofStarted _ (by decide)))).conseq (fun _ holds => holds) ?_
      fun _ failed => failed
    intro _ world saved
    refine saved.mono fun host holds => ⟨holds.1.1, ?_⟩
    rw [holds.2, known.target]
  refine Keeps.through (fun _ => journey.Saved .stabilizing serving) ?_ fun _ => ?_
  · refine Keeps.bind (keeps_checkpoint (ofServing _ (by decide))
      (ofServing .stabilizing (by decide))) fun _ => ?_
    exact keeps_stabilizeRounds 3 (ofServing _ (by decide))
      (failing _ _ (by decide) (ofServing _ (by decide)))
  refine Keeps.bind (keeps_checkpoint (ofServing _ (by decide)) persisting) fun _ => ?_
  refine keeps_taskOf fun task known _ => ?_
  have version : task.target.version = journey.target.version := congrArg Image.version known.target
  refine keeps_call (fun host => journey.EitherVersion host ∧ host.web = ⟨journey.target, true⟩) _
    (fun host holds => ⟨.inl holds.1, holds.2⟩) ?_ ?_ ?_ ?_
  · exact fun choice host holds => ⟨.inr version, holds.2⟩
  · rintro choice host ⟨-, serves⟩ -
    rw [after, ← version, ← serves]
  · exact fun host holds => ⟨holds.1, .inr (congrArg Web.image holds.2)⟩
  · exact failing _ _ (by decide) fun host holds =>
      ⟨holds.1, .inr (congrArg Web.image holds.2)⟩

theorem after_supports_cleaning (host : Host) (same : host = journey.after) :
    journey.Supports .cleaning host := by
  subst same
  exact ⟨.inr rfl, .inr rfl, fun _ => rfl⟩

theorem keeps_handleFailure_running {code : String} :
    journey.Keeps (journey.SavedIn preTagStages) (handleFailure journey.taskId code false)
      (fun _ => journey.Recoverable) fails := by
  refine Keeps.ofSavedIn fun stage early => ?_
  exact keeps_finishFailed (fun _ holds => holds) fun host holds => (supports_preTag early host).mp holds

theorem keeps_handleFailure_stopped {code : String} :
    journey.Keeps (journey.SavedIn (.persistingVersion :: replacingStages))
      (handleFailure journey.taskId code true) (fun _ => journey.Recoverable) fails := by
  refine Keeps.ofSavedIn fun stage member => ?_
  refine keeps_taskOf fun task _ stageEq => ?_
  refine keeps_rollbackToOriginal rfl ?_ ?_
  · intro host holds
    rcases List.mem_cons.mp member with rfl | replacing
    · refine ⟨holds, ?_⟩
      rcases holds.1 with original | target
      · exact .inl original
      · exact .inr ⟨by simp [stageEq], target⟩
    · have undone := (supports_replacing replacing host).mp holds
      exact ⟨⟨.inl undone.1, undone.2⟩, .inl undone.1⟩
  · rintro host (original | ⟨-, target⟩) image
    · exact ⟨.inl original, .inl image⟩
    · exact ⟨.inr target, .inl image⟩

/-- An execution keeps every promise, however it ends. -/
theorem keeps_execute :
    journey.Keeps (journey.Saved .checking (journey.Supports .checking))
      (execute journey.taskId) (fun _ => journey.Recoverable) fails := by
  refine Keeps.through (fun _ => journey.Saved .checking (journey.Supports .checking)) ?_
    fun _ => ?_
  · refine keeps_taskOf fun task _ stageEq => ?_
    simp only [stageEq, if_true]
    exact Keeps.pure fun _ saved => saved
  refine Keeps.through (fun result world => match result with
    | .ok _ => journey.Saved .stoppingWeb (· = journey.before) world
    | .error _ => journey.SavedIn preTagStages world) (Keeps.attempt ?_) fun prepared => ?_
  · exact keeps_prepareUpdate.conseq (fun _ holds => holds) (fun _ _ saved => saved)
      fun _ failed _ => failed
  cases prepared with
  | error code => exact keeps_handleFailure_running
  | ok _ =>
      refine Keeps.through (fun result world => match result with
        | .ok _ => journey.Saved .persistingVersion (· = journey.after) world
        | .error _ => journey.SavedIn (.persistingVersion :: replacingStages) world)
        (Keeps.attempt ?_) fun replaced => ?_
      · exact keeps_replaceWeb.conseq (fun _ holds => holds) (fun _ _ saved => saved)
          fun _ failed _ => failed
      cases replaced with
      | error code => exact keeps_handleFailure_stopped
      | ok _ =>
          refine Keeps.bind (keeps_checkpoint ?_ ?_) fun _ =>
            keeps_completion after_supports_cleaning fun _ same => same
          · rintro host rfl
            exact ⟨.inr rfl, .inr rfl⟩
          · exact after_supports_cleaning

end Execution

section Recovery

/-- What the completion of a running target relies on. -/
def Arrived (journey : Journey) (stage : Stage) (host : Host) : Prop :=
  journey.Supports stage host ∧ host.web.image = journey.target

theorem keeps_confirmTarget (late : stage ∈ targetCompletionStages) :
    journey.Keeps (journey.Saved stage (journey.Arrived stage))
      (confirmTarget journey.taskId stage (stage = .persistingVersion))
      (fun _ => journey.Saved stage fun host => journey.Supports stage host ∧ host = journey.after)
      (journey.Saved stage (journey.Supports stage)) := by
  have arrived : ∀ host, journey.Arrived stage host → journey.Supports stage host :=
    fun _ holds => holds.1
  refine Keeps.bind (keeps_checkpoint arrived arrived) fun _ => ?_
  refine keeps_taskOf fun task known stageEq => ?_
  refine Keeps.bind (keeps_health arrived fun world saved => saved.mono arrived) fun _ => ?_
  have version : task.target.version = journey.target.version := congrArg Image.version known.target
  rw [stageEq]
  simp only [targetCompletionStages, List.mem_cons, List.not_mem_nil, or_false] at late
  rcases late with rfl | rfl
  · refine keeps_persistAfterCheckpoint (journey.Supports .persistingVersion) _
      (fun _ holds => holds) (fun _ holds => holds.1.1) ?_ (by simp) fun _ saved => saved
    rintro - host ⟨⟨supports, image⟩, serves⟩
    have persisted : journey.Supports .persistingVersion
        { host with environmentTag := task.target.version } := ⟨.inr version, supports.2⟩
    refine ⟨persisted, persisted, ?_⟩
    rw [after, ← version, ← known.target, ← serves]
  · refine keeps_persistAfterCheckpoint (journey.Supports .cleaning) _
      (fun _ holds => holds) (fun _ holds => holds.1.1) (by simp) ?_ fun _ saved => saved
    rintro - host ⟨⟨supports, image⟩, serves⟩
    refine ⟨supports, ?_⟩
    rw [after, ← supports.2.2 image, ← known.target, ← serves]

/-- A rollback that restores the version undoes every stage after the web was stopped. -/
theorem keeps_undo {code : String} (late : stage ∈ [Stage.persistingVersion, .cleaning, .rollingBack]) :
    journey.Keeps (journey.Saved stage (journey.Supports stage))
      (rollbackToOriginal journey.taskId code true true) (fun _ => journey.Recoverable) fails := by
  have either : ∀ host, journey.Undoable true host → journey.EitherVersion host := by
    rintro host (original | ⟨-, target⟩)
    · exact .inl original
    · exact .inr target
  simp only [List.mem_cons, List.not_mem_nil, or_false] at late
  have chosen : stage = if true then stage else Stage.rollingBack := rfl
  refine keeps_rollbackToOriginal chosen ?_ ?_
  · intro host holds
    have version : journey.EitherVersion host := by
      rcases late with rfl | rfl | rfl <;> exact holds.1
    exact ⟨holds, version.imp_right fun target => ⟨rfl, target⟩⟩
  · intro host undoable image
    rcases late with rfl | rfl | rfl
    · exact ⟨either host undoable, .inl image⟩
    · refine ⟨either host undoable, .inl image, fun alsoTarget => ?_⟩
      -- one image that is both recorded images has one version
      have same : journey.original.version = journey.target.version :=
        congrArg Image.version (image.symm.trans alsoTarget)
      rcases either host undoable with original | target
      · exact original.trans same
      · exact target
    · exact ⟨either host undoable, .inl image⟩

theorem keeps_undoReplacing {code : String} (replacing : stage ∈ replacingStages) :
    journey.Keeps (journey.Saved stage (journey.Supports stage))
      (rollbackToOriginal journey.taskId code false true) (fun _ => journey.Recoverable) fails := by
  have chosen : stage = if true then stage else Stage.rollingBack := rfl
  refine keeps_rollbackToOriginal chosen ?_ ?_
  · exact fun host holds => ⟨holds, .inl ((supports_replacing replacing host).mp holds).1⟩
  · rintro host (original | ⟨impossible, -⟩) image
    · exact (supports_replacing replacing host).mpr ⟨original, .inl image⟩
    · simp at impossible

theorem keeps_completeRecoveredTarget (late : stage ∈ targetCompletionStages) :
    journey.Keeps (journey.Saved stage (journey.Arrived stage))
      (completeRecoveredTarget journey.taskId) (fun _ => journey.Recoverable) fails := by
  have arrived : ∀ host, journey.Arrived stage host → journey.Supports stage host :=
    fun _ holds => holds.1
  refine keeps_taskOf fun task known stageEq => ?_
  by_cases lost : task.stage = .cleaning ∧ task.cleanupJournal = none
  · simp only [lost, and_self, if_true]
    exact keeps_finishManual arrived
  rw [if_neg lost, stageEq]
  refine Keeps.through (fun result world => match result with
    | .ok _ => journey.Saved stage
        (fun host => journey.Supports stage host ∧ host = journey.after) world
    | .error _ => journey.Saved stage (journey.Supports stage) world)
    (Keeps.attempt ?_) fun confirmed => ?_
  · exact (keeps_confirmTarget late).conseq (fun _ holds => holds) (fun _ _ saved => saved)
      fun _ failed _ => failed
  cases confirmed with
  | error code =>
      refine keeps_undo ?_
      simp only [targetCompletionStages, List.mem_cons, List.not_mem_nil, or_false] at late
      rcases late with rfl | rfl <;> decide
  | ok _ =>
      refine Keeps.through (fun _ => journey.Saved .cleaning (· = journey.after)) ?_ fun _ =>
        keeps_completion after_supports_cleaning fun _ same => same
      simp only [targetCompletionStages, List.mem_cons, List.not_mem_nil, or_false] at late
      rcases late with rfl | rfl
      · simp only [enterCleaning, if_true]
        refine (keeps_checkpoint (fun _ holds => holds.1) fun host holds =>
          after_supports_cleaning host holds.2).conseq (fun _ holds => holds) ?_
          fun _ failed => failed
        exact fun _ _ saved => saved.mono fun _ holds => holds.2
      · simp only [enterCleaning, reduceCtorEq, if_false]
        exact Keeps.pure fun _ saved => saved.mono fun _ holds => holds.2

theorem keeps_recoverBeforeTag {task : UpdateTask} (known : journey.Known task)
    (stageEq : task.stage = stage) (early : stage ∈ preTagStages) :
    journey.Keeps (journey.Saved stage (journey.Supports stage)) (recoverBeforeTag task)
      (fun _ => journey.Recoverable) fails := by
  have kept : ∀ host, journey.Supports stage host → journey.Supports stage host :=
    fun _ holds => holds
  simp only [recoverBeforeTag, known.id, stageEq]
  refine Keeps.bind (keeps_checkpoint kept kept) fun _ => ?_
  refine keeps_taskOf fun current _ _ => ?_
  refine Keeps.through (fun _ => journey.Saved stage (journey.Supports stage)) (Keeps.attempt ?_)
    fun healthy => ?_
  · exact keeps_look kept fun _ saved _ => saved
  cases healthy with
  | error code => exact keeps_finishManual kept
  | ok _ => exact keeps_finishFailed kept fun host holds => (supports_preTag early host).mp holds

theorem image_eq_of_sameRuntimeIdentity {actual expected : ImageIdentity}
    (same : sameRuntimeIdentity actual expected = true) : actual.image = expected.image := by
  simp only [sameRuntimeIdentity, Bool.and_eq_true, decide_eq_true_eq] at same
  simp [ImageIdentity.image, same]

/-- Every stage is terminal, before the tag, in the replacement, or one a rollback restores. -/
theorem stage_cases (active : stage ∉ terminalStages) (tagged : stage ∉ preTagStages) :
    stage ∈ replacingStages ∨ stage ∈ [Stage.persistingVersion, .cleaning, .rollingBack] := by
  cases stage <;> simp_all [terminalStages, preTagStages, replacingStages]

theorem keeps_recoverFrom {task : UpdateTask} {actual : ImageIdentity} (known : journey.Known task)
    (stageEq : task.stage = stage) (active : stage ∉ terminalStages) :
    journey.Keeps
      (journey.Saved stage fun host => journey.Supports stage host ∧ actual.image = host.web.image)
      (recoverFrom task actual) (fun _ => journey.Recoverable) fails := by
  have supported : ∀ host, journey.Supports stage host ∧ actual.image = host.web.image →
      journey.Supports stage host := fun _ holds => holds.1
  simp only [recoverFrom, known.id, stageEq]
  split
  · exact keeps_finishManual supported
  split
  · rename_i completing
    refine (keeps_completeRecoveredTarget completing.1).weaken fun world saved => ?_
    have target : actual.image = journey.target :=
      (image_eq_of_sameRuntimeIdentity completing.2).trans known.target
    exact saved.mono fun host holds => ⟨holds.1, holds.2.symm.trans target⟩
  split
  · rename_i early
    split
    · exact (keeps_recoverBeforeTag known stageEq early).weaken fun _ saved => saved.mono supported
    · exact keeps_finishManual supported
  split
  · exact keeps_finishManual supported
  · rename_i tagged _
    rcases stage_cases active tagged with replacing | late
    · have unrestored : stage ∉ [Stage.persistingVersion, .cleaning, .rollingBack] := by
        simp only [replacingStages, List.mem_cons, List.not_mem_nil, or_false] at replacing
        rcases replacing with rfl | rfl | rfl | rfl | rfl <;> decide
      simp only [unrestored, decide_false]
      exact (keeps_undoReplacing replacing).weaken fun _ saved => saved.mono supported
    · simp only [late, decide_true]
      exact (keeps_undo late).weaken fun _ saved => saved.mono supported

/-- A restart keeps every promise, however it ends. -/
theorem keeps_recover :
    journey.Keeps journey.Recoverable recover (fun _ => journey.Recoverable) fails := by
  rintro world choices ⟨stage, task, found, known, stageEq, holds⟩
  have saved : journey.Saved stage (journey.Supports stage) world :=
    ⟨task, found, known, stageEq, holds⟩
  have kept : ∀ host, journey.Supports stage host → journey.Supports stage host :=
    fun _ holds => holds
  have loaded : journey.Keeps (· = world) loadState
      (fun state here => here = world ∧ here.state = state) fails := keeps_loadState
  refine Keeps.bind loaded (fun state => ?_) world choices rfl
  rintro here rest ⟨rfl, rfl⟩
  simp only [found]
  by_cases terminal : task.stage ∈ terminalStages
  · rw [if_pos terminal]
    exact saved.recoverable kept
  rw [if_neg terminal]
  cases hasCompleteRecoveryIdentities task with
  | false =>
      simp only [Bool.not_false, if_true, known.id]
      exact keeps_finishManual kept _ rest saved
  | true =>
      simp only [Bool.not_true, Bool.false_eq_true, if_false, known.id]
      refine Keeps.through (fun result world => match result with
        | .ok actual => journey.Saved stage (fun host =>
            journey.Supports stage host ∧ actual.image = host.web.image) world
        | .error _ => journey.Saved stage (journey.Supports stage) world)
        (Keeps.attempt ?_) (fun inspected => ?_) _ rest saved
      · refine (keeps_observe kept fun _ saved _ => saved).conseq (fun _ holds => holds) ?_
          fun _ failed => failed
        intro actual world saved
        refine saved.mono fun host holds => ?_
        rcases holds with ⟨supports, choice, rfl, image⟩
        exact ⟨supports, by simpa using image⟩
      · cases inspected with
        | error code => exact keeps_finishManual kept
        | ok actual =>
            cases complete : hasCompleteImageIdentity actual with
            | false =>
                simp only [complete, Bool.not_false, if_true]
                exact keeps_finishManual fun _ holds => holds.1
            | true =>
                simp only [complete, Bool.not_true, Bool.false_eq_true, if_false]
                exact keeps_recoverFrom known stageEq (stageEq ▸ terminal)

end Recovery

end Journey

/-- The world after one life of the manager's process. -/
def restart (world : World) (choices : List Choice) : World :=
  recover.leaves world choices

/-- An execution that may be cut off anywhere, and then any number of restarts. -/
def lives (taskId : String) (world : World) (execution : List Choice)
    (restarts : List (List Choice)) : World :=
  restarts.foldl restart ((execute taskId).leaves world execution)

namespace Journey

variable {journey : Journey}

/-- A process that keeps the promises leaves a recoverable world, whatever its surroundings do. -/
theorem Keeps.leaves_recoverable {start : World → Prop} {process : Process Unit}
    (keeps : journey.Keeps start process (fun _ => journey.Recoverable) journey.Recoverable)
    {world : World} (started : start world) (choices : List Choice) :
    journey.Recoverable (process.leaves world choices) :=
  (keeps_iff_guarded.mp keeps).leaves_of (fun _ _ holds => holds) started choices

theorem recoverable_restarts {world : World} (recoverable : journey.Recoverable world)
    (restarts : List (List Choice)) : journey.Recoverable (restarts.foldl restart world) := by
  induction restarts generalizing world with
  | nil => exact recoverable
  | cons choices rest ih => exact ih (keeps_recover.leaves_recoverable recoverable choices)

theorem recoverable_lives {world : World}
    (saved : journey.Saved .checking (journey.Supports .checking) world)
    (execution : List Choice) (restarts : List (List Choice)) :
    journey.Recoverable (lives journey.taskId world execution restarts) :=
  recoverable_restarts (keeps_execute.leaves_recoverable saved execution) restarts

end Journey

/-- However often an update is interrupted, a task saved as succeeded runs the target image under
the target's version, and a task saved as failed runs the original image under its version. -/
theorem finished_update_matches_host (world : World) (task : UpdateTask)
    (saved : world.state.task = some task) (checking : task.stage = .checking)
    (running : world.host.web = ⟨task.original.image, true⟩)
    (tagged : world.host.environmentTag = task.original.version)
    (execution : List Choice) (restarts : List (List Choice)) (final : UpdateTask)
    (savedFinally : (lives task.id world execution restarts).state.task = some final) :
    let host := (lives task.id world execution restarts).host
    (final.stage = .succeeded →
      host.environmentTag = task.target.version ∧ host.web = ⟨task.target.image, true⟩) ∧
    (final.stage = .failed →
      host.environmentTag = task.original.version ∧ host.web = ⟨task.original.image, true⟩) := by
  let journey : Journey := ⟨task.id, task.original.image, task.target.image⟩
  have unchanged : world.host = journey.before := by
    rw [Journey.before, show journey.original.version = world.host.environmentTag from tagged.symm,
      show journey.original = task.original.image from rfl, ← running]
  have started : journey.Saved .checking (journey.Supports .checking) world :=
    ⟨task, saved, ⟨rfl, rfl, rfl⟩, checking, unchanged⟩
  rcases Journey.recoverable_lives started execution restarts with
    ⟨stage, last, savedLast, known, stageEq, promise⟩
  obtain rfl : last = final := Option.some.inj (savedLast.symm.trans savedFinally)
  subst stageEq
  constructor
  · intro succeeded
    rw [succeeded] at promise
    have same : (lives task.id world execution restarts).host = journey.after := promise
    rw [same]
    exact ⟨rfl, rfl⟩
  · intro failed
    rw [failed] at promise
    have same : (lives task.id world execution restarts).host = journey.before := promise
    rw [same]
    exact ⟨rfl, rfl⟩

namespace Sample

def originalImage : ImageIdentity where
  repository := "ghcr.io/s450586793/finance-reconciliation-web"
  version := "v0.2.0"
  digest := "sha256:0a"
  imageId := "sha256:0b"
  tags := ["ghcr.io/s450586793/finance-reconciliation-web:v0.2.0"]

def targetImage : ImageIdentity where
  repository := "ghcr.io/s450586793/finance-reconciliation-web"
  version := "v0.3.0"
  digest := "sha256:1a"
  imageId := "sha256:1b"
  tags := ["ghcr.io/s450586793/finance-reconciliation-web:v0.3.0"]

def task : UpdateTask where
  id := "11111111-1111-4111-8111-111111111111"
  original := originalImage
  target := targetImage
  stage := .checking
  createdAt := 0

def world : World where
  state := { task := some task }
  host := ⟨"v0.2.0", ⟨originalImage.image, true⟩⟩

/-- Steps at which nothing goes wrong. -/
def calm (steps : ℕ) : List Choice := List.replicate steps { inspected := targetImage }

end Sample

/-- An update that dies before the version is persisted is completed by the next process; one that
dies after the target was started is undone by it. -/
theorem finished_update_matches_host_interrupted :
    (lives Sample.task.id Sample.world (Sample.calm 25) [Sample.calm 60]).host =
        ⟨"v0.3.0", ⟨Sample.targetImage.image, true⟩⟩ ∧
      (lives Sample.task.id Sample.world (Sample.calm 16) [Sample.calm 60]).host =
        ⟨"v0.2.0", ⟨Sample.originalImage.image, true⟩⟩ := by
  have completed : (lives Sample.task.id Sample.world (Sample.calm 25)
      [Sample.calm 60]).state.task.map (·.stage) = some .succeeded := by decide +kernel
  have undone : (lives Sample.task.id Sample.world (Sample.calm 16)
      [Sample.calm 60]).state.task.map (·.stage) = some .failed := by decide +kernel
  constructor
  · rcases Option.map_eq_some_iff.mp completed with ⟨final, saved, succeeded⟩
    have matched := (finished_update_matches_host Sample.world Sample.task rfl rfl rfl rfl
      (Sample.calm 25) [Sample.calm 60] final saved).1 succeeded
    exact Host.ext matched.1 matched.2
  · rcases Option.map_eq_some_iff.mp undone with ⟨final, saved, failed⟩
    have matched := (finished_update_matches_host Sample.world Sample.task rfl rfl rfl rfl
      (Sample.calm 16) [Sample.calm 60] final saved).2 failed
    exact Host.ext matched.1 matched.2

end Finrec.Updater
