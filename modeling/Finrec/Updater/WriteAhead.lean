import Finrec.Updater.PendingCleanup
import Finrec.Updater.StateRecords
import Finrec.Updater.WatchedManager

/-!
# The cleanup journal is written ahead

The steps of the cleanup are called from three places: an execution, the
recovery of one, and the completion of a pending cleanup.  Each goes on from the
journal that the state file holds, wherever the process before it was cut off.
-/

namespace Finrec.Updater

open CrashLogic UpdateManager StepJournals

section Slots

variable {slot old new : Option SlotRecord} {α β : Type}

def HasSlot (slot : Option SlotRecord) (world : World) : Prop := slotOf world = slot

/-- A process that leaves the id, the journal and the cleanup of the task alone. -/
abbrev KeepsSlot (slot : Option SlotRecord) (process : Process α) : Prop :=
  Guarded UpdaterError.safeCode? (HasSlot slot) (HasSlot slot) process (fun _ => HasSlot slot)
    (HasSlot slot)

theorem keepsSlot_bind {process : Process α} {next : α → Process β}
    (first : KeepsSlot slot process) (rest : ∀ value, KeepsSlot slot (next value)) :
    KeepsSlot slot (process >>= next) :=
  Guarded.bind first rest

theorem keepsSlot_pure {value : α} : KeepsSlot slot (pure value : Process α) :=
  Satisfies.pure fun _ has => has

theorem keepsSlot_raise {code : String} :
    KeepsSlot slot (Program.raise (.conflict code) : Process α) :=
  Guarded.raiseOther rfl fun _ has => has

theorem keepsSlot_attempt {process : Process α} (keeps : KeepsSlot slot process) :
    KeepsSlot slot (attempt process) :=
  Guarded.attempt (keeps.conseq (fun _ has => has) (fun _ _ has => has) fun _ has _ => has)

theorem keepsSlot_call {effect : Choice → Host → Host} {answer : Choice → α} :
    KeepsSlot slot (DockerPlatform.call effect answer) := by
  refine Satisfies.act (fun _ has => has) fun choice world has => ?_
  have affected : HasSlot slot { world with host := effect choice world.host } := has
  by_cases dies : choice.dies
  · simp only [dies, if_true]
    split
    · exact affected
    · exact has
  · simp only [dies]
    cases raises : choice.raises with
    | none => exact affected
    | some code =>
        by_cases applied : choice.applied
        · simp only [applied]
          exact affected
        · simp only [applied]
          exact has

theorem keepsSlot_observe {possible : Choice → Host → Bool} {code : String} {answer : Choice → α} :
    KeepsSlot slot (DockerPlatform.observe possible code answer) :=
  (guarded_observe (fun _ has => has) fun _ has => has).conseq (fun _ has => has)
    (fun _ _ answered => answered.2) fun _ has => has

theorem keepsSlot_now : KeepsSlot slot now := guarded_now fun _ has => has

/-- A save moves the slot to what it saves. -/
theorem moves_saveState {state : PersistentState} (saves : state.task.map UpdateTask.record = new) :
    Guarded UpdaterError.safeCode? (fun world => HasSlot old world ∨ HasSlot new world)
      (HasSlot old) (saveState state) (fun _ => HasSlot new) (HasSlot old) :=
  guarded_saveState (fun _ has => .inl has) (fun _ has => .inr has) fun _ _ => saves

theorem moves_saveTask {task : UpdateTask} (saves : some task.record = new) :
    Guarded UpdaterError.safeCode? (fun world => HasSlot old world ∨ HasSlot new world)
      (HasSlot old) (saveTask task) (fun _ => HasSlot new) (HasSlot old) := by
  refine Guarded.bind guarded_loadState fun state => ?_
  refine guarded_saveState (fun _ started => .inl started.1) (fun _ has => .inr has) ?_
  intro world _
  exact saves

theorem keepsSlot_saveTask {task : UpdateTask} (same : some task.record = slot) :
    KeepsSlot slot (saveTask task) := by
  refine Guarded.bind guarded_loadState fun state => ?_
  refine guarded_saveState (fun _ started => started.1) (fun _ has => has) ?_
  intro world _
  exact same

/-- A task that was loaded is the one in the slot. -/
theorem loads_taskOf (taskId : String) :
    Guarded UpdaterError.safeCode? (HasSlot slot) (HasSlot slot) (taskOf taskId)
      (fun task world => HasSlot slot world ∧ some task.record = slot) (HasSlot slot) := by
  refine Guarded.bind guarded_loadState fun state => ?_
  rintro world choices ⟨has, rfl⟩
  simp only [requireTask]
  cases saved : world.state.task with
  | none => exact has
  | some task =>
      simp only
      split
      · refine ⟨has, ?_⟩
        rw [← has, slotOf, saved]
        rfl
      · exact has

theorem keepsSlot_taskOf {taskId : String} {next : UpdateTask → Process β}
    (rest : ∀ task, some task.record = slot → KeepsSlot slot (next task)) :
    KeepsSlot slot (taskOf taskId >>= next) := by
  refine Guarded.bind (loads_taskOf taskId) fun task => ?_
  rintro world choices ⟨has, same⟩
  exact rest task same world choices has

theorem keepsSlot_checkpoint (taskId : String) (stage : Stage) :
    KeepsSlot slot (checkpoint taskId stage) := by
  refine keepsSlot_taskOf fun task same => ?_
  cases task.startedAt with
  | some startedAt => exact keepsSlot_saveTask same
  | none => exact keepsSlot_bind keepsSlot_now fun _ => keepsSlot_saveTask same

theorem keepsSlot_finishFailed (taskId code : String) (rolledBack : Bool) :
    KeepsSlot slot (finishFailed taskId code rolledBack) := by
  refine keepsSlot_taskOf fun task same => ?_
  exact keepsSlot_bind keepsSlot_now fun _ => keepsSlot_saveTask same

theorem keepsSlot_finishManual (taskId : String) : KeepsSlot slot (finishManual taskId) := by
  refine keepsSlot_taskOf fun task same => ?_
  exact keepsSlot_bind keepsSlot_now fun _ => keepsSlot_saveTask same

theorem keepsSlot_health (expected : ImageIdentity) (attempts : ℕ) :
    KeepsSlot slot (healthAttempts expected attempts) := by
  induction attempts with
  | zero => exact keepsSlot_pure
  | succ left ih =>
      cases left with
      | zero => exact keepsSlot_observe
      | succ left =>
          refine keepsSlot_bind (keepsSlot_attempt keepsSlot_observe) fun healthy => ?_
          cases healthy with
          | ok _ => exact keepsSlot_pure
          | error code => exact ih

theorem keepsSlot_stabilize (taskId : String) : KeepsSlot slot (stabilize taskId) := by
  refine keepsSlot_bind (keepsSlot_checkpoint taskId _) fun _ => ?_
  have rounds (left : ℕ) : KeepsSlot slot (stabilizeRounds taskId left) := by
    induction left with
    | zero => exact keepsSlot_pure
    | succ left ih =>
        refine keepsSlot_bind (keepsSlot_checkpoint taskId _) fun _ => ?_
        refine keepsSlot_taskOf fun task _ => ?_
        exact keepsSlot_bind keepsSlot_observe fun _ => ih
  exact rounds 3

theorem keepsSlot_requireReadyTask (taskId : String) :
    KeepsSlot slot (requireReadyTask taskId) := by
  refine keepsSlot_taskOf fun task _ => ?_
  split
  · exact keepsSlot_pure
  · exact keepsSlot_raise

theorem keepsSlot_prepareUpdate (taskId : String) : KeepsSlot slot (prepareUpdate taskId) := by
  refine keepsSlot_bind (keepsSlot_checkpoint taskId _) fun _ => ?_
  refine keepsSlot_bind keepsSlot_observe fun backups => ?_
  refine keepsSlot_bind (keepsSlot_taskOf fun task same => keepsSlot_saveTask same) fun _ => ?_
  refine keepsSlot_bind (keepsSlot_checkpoint taskId _) fun _ => ?_
  refine keepsSlot_taskOf fun task _ => ?_
  refine keepsSlot_bind keepsSlot_observe fun _ => ?_
  refine keepsSlot_bind (keepsSlot_checkpoint taskId _) fun _ => ?_
  refine keepsSlot_taskOf fun task same => ?_
  refine Guarded.bind (guarded_observe (fun _ has => has) fun _ has => has) fun tagged => ?_
  rintro world choices ⟨⟨choice, rfl⟩, has⟩
  refine keepsSlot_bind (keepsSlot_saveTask ?_) (fun _ => keepsSlot_checkpoint taskId _) world
    choices has
  exact same

theorem keepsSlot_replaceWeb (taskId : String) : KeepsSlot slot (replaceWeb taskId) := by
  refine keepsSlot_bind keepsSlot_call fun _ => ?_
  refine keepsSlot_bind (keepsSlot_checkpoint taskId _) fun _ => ?_
  refine keepsSlot_taskOf fun task _ => ?_
  refine keepsSlot_bind keepsSlot_observe fun _ => ?_
  refine keepsSlot_bind (keepsSlot_checkpoint taskId _) fun _ => ?_
  refine keepsSlot_taskOf fun task _ => ?_
  refine keepsSlot_bind keepsSlot_call fun _ => ?_
  refine keepsSlot_bind (keepsSlot_checkpoint taskId _) fun _ => ?_
  refine keepsSlot_taskOf fun task _ => ?_
  refine keepsSlot_bind (keepsSlot_health task.target _) fun _ => ?_
  refine keepsSlot_bind (keepsSlot_stabilize taskId) fun _ => ?_
  refine keepsSlot_bind (keepsSlot_checkpoint taskId _) fun _ => ?_
  exact keepsSlot_taskOf fun task _ => keepsSlot_call

theorem keepsSlot_persistAfterCheckpoint (taskId version : String) (stage : Stage)
    (wanted : Bool) : KeepsSlot slot (persistAfterCheckpoint taskId stage version wanted) := by
  rw [persistAfterCheckpoint]
  split
  · exact keepsSlot_bind (keepsSlot_checkpoint taskId _) fun _ => keepsSlot_call
  · exact keepsSlot_pure

theorem keepsSlot_restoreOriginal (taskId : String) (stage : Stage) (restore : Bool) :
    KeepsSlot slot (restoreOriginal taskId stage restore) := by
  refine keepsSlot_taskOf fun task _ => ?_
  refine keepsSlot_bind keepsSlot_call fun _ => ?_
  refine keepsSlot_bind (keepsSlot_checkpoint taskId _) fun _ => ?_
  refine keepsSlot_bind (keepsSlot_health task.original _) fun _ => ?_
  exact keepsSlot_persistAfterCheckpoint taskId _ stage restore

theorem keepsSlot_rollbackToOriginal (taskId code : String) (restore preserve : Bool) :
    KeepsSlot slot (rollbackToOriginal taskId code restore preserve) := by
  refine keepsSlot_taskOf fun task same => ?_
  refine keepsSlot_bind (keepsSlot_saveTask same) fun _ => ?_
  refine keepsSlot_bind (keepsSlot_attempt (keepsSlot_restoreOriginal taskId _ _))
    fun restored => ?_
  cases restored with
  | error caught => exact keepsSlot_finishManual taskId
  | ok _ => exact keepsSlot_finishFailed taskId code true

theorem keepsSlot_handleFailure (taskId code : String) (webWasStopped : Bool) :
    KeepsSlot slot (handleFailure taskId code webWasStopped) := by
  rw [handleFailure]
  split
  · exact keepsSlot_taskOf fun task _ => keepsSlot_rollbackToOriginal taskId code _ _
  · exact keepsSlot_finishFailed taskId code false

theorem keepsSlot_confirmTarget (taskId : String) (stage : Stage) (persist : Bool) :
    KeepsSlot slot (confirmTarget taskId stage persist) := by
  refine keepsSlot_bind (keepsSlot_checkpoint taskId _) fun _ => ?_
  refine keepsSlot_taskOf fun task _ => ?_
  refine keepsSlot_bind keepsSlot_observe fun _ => ?_
  exact keepsSlot_persistAfterCheckpoint taskId _ _ persist

theorem keepsSlot_enterCleaning (taskId : String) (stage : Stage) :
    KeepsSlot slot (enterCleaning taskId stage) := by
  rw [enterCleaning]
  split
  · exact keepsSlot_checkpoint taskId _
  · exact keepsSlot_pure

theorem keepsSlot_recoverBeforeTag (task : UpdateTask) :
    KeepsSlot slot (recoverBeforeTag task) := by
  refine keepsSlot_bind (keepsSlot_checkpoint task.id _) fun _ => ?_
  refine keepsSlot_taskOf fun current _ => ?_
  refine keepsSlot_bind (keepsSlot_attempt keepsSlot_observe) fun healthy => ?_
  cases healthy with
  | error code => exact keepsSlot_finishManual task.id
  | ok _ => exact keepsSlot_finishFailed task.id _ false

theorem keepsSlot_loadState : KeepsSlot slot loadState :=
  guarded_loadState.conseq (fun _ has => has) (fun _ _ loaded => loaded.1) fun _ has => has

end Slots

/-! ## Notes of a change -/

section Notes

variable {id : String} {journal changed : CleanupJournal} {step : CleanupStep}

theorem mem_earlier {earlier : CleanupStep} (before : earlier < step) : earlier ∈ step.earlier := by
  cases earlier <;> cases step <;> first | decide | exact absurd before (by decide)

theorem toStatus_inj {left right : CleanupStepStatus} :
    left.toStatus = right.toStatus ↔ left = right := by
  cases left <;> cases right <;> decide

theorem progress_replace {status : CleanupStepStatus} (cleanup : CleanupStatus)
    (replaced : journal.replace step status = some changed) :
    progress (some ⟨id, some changed, cleanup⟩) =
      Function.update (progress (some ⟨id, some journal, cleanup⟩)) step status.toStatus := by
  have built {tag alias_ image : CleanupStepStatus}
      (built : CleanupJournal.build tag alias_ image = some changed) :
      tag = changed.versionTag ∧ alias_ = changed.rollbackAlias ∧ image = changed.imageId :=
    CleanupJournal.build_eq_some_iff.mp built
  funext other
  cases step with
  | versionTag =>
      obtain ⟨tag, alias_, image⟩ := built replaced
      cases other <;> simp [progress, CleanupJournal.status, tag, alias_, image]
  | rollbackAlias =>
      obtain ⟨tag, alias_, image⟩ := built replaced
      cases other <;> simp [progress, CleanupJournal.status, tag, alias_, image]
  | imageId =>
      obtain ⟨tag, alias_, image⟩ := built replaced
      cases other <;> simp [progress, CleanupJournal.status, tag, alias_, image]

theorem progress_status (id : String) (journal : CleanupJournal) (cleanup : CleanupStatus)
    (step : CleanupStep) :
    progress (some ⟨id, some journal, cleanup⟩) step = (journal.status step).toStatus := rfl

theorem progress_cleanup (id : String) (journal : Option CleanupJournal)
    (before after : CleanupStatus) :
    progress (some ⟨id, journal, after⟩) = progress (some ⟨id, journal, before⟩) := by
  cases journal <;> rfl

theorem stepEvents_update {status : CleanupStep → Status} {changed : Status}
    (other : status step ≠ changed) :
    stepEvents status (Function.update status step changed) =
      (stepEvent status (Function.update status step changed) step).toList := by
  cases step with
  | versionTag =>
      simp [stepEvents, List.filterMap_cons, stepEvent, other]
      cases changed <;> rfl
  | rollbackAlias =>
      simp [stepEvents, List.filterMap_cons, stepEvent, other]
      cases changed <;> rfl
  | imageId =>
      simp [stepEvents, List.filterMap_cons, stepEvent, other]
      cases changed <;> rfl

theorem changes_replace {status : CleanupStepStatus} (cleanup : CleanupStatus)
    (replaced : journal.replace step status = some changed)
    (other : journal.status step ≠ status) :
    changes (some ⟨id, some journal, cleanup⟩) (some ⟨id, some changed, cleanup⟩) =
      (stepEvent (progress (some ⟨id, some journal, cleanup⟩))
        (progress (some ⟨id, some changed, cleanup⟩)) step).toList := by
  have different : progress (some ⟨id, some journal, cleanup⟩) step ≠ status.toStatus := by
    rw [progress_status]
    exact fun same => other (toStatus_inj.mp same)
  have open_ : closing (some ⟨id, some journal, cleanup⟩) (some ⟨id, some changed, cleanup⟩) =
      [] := by
    cases cleanup <;> rfl
  have sameId : Option.map SlotRecord.id (some ⟨id, some journal, cleanup⟩) =
      Option.map SlotRecord.id (some ⟨id, some changed, cleanup⟩) := rfl
  rw [changes, if_pos sameId, open_, List.append_nil, progress_replace cleanup replaced]
  exact stepEvents_update different

theorem accepts_started (cleanup : CleanupStatus) (ready : journal.Ready step)
    (fresh : journal.status step = .notStarted)
    (replaced : journal.replace step .started = some changed) :
    Accepts (progress (some ⟨id, some journal, cleanup⟩))
      (changes (some ⟨id, some journal, cleanup⟩) (some ⟨id, some changed, cleanup⟩))
      (progress (some ⟨id, some changed, cleanup⟩)) := by
  have begun : progress (some ⟨id, some changed, cleanup⟩) =
      Function.update (progress (some ⟨id, some journal, cleanup⟩)) step .started :=
    progress_replace cleanup replaced
  rw [changes_replace cleanup replaced (by rw [fresh]; decide), stepEvent, begun,
    Function.update_self, progress_status, fresh]
  apply Accepts.single
  apply Advances.started
  · rw [progress_status, fresh]
    rfl
  · intro earlier before
    rw [progress_status, ready earlier (mem_earlier before)]
    rfl

theorem marked_progress (cleanup : CleanupStatus) (ready : journal.Ready step)
    (begun : journal.status step = .started) :
    Marked (progress (some ⟨id, some journal, cleanup⟩)) step := by
  constructor
  · rw [progress_status, begun]
    rfl
  · intro earlier before
    rw [progress_status, ready earlier (mem_earlier before)]
    rfl

theorem accepts_completed (cleanup : CleanupStatus) (ready : journal.Ready step)
    (begun : journal.status step = .started)
    (replaced : journal.replace step .completed = some changed) :
    Accepts (progress (some ⟨id, some journal, cleanup⟩))
      (changes (some ⟨id, some journal, cleanup⟩) (some ⟨id, some changed, cleanup⟩))
      (progress (some ⟨id, some changed, cleanup⟩)) := by
  have done : progress (some ⟨id, some changed, cleanup⟩) =
      Function.update (progress (some ⟨id, some journal, cleanup⟩)) step .completed :=
    progress_replace cleanup replaced
  rw [changes_replace cleanup replaced (by rw [begun]; decide), stepEvent, done,
    Function.update_self, progress_status, begun]
  apply Accepts.single
  exact .completed (marked_progress cleanup ready begun)

/-- The cleanup becomes complete only with every step. -/
theorem accepts_cleanup {journal : Option CleanupJournal} {before after : CleanupStatus}
    (allowed : after = .complete →
      ∀ step, progress (some ⟨id, journal, before⟩) step = .completed) :
    Accepts (progress (some ⟨id, journal, before⟩))
      (changes (some ⟨id, journal, before⟩) (some ⟨id, journal, after⟩))
      (progress (some ⟨id, journal, after⟩)) := by
  have sameId : Option.map SlotRecord.id (some ⟨id, journal, before⟩) =
      Option.map SlotRecord.id (some ⟨id, journal, after⟩) := rfl
  rw [changes, if_pos sameId, progress_cleanup id journal before after, stepEvents_self,
    List.nil_append, closing, progress_cleanup id journal before after]
  split
  · rename_i closes
    have complete : after = .complete := by
      simp only [isCleaned, Option.any_some, Bool.and_eq_true, decide_eq_true_eq] at closes
      exact closes.1
    exact Accepts.single (.finished (allowed complete))
  · exact .nil _

/-- A new task has a journal in which nothing is begun. -/
theorem accepts_opened {old : Option SlotRecord} {checked : CheckResult} {taskId : String}
    {createdAt : ℤ} (another : ∀ record, old = some record → record.id ≠ taskId) :
    Accepts (progress old) (changes old (some (newTask checked taskId createdAt).record))
      (progress (some (newTask checked taskId createdAt).record)) := by
  have different : old.map SlotRecord.id ≠ some taskId := by
    intro same
    obtain ⟨record, found, id⟩ := Option.map_eq_some_iff.mp same
    exact another record found id
  have fresh : progress (some (newTask checked taskId createdAt).record) =
      fun _ => Status.notStarted := by
    funext step
    cases step <;> rfl
  rw [changes, if_neg (by exact different), fresh, stepEvents_self]
  exact .cons (.opened _) (.nil _)

end Notes

/-! ## Observed operations -/

section Watched

open Watched

variable {first : CleanupStep → Status} {slot old new : Option SlotRecord} {α β : Type}
  {taskId : String}

/-- The log leads to the journal of the slot. -/
def Stands (first : CleanupStep → Status) (slot : Option SlotRecord)
    (here : Observed World CleanupEvent) : Prop :=
  HasSlot slot here.state ∧ Accepts first here.log (progress slot)

def Accounted (first : CleanupStep → Status) (here : Observed World CleanupEvent) : Prop :=
  Accepts first here.log (progress (slotOf here.state))

theorem Stands.accounted {here : Observed World CleanupEvent} (stands : Stands first slot here) :
    Accounted first here := by
  rw [Accounted, stands.1]
  exact stands.2

/-- A process under observation, from a slot to whatever its result tells. -/
abbrev Watches (first : CleanupStep → Status) (slot : Option SlotRecord) (watched : Watched α)
    (returns : α → Observed World CleanupEvent → Prop) : Prop :=
  Guarded UpdaterError.safeCode? (Accounted first) (Stands first slot) watched returns
    (Stands first slot)

theorem Stands.noted {here : Observed World CleanupEvent} {after : World}
    (stands : Stands first old here) (has : HasSlot new after)
    (accepts : Accepts (progress old) (changes old new) (progress new)) :
    Stands first new ⟨after, here.log ++ changes (slotOf here.state) (slotOf after)⟩ := by
  refine ⟨has, ?_⟩
  rw [stands.1, has]
  exact stands.2.append accepts

theorem Stands.unnoted {here : Observed World CleanupEvent} {after : World}
    (stands : Stands first slot here) (has : HasSlot slot after) :
    Stands first slot ⟨after, here.log ++ changes (slotOf here.state) (slotOf after)⟩ := by
  apply stands.noted has
  rw [changes_self]
  exact .nil _

/-- Whatever leaves the slot alone adds nothing to the log. -/
theorem watches_keeps {process : Process α} {facts : α → Prop}
    (keeps : Guarded UpdaterError.safeCode? (HasSlot slot) (HasSlot slot) process
      (fun value world => HasSlot slot world ∧ facts value) (HasSlot slot)) :
    Watches first slot (watch process) fun value here => Stands first slot here ∧ facts value := by
  refine keeps.noting (fun _ stands => stands.1) ?_ ?_ ?_
  · intro here after stands has
    exact (stands.unnoted has).accounted
  · rintro here value after stands ⟨has, holds⟩
    exact ⟨stands.unnoted has, holds⟩
  · intro here after stands has
    exact stands.unnoted has

theorem watches_keepsSlot {process : Process α} (keeps : KeepsSlot slot process) :
    Watches first slot (watch process) fun _ => Stands first slot := by
  refine Guarded.noting keeps (fun _ stands => stands.1) ?_ ?_ ?_
  · intro here after stands has
    exact (stands.unnoted has).accounted
  · intro here value after stands has
    exact stands.unnoted has
  · intro here after stands has
    exact stands.unnoted has

/-- A save adds the notes of its change. -/
theorem watches_moves {process : Process α}
    (moves : Guarded UpdaterError.safeCode? (fun world => HasSlot old world ∨ HasSlot new world)
      (HasSlot old) process (fun _ => HasSlot new) (HasSlot old))
    (accepts : Accepts (progress old) (changes old new) (progress new)) :
    Watches first old (watch process) fun _ => Stands first new := by
  refine Guarded.noting moves (fun _ stands => stands.1) ?_ ?_ ?_
  · rintro here after stands (has | has)
    · exact (stands.unnoted has).accounted
    · exact (stands.noted has accepts).accounted
  · intro here value after stands has
    exact stands.noted has accepts
  · intro here after stands has
    exact stands.unnoted has

theorem watches_taskOf {next : UpdateTask → Watched β}
    {returns : β → Observed World CleanupEvent → Prop}
    (rest : ∀ task, some task.record = slot → Watches first slot (next task) returns) :
    Watches first slot (watch (taskOf taskId) >>= next) returns := by
  refine Guarded.bind (watches_keeps (loads_taskOf taskId)) fun task => ?_
  rintro here choices ⟨stands, same⟩
  exact rest task same here choices stands

theorem watches_saveJournal {task : UpdateTask} {changed : CleanupJournal}
    (accepts : Accepts (progress old) (changes old (some ⟨task.id, some changed, task.cleanup⟩))
      (progress (some ⟨task.id, some changed, task.cleanup⟩))) :
    Watches first old (saveJournal task (some changed)) fun _ =>
      Stands first (some ⟨task.id, some changed, task.cleanup⟩) :=
  watches_moves (moves_saveTask rfl) accepts

/-- The journal stands in the slot, with the steps before a step completed. -/
def Cleaning (first : CleanupStep → Status) (facts : CleanupJournal → Prop)
    (here : Observed World CleanupEvent) : Prop :=
  ∃ id journal cleanup, Stands first (some ⟨id, some journal, cleanup⟩) here ∧ facts journal

theorem Cleaning.accounted {facts : CleanupJournal → Prop} {here : Observed World CleanupEvent}
    (cleaning : Cleaning first facts here) : Accounted first here := by
  obtain ⟨id, journal, cleanup, stands, -⟩ := cleaning
  exact stands.accounted

/-- A part of a cleanup, in which every error ends the process. -/
abbrev Accounts (first : CleanupStep → Status) (start : Observed World CleanupEvent → Prop)
    (watched : Watched α) (returns : α → Observed World CleanupEvent → Prop) : Prop :=
  Guarded UpdaterError.safeCode? (Accounted first) start watched returns (Accounted first)

theorem accounts_of_watches {watched : Watched α}
    {returns : α → Observed World CleanupEvent → Prop}
    (watches : Watches first slot watched returns) :
    Accounts first (Stands first slot) watched returns :=
  watches.conseq (fun _ stands => stands) (fun _ _ returned => returned)
    fun _ stands => stands.accounted

theorem accounts_from {facts : CleanupJournal → Prop} {watched : Watched α}
    {returns : α → Observed World CleanupEvent → Prop}
    (rest : ∀ id journal cleanup, facts journal →
      Accounts first (Stands first (some ⟨id, some journal, cleanup⟩)) watched returns) :
    Accounts first (Cleaning first facts) watched returns := by
  rintro here choices ⟨id, journal, cleanup, stands, holds⟩
  exact rest id journal cleanup holds here choices stands

/-- A round of the loop: with `true` it goes on. -/
def Continues (first : CleanupStep → Status) (facts : CleanupJournal → Prop) (goOn : Bool)
    (here : Observed World CleanupEvent) : Prop :=
  Accounted first here ∧ (goOn = true → Cleaning first facts here)

theorem continues_true {facts : CleanupJournal → Prop} {here : Observed World CleanupEvent}
    (cleaning : Cleaning first facts here) : Continues first facts true here :=
  ⟨cleaning.accounted, fun _ => cleaning⟩

theorem accounts_stop {facts : CleanupJournal → Prop} {start : Observed World CleanupEvent → Prop}
    (accounted : ∀ here, start here → Accounted first here) :
    Accounts first start (pure false : Watched Bool) (Continues first facts) :=
  Satisfies.pure fun here started => ⟨accounted here started, fun impossible => by cases impossible⟩

section Steps

variable {id : String} {journal : CleanupJournal} {cleanup : CleanupStatus} {task : UpdateTask}
  {step : CleanupStep}

theorem accounts_startStep (same : some task.record = some ⟨id, some journal, cleanup⟩)
    (ready : journal.Ready step) (undone : journal.status step ≠ .completed) :
    Accounts first (Stands first (some ⟨id, some journal, cleanup⟩)) (startStep task journal step)
      fun _ => Cleaning first fun journal =>
        journal.Ready step ∧ journal.status step = .started := by
  simp only [UpdateTask.record, Option.some.injEq, SlotRecord.mk.injEq] at same
  obtain ⟨rfl, -, rfl⟩ := same
  rw [Watched.startStep]
  split
  · rename_i fresh
    obtain ⟨changed, replaced, stillReady, begun⟩ :=
      CleanupJournal.replace_of_ready ready undone .started
    rw [replaced]
    have accepts : Accepts (progress (some ⟨task.id, some journal, task.cleanup⟩))
        (changes (some ⟨task.id, some journal, task.cleanup⟩)
          (some ⟨task.id, some changed, task.cleanup⟩))
        (progress (some ⟨task.id, some changed, task.cleanup⟩)) :=
      accepts_started task.cleanup ready fresh replaced
    refine (accounts_of_watches (watches_saveJournal accepts)).conseq (fun _ stands => stands) ?_
      fun _ accounted => accounted
    intro _ here stands
    exact ⟨_, changed, _, stands, stillReady, begun⟩
  · rename_i notFresh
    have begun : journal.status step = .started := by
      cases status : journal.status step with
      | notStarted => exact absurd status notFresh
      | started => rfl
      | completed => exact absurd status undone
    exact Satisfies.pure fun here stands => ⟨_, journal, _, stands, ready, begun⟩

theorem accounts_completeStep (ready : journal.Ready step)
    (begun : journal.status step = .started) :
    Accounts first (Stands first (some ⟨id, some journal, cleanup⟩)) (completeStep taskId step)
      (Continues first fun journal => journal.status step = .completed) := by
  apply accounts_of_watches
  refine watches_taskOf fun task same => ?_
  simp only [UpdateTask.record, Option.some.injEq, SlotRecord.mk.injEq] at same
  obtain ⟨rfl, known, rfl⟩ := same
  rw [known]
  simp only [begun, if_true]
  have undone : journal.status step ≠ .completed := by
    rw [begun]
    decide
  obtain ⟨changed, replaced, -, done⟩ := CleanupJournal.replace_of_ready ready undone .completed
  rw [replaced]
  have accepts : Accepts (progress (some ⟨task.id, some journal, task.cleanup⟩))
      (changes (some ⟨task.id, some journal, task.cleanup⟩)
        (some ⟨task.id, some changed, task.cleanup⟩))
      (progress (some ⟨task.id, some changed, task.cleanup⟩)) :=
    accepts_completed task.cleanup ready begun replaced
  refine Guarded.bind (watches_saveJournal accepts) fun _ => Satisfies.pure ?_
  intro here stands
  exact continues_true ⟨_, changed, _, stands, done⟩

theorem watches_cleanupOriginalStep (ready : journal.Ready step)
    (begun : journal.status step = .started) :
    Watches first (some ⟨id, some journal, cleanup⟩) (Watched.cleanupOriginalStep task step)
      fun _ => Stands first (some ⟨id, some journal, cleanup⟩) := by
  have called {here : Observed World CleanupEvent} {after : World}
      (stands : Stands first (some ⟨id, some journal, cleanup⟩) here)
      (has : HasSlot (some ⟨id, some journal, cleanup⟩) after) :
      Stands first (some ⟨id, some journal, cleanup⟩) ⟨after, here.log ++
        .called step (progress (slotOf here.state)) ::
          changes (slotOf here.state) (slotOf after)⟩ := by
    refine ⟨has, ?_⟩
    rw [stands.1, has, changes_self]
    exact stands.2.append (Accepts.single (.called (marked_progress cleanup ready begun)))
  have keeps : KeepsSlot (some ⟨id, some journal, cleanup⟩)
      (DockerPlatform.cleanupOriginalStep task step) := keepsSlot_observe
  refine Guarded.noting keeps (fun _ stands => stands.1) ?_ ?_ ?_
  · intro here after stands has
    exact (called stands has).accounted
  · intro here value after stands has
    exact called stands has
  · intro here after stands has
    exact called stands has

theorem accounts_cleanupStep (ready : journal.Ready step) :
    Accounts first (Stands first (some ⟨id, some journal, cleanup⟩))
      (Watched.cleanupStep taskId step)
      (Continues first fun journal => journal.status step = .completed) := by
  refine Guarded.bind (accounts_of_watches (watches_keeps (loads_taskOf taskId))) fun task => ?_
  rintro here choices ⟨stands, same⟩
  have known : task.cleanupJournal = some journal := by
    simp only [UpdateTask.record, Option.some.injEq, SlotRecord.mk.injEq] at same
    exact same.2.1
  revert here choices
  rw [known]
  simp only
  split
  · rename_i done
    intro here choices stands
    exact continues_true ⟨_, journal, _, stands, done⟩
  · rename_i undone
    intro here choices stands
    refine Guarded.bind (accounts_startStep same ready undone) (fun _ => ?_) here choices stands
    refine accounts_from ?_
    rintro id journal cleanup ⟨ready, begun⟩
    refine Guarded.bind (accounts_of_watches (watches_keepsSlot ?_)) fun started => ?_
    · exact (loads_taskOf taskId).conseq (fun _ has => has) (fun _ _ loaded => loaded.1)
        fun _ has => has
    have attempted : Accounts first (Stands first (some ⟨id, some journal, cleanup⟩))
        (Watched.attempt (Watched.cleanupOriginalStep started step))
        fun _ => Stands first (some ⟨id, some journal, cleanup⟩) :=
      Guarded.attempt ((watches_cleanupOriginalStep ready begun).conseq
        (fun _ stands => stands) (fun _ _ stands => stands) fun _ stands _ => stands)
    refine Guarded.bind attempted fun called => ?_
    cases called with
    | error code => exact accounts_stop fun _ stands => stands.accounted
    | ok _ => exact accounts_completeStep ready begun

end Steps

theorem ready_versionTag (journal : CleanupJournal) : journal.Ready .versionTag := by
  intro other member
  cases member

theorem ready_rollbackAlias {journal : CleanupJournal}
    (done : journal.status .versionTag = .completed) : journal.Ready .rollbackAlias := by
  intro other member
  rw [List.mem_singleton.mp member]
  exact done

theorem ready_imageId {journal : CleanupJournal}
    (done : journal.status .rollbackAlias = .completed) : journal.Ready .imageId := by
  have aliasDone : journal.rollbackAlias = .completed := done
  have tagDone : journal.versionTag = .completed := journal.aliasAfterTag (by simp [aliasDone])
  intro other member
  simp only [CleanupStep.earlier, List.mem_cons, List.not_mem_nil, or_false] at member
  rcases member with rfl | rfl
  · exact tagDone
  · exact aliasDone

theorem all_completed {journal : CleanupJournal} (done : journal.imageId = .completed) (id : String)
    (cleanup : CleanupStatus) (step : CleanupStep) :
    progress (some ⟨id, some journal, cleanup⟩) step = .completed := by
  have aliasDone : journal.rollbackAlias = .completed := journal.imageAfterAlias (by simp [done])
  have tagDone : journal.versionTag = .completed := journal.aliasAfterTag (by simp [aliasDone])
  rw [progress_status]
  cases step <;> simp [CleanupJournal.status, tagDone, aliasDone, done, CleanupStepStatus.toStatus]

/-- A round of the loop, and the rounds after it. -/
theorem accounts_step_cons {step : CleanupStep} {rest : List CleanupStep}
    {facts done : CleanupJournal → Prop} (ready : ∀ journal, facts journal → journal.Ready step)
    (goesOn : Accounts first (Cleaning first fun journal => journal.status step = .completed)
      (Watched.cleanupSteps taskId rest) (Continues first done)) :
    Accounts first (Cleaning first facts) (Watched.cleanupSteps taskId (step :: rest))
      (Continues first done) := by
  refine accounts_from fun id journal cleanup holds => ?_
  refine Guarded.bind (accounts_cleanupStep (ready journal holds)) fun goOn => ?_
  cases goOn with
  | true =>
      refine Satisfies.weaken goesOn ?_
      rintro here ⟨-, continues⟩
      exact continues rfl
  | false => exact accounts_stop fun _ continues => continues.1

theorem accounts_cleanupSteps :
    Accounts first (Cleaning first fun _ => True)
      (Watched.cleanupSteps taskId [.versionTag, .rollbackAlias, .imageId])
      (Continues first fun journal => journal.imageId = .completed) := by
  apply accounts_step_cons fun journal _ => ready_versionTag journal
  apply accounts_step_cons fun journal done => ready_rollbackAlias done
  apply accounts_step_cons fun journal done => ready_imageId done
  exact Satisfies.pure fun here cleaning => continues_true cleaning

/-- After a cleanup that says it is complete, every step is completed. -/
theorem accounts_cleanupOriginal :
    Accounts first (Stands first slot) (Watched.cleanupOriginal taskId)
      (Continues first fun journal => journal.imageId = .completed) := by
  refine Guarded.bind (accounts_of_watches (watches_keeps (loads_taskOf taskId))) fun task => ?_
  rintro here choices ⟨stands, rfl⟩
  revert here choices
  cases known : task.cleanupJournal with
  | none =>
      intro here choices stands
      exact accounts_stop (fun _ stands => stands.accounted) here choices stands
  | some journal =>
      have marked : Watches first (some task.record) (watch (markPending task)) fun _ =>
          Cleaning first fun _ => True := by
        have record : task.record = ⟨task.id, some journal, task.cleanup⟩ := by
          rw [UpdateTask.record, known]
        rw [markPending, record]
        split
        · refine (watches_moves (moves_saveTask rfl) ?_).conseq (fun _ stands => stands) ?_
            fun _ stands => stands
          · rw [UpdateTask.record, known]
            exact accepts_cleanup fun impossible => by cases impossible
          · intro _ here stands
            rw [UpdateTask.record, known] at stands
            exact ⟨_, journal, _, stands, trivial⟩
        · refine (watches_keepsSlot keepsSlot_pure).conseq (fun _ stands => stands) ?_
            fun _ stands => stands
          intro _ here stands
          exact ⟨_, journal, _, stands, trivial⟩
      exact Guarded.bind (accounts_of_watches marked) fun _ => accounts_cleanupSteps

def closed (complete : Bool) (record : SlotRecord) : SlotRecord :=
  { record with cleanup := if complete then .complete else .pending }

theorem moves_commitSuccess (complete : Bool) :
    Guarded UpdaterError.safeCode?
      (fun world => HasSlot slot world ∨ HasSlot (slot.map (closed complete)) world)
      (HasSlot slot) (commitSuccess taskId complete)
      (fun _ => HasSlot (slot.map (closed complete))) (HasSlot slot) := by
  have inside (world : World) (has : HasSlot slot world) :
      HasSlot slot world ∨ HasSlot (slot.map (closed complete)) world := .inl has
  refine Guarded.bind ((loads_taskOf taskId).widen inside) fun task => ?_
  rintro world choices ⟨has, rfl⟩
  refine Guarded.bind (keepsSlot_now.widen inside) (fun finishedAt => ?_) world choices has
  refine Guarded.bind (keepsSlot_now.widen inside) fun checkedAt => ?_
  exact moves_saveState rfl

/-- The success is saved with the cleanup as it came out. -/
theorem accounts_commitSuccess (complete : Bool) :
    Accounts first (Continues first (fun journal => journal.imageId = .completed) complete)
      (watch (commitSuccess taskId complete)) fun _ => Accounted first := by
  rintro here choices ⟨accounted, continues⟩
  have accepts : Accepts (progress (slotOf here.state))
      (changes (slotOf here.state) ((slotOf here.state).map (closed complete)))
      (progress ((slotOf here.state).map (closed complete))) := by
    cases slot : slotOf here.state with
    | none =>
        rw [Option.map_none, changes_self]
        exact .nil _
    | some record =>
        refine accepts_cleanup fun closes step => ?_
        cases complete with
        | false => cases closes
        | true =>
            obtain ⟨id, journal, cleanup, stands, done⟩ := continues rfl
            have same := stands.1
            rw [HasSlot, slot] at same
            rw [same]
            exact all_completed done id cleanup step
  refine (accounts_of_watches (watches_moves (moves_commitSuccess complete) accepts)).conseq
    (fun _ stands => stands) (fun _ _ stands => stands.accounted) (fun _ accounted => accounted)
    here choices ?_
  exact ⟨rfl, accounted⟩

/-! ## Whole operations -/

theorem accounts_ends {watched : Watched α}
    (keeps : Watches first slot watched fun _ => Stands first slot) :
    Accounts first (Stands first slot) watched fun _ => Accounted first :=
  keeps.conseq (fun _ stands => stands) (fun _ _ stands => stands.accounted)
    fun _ stands => stands.accounted

theorem accounts_execute :
    Accounts first (Stands first slot) (Watched.execute taskId) fun _ => Accounted first := by
  refine Guarded.bind (accounts_of_watches (watches_keepsSlot (keepsSlot_requireReadyTask taskId)))
    fun _ => ?_
  refine Guarded.bind (accounts_of_watches (watches_keepsSlot
    (keepsSlot_attempt (keepsSlot_prepareUpdate taskId)))) fun prepared => ?_
  cases prepared with
  | error code => exact accounts_ends (watches_keepsSlot (keepsSlot_handleFailure taskId _ _))
  | ok _ =>
      refine Guarded.bind (accounts_of_watches (watches_keepsSlot
        (keepsSlot_attempt (keepsSlot_replaceWeb taskId)))) fun replaced => ?_
      cases replaced with
      | error code => exact accounts_ends (watches_keepsSlot (keepsSlot_handleFailure taskId _ _))
      | ok _ =>
          refine Guarded.bind (accounts_of_watches (watches_keepsSlot
            (keepsSlot_checkpoint taskId _))) fun _ => ?_
          exact Guarded.bind accounts_cleanupOriginal accounts_commitSuccess

theorem accounts_completeRecoveredTarget :
    Accounts first (Stands first slot) (Watched.completeRecoveredTarget taskId)
      fun _ => Accounted first := by
  refine Guarded.bind (accounts_of_watches (watches_keeps (loads_taskOf taskId))) fun task => ?_
  rintro here choices ⟨stands, -⟩
  revert here choices
  split
  · exact accounts_ends (watches_keepsSlot (keepsSlot_finishManual taskId))
  · refine Guarded.bind (accounts_of_watches (watches_keepsSlot
      (keepsSlot_attempt (keepsSlot_confirmTarget taskId _ _)))) fun confirmed => ?_
    cases confirmed with
    | error code =>
        exact accounts_ends (watches_keepsSlot (keepsSlot_rollbackToOriginal taskId _ _ _))
    | ok _ =>
        refine Guarded.bind (accounts_of_watches (watches_keepsSlot
          (keepsSlot_enterCleaning taskId _))) fun _ => ?_
        exact Guarded.bind accounts_cleanupOriginal accounts_commitSuccess

theorem accounts_recoverFrom (task : UpdateTask) (actual : ImageIdentity) :
    Accounts first (Stands first slot) (Watched.recoverFrom task actual)
      fun _ => Accounted first := by
  have manual : Accounts first (Stands first slot) (watch (finishManual task.id))
      fun _ => Accounted first := accounts_ends (watches_keepsSlot (keepsSlot_finishManual task.id))
  simp only [Watched.recoverFrom]
  split_ifs
  · exact manual
  · exact accounts_completeRecoveredTarget
  · exact accounts_ends (watches_keepsSlot (keepsSlot_recoverBeforeTag task))
  · exact manual
  · exact manual
  · exact accounts_ends (watches_keepsSlot (keepsSlot_rollbackToOriginal task.id _ _ _))

theorem accounts_recover :
    Accounts first (Stands first slot) Watched.recover fun _ => Accounted first := by
  refine Guarded.bind (accounts_of_watches (watches_keepsSlot keepsSlot_loadState)) fun state => ?_
  cases state.task with
  | none => exact Satisfies.pure fun _ stands => stands.accounted
  | some task =>
      simp only
      split
      · exact Satisfies.pure fun _ stands => stands.accounted
      split
      · exact accounts_ends (watches_keepsSlot (keepsSlot_finishManual task.id))
      refine Guarded.bind (accounts_of_watches (watches_keepsSlot
        (keepsSlot_attempt keepsSlot_observe))) fun inspected => ?_
      cases inspected with
      | error code => exact accounts_ends (watches_keepsSlot (keepsSlot_finishManual task.id))
      | ok actual =>
          simp only
          split
          · exact accounts_ends (watches_keepsSlot (keepsSlot_finishManual task.id))
          · exact accounts_recoverFrom task actual

/-- The last part of a completion closes a journal that is complete. -/
theorem moves_closeCleanup :
    Guarded UpdaterError.safeCode?
      (fun world => HasSlot slot world ∨
        (∀ step, progress slot step = .completed) ∧ HasSlot (slot.map (closed true)) world)
      (HasSlot slot) (closeCleanup taskId)
      (fun _ world => (∀ step, progress slot step = .completed) ∧
        HasSlot (slot.map (closed true)) world) (HasSlot slot) := by
  have inside (world : World) (has : HasSlot slot world) : HasSlot slot world ∨
      (∀ step, progress slot step = .completed) ∧ HasSlot (slot.map (closed true)) world := .inl has
  refine Guarded.bind ((loads_taskOf taskId).widen inside) fun task => ?_
  rintro world choices ⟨has, rfl⟩
  revert world choices
  cases known : task.cleanupJournal with
  | none => exact fun world choices has => keepsSlot_raise.widen inside world choices has
  | some journal =>
      simp only
      split
      · rename_i done
        have all (step : CleanupStep) : progress (some task.record) step = .completed := by
          rw [UpdateTask.record, known]
          exact all_completed done task.id task.cleanup step
        have record : some ({ task with
            cleanup := .complete, cleanupJournal := some journal } : UpdateTask).record =
            (some task.record).map (closed true) := by
          rw [Option.map_some, closed, UpdateTask.record, UpdateTask.record, known]
          rfl
        refine Guarded.bind ((moves_saveTask record).widen ?_) fun _ => ?_
        · rintro world (has | has)
          · exact .inl has
          · exact .inr ⟨all, has⟩
        · exact guarded_loadState.conseq (fun _ has => has) (fun _ _ loaded => ⟨all, loaded.1⟩)
            fun _ failed => failed
      · exact keepsSlot_raise.widen inside

theorem accounts_closeCleanup :
    Accounts first (Stands first slot) (watch (closeCleanup taskId)) fun _ => Accounted first := by
  have accepts (done : ∀ step, progress slot step = .completed) :
      Accepts (progress slot) (changes slot (slot.map (closed true)))
        (progress (slot.map (closed true))) := by
    cases slot with
    | none =>
        rw [Option.map_none, changes_self]
        exact .nil _
    | some record => exact accepts_cleanup fun _ => done
  refine Guarded.noting moves_closeCleanup (fun _ stands => stands.1) ?_ ?_ ?_
  · rintro here after stands (has | ⟨done, has⟩)
    · exact (stands.unnoted has).accounted
    · exact (stands.noted has (accepts done)).accounted
  · rintro here value after stands ⟨done, has⟩
    exact (stands.noted has (accepts done)).accounted
  · intro here after stands has
    exact (stands.unnoted has).accounted

theorem accounts_completePendingCleanup :
    Accounts first (Stands first slot) Watched.completePendingCleanup fun _ => Accounted first := by
  have refuses {facts : Observed World CleanupEvent → Prop}
      (accounted : ∀ here, facts here → Accounted first here) (code : String) :
      Accounts first facts (Program.raise (.conflict code) : Watched PersistentState)
        fun _ => Accounted first := Guarded.raiseOther rfl accounted
  refine Guarded.bind (accounts_of_watches (watches_keepsSlot keepsSlot_loadState)) fun state => ?_
  cases state.task with
  | none => exact refuses (fun _ stands => stands.accounted) _
  | some task =>
      simp only
      split
      · exact refuses (fun _ stands => stands.accounted) _
      refine Guarded.bind accounts_cleanupOriginal fun done => ?_
      cases done with
      | false => exact refuses (fun _ continues => continues.1) _
      | true =>
          rintro here choices ⟨accounted, -⟩
          exact accounts_closeCleanup here choices ⟨rfl, accounted⟩

end Watched

/-! ## Histories -/

section Histories

variable {first : CleanupStep → Status}

theorem Operation.watched_accounted (operation : Operation) {here : Observed World CleanupEvent}
    (accounted : Accounted first here) (choices : List Choice) :
    Accounted first (operation.watched here choices) := by
  have stands : Stands first (slotOf here.state) here := ⟨rfl, accounted⟩
  cases operation with
  | check =>
      have kept : HasSlot (slotOf here.state) (UpdateManager.check.leaves here.state choices) :=
        congrArg (Option.map UpdateTask.record) (check_task here.state choices)
      exact (stands.unnoted kept).accounted
  | start targetVersion taskId =>
      rcases start_leaves targetVersion taskId here.state choices with unchanged | opens
      · have kept : HasSlot (slotOf here.state)
            ((UpdateManager.start targetVersion taskId).leaves here.state choices) := by
          rw [unchanged]
          rfl
        exact (stands.unnoted kept).accounted
      · obtain ⟨checked, createdAt, -, -, -, opened⟩ := opens.opened
        have has : HasSlot (some (newTask checked taskId createdAt).record)
            ((UpdateManager.start targetVersion taskId).leaves here.state choices) := by
          rw [opened]
          rfl
        refine (stands.noted has (accepts_opened ?_)).accounted
        intro record found same
        obtain ⟨task, saved, rfl⟩ := Option.map_eq_some_iff.mp found
        exact opens.another task saved same
  | execute taskId =>
      exact accounts_execute.leaves_of (fun _ _ accounted => accounted) stands choices
  | recover => exact accounts_recover.leaves_of (fun _ _ accounted => accounted) stands choices
  | completePendingCleanup =>
      exact accounts_completePendingCleanup.leaves_of (fun _ _ accounted => accounted) stands
        choices

theorem watchedRun_accounted {here : Observed World CleanupEvent}
    (accounted : Accounted first here) (history : History) :
    Accounted first (watchedRun here history) := by
  induction history generalizing here with
  | nil => exact accounted
  | cons step rest ih => exact ih (step.1.watched_accounted accounted step.2)

/-- A step stands where the journal says, whatever the rest of the record. -/
theorem progress_of_journal {task : UpdateTask} {journal : Option CleanupJournal} (id : String)
    (cleanup : CleanupStatus) (same : journal = task.cleanupJournal) :
    progress (some ⟨id, journal, cleanup⟩) = progress (some task.record) := by
  rw [UpdateTask.record, ← same]
  cases journal <;> rfl

/-- From any state, through any operations cut off anywhere: the observer sees a run of the manager,
and its log leads from the first journal to the last one.  Each step is called where the saved
journal has begun it and completed those before it, in their order, and never again once it is
completed; the cleanup is saved as complete where every step is; no change of the journal is
refused.  The journal can be read from the record of every task that is saved, and a task loaded
from the last record stands where the log leads. -/
theorem cleanup_journal_written_ahead (world : World) (history : History) :
    (watchedRun ⟨world, []⟩ history).state = run world history ∧
    Accepts (progress (slotOf world)) (watchedRun ⟨world, []⟩ history).log
      (progress (slotOf (run world history))) ∧
    (∀ step saved, .called step saved ∈ (watchedRun ⟨world, []⟩ history).log →
      Marked saved step) ∧
    (∀ before between after step saved next other,
      (watchedRun ⟨world, []⟩ history).log =
        before ++ .called step saved :: (between ++ .called next other :: after) →
      .opened ∉ between → step ≤ next) ∧
    (∀ before between after step next saved,
      (watchedRun ⟨world, []⟩ history).log =
        before ++ .completed step :: (between ++ .called next saved :: after) →
      .opened ∉ between → next ≠ step) ∧
    (∀ saved, .finished saved ∈ (watchedRun ⟨world, []⟩ history).log →
      ∀ step, saved step = .completed) ∧
    .rejected ∉ (watchedRun ⟨world, []⟩ history).log ∧
    (∀ here task record, Reaches world history here → here.state.task = some task →
      task.stored.toDict = some record →
      ∃ data, Records.UpdateTask.taskData? record = some data ∧
        Records.journalFromDict data = some task.cleanupJournal) ∧
    ∀ readers task record loaded, (run world history).state.task = some task →
      task.stored.toDict = some record →
      Records.UpdateTask.fromDict readers record = some loaded →
      Accepts (progress (slotOf world)) (watchedRun ⟨world, []⟩ history).log
        (progress (some ⟨loaded.id, loaded.cleanupJournal, loaded.cleanup⟩)) := by
  have ran : (watchedRun ⟨world, []⟩ history).state = run world history :=
    watchedRun_state ⟨world, []⟩ history
  have accepts : Accepts (progress (slotOf world)) (watchedRun ⟨world, []⟩ history).log
      (progress (slotOf (run world history))) := by
    have begins : Accounted (progress (slotOf world))
        (⟨world, []⟩ : Observed World CleanupEvent) := .nil _
    rw [← ran]
    exact watchedRun_accounted begins history
  refine ⟨ran, accepts, ?_, ?_, ?_, ?_, accepts.not_rejected, ?_, ?_⟩
  · intro step saved called
    exact accepts.marked called
  · intro before between after step saved next other split same
    rw [split] at accepts
    exact accepts.calls_in_order same
  · intro before between after step next saved split same
    rw [split] at accepts
    exact accepts.not_called_again same
  · intro saved finished
    exact accepts.all_completed finished
  · intro here task record _ _ written
    exact Records.UpdateTask.journal_of_written written
  · intro readers task record loaded held written read
    have last : slotOf (run world history) = some task.record := by
      rw [slotOf, held, Option.map_some]
    rw [progress_of_journal loaded.id loaded.cleanup
      (Records.UpdateTask.cleanupJournal_of_read written read), ← last]
    exact accepts

end Histories

end Finrec.Updater
