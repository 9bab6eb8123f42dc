import Finrec.Updater.Coherence
import Finrec.Updater.References

/-!
# The page of the system update

The page checks the status that it is given and decides on its own whether an
upgrade may be started.  The server writes the fields of a view as they are, and
its instants in the one spelling that the page reads, so the page is modelled on
the view.
-/

namespace Finrec.SystemUpdate

open Finrec.Updater CrashLogic UpdateManager Relation

namespace Page

/-- The keys and values of `ERROR_MESSAGES`. -/
def errorMessages : List (String × String) := [
  ("", ""),
  ("backup_failed", "备份失败，请联系管理员。"),
  ("pull_failed", "下载升级版本失败，请联系管理员。"),
  ("migration_failed", "升级失败，请联系管理员。"),
  ("health_check_failed", "升级后检查失败，请联系管理员。"),
  ("rollback_failed", "升级失败，需要人工处理。"),
  ("update_failed", "升级失败，请联系管理员。")]

def pendingCleanupGuidance : String :=
  "升级已完成，但旧版本清理尚未完成。请联系系统管理员按运维流程处理，完成前请勿再次升级。"

def manualInterventionGuidance : String :=
  "自动恢复未完成。请停止继续升级并联系系统管理员处理；备份和相关版本已保留。"

/-- `TASK_ID_PATTERN`. -/
def isTaskId (value : String) : Bool :=
  Patterns.fits (Patterns.Uuid.classes Patterns.isHex) value.toList

def isVersion (value : String) : Bool := validateVersion value

def isTask (task : TaskView) : Bool :=
  isTaskId task.id && isVersion task.fromVersion && isVersion task.toVersion &&
    errorMessages.lookup task.errorCode = some task.errorMessage

def isStatus (status : StatusView) : Bool :=
  isVersion status.currentVersion && status.latestVersion.all isVersion && status.task.all isTask

structure Decision where
  canStart : Bool
  availability : String
  guidance : String

def upgradeDecision (status : StatusView) : Decision :=
  if !isStatus status then ⟨false, "无法确认", ""⟩
  else if (status.task.map (·.stage)) = some .manualIntervention then
    ⟨false, "需要管理员处理，暂不可升级", manualInterventionGuidance⟩
  else if (status.task.map (·.cleanup)) = some .pending then
    ⟨false, "旧版本清理待完成，暂不可升级", pendingCleanupGuidance⟩
  else if !status.updateAvailable then ⟨false, "当前版本已是最新", ""⟩
  else if !status.latestVersion.any isVersion then ⟨false, "无法确认可用版本", ""⟩
  else
    match status.task with
    | none => ⟨true, "可升级", ""⟩
    | some task =>
        if task.stage = .failed ∨ task.stage = .succeeded ∧ task.cleanup = .complete then
          ⟨true, "可升级", ""⟩
        else ⟨false, "升级进行中，暂不可升级", ""⟩

end Page

section Views

variable {task : UpdateTask}

/-- What the updater says about an error is what the page expects. -/
theorem publicError_known (errorCode : String) :
    Page.errorMessages.lookup (publicError errorCode).1 = some (publicError errorCode).2 := by
  unfold publicError
  cases found : publicErrorMessages.lookup errorCode with
  | none => rfl
  | some message => exact found

theorem isTask_publicView (accepted : acceptsTaskId task.id = true) :
    Page.isTask task.publicView = true := by
  rcases Patterns.Uuid.eq_text_of_isCanonical accepted with ⟨id, text⟩
  have fits : Page.isTaskId task.id = true := by
    unfold Page.isTaskId
    rw [text, Patterns.Uuid.fits_classes_text]
    exact Patterns.Uuid.isHex_digitChar id.variant
  simp [Page.isTask, UpdateTask.publicView, fits, Page.isVersion, task.original.versionValid,
    task.target.versionValid, publicError_known]

/-- The page takes every status that the updater gives. -/
theorem isStatus_statusFromCheck (checked : CheckResult) (slot : Option UpdateTask)
    (accepted : ∀ task, slot = some task → acceptsTaskId task.id = true) :
    Page.isStatus (statusFromCheck checked slot) = true := by
  cases slot with
  | none =>
      simp [Page.isStatus, statusFromCheck, Page.isVersion, checked.current.versionValid,
        checked.target.versionValid]
  | some task =>
      simp [Page.isStatus, statusFromCheck, Page.isVersion, checked.current.versionValid,
        checked.target.versionValid, isTask_publicView (accepted task rfl)]

/-- The slot holds a failed task whose cleanup is pending. -/
def FailedUnclean (state : PersistentState) : Prop :=
  ∃ task, state.task = some task ∧ task.stage = .failed ∧ task.cleanup = .pending

/-- The page offers a start exactly where the slot admits one, unless a failed task has a pending
cleanup. -/
theorem canStart_statusFromCheck {checked : CheckResult} (state : PersistentState)
    (available : checked.available = true)
    (accepted : ∀ task, state.task = some task → acceptsTaskId task.id = true) :
    (Page.upgradeDecision (statusFromCheck checked state.task)).canStart = true ↔
      admitsNewTask state = true ∧ ¬FailedUnclean state := by
  have valid := isStatus_statusFromCheck checked state.task accepted
  have version : Page.isVersion checked.target.version = true := checked.target.versionValid
  unfold Page.upgradeDecision admitsNewTask FailedUnclean
  simp only [valid]
  cases found : state.task with
  | none => simp [statusFromCheck, available, version]
  | some task =>
      simp only [statusFromCheck, available, UpdateTask.publicView, isReplaceable]
      by_cases manual : task.stage = .manualIntervention
      · simp [manual]
      by_cases pending : task.cleanup = .pending
      · simp [manual, pending]
      by_cases replaceable : task.stage = .failed ∨ task.stage = .succeeded ∧ task.cleanup = .complete
      · simp [manual, pending, replaceable, version]
      · simp [manual, pending, replaceable, version]

end Views

/-- The guard of `_reject_active_task` lets a check and a start go on. -/
def letsProceed (world : World) : Prop :=
  ∀ choices, (rejectActiveTask world.state world choices).1 = .returned ()

theorem letsProceed_iff (world : World) :
    letsProceed world ↔ admitsNewTask world.state = true := by
  unfold letsProceed rejectActiveTask
  split
  · rename_i admitted
    exact ⟨fun _ => admitted, fun _ _ => rfl⟩
  · rename_i refused
    refine ⟨fun proceeds => ?_, fun admitted => absurd admitted refused⟩
    have raised := proceeds []
    simp [Program.raise] at raised

/-- A start names its task by the text of a UUID, as the endpoint demands. -/
def NamesTask (_ : World) (step : Updater.Operation × List Choice) : Prop :=
  ∀ targetVersion taskId, step.1 = .start targetVersion taskId → acceptsTaskId taskId = true

theorem reaches_accepted {world here : World} {history : History} (empty : world.state.task = none)
    (named : EveryStep NamesTask world history) (reached : Reaches world history here) :
    SlotHas (fun task => acceptsTaskId task.id = true) here := by
  refine reached.invariant (fun _ _ _ _ _ named => named) ?_ (slotHas_of_empty empty) named
  intro world operation choices accepted named
  refine slotHas_leaves accepted ?_ ?_
  · intro targetVersion taskId checked createdAt starts
    exact named targetVersion taskId starts
  · intro task completes undoes edited _ _ accepted edits
    rw [edits_id edits]
    exact accepted

/-- The updater has a status wherever it has checked. -/
theorem status_shown {world : World} {checked : CheckResult}
    (lastCheck : world.state.lastCheck = some checked) (choices : List Choice) :
    (UpdateManager.status world choices).1 =
      .returned (statusFromCheck checked world.state.task) := by
  have loaded : loadState world choices = (.returned world.state, world, choices) := rfl
  unfold UpdateManager.status
  rw [Program.bind_returned loaded]
  simp only [lastCheck]
  rfl

/-- The page and the updater agree in every reachable state with an available version, except where
a failed task has a pending cleanup; in a run whose restarts undo no begun cleanup they always
agree. -/
theorem page_agrees_iff (world : World) (empty : world.state.task = none) (history : History)
    (named : EveryStep NamesTask world history) (here : World) (reached : Reaches world history here)
    (checked : CheckResult) (lastCheck : here.state.lastCheck = some checked)
    (available : checked.available = true) (view : StatusView) (choices : List Choice)
    (shown : (UpdateManager.status here choices).1 = .returned view) :
    (((Page.upgradeDecision view).canStart = true ↔ letsProceed here) ↔
        ¬FailedUnclean here.state) ∧
      (EveryStep UndoesUncleaned world history →
        ((Page.upgradeDecision view).canStart = true ↔ letsProceed here)) := by
  have given : view = statusFromCheck checked here.state.task := by
    rw [status_shown lastCheck] at shown
    exact (Outcome.returned.inj shown).symm
  have decided := canStart_statusFromCheck here.state available
    (reaches_accepted empty named reached)
  have failing : FailedUnclean here.state → admitsNewTask here.state = true := by
    rintro ⟨task, saved, failed, -⟩
    simp [admitsNewTask, saved, isReplaceable, failed]
  rw [given, decided, letsProceed_iff]
  constructor
  · constructor
    · exact fun agree unclean => (agree.mpr (failing unclean)).2 unclean
    · exact fun clean => ⟨fun both => both.1, fun admitted => ⟨admitted, clean⟩⟩
  · intro keeps
    have clean : ¬FailedUnclean here.state := by
      rintro ⟨task, saved, failed, pending⟩
      exact (reached.cleansLate empty keeps task saved).not_failed failed pending
    exact ⟨fun both => both.1, fun admitted => ⟨admitted, clean⟩⟩

namespace Sample

/-- A check, a start and an execution whose backup fails. -/
def failedUpdate : History := [
  (.check, { inspected := Updater.Sample.originalImage } :: Updater.Sample.calm 3),
  (.start "v0.3.0" Updater.Sample.task.id, Updater.Sample.calm 4),
  (.execute Updater.Sample.task.id, Updater.Sample.failing)]

theorem taskId_accepted : acceptsTaskId Updater.Sample.task.id = true := by decide +kernel

end Sample

theorem updating_names (world : World) (steps : ℕ) :
    EveryStep NamesTask world (Updater.Sample.updating steps) := by
  refine ⟨nofun, ?_, nofun, trivial⟩
  rintro targetVersion taskId ⟨⟩
  exact Sample.taskId_accepted

/-- A restart undoes an update whose cleanup has begun: the page offers no further start, which the
updater would let proceed. -/
theorem page_hides_start :
    ∃ (world here : World) (history : History) (checked : CheckResult) (view : StatusView),
      world.state.task = none ∧ EveryStep NamesTask world history ∧ Reaches world history here ∧
        here.state.lastCheck = some checked ∧ checked.available = true ∧
        (UpdateManager.status here []).1 = .returned view ∧
        (Page.upgradeDecision view).canStart = false ∧ letsProceed here := by
  have available : (Updater.run Updater.Sample.emptyWorld Updater.Sample.turningBack).state.lastCheck.map
      (·.available) = some true := by decide +kernel
  have ended : (Updater.run Updater.Sample.emptyWorld Updater.Sample.turningBack).state.task.map
      (fun task => (task.stage, task.cleanup)) = some (.failed, .pending) := by decide +kernel
  have named : EveryStep NamesTask Updater.Sample.emptyWorld Updater.Sample.turningBack :=
    everyStep_append (updating_names _ 28) ⟨nofun, trivial⟩
  have reached := reaches_run Updater.Sample.emptyWorld Updater.Sample.turningBack
  have accepted := reaches_accepted rfl named reached
  generalize Updater.run Updater.Sample.emptyWorld Updater.Sample.turningBack = here at *
  rcases Option.map_eq_some_iff.mp available with ⟨checked, lastCheck, available⟩
  rcases Option.map_eq_some_iff.mp ended with ⟨task, saved, fields⟩
  rw [Prod.mk.injEq] at fields
  refine ⟨_, here, _, checked, _, rfl, named, reached, lastCheck, available,
    status_shown lastCheck [], ?_, (letsProceed_iff here).mpr ?_⟩
  · have offered := canStart_statusFromCheck here.state available accepted
    rw [Bool.eq_false_iff]
    exact fun starts => (offered.mp starts).2 ⟨task, saved, fields⟩
  · simp [admitsNewTask, saved, isReplaceable, fields.1]

theorem page_agrees_iff_failed :
    ∃ view, (UpdateManager.status (Updater.run Updater.Sample.emptyWorld Sample.failedUpdate) []).1 =
        .returned view ∧
      ((Page.upgradeDecision view).canStart = true ↔
        letsProceed (Updater.run Updater.Sample.emptyWorld Sample.failedUpdate)) := by
  have available : (Updater.run Updater.Sample.emptyWorld Sample.failedUpdate).state.lastCheck.map
      (·.available) = some true := by decide +kernel
  have named : EveryStep NamesTask Updater.Sample.emptyWorld Sample.failedUpdate := by
    refine ⟨nofun, ?_, nofun, trivial⟩
    rintro targetVersion taskId ⟨⟩
    exact Sample.taskId_accepted
  have keeps : EveryStep UndoesUncleaned Updater.Sample.emptyWorld Sample.failedUpdate :=
    ⟨nofun, nofun, nofun, trivial⟩
  have reached := reaches_run Updater.Sample.emptyWorld Sample.failedUpdate
  rcases Option.map_eq_some_iff.mp available with ⟨checked, lastCheck, available⟩
  have shown := status_shown lastCheck []
  refine ⟨_, shown, ?_⟩
  exact (page_agrees_iff Updater.Sample.emptyWorld rfl Sample.failedUpdate named _ reached checked
    lastCheck available _ [] shown).2 keeps

end Finrec.SystemUpdate
