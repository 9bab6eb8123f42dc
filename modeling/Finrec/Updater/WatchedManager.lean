import Finrec.Lib.CrashObservers
import Finrec.Lib.StepJournals
import Finrec.Updater.Histories
import Mathlib.Order.Basic

/-!
# The manager under observation

An observer of the manager reads the state file before and after each part of an
operation, and hears the calls of the cleanup steps.  Its log says what happened
to the cleanup journal: a task was opened, a step was begun, called or completed,
the cleanup was saved as complete, or a change of the journal was refused.
-/

namespace Finrec.Updater

open CrashLogic UpdateManager

def CleanupStep.index : CleanupStep → ℕ
  | .versionTag => 0
  | .rollbackAlias => 1
  | .imageId => 2

theorem CleanupStep.index_injective : Function.Injective CleanupStep.index := by
  intro left right same
  cases left <;> cases right <;> first | rfl | cases same

/-- The order of `_CLEANUP_STEPS`. -/
instance : LinearOrder CleanupStep :=
  LinearOrder.lift' CleanupStep.index CleanupStep.index_injective

def CleanupStepStatus.toStatus : CleanupStepStatus → StepJournals.Status
  | .notStarted => .notStarted
  | .started => .started
  | .completed => .completed

/-- What the state file says about the cleanup of its task. -/
structure SlotRecord where
  id : String
  journal : Option CleanupJournal
  cleanup : CleanupStatus
deriving DecidableEq

def UpdateTask.record (task : UpdateTask) : SlotRecord :=
  ⟨task.id, task.cleanupJournal, task.cleanup⟩

def slotOf (world : World) : Option SlotRecord := world.state.task.map UpdateTask.record

/-- Without a journal no step is begun. -/
def progress : Option SlotRecord → CleanupStep → StepJournals.Status
  | some ⟨_, some journal, _⟩ => fun step => (journal.status step).toStatus
  | _ => fun _ => .notStarted

abbrev CleanupEvent := StepJournals.Event CleanupStep

def stepEvent (before after : CleanupStep → StepJournals.Status) (step : CleanupStep) :
    Option CleanupEvent :=
  if before step = after step then none
  else
    match after step with
    | .notStarted => some .rejected
    | .started => some (.started step)
    | .completed => some (.completed step)

def stepEvents (before after : CleanupStep → StepJournals.Status) : List CleanupEvent :=
  [CleanupStep.versionTag, .rollbackAlias, .imageId].filterMap (stepEvent before after)

def isCleaned (slot : Option SlotRecord) : Bool := slot.any (·.cleanup = .complete)

def closing (before after : Option SlotRecord) : List CleanupEvent :=
  if isCleaned after && !isCleaned before then [.finished (progress after)] else []

/-- What an observer notes who compares the state file with what it was. -/
def changes (before after : Option SlotRecord) : List CleanupEvent :=
  if before.map SlotRecord.id = after.map SlotRecord.id then
    stepEvents (progress before) (progress after) ++ closing before after
  else .opened :: (stepEvents (fun _ => .notStarted) (progress after) ++ closing none after)

theorem stepEvents_self (status : CleanupStep → StepJournals.Status) :
    stepEvents status status = [] := by
  simp [stepEvents, stepEvent]

@[simp]
theorem changes_self (slot : Option SlotRecord) : changes slot slot = [] := by
  rw [changes, if_pos rfl, stepEvents_self, closing]
  cases isCleaned slot <;> rfl

abbrev Watched := Program Choice (Observed World CleanupEvent) UpdaterError

namespace Watched

variable {α : Type}

/-- A part of an operation that calls no step of the cleanup. -/
def watch (process : Process α) : Watched α :=
  Program.noting (fun before after => changes (slotOf before) (slotOf after)) process

def attempt (program : Watched α) : Watched (Except String α) :=
  Program.attempt UpdaterError.safeCode? program

/-- The checks of the journal may refuse the change. -/
def saveJournal (task : UpdateTask) (journal : Option CleanupJournal) : Watched Unit :=
  Program.noting (fun before after =>
    (if journal = none then [.rejected] else []) ++ changes (slotOf before) (slotOf after))
    (UpdateManager.saveJournal task journal)

/-- The call is noted with the journal that is saved then. -/
def cleanupOriginalStep (task : UpdateTask) (step : CleanupStep) : Watched Unit :=
  Program.noting (fun before after =>
    .called step (progress (slotOf before)) :: changes (slotOf before) (slotOf after))
    (DockerPlatform.cleanupOriginalStep task step)

def startStep (task : UpdateTask) (journal : CleanupJournal) (step : CleanupStep) :
    Watched Unit :=
  if journal.status step = .notStarted then saveJournal task (journal.replace step .started)
  else pure ()

def completeStep (taskId : String) (step : CleanupStep) : Watched Bool := do
  let task ← watch (taskOf taskId)
  match task.cleanupJournal with
  | none => return false
  | some journal =>
      if journal.status step = .started then do
        saveJournal task (journal.replace step .completed)
        return true
      else return false

def cleanupStep (taskId : String) (step : CleanupStep) : Watched Bool := do
  let task ← watch (taskOf taskId)
  match task.cleanupJournal with
  | none => return false
  | some journal =>
      if journal.status step = .completed then return true
      else do
        startStep task journal step
        let started ← watch (taskOf taskId)
        match ← attempt (cleanupOriginalStep started step) with
        | .error _ => return false
        | .ok () => completeStep taskId step

def cleanupSteps (taskId : String) : List CleanupStep → Watched Bool
  | [] => pure true
  | step :: rest => do
      let goOn ← cleanupStep taskId step
      if goOn then cleanupSteps taskId rest else return false

def cleanupOriginal (taskId : String) : Watched Bool := do
  let task ← watch (taskOf taskId)
  match task.cleanupJournal with
  | none => return false
  | some _ => do
      watch (markPending task)
      cleanupSteps taskId [.versionTag, .rollbackAlias, .imageId]

def execute (taskId : String) : Watched Unit := do
  watch (requireReadyTask taskId)
  match ← watch (UpdateManager.attempt (prepareUpdate taskId)) with
  | .error code => watch (handleFailure taskId (safeErrorCode code) false)
  | .ok () =>
      match ← watch (UpdateManager.attempt (replaceWeb taskId)) with
      | .error code => watch (handleFailure taskId (safeErrorCode code) true)
      | .ok () => do
          watch (checkpoint taskId .cleaning)
          let cleanupComplete ← cleanupOriginal taskId
          watch (commitSuccess taskId cleanupComplete)

def completeRecoveredTarget (taskId : String) : Watched Unit := do
  let task ← watch (taskOf taskId)
  if task.stage = .cleaning ∧ task.cleanupJournal = none then
    watch (finishManual taskId)
  else do
    match ← watch (UpdateManager.attempt
        (confirmTarget taskId task.stage (task.stage = .persistingVersion))) with
    | .error _ => watch (rollbackToOriginal taskId "update_failed" true true)
    | .ok () => do
        watch (enterCleaning taskId task.stage)
        let cleanupComplete ← cleanupOriginal taskId
        watch (commitSuccess taskId cleanupComplete)

def recoverFrom (task : UpdateTask) (actual : ImageIdentity) : Watched Unit :=
  let isOriginal := sameRuntimeIdentity actual task.original
  let isTarget := sameRuntimeIdentity actual task.target
  if isOriginal = isTarget then
    watch (finishManual task.id)
  else if task.stage ∈ targetCompletionStages ∧ isTarget then
    completeRecoveredTarget task.id
  else if task.stage ∈ preTagStages then
    if isOriginal then watch (recoverBeforeTag task) else watch (finishManual task.id)
  else if task.original.rollbackAlias = "" then
    watch (finishManual task.id)
  else
    watch (rollbackToOriginal task.id "update_failed"
      (task.stage ∈ [Stage.persistingVersion, .cleaning, .rollingBack]) true)

def recover : Watched Unit := do
  let state ← watch loadState
  match state.task with
  | none => return ()
  | some task =>
      if task.stage ∈ terminalStages then
        return ()
      else if !hasCompleteRecoveryIdentities task then
        watch (finishManual task.id)
      else
        match ← watch (UpdateManager.attempt DockerPlatform.inspectWeb) with
        | .error _ => watch (finishManual task.id)
        | .ok actual =>
            if !hasCompleteImageIdentity actual then watch (finishManual task.id)
            else recoverFrom task actual

def completePendingCleanup : Watched PersistentState := do
  let state ← watch loadState
  match state.task with
  | none => .raise (.conflict "cleanup_not_pending")
  | some task =>
      if task.stage ≠ .succeeded ∨ task.cleanup ≠ .pending ∨ task.cleanupJournal = none then
        .raise (.conflict "cleanup_not_pending")
      else do
        let done ← cleanupOriginal task.id
        if done then watch (closeCleanup task.id) else .raise (.conflict "cleanup_incomplete")

end Watched

def Operation.watched : Operation → Observed World CleanupEvent → List Choice →
    Observed World CleanupEvent
  | .check => (Watched.watch UpdateManager.check).leaves
  | .start targetVersion taskId => (Watched.watch (UpdateManager.start targetVersion taskId)).leaves
  | .execute taskId => (Watched.execute taskId).leaves
  | .recover => Watched.recover.leaves
  | .completePendingCleanup => Watched.completePendingCleanup.leaves

def watchedRun (here : Observed World CleanupEvent) (history : History) :
    Observed World CleanupEvent :=
  history.foldl (fun here step => step.1.watched here step.2) here

/-! ## The manager without its observer -/

namespace Watched

open Program (Erases)

variable {taskId : String}

theorem erases_watch {α : Type} (process : Process α) : Erases (watch process) process :=
  Erases.noting _ _

theorem erases_startStep (task : UpdateTask) (journal : CleanupJournal) (step : CleanupStep) :
    Erases (startStep task journal step) (UpdateManager.startStep task journal step) := by
  rw [startStep, UpdateManager.startStep]
  split
  · exact Erases.noting _ _
  · exact Erases.pure _

theorem erases_completeStep (step : CleanupStep) :
    Erases (completeStep taskId step) (UpdateManager.completeStep taskId step) := by
  refine Erases.bind (erases_watch _) fun task => ?_
  cases task.cleanupJournal with
  | none => exact Erases.pure _
  | some journal =>
      simp only
      split
      · exact Erases.bind (Erases.noting _ _) fun _ => Erases.pure _
      · exact Erases.pure _

theorem erases_cleanupStep (step : CleanupStep) :
    Erases (cleanupStep taskId step) (UpdateManager.cleanupStep taskId step) := by
  refine Erases.bind (erases_watch _) fun task => ?_
  cases task.cleanupJournal with
  | none => exact Erases.pure _
  | some journal =>
      simp only
      split
      · exact Erases.pure _
      refine Erases.bind (erases_startStep task journal step) fun _ => ?_
      refine Erases.bind (erases_watch _) fun started => ?_
      refine Erases.bind (Erases.attempt (Erases.noting _ _)) fun called => ?_
      cases called with
      | error code => exact Erases.pure _
      | ok _ => exact erases_completeStep step

theorem erases_cleanupSteps (steps : List CleanupStep) :
    Erases (cleanupSteps taskId steps) (UpdateManager.cleanupSteps taskId steps) := by
  induction steps with
  | nil => exact Erases.pure _
  | cons step rest ih =>
      refine Erases.bind (erases_cleanupStep step) fun goOn => ?_
      cases goOn with
      | true => exact ih
      | false => exact Erases.pure _

theorem erases_cleanupOriginal :
    Erases (cleanupOriginal taskId) (UpdateManager.cleanupOriginal taskId) := by
  refine Erases.bind (erases_watch _) fun task => ?_
  cases task.cleanupJournal with
  | none => exact Erases.pure _
  | some journal => exact Erases.bind (erases_watch _) fun _ => erases_cleanupSteps _

theorem erases_execute : Erases (execute taskId) (UpdateManager.execute taskId) := by
  refine Erases.bind (erases_watch _) fun _ => ?_
  refine Erases.bind (erases_watch _) fun prepared => ?_
  cases prepared with
  | error code => exact erases_watch _
  | ok _ =>
      refine Erases.bind (erases_watch _) fun replaced => ?_
      cases replaced with
      | error code => exact erases_watch _
      | ok _ =>
          refine Erases.bind (erases_watch _) fun _ => ?_
          exact Erases.bind erases_cleanupOriginal fun _ => erases_watch _

theorem erases_completeRecoveredTarget :
    Erases (completeRecoveredTarget taskId) (UpdateManager.completeRecoveredTarget taskId) := by
  refine Erases.bind (erases_watch _) fun task => ?_
  split
  · exact erases_watch _
  refine Erases.bind (erases_watch _) fun confirmed => ?_
  cases confirmed with
  | error code => exact erases_watch _
  | ok _ =>
      refine Erases.bind (erases_watch _) fun _ => ?_
      exact Erases.bind erases_cleanupOriginal fun _ => erases_watch _

theorem erases_recoverFrom (task : UpdateTask) (actual : ImageIdentity) :
    Erases (recoverFrom task actual) (UpdateManager.recoverFrom task actual) := by
  simp only [recoverFrom, UpdateManager.recoverFrom]
  split_ifs
  · exact erases_watch _
  · exact erases_completeRecoveredTarget
  · exact erases_watch _
  · exact erases_watch _
  · exact erases_watch _
  · exact erases_watch _

theorem erases_recover : Erases recover UpdateManager.recover := by
  refine Erases.bind (erases_watch _) fun state => ?_
  cases state.task with
  | none => exact Erases.pure _
  | some task =>
      simp only
      split
      · exact Erases.pure _
      split
      · exact erases_watch _
      refine Erases.bind (erases_watch _) fun inspected => ?_
      cases inspected with
      | error code => exact erases_watch _
      | ok actual =>
          simp only
          split
          · exact erases_watch _
          · exact erases_recoverFrom task actual

theorem erases_completePendingCleanup :
    Erases completePendingCleanup UpdateManager.completePendingCleanup := by
  refine Erases.bind (erases_watch _) fun state => ?_
  cases state.task with
  | none => exact Erases.raise _
  | some task =>
      simp only
      split
      · exact Erases.raise _
      refine Erases.bind erases_cleanupOriginal fun done => ?_
      split
      · exact erases_watch _
      · exact Erases.raise _

end Watched

theorem Operation.watched_state (operation : Operation) (here : Observed World CleanupEvent)
    (choices : List Choice) :
    (operation.watched here choices).state = operation.leaves here.state choices := by
  cases operation with
  | check => exact (Watched.erases_watch _).leaves here choices
  | start targetVersion taskId => exact (Watched.erases_watch _).leaves here choices
  | execute taskId => exact Watched.erases_execute.leaves here choices
  | recover => exact Watched.erases_recover.leaves here choices
  | completePendingCleanup => exact Watched.erases_completePendingCleanup.leaves here choices

theorem watchedRun_state (here : Observed World CleanupEvent) (history : History) :
    (watchedRun here history).state = run here.state history := by
  induction history generalizing here with
  | nil => rfl
  | cons step rest ih =>
      rw [run_cons, ← step.1.watched_state here step.2]
      exact ih _

end Finrec.Updater
