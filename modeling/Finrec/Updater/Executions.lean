import Finrec.Updater.CrashSafety
import Finrec.Updater.Histories

/-!
# Executions of a task id

The updater keeps one task and no list of old ones.  While a task is in the slot
its id is executed at most once, and a start that repeats its id begins nothing
new.  A start that repeats an id after another task took the slot is a new
update, which is executed again.
-/

namespace Finrec.Updater

open CrashLogic UpdateManager Relation

variable {world : World} {task : UpdateTask} {taskId : String}

theorem Edit.id_eq {completes undoes : Prop} {edited : UpdateTask}
    (edit : Edit completes undoes task edited) : edited.id = task.id := by
  cases edit <;> rfl

theorem follows_ne_checking {stage next : Stage} (moves : follows stage = some next) :
    next ≠ .checking := by
  rintro rfl
  cases stage <;> simp [follows] at moves

/-- No edit takes a task back to the stage in which it may be executed. -/
theorem Edit.not_checking {completes undoes : Prop} {edited : UpdateTask}
    (edit : Edit completes undoes task edited) (left : task.stage ≠ .checking) :
    edited.stage ≠ .checking := by
  cases edit with
  | checkpoint stage startedAt active next =>
      rcases next with rfl | moves
      · exact left
      · exact follows_ne_checking moves
  | backups database uploads active => exact left
  | tagged rollbackAlias active => exact left
  | rollBack code named active tagged uncleaned => simp
  | undo code named allowed active tagged => exact left
  | failed code rolledBack finishedAt named active origin => simp
  | manual finishedAt active => simp
  | pending active allowed unmarked => exact left
  | journal old new active kept => exact left
  | succeeded cleanup finishedAt active allowed marked => simp
  | closed active => exact left

theorem edits_id {completes undoes : Prop} {edited : UpdateTask}
    (edits : ReflTransGen (Edit completes undoes) task edited) : edited.id = task.id := by
  induction edits with
  | refl => rfl
  | tail _ edit ih => exact edit.id_eq.trans ih

theorem Edits.not_checking {edited : UpdateTask} (edits : Edits task edited)
    (left : task.stage ≠ .checking) : edited.stage ≠ .checking := by
  induction edits with
  | refl => exact left
  | tail _ edit ih => exact edit.not_checking ih

/-- The task in the slot is this one, and its execution was begun. -/
def Begun (taskId : String) (world : World) : Prop :=
  ∃ task, world.state.task = some task ∧ task.id = taskId ∧ task.stage ≠ .checking

/-- A task is ready to be executed. -/
def isReady (taskId : String) (world : World) : Bool :=
  match world.state.task with
  | some task => task.id = taskId && task.stage = .checking
  | none => false

def isBegun (taskId : String) (world : World) : Bool :=
  match world.state.task with
  | some task => task.id = taskId && task.stage ≠ .checking
  | none => false

theorem isBegun_iff : isBegun taskId world = true ↔ Begun taskId world := by
  simp only [isBegun, Begun]
  cases found : world.state.task with
  | none => simp
  | some task => simp

/-- An execution performs the update of a task: the update steps come after the checkpoint that
takes the task out of the stage in which it is ready. -/
def performs (taskId : String) (world : World) (choices : List Choice) : Bool :=
  isReady taskId world && isBegun taskId ((Operation.execute taskId).leaves world choices)

/-- While the slot is given to no other task, a begun task stays begun. -/
theorem Begun.leaves (begun : Begun taskId world) (operation : Operation) (choices : List Choice) :
    Begun taskId (operation.leaves world choices) ∨
      ∃ targetVersion other, operation = .start targetVersion other ∧ other ≠ taskId ∧
        Opens targetVersion other world (operation.leaves world choices) := by
  rcases begun with ⟨task, saved, rfl, left⟩
  rcases operation.leaves_task choices saved with ⟨after, savedAfter, edits⟩ | opened
  · exact .inl ⟨after, savedAfter, edits_id edits, edits.not_checking left⟩
  · rcases opened with ⟨targetVersion, other, starts, opens⟩
    exact .inr ⟨targetVersion, other, starts, (opens.another task saved).symm, opens⟩

/-- A history that gives the slot to another task than the one with this id. -/
def Replaces (taskId : String) (world : World) (history : History) : Prop :=
  ∃ earlier targetVersion other choices later,
    history = earlier ++ (.start targetVersion other, choices) :: later ∧ other ≠ taskId ∧
      Opens targetVersion other (run world earlier)
        (run world (earlier ++ [(.start targetVersion other, choices)]))

theorem Begun.run (begun : Begun taskId world) (history : History) :
    Begun taskId (run world history) ∨ Replaces taskId world history := by
  induction history generalizing world with
  | nil => exact .inl begun
  | cons step rest ih =>
      rcases step with ⟨operation, choices⟩
      rcases begun.leaves operation choices with still | replaced
      · rcases ih still with kept | ⟨earlier, version, other, chosen, later, rfl, another, opens⟩
        · exact .inl kept
        · exact .inr ⟨(operation, choices) :: earlier, version, other, chosen, later, rfl, another,
            opens⟩
      · rcases replaced with ⟨version, other, rfl, another, opens⟩
        exact .inr ⟨[], version, other, choices, rest, rfl, another, opens⟩

/-- A start that repeats the id of the task in the slot leaves everything as it was, and hands
back an execution only while the task is ready. -/
theorem start_repeated (saved : world.state.task = some task) (targetVersion : String)
    (choices : List Choice) :
    UpdateManager.start targetVersion task.id world choices =
        (if task.target.version = targetVersion then
          .returned (task.publicView, if task.stage = .checking then some task.id else none)
        else .raised (.conflict "task_id_conflict"), world, choices) := by
  have loaded : loadState world choices = (.returned world.state, world, choices) := rfl
  simp only [UpdateManager.start]
  rw [Program.bind_returned loaded]
  simp only [saved, if_true, repeatStart]
  by_cases same : task.target.version = targetVersion
  · rw [if_neg (not_not.mpr same), if_pos same]
    rfl
  · rw [if_pos same, if_neg same]
    rfl

/-- Between two executions of an id the slot was given to a task with another id, which it admits
only after a failure or a success with a complete cleanup; a start that repeats the id of the task
in the slot changes nothing and begins no execution once the task has left its first stage. -/
theorem executed_once_in_slot (world : World) (taskId : String) (first second : List Choice)
    (between : History) (performed : performs taskId world first = true)
    (again : performs taskId (run ((Operation.execute taskId).leaves world first) between) second
      = true) :
    Replaces taskId ((Operation.execute taskId).leaves world first) between ∧
      ∀ (here : World) (targetVersion : String) (choices : List Choice), Begun taskId here →
        (UpdateManager.start targetVersion taskId).leaves here choices = here ∧
          ∀ view executed, (UpdateManager.start targetVersion taskId here choices).1 ≠
            .returned (view, some executed) := by
  simp only [performs, Bool.and_eq_true] at performed again
  constructor
  · rcases (isBegun_iff.mp performed.2).run between with begun | replaced
    · rcases begun with ⟨task, saved, same, left⟩
      have ready := again.1
      simp [isReady, saved, left] at ready
    · exact replaced
  · rintro here targetVersion choices ⟨task, saved, rfl, left⟩
    have ran := start_repeated saved targetVersion choices
    refine ⟨Program.leaves_of_eq ran, ?_⟩
    intro view executed returned
    rw [ran, if_neg left] at returned
    split at returned
    · simp at returned
    · simp at returned

namespace Sample

/-- A newer version is found by a check two minutes before anything else happens. -/
def checkedWorld : World where
  state := { lastCheck := some {
    current := originalImage, target := targetImage, available := true, checkedAt := 0 } }
  host := ⟨"v0.2.0", ⟨originalImage.image, true⟩⟩

def otherId : String := "22222222-2222-4222-8222-222222222222"

/-- The pull, the clock and the save of a start. -/
def starting : List Choice := List.replicate 4 { inspected := targetImage }

/-- An execution whose backup fails. -/
def failing : List Choice :=
  [{ inspected := targetImage }, { inspected := targetImage },
    { inspected := targetImage, raises := some "backup_failed" }, { inspected := targetImage },
    { inspected := targetImage }]

/-- An update fails, another one fails, and the start of the first one is repeated. -/
def lateRetry : History := [
  (.start "v0.3.0" otherId, starting), (.execute otherId, failing),
  (.start "v0.3.0" Sample.task.id, starting)]

def started : World := run checkedWorld [(.start "v0.3.0" Sample.task.id, starting)]

end Sample

/-- A late retry of a start is executed a second time. -/
theorem executed_twice :
    ∃ (world : World) (taskId : String) (first second : List Choice) (between : History),
      performs taskId world first = true ∧
        ((Operation.execute taskId).leaves world first).state.task.map (·.stage) =
          some .failed ∧
        performs taskId (run ((Operation.execute taskId).leaves world first) between) second
          = true := by
  refine ⟨Sample.started, Sample.task.id, Sample.failing, Sample.failing, Sample.lateRetry, ?_⟩
  decide +kernel

theorem executed_once_in_slot_lateRetry :
    Replaces Sample.task.id
      ((Operation.execute Sample.task.id).leaves Sample.started Sample.failing)
      Sample.lateRetry :=
  (executed_once_in_slot Sample.started Sample.task.id Sample.failing Sample.failing
    Sample.lateRetry (by decide +kernel) (by decide +kernel)).1

end Finrec.Updater
