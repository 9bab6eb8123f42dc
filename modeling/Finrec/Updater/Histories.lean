import Finrec.Updater.Edits

/-!
# Histories of the updater

A history is any sequence of operations, each cut off anywhere: the operation
lock lets one of them run at a time, and a process may die, or an operation may
fail, at every step.  This file says what each operation does to the task slot.
-/

namespace Finrec.Updater

open CrashLogic UpdateManager Relation

/-- The operations that take the operation lock. -/
inductive Operation where
  | check
  | start (targetVersion taskId : String)
  | execute (taskId : String)
  | recover
  | completePendingCleanup

/-- What an operation leaves, with what its surroundings decide. -/
def Operation.leaves : Operation → World → List Choice → World
  | .check => UpdateManager.check.leaves
  | .start targetVersion taskId => (UpdateManager.start targetVersion taskId).leaves
  | .execute taskId => (UpdateManager.execute taskId).leaves
  | .recover => UpdateManager.recover.leaves
  | .completePendingCleanup => UpdateManager.completePendingCleanup.leaves

abbrev History := List (Operation × List Choice)

def run (world : World) (history : History) : World :=
  history.foldl (fun world step => step.1.leaves world step.2) world

@[simp]
theorem run_nil (world : World) : run world [] = world := rfl

@[simp]
theorem run_cons (world : World) (step : Operation × List Choice) (rest : History) :
    run world (step :: rest) = run (step.1.leaves world step.2) rest := rfl

theorem run_append (world : World) (first second : History) :
    run world (first ++ second) = run (run world first) second :=
  List.foldl_append

/-- Each step of the history meets the condition in the state that it starts in. -/
def EveryStep (condition : World → Operation × List Choice → Prop) : World → History → Prop
  | _, [] => True
  | world, step :: rest =>
      condition world step ∧ EveryStep condition (step.1.leaves world step.2) rest

theorem EveryStep.mono {condition weaker : World → Operation × List Choice → Prop} {world : World}
    {history : History} (every : EveryStep condition world history)
    (implies : ∀ world step, condition world step → weaker world step) :
    EveryStep weaker world history := by
  induction history generalizing world with
  | nil => trivial
  | cons step rest ih => exact ⟨implies world step every.1, ih every.2⟩

theorem everyStep_append {condition : World → Operation × List Choice → Prop} {world : World}
    {first second : History} (before : EveryStep condition world first)
    (after : EveryStep condition (run world first) second) :
    EveryStep condition world (first ++ second) := by
  induction first generalizing world with
  | nil => exact after
  | cons step rest ih => exact ⟨before.1, ih before.2 after⟩

/-- A state that the history passes through: an operation may have been cut off anywhere. -/
def Reaches : World → History → World → Prop
  | world, [], here => here = world
  | world, (operation, choices) :: rest, here =>
      (∃ cut, cut <+: choices ∧ here = operation.leaves world cut) ∨
        Reaches (operation.leaves world choices) rest here

theorem reaches_run (world : World) (history : History) :
    Reaches world history (run world history) := by
  induction history generalizing world with
  | nil => rfl
  | cons step rest ih => exact .inr (ih (step.1.leaves world step.2))

/-- What each operation keeps, wherever it is cut off, holds in every state of a history. -/
theorem Reaches.invariant {condition : World → Operation × List Choice → Prop}
    {invariant : World → Prop}
    (cuts : ∀ world operation cut choices, cut <+: choices →
      condition world (operation, choices) → condition world (operation, cut))
    (keeps : ∀ world operation choices, invariant world →
      condition world (operation, choices) → invariant (operation.leaves world choices))
    {world here : World} {history : History} (holds : invariant world)
    (every : EveryStep condition world history) (reaches : Reaches world history here) :
    invariant here := by
  induction history generalizing world with
  | nil =>
      cases reaches
      exact holds
  | cons step rest ih =>
      rcases step with ⟨operation, choices⟩
      rcases every with ⟨now, later⟩
      rcases reaches with ⟨cut, within, rfl⟩ | reaches
      · exact keeps world operation cut holds (cuts world operation cut choices within now)
      · exact ih (keeps world operation choices holds now) later reaches

section Requests

variable {invariant : World → Prop} {world : World} {α β : Type}

/-- A request that has not saved anything yet finds everything as it was. -/
abbrev Reads (invariant : World → Prop) (world : World) (process : Process α)
    (returns : α → World → Prop) : Prop :=
  Guarded UpdaterError.safeCode? invariant (· = world) process returns invariant

theorem reads_through {process : Process α} {next : α → Process β} {returns : β → World → Prop}
    (first : Reads invariant world process fun _ => (· = world))
    (rest : ∀ value, Reads invariant world (next value) returns) :
    Reads invariant world (process >>= next) returns :=
  Guarded.bind first rest

theorem reads_pure {value : α} {returns : α → World → Prop} (result : returns value world) :
    Reads invariant world (pure value : Process α) returns := by
  refine Satisfies.pure ?_
  rintro here rfl
  exact result

theorem reads_refuse {error : UpdaterError} {returns : α → World → Prop} (same : invariant world)
    (uncaught : error.safeCode? = none) :
    Reads invariant world (Program.raise error : Process α) returns := by
  refine Guarded.raiseOther uncaught ?_
  rintro here rfl
  exact same

theorem reads_loadState {next : PersistentState → Process β} {returns : β → World → Prop}
    (rest : Reads invariant world (next world.state) returns) :
    Reads invariant world (loadState >>= next) returns := by
  refine Guarded.bind guarded_loadState fun state => ?_
  rintro here choices ⟨rfl, rfl⟩
  exact rest here choices rfl

theorem reads_look {possible : Choice → Host → Bool} {code : String} {answer : Choice → α}
    (same : invariant world) :
    Reads invariant world (DockerPlatform.observe possible code answer)
      fun _ => (· = world) := by
  have within : ∀ here, here = world → invariant here := by
    rintro here rfl
    exact same
  exact (guarded_observe within within).conseq (fun _ started => started)
    (fun _ _ answered => answered.2) fun _ failed => failed

theorem reads_now (same : invariant world) :
    Reads invariant world now fun _ => (· = world) := by
  refine guarded_now ?_
  rintro here rfl
  exact same

theorem reads_save {state : PersistentState} (same : invariant world)
    (saved : invariant { world with state }) :
    Reads invariant world (saveState state) fun _ => invariant := by
  refine guarded_saveState ?_ (fun _ holds => holds) ?_
  · rintro here rfl
    exact same
  · rintro here rfl
    exact saved

theorem reads_versionKeyOf {version : String} (same : invariant world) :
    Reads invariant world (versionKeyOf version) fun _ => (· = world) := by
  unfold versionKeyOf
  split
  · exact reads_pure rfl
  · exact reads_refuse same rfl

theorem reads_requireMatchingRepositories {current target : ImageIdentity}
    (same : invariant world) :
    Reads invariant world (requireMatchingRepositories current target)
      fun _ => (· = world) := by
  unfold requireMatchingRepositories
  split
  · exact reads_pure rfl
  · exact reads_refuse same rfl

theorem reads_rejectActiveTask (same : invariant world) :
    Guarded UpdaterError.safeCode? invariant (· = world) (rejectActiveTask world.state)
      (fun _ here => admitsNewTask world.state = true ∧ here = world) invariant := by
  unfold rejectActiveTask
  split
  · rename_i admitted
    exact reads_pure ⟨admitted, rfl⟩
  · exact reads_refuse same rfl

/-- A check saves its result, and keeps the task. -/
theorem check_task (world : World) (choices : List Choice) :
    (UpdateManager.check.leaves world choices).state.task = world.state.task := by
  let invariant : World → Prop := fun after => after.state.task = world.state.task
  have same : invariant world := rfl
  have reads : Reads invariant world UpdateManager.check fun _ => invariant := by
    refine reads_loadState ?_
    refine Guarded.bind (reads_rejectActiveTask same) fun _ => ?_
    rintro here rest ⟨-, rfl⟩
    refine reads_through (reads_look same) (fun current => ?_) here rest rfl
    refine reads_through (reads_look same) fun target => ?_
    refine reads_through (reads_requireMatchingRepositories same) fun _ => ?_
    refine reads_through (reads_versionKeyOf same) fun targetKey => ?_
    refine reads_through (reads_versionKeyOf same) fun currentKey => ?_
    refine reads_through (reads_now same) fun checkedAt => ?_
    refine Guarded.bind (reads_save same same) fun _ => ?_
    exact Satisfies.pure fun _ kept => kept
  exact reads.leaves_of (fun _ _ kept => kept) rfl choices

/-- A start puts a new task into the slot. -/
structure Opens (targetVersion taskId : String) (world after : World) : Prop where
  admitted : admitsNewTask world.state = true
  another : ∀ existing, world.state.task = some existing → existing.id ≠ taskId
  opened : ∃ checked createdAt, world.state.lastCheck = some checked ∧ checked.available = true ∧
    checked.target.version = targetVersion ∧
    after = { world with
      state := { lastCheck := some checked, task := some (newTask checked taskId createdAt) } }

theorem reads_requireFreshCheck {targetVersion : String} (same : invariant world) :
    Guarded UpdaterError.safeCode? invariant (· = world)
      (requireFreshCheck world.state.lastCheck targetVersion)
      (fun checked here => (world.state.lastCheck = some checked ∧ checked.available = true ∧
        checked.target.version = targetVersion) ∧ here = world) invariant := by
  refine reads_through (reads_versionKeyOf same) fun _ => ?_
  cases found : world.state.lastCheck with
  | none => exact reads_refuse same rfl
  | some checked =>
      dsimp only
      split
      · exact reads_refuse same rfl
      rename_i sameVersion
      split
      · exact reads_refuse same rfl
      rename_i available
      refine reads_through (reads_now same) fun instant => ?_
      split
      · exact reads_refuse same rfl
      refine reads_through (reads_requireMatchingRepositories same) fun _ => ?_
      exact reads_pure ⟨⟨rfl, by simpa using available, (not_not.mp sameVersion).symm⟩, rfl⟩

/-- A start leaves everything as it was, or opens a new task in a slot that admits one, and names
the task in the slot where it succeeds. -/
theorem reads_start (targetVersion taskId : String) (world : World) :
    Reads (fun after => after = world ∨ Opens targetVersion taskId world after) world
      (UpdateManager.start targetVersion taskId) fun started after =>
        (after = world ∨ Opens targetVersion taskId world after) ∧
          ∃ task, after.state.task = some task ∧ task.id = taskId ∧ started.1 = task.publicView := by
  let invariant : World → Prop := fun after =>
    after = world ∨ Opens targetVersion taskId world after
  let names : Started → World → Prop := fun started after => invariant after ∧
    ∃ task, after.state.task = some task ∧ task.id = taskId ∧ started.1 = task.publicView
  have same : invariant world := .inl rfl
  have opens : (∀ existing, world.state.task = some existing → existing.id ≠ taskId) →
      Reads invariant world (startNew world.state targetVersion taskId) names := by
    intro another
    refine Guarded.bind (reads_rejectActiveTask same) fun _ => ?_
    rintro here left ⟨admitted, rfl⟩
    refine Guarded.bind (reads_requireFreshCheck same) (fun checked => ?_) here left rfl
    rintro here rest ⟨⟨found, available, version⟩, rfl⟩
    refine reads_through (reads_look same) (fun resolved => ?_) here rest rfl
    split
    · exact reads_refuse same rfl
    refine reads_through (reads_now same) fun createdAt => ?_
    let opened : World := { here with
      state := { lastCheck := some checked, task := some (newTask checked taskId createdAt) } }
    have saved : invariant opened :=
      .inr ⟨admitted, another, checked, createdAt, found, available, version, rfl⟩
    have saves : Guarded UpdaterError.safeCode? invariant (· = here)
        (saveState opened.state) (fun _ => (· = opened)) invariant := by
      refine guarded_saveState ?_ ?_ ?_
      · rintro other rfl
        exact same
      · rintro other rfl
        exact saved
      · rintro other rfl
        rfl
    refine Guarded.bind saves fun _ => Satisfies.pure ?_
    rintro other rfl
    exact ⟨saved, _, rfl, rfl, rfl⟩
  refine reads_loadState ?_
  cases found : world.state.task with
  | none => exact opens fun existing impossible => by simp [found] at impossible
  | some existing =>
      dsimp only
      split
      · rename_i repeated
        unfold repeatStart
        split
        · exact reads_refuse same rfl
        · exact reads_pure ⟨same, existing, found, repeated, rfl⟩
      · rename_i another
        refine opens fun other saved => ?_
        obtain rfl : existing = other := Option.some.inj (found.symm.trans saved)
        exact another

theorem start_leaves (targetVersion taskId : String) (world : World) (choices : List Choice) :
    (UpdateManager.start targetVersion taskId).leaves world choices = world ∨
      Opens targetVersion taskId world
        ((UpdateManager.start targetVersion taskId).leaves world choices) :=
  (reads_start targetVersion taskId world).leaves_of (fun _ _ holds => holds.1) rfl choices

end Requests

section Slot

variable {world : World} {task : UpdateTask}

theorem Edit.mono {completes undoes completes' undoes' : Prop} {edited : UpdateTask}
    (edit : Edit completes undoes task edited) (completing : completes → completes')
    (undoing : undoes → undoes') : Edit completes' undoes' task edited := by
  cases edit with
  | checkpoint stage startedAt active next => exact .checkpoint _ stage startedAt active next
  | backups database uploads active => exact .backups _ database uploads active
  | tagged rollbackAlias active => exact .tagged _ rollbackAlias active
  | rollBack code named active tagged uncleaned =>
      exact .rollBack _ code named active tagged uncleaned
  | undo code named allowed active tagged =>
      exact .undo _ code named (undoing allowed) active tagged
  | failed code rolledBack finishedAt named active origin =>
      exact .failed _ code rolledBack finishedAt named active
        (origin.imp_right fun later => later.imp_right undoing)
  | manual finishedAt active => exact .manual _ finishedAt active
  | pending active allowed unmarked => exact .pending _ active (completing allowed) unmarked
  | journal old new active kept => exact .journal _ old new active kept
  | succeeded cleanup finishedAt active allowed marked =>
      exact .succeeded _ cleanup finishedAt active (completing allowed) marked
  | closed active => exact .closed _ active

/-- What an operation other than a start may do to a saved task. -/
abbrev Edits : UpdateTask → UpdateTask → Prop := ReflTransGen (Edit True True)

theorem Edited.edits {completes undoes : Prop} {facts : UpdateTask → Prop}
    (edited : Edited completes undoes task facts world) :
    ∃ after, world.state.task = some after ∧ Edits task after := by
  rcases edited with ⟨after, saved, edits, -⟩
  refine ⟨after, saved, ReflTransGen.mono (fun _ _ edit => ?_) _ _ edits⟩
  exact edit.mono (fun _ => trivial) fun _ => trivial

/-- An operation edits the task in the slot, or opens a new one as a start. -/
theorem Operation.leaves_task (operation : Operation) (choices : List Choice)
    (saved : world.state.task = some task) :
    (∃ after, (operation.leaves world choices).state.task = some after ∧ Edits task after) ∨
      ∃ targetVersion taskId, operation = .start targetVersion taskId ∧
        Opens targetVersion taskId world (operation.leaves world choices) := by
  cases operation with
  | check => exact .inl ⟨task, (check_task world choices).trans saved, .refl⟩
  | start targetVersion taskId =>
      rcases start_leaves targetVersion taskId world choices with unchanged | opens
      · refine .inl ⟨task, ?_, .refl⟩
        rw [show (Operation.start targetVersion taskId).leaves world choices = world from unchanged]
        exact saved
      · exact .inr ⟨targetVersion, taskId, rfl, opens⟩
  | execute taskId => exact .inl (execute_traced saved taskId choices).edits
  | recover => exact .inl (recover_traced saved choices).edits
  | completePendingCleanup => exact .inl (completePendingCleanup_traced saved choices).edits

/-- Without a task in the slot, only a start changes the slot. -/
theorem Operation.leaves_empty (operation : Operation) (choices : List Choice)
    (empty : world.state.task = none) :
    (operation.leaves world choices).state.task = none ∨
      ∃ targetVersion taskId, operation = .start targetVersion taskId ∧
        Opens targetVersion taskId world (operation.leaves world choices) := by
  have missing : ∀ (taskId : String) (choices : List Choice),
      taskOf taskId world choices = (.raised (.conflict "task_not_found"), world, choices) := by
    intro taskId choices
    simp [taskOf, loadState, requireTask, empty, Bind.bind, Program.bind, Program.read,
      Program.raise, pure, Program.pure]
  cases operation with
  | check => exact .inl ((check_task world choices).trans empty)
  | start targetVersion taskId =>
      rcases start_leaves targetVersion taskId world choices with unchanged | opens
      · left
        rw [show (Operation.start targetVersion taskId).leaves world choices = world from unchanged]
        exact empty
      · exact .inr ⟨targetVersion, taskId, rfl, opens⟩
  | execute taskId =>
      left
      have unready : requireReadyTask taskId world choices =
        (.raised (.conflict "task_not_found"), world, choices) :=
        Program.bind_raised (missing taskId choices)
      have ran : UpdateManager.execute taskId world choices =
        (.raised (.conflict "task_not_found"), world, choices) := Program.bind_raised unready
      rw [show (Operation.execute taskId).leaves world choices = world from
        Program.leaves_of_eq ran]
      exact empty
  | recover =>
      left
      have loaded : loadState world choices = (.returned world.state, world, choices) := rfl
      simp only [Operation.leaves, UpdateManager.recover, Program.leaves]
      rw [Program.bind_returned loaded]
      simp only [empty]
      exact empty
  | completePendingCleanup =>
      left
      have loaded : loadState world choices = (.returned world.state, world, choices) := rfl
      simp only [Operation.leaves, UpdateManager.completePendingCleanup, Program.leaves]
      rw [Program.bind_returned loaded]
      simp only [empty]
      exact empty

/-- An execution of a task that is not ready leaves everything as it was. -/
theorem execute_unready (saved : world.state.task = some task) {taskId : String}
    (choices : List Choice) (unready : ¬(task.id = taskId ∧ task.stage = .checking)) :
    (execute taskId).leaves world choices = world := by
  have refused : ∃ error, requireReadyTask taskId world choices =
      (.raised error, world, choices) := by
    by_cases same : task.id = taskId
    · subst same
      have begun : task.stage ≠ .checking := fun stage => unready ⟨rfl, stage⟩
      refine ⟨.conflict "task_not_ready", ?_⟩
      unfold requireReadyTask
      rw [Program.bind_returned (taskOf_saved saved choices), if_neg begun]
      rfl
    · refine ⟨.conflict "task_not_found", Program.bind_raised ?_⟩
      simp [taskOf, loadState, requireTask, saved, same, Bind.bind, Program.bind, Program.read,
        Program.raise, pure, Program.pure]
  rcases refused with ⟨error, refused⟩
  exact Program.leaves_of_eq (Program.bind_raised refused)

/-- The task in the slot, if any, has the facts. -/
def SlotHas (facts : UpdateTask → Prop) (world : World) : Prop :=
  ∀ task, world.state.task = some task → facts task

/-- The operations that edit the task they find, and how far they may take it. -/
inductive Course (task : UpdateTask) (world : World) (choices : List Choice) :
    Operation → Prop → Prop → Prop where
  | execute (taskId : String) (ready : task.stage = .checking) :
      Course task world choices (.execute taskId) True False
  | recover :
      Course task world choices .recover (Completes task world choices)
        (RollsBack task world choices)
  | completePendingCleanup : Course task world choices .completePendingCleanup False False

theorem slotHas_of_empty {facts : UpdateTask → Prop} (empty : world.state.task = none) :
    SlotHas facts world := by
  intro task saved
  rw [empty] at saved
  cases saved

theorem slotHas_of_saved {facts : UpdateTask → Prop} (saved : world.state.task = some task)
    (holds : facts task) : SlotHas facts world := by
  intro other savedOther
  obtain rfl : task = other := Option.some.inj (saved.symm.trans savedOther)
  exact holds

/-- Facts that new tasks have and that edits keep are kept by every operation. -/
theorem slotHas_leaves {facts : UpdateTask → Prop} {operation : Operation} {choices : List Choice}
    (holds : SlotHas facts world)
    (opens : ∀ targetVersion taskId checked createdAt,
      operation = .start targetVersion taskId → facts (newTask checked taskId createdAt))
    (edits : ∀ task completes undoes edited, world.state.task = some task →
      Course task world choices operation completes undoes → facts task →
      ReflTransGen (Edit completes undoes) task edited → facts edited) :
    SlotHas facts (operation.leaves world choices) := by
  have opened : ∀ targetVersion taskId, operation = .start targetVersion taskId →
      Opens targetVersion taskId world (operation.leaves world choices) →
      SlotHas facts (operation.leaves world choices) := by
    intro targetVersion taskId starts opening
    rcases opening.opened with ⟨checked, createdAt, -, -, -, after⟩
    rw [after]
    exact slotHas_of_saved rfl (opens targetVersion taskId checked createdAt starts)
  cases found : world.state.task with
  | none =>
      rcases operation.leaves_empty choices found with empty | ⟨version, taskId, starts, opening⟩
      · exact slotHas_of_empty empty
      · exact opened version taskId starts opening
  | some task =>
      have held := holds task found
      have edited : ∀ {completes undoes}, Course task world choices operation completes undoes →
          Traced completes undoes task (operation.leaves world choices) →
          SlotHas facts (operation.leaves world choices) := by
        rintro completes undoes course ⟨after, saved, steps, -⟩
        exact slotHas_of_saved saved (edits task completes undoes after found course held steps)
      cases operation with
      | check => exact slotHas_of_saved ((check_task world choices).trans found) held
      | start targetVersion taskId =>
          rcases start_leaves targetVersion taskId world choices with unchanged | opening
          · rw [show (Operation.start targetVersion taskId).leaves world choices = world from
              unchanged]
            exact holds
          · exact opened targetVersion taskId rfl opening
      | execute taskId =>
          by_cases ready : task.id = taskId ∧ task.stage = .checking
          · exact edited (.execute taskId ready.2) (execute_traced found taskId choices)
          · rw [show (Operation.execute taskId).leaves world choices = world from
              execute_unready found choices ready]
            exact holds
      | recover => exact edited .recover (recover_traced found choices)
      | completePendingCleanup =>
          exact edited .completePendingCleanup (completePendingCleanup_traced found choices)

end Slot

end Finrec.Updater
