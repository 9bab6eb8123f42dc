import Finrec.Updater.CrashSafety
import Finrec.Updater.Executions

/-!
# Coherent terminal records

The error code, the rollback, the cleanup and the end of a task are saved at
different checkpoints.  A run keeps them coherent as long as no restart completes
a target whose rollback was already decided, and none rolls back a task whose
cleanup has begun.
-/

namespace Finrec.Updater

open CrashLogic UpdateManager Relation

/-- What a terminal record says about its update. -/
structure Coherent (task : UpdateTask) : Prop where
  succeeded : task.stage = .succeeded → task.errorCode = "" ∧ task.rolledBack = false
  failed : task.stage = .failed → task.errorCode ≠ "" ∧ task.cleanup ≠ .pending
  manual : task.stage = .manualIntervention → task.errorCode = "rollback_failed"
  finished : task.stage ∈ terminalStages → task.finishedAt.isSome

/-- The error codes and the ends that the records of each stage have. -/
structure Sound (task : UpdateTask) : Prop where
  early : task.stage ∈ preTagStages → task.errorCode = ""
  rolledBack : task.rolledBack = true → task.stage = .failed
  succeeded : task.stage = .succeeded → task.errorCode = ""
  failed : task.stage = .failed → task.errorCode ≠ ""
  manual : task.stage = .manualIntervention → task.errorCode = "rollback_failed"
  finished : task.stage ∈ terminalStages → task.finishedAt.isSome

/-- The stages at which a cleanup may be pending. -/
def CleansLate (task : UpdateTask) : Prop :=
  task.cleanup = .pending →
    task.stage = .cleaning ∨ task.stage = .succeeded ∨ task.stage = .manualIntervention

/-- A process that completes a task on its way forward finds no error code. -/
def Unblamed (completes : Prop) (task : UpdateTask) : Prop :=
  completes → task.stage ∉ terminalStages → task.stage ≠ .rollingBack → task.errorCode = ""

/-- A process that undoes a task finds no pending cleanup. -/
def Uncleaned (undoes : Prop) (task : UpdateTask) : Prop :=
  undoes → task.stage ∉ terminalStages → task.cleanup ≠ .pending

theorem CleansLate.not_failed {task : UpdateTask} (late : CleansLate task)
    (failed : task.stage = .failed) : task.cleanup ≠ .pending := by
  intro pending
  have stages := late pending
  simp [failed] at stages

theorem Sound.coherent {task : UpdateTask} (sound : Sound task) (late : CleansLate task) :
    Coherent task where
  succeeded := by
    intro succeeded
    refine ⟨sound.succeeded succeeded, ?_⟩
    by_contra rolled
    have failed := sound.rolledBack (by simpa using rolled)
    rw [succeeded] at failed
    cases failed
  failed := fun failed => ⟨sound.failed failed, late.not_failed failed⟩
  manual := sound.manual
  finished := sound.finished

section Edits

variable {completes undoes : Prop} {task edited : UpdateTask}

theorem succeeded_terminal : Stage.succeeded ∈ terminalStages := by decide
theorem failed_terminal : Stage.failed ∈ terminalStages := by decide
theorem manual_terminal : Stage.manualIntervention ∈ terminalStages := by decide

/-- What the records of the stages between the first and the last say. -/
theorem Sound.ofActive (active : task.stage ∉ terminalStages)
    (early : task.stage ∈ preTagStages → task.errorCode = "") (rolledBack : task.rolledBack = false) :
    Sound task where
  early := early
  rolledBack := by simp [rolledBack]
  succeeded := fun succeeded => absurd (succeeded ▸ succeeded_terminal) active
  failed := fun failed => absurd (failed ▸ failed_terminal) active
  manual := fun manual => absurd (manual ▸ manual_terminal) active
  finished := fun finished => absurd finished active

theorem Sound.notRolledBack (sound : Sound task) (active : task.stage ∉ terminalStages) :
    task.rolledBack = false := by
  by_contra rolled
  have failed := sound.rolledBack (by simpa using rolled)
  exact active (failed ▸ failed_terminal)

theorem CleansLate.cleaning (late : CleansLate task) (active : task.stage ∉ terminalStages)
    (pending : task.cleanup = .pending) : task.stage = .cleaning := by
  rcases late pending with cleaning | succeeded | manual
  · exact cleaning
  · exact absurd (succeeded ▸ succeeded_terminal) active
  · exact absurd (manual ▸ manual_terminal) active

theorem follows_active {stage next : Stage} (moves : follows stage = some next) :
    next ∉ terminalStages ∧ stage ≠ .rollingBack ∧ stage ≠ .cleaning ∧
      (next ∈ preTagStages → stage ∈ preTagStages) := by
  cases stage <;> simp [follows] at moves <;> subst moves <;> decide

theorem checkpoint_sound {stage : Stage} {startedAt : Option ℤ} (sound : Sound task)
    (unblamed : Unblamed completes task) (active : task.stage ∉ terminalStages)
    (next : stage = task.stage ∨ follows task.stage = some stage) :
    Sound { task with stage, startedAt } ∧ Unblamed completes { task with stage, startedAt } := by
  rcases next with rfl | moves
  · exact ⟨.ofActive active sound.early (sound.notRolledBack active), unblamed⟩
  · have ⟨nextActive, unrolled, _, early⟩ := follows_active moves
    refine ⟨.ofActive nextActive (fun preTag => sound.early (early preTag))
      (sound.notRolledBack active), ?_⟩
    exact fun completing _ _ => unblamed completing active unrolled

/-- The parts of a record that the backups, the alias and the journal do not touch. -/
theorem Sound.congr (sound : Sound task) (stage : edited.stage = task.stage)
    (errorCode : edited.errorCode = task.errorCode) (rolledBack : edited.rolledBack = task.rolledBack)
    (finishedAt : edited.finishedAt = task.finishedAt) : Sound edited where
  early := by simpa only [stage, errorCode] using sound.early
  rolledBack := by simpa only [stage, rolledBack] using sound.rolledBack
  succeeded := by simpa only [stage, errorCode] using sound.succeeded
  failed := by simpa only [stage, errorCode] using sound.failed
  manual := by simpa only [stage, errorCode] using sound.manual
  finished := by simpa only [stage, finishedAt] using sound.finished

/-- Every edit keeps the records sound. -/
theorem Edit.sound (edit : Edit completes undoes task edited) (exclusive : completes → ¬undoes)
    (sound : Sound task) (unblamed : Unblamed completes task) :
    Sound edited ∧ Unblamed completes edited := by
  cases edit with
  | checkpoint stage startedAt active next => exact checkpoint_sound sound unblamed active next
  | backups database uploads active => exact ⟨sound.congr rfl rfl rfl rfl, unblamed⟩
  | tagged rollbackAlias active => exact ⟨sound.congr rfl rfl rfl rfl, unblamed⟩
  | rollBack code named active tagged uncleaned =>
      refine ⟨.ofActive (show Stage.rollingBack ∉ terminalStages by decide)
        (fun preTag => absurd preTag (show Stage.rollingBack ∉ preTagStages by decide))
        (sound.notRolledBack active), ?_⟩
      exact fun _ _ unrolled => absurd rfl unrolled
  | undo code named allowed active tagged =>
      refine ⟨.ofActive active (fun preTag => absurd preTag tagged) (sound.notRolledBack active), ?_⟩
      exact fun completing => absurd allowed (exclusive completing)
  | failed code rolledBack finishedAt named active origin =>
      refine ⟨⟨fun preTag => ?_, fun _ => rfl, ?_, fun _ => named, ?_, fun _ => rfl⟩, ?_⟩
      · exact absurd preTag (show Stage.failed ∉ preTagStages by decide)
      · intro succeeded
        cases succeeded
      · intro manual
        cases manual
      · exact fun _ running => absurd failed_terminal running
  | manual finishedAt active =>
      refine ⟨⟨fun preTag => ?_, ?_, ?_, ?_, fun _ => rfl, fun _ => rfl⟩, ?_⟩
      · exact absurd preTag (show Stage.manualIntervention ∉ preTagStages by decide)
      · intro rolled
        have unrolled := sound.notRolledBack active
        rw [show task.rolledBack = true from rolled] at unrolled
        cases unrolled
      · intro succeeded
        cases succeeded
      · intro failed
        cases failed
      · exact fun _ running => absurd manual_terminal running
  | pending active allowed unmarked => exact ⟨sound.congr rfl rfl rfl rfl, unblamed⟩
  | journal old new active kept => exact ⟨sound.congr rfl rfl rfl rfl, unblamed⟩
  | succeeded cleanup finishedAt active allowed marked =>
      have running : task.stage ∉ terminalStages := by simp [active, terminalStages]
      refine ⟨⟨fun preTag => ?_, ?_, fun _ => ?_, ?_, ?_, fun _ => rfl⟩, ?_⟩
      · exact absurd preTag (show Stage.succeeded ∉ preTagStages by decide)
      · intro rolled
        have unrolled := sound.notRolledBack running
        rw [show task.rolledBack = true from rolled] at unrolled
        cases unrolled
      · exact unblamed allowed running (by simp [active])
      · intro failed
        cases failed
      · intro manual
        cases manual
      · exact fun _ ended => absurd succeeded_terminal ended
  | closed active => exact ⟨sound.congr rfl rfl rfl rfl, unblamed⟩

/-- Every edit keeps pending cleanups late. -/
theorem Edit.cleansLate (edit : Edit completes undoes task edited) (exclusive : completes → ¬undoes)
    (late : CleansLate task) (uncleaned : Uncleaned undoes task) :
    CleansLate edited ∧ Uncleaned undoes edited := by
  cases edit with
  | checkpoint stage startedAt active next =>
      rcases next with rfl | moves
      · exact ⟨late, uncleaned⟩
      · refine ⟨?_, fun undoing _ => uncleaned undoing active⟩
        intro pending
        exact absurd (late.cleaning active pending) (follows_active moves).2.2.1
  | backups database uploads active => exact ⟨late, uncleaned⟩
  | tagged rollbackAlias active => exact ⟨late, uncleaned⟩
  | rollBack code named active tagged begun =>
      refine ⟨?_, fun undoing _ => uncleaned undoing active⟩
      intro pending
      exact absurd (late.cleaning active pending) begun
  | undo code named allowed active tagged => exact ⟨late, uncleaned⟩
  | failed code rolledBack finishedAt named active origin =>
      refine ⟨?_, fun undoing _ => uncleaned undoing active⟩
      -- where the cleanup has begun, only a restart that undoes it comes here
      intro pending
      have cleaning := late.cleaning active pending
      rcases origin with preTag | rolling | undoing
      · rw [cleaning] at preTag
        exact absurd preTag (by decide)
      · rw [cleaning] at rolling
        cases rolling
      · exact absurd pending (uncleaned undoing active)
  | manual finishedAt active =>
      exact ⟨fun _ => .inr (.inr rfl), fun undoing _ => uncleaned undoing active⟩
  | pending active allowed unmarked =>
      exact ⟨fun _ => .inl active, fun undoing => absurd undoing (exclusive allowed)⟩
  | journal old new active kept => exact ⟨late, uncleaned⟩
  | succeeded cleanup finishedAt active allowed marked =>
      exact ⟨fun _ => .inr (.inl rfl), fun undoing => absurd undoing (exclusive allowed)⟩
  | closed active => exact ⟨nofun, fun _ _ => nofun⟩

theorem edits_sound (edits : ReflTransGen (Edit completes undoes) task edited)
    (exclusive : completes → ¬undoes) (sound : Sound task) (unblamed : Unblamed completes task) :
    Sound edited ∧ Unblamed completes edited := by
  induction edits with
  | refl => exact ⟨sound, unblamed⟩
  | tail _ edit ih => exact edit.sound exclusive ih.1 ih.2

theorem edits_cleansLate (edits : ReflTransGen (Edit completes undoes) task edited)
    (exclusive : completes → ¬undoes) (late : CleansLate task) (uncleaned : Uncleaned undoes task) :
    CleansLate edited ∧ Uncleaned undoes edited := by
  induction edits with
  | refl => exact ⟨late, uncleaned⟩
  | tail _ edit ih => exact edit.cleansLate exclusive ih.1 ih.2

end Edits

section Cuts

variable {task : UpdateTask} {world : World} {choices cut : List Choice}

theorem settled_loadState : Settled loadState :=
  Settled.bind Settled.read fun _ => Settled.pure

theorem settled_taskOf (taskId : String) : Settled (taskOf taskId) := by
  refine Settled.bind settled_loadState fun state => ?_
  unfold requireTask
  split
  · split
    · exact Settled.pure
    · exact Settled.raise
  · exact Settled.raise

theorem settled_saveTask (task : UpdateTask) : Settled (saveTask task) :=
  Settled.bind settled_loadState fun _ => Settled.act

theorem settled_checkpoint (taskId : String) (stage : Stage) :
    Settled (checkpoint taskId stage) := by
  refine Settled.bind (settled_taskOf taskId) fun task => ?_
  cases task.startedAt with
  | some startedAt => exact settled_saveTask _
  | none => exact Settled.bind Settled.act fun _ => settled_saveTask _

theorem settled_confirmTarget (taskId : String) (stage : Stage) (persistTargetVersion : Bool) :
    Settled (confirmTarget taskId stage persistTargetVersion) := by
  refine Settled.bind (settled_checkpoint taskId stage) fun _ => ?_
  refine Settled.bind (settled_taskOf taskId) fun task => ?_
  refine Settled.bind Settled.act fun _ => ?_
  unfold persistAfterCheckpoint
  split
  · exact Settled.bind (settled_checkpoint taskId _) fun _ => Settled.act
  · exact Settled.pure

theorem FindsWeb.extend {actual : ImageIdentity} {rest more : List Choice}
    (found : FindsWeb world cut actual rest) : FindsWeb world (cut ++ more) actual (rest ++ more) :=
  (Settled.act : Settled DockerPlatform.inspectWeb) _ _ more _ _ _ found nofun

theorem confirmation_extend {rest more : List Choice} {outcome : Outcome UpdaterError Unit}
    (confirmed : confirmation task world rest = outcome) (ended : outcome ≠ .crashed) :
    confirmation task world (rest ++ more) = outcome := by
  rcases ran : confirmTarget task.id task.stage (task.stage = .persistingVersion) world rest
    with ⟨result, after, left⟩
  obtain rfl : result = outcome := (congrArg Prod.fst ran).symm.trans confirmed
  exact congrArg Prod.fst (settled_confirmTarget _ _ _ _ _ more _ _ _ ran ended)

/-- What a cut off restart decided, the whole restart decides. -/
theorem Completes.of_cut (completes : Completes task world cut) (within : cut <+: choices) :
    Completes task world choices := by
  rcases within with ⟨more, rfl⟩
  rcases completes with ⟨actual, rest, found, late, same, confirmed⟩
  exact ⟨actual, rest ++ more, found.extend, late, same, confirmation_extend confirmed nofun⟩

theorem RollsBack.of_cut (rollsBack : RollsBack task world cut) (within : cut <+: choices) :
    RollsBack task world choices := by
  rcases within with ⟨more, rfl⟩
  rcases rollsBack with ⟨actual, rest, found, tagged, undone⟩
  refine ⟨actual, rest ++ more, found.extend, tagged, ?_⟩
  split at undone
  · rename_i target
    rcases undone with ⟨code, raised⟩
    rw [if_pos target]
    exact ⟨code, confirmation_extend raised nofun⟩
  · rename_i target
    rw [if_neg target]
    exact undone

/-- A restart takes one way only. -/
theorem Completes.not_rollsBack (completes : Completes task world choices) :
    ¬RollsBack task world choices := by
  rintro ⟨actual, rest, found, tagged, undone⟩
  rcases completes with ⟨actual', rest', found', late, same, confirmed⟩
  have agree := found.symm.trans found'
  simp only [Prod.mk.injEq, Outcome.returned.injEq, true_and] at agree
  rcases agree with ⟨rfl, rfl⟩
  rw [if_pos ⟨late, same⟩] at undone
  rcases undone with ⟨code, raised⟩
  rw [confirmed] at raised
  cases raised

end Cuts

/-- A restart that completes an update finds no error code in its task. -/
def CompletesUnblamed (world : World) (step : Operation × List Choice) : Prop :=
  step.1 = .recover →
    SlotHas (fun task => Completes task world step.2 → task.errorCode = "") world

/-- A restart that undoes an update finds no pending cleanup in its task. -/
def UndoesUncleaned (world : World) (step : Operation × List Choice) : Prop :=
  step.1 = .recover →
    SlotHas (fun task => RollsBack task world step.2 → task.cleanup ≠ .pending) world

/-- A restart completes no update that has an error code, and undoes none whose cleanup has
begun. -/
def KeepsCourse (world : World) (step : Operation × List Choice) : Prop :=
  CompletesUnblamed world step ∧ UndoesUncleaned world step

section Steps

variable {completes undoes : Prop} {task : UpdateTask} {world : World} {operation : Operation}
  {cut choices : List Choice}

theorem CompletesUnblamed.of_cut (within : cut <+: choices) (keeps : CompletesUnblamed world (operation, choices)) :
    CompletesUnblamed world (operation, cut) :=
  fun recovers task saved completes => keeps recovers task saved (completes.of_cut within)

theorem UndoesUncleaned.of_cut (within : cut <+: choices)
    (keeps : UndoesUncleaned world (operation, choices)) : UndoesUncleaned world (operation, cut) :=
  fun recovers task saved rollsBack => keeps recovers task saved (rollsBack.of_cut within)

theorem Course.exclusive (course : Course task world choices operation completes undoes) :
    completes → ¬undoes := by
  cases course with
  | execute taskId ready => exact fun _ => not_false
  | recover => exact fun completes => completes.not_rollsBack
  | completePendingCleanup => exact nofun

theorem Course.unblamed (course : Course task world choices operation completes undoes)
    (saved : world.state.task = some task) (keeps : CompletesUnblamed world (operation, choices))
    (sound : Sound task) : Unblamed completes task := by
  cases course with
  | execute taskId ready => exact fun _ _ _ => sound.early (by simp [ready, preTagStages])
  | recover => exact fun completes _ _ => keeps rfl task saved completes
  | completePendingCleanup =>
      intro completing
      cases completing

theorem Course.uncleaned (course : Course task world choices operation completes undoes)
    (saved : world.state.task = some task) (keeps : UndoesUncleaned world (operation, choices)) :
    Uncleaned undoes task := by
  cases course with
  | execute taskId ready => exact nofun
  | recover => exact fun rollsBack _ => keeps rfl task saved rollsBack
  | completePendingCleanup => exact nofun

theorem sound_leaves (sound : SlotHas Sound world) (keeps : CompletesUnblamed world (operation, choices)) :
    SlotHas Sound (operation.leaves world choices) := by
  refine slotHas_leaves sound ?_ ?_
  · intro _ taskId checked createdAt _
    exact .ofActive (show Stage.checking ∉ terminalStages by decide) (fun _ => rfl) rfl
  · intro task completes undoes edited saved course soundTask edits
    exact (edits_sound edits course.exclusive soundTask
      (course.unblamed saved keeps soundTask)).1

theorem cleansLate_leaves (late : SlotHas CleansLate world)
    (keeps : UndoesUncleaned world (operation, choices)) :
    SlotHas CleansLate (operation.leaves world choices) := by
  refine slotHas_leaves late ?_ ?_
  · intro _ taskId checked createdAt _
    exact nofun
  · intro task completes undoes edited saved course lateTask edits
    exact (edits_cleansLate edits course.exclusive lateTask (course.uncleaned saved keeps)).1

/-- In every run whose restarts undo no begun cleanup, pending cleanups are late. -/
theorem Reaches.cleansLate {history : History} {here : World} (reached : Reaches world history here)
    (empty : world.state.task = none) (keeps : EveryStep UndoesUncleaned world history) :
    SlotHas CleansLate here :=
  reached.invariant (fun _ _ _ _ within keeps => keeps.of_cut within)
    (fun _ _ _ late keeps => cleansLate_leaves late keeps) (slotHas_of_empty empty) keeps

end Steps

/-- In every run whose restarts keep their course, every saved record is coherent. -/
theorem terminal_records_coherent (world : World) (empty : world.state.task = none)
    (history : History) (keeps : EveryStep KeepsCourse world history) (here : World)
    (reached : Reaches world history here) (task : UpdateTask)
    (saved : here.state.task = some task) : Coherent task := by
  have sound : SlotHas Sound here :=
    reached.invariant (fun _ _ _ _ within keeps => keeps.of_cut within)
      (fun _ _ _ sound keeps => sound_leaves sound keeps) (slotHas_of_empty empty)
      (keeps.mono fun _ _ keeps => keeps.1)
  have late := reached.cleansLate empty (keeps.mono fun _ _ keeps => keeps.2)
  exact (sound task saved).coherent (late task saved)

namespace Sample

def emptyWorld : World where
  state := {}
  host := ⟨"v0.2.0", ⟨originalImage.image, true⟩⟩

/-- A check, a start and an execution that dies after some steps. -/
def updating (steps : ℕ) : History := [
  (.check, { inspected := originalImage } :: calm 3), (.start "v0.3.0" task.id, calm 4),
  (.execute task.id, calm steps)]

/-- The rest of a restart after a health check that found the target unhealthy. -/
def unhealthy (steps : ℕ) : List Choice :=
  calm 2 ++ { inspected := targetImage, raises := some "health_check_failed" } :: calm steps

/-- A restart decides to undo an update and dies, the next one finds the target healthy. -/
def wavering : History := updating 26 ++ [(.recover, unhealthy 1), (.recover, calm 19)]

/-- A restart undoes an update whose cleanup has begun. -/
def turningBack : History := updating 28 ++ [(.recover, unhealthy 8)]

end Sample

/-- A run ends in a success with an error code, another one in a failure with a pending cleanup. -/
theorem terminal_records_incoherent :
    ∃ world : World, world.state.task = none ∧
      ((run world Sample.wavering).state.task.map fun task => (task.stage, task.errorCode)) =
        some (.succeeded, "update_failed") ∧
      ((run world Sample.turningBack).state.task.map fun task => (task.stage, task.cleanup)) =
        some (.failed, .pending) :=
  by
  refine ⟨Sample.emptyWorld, rfl, ?_, ?_⟩
  · decide +kernel
  · decide +kernel

/-- An execution does not restart, whichever steps it dies at. -/
theorem updating_keepsCourse (world : World) (steps : ℕ) :
    EveryStep KeepsCourse world (Sample.updating steps) :=
  ⟨⟨nofun, nofun⟩, ⟨nofun, nofun⟩, ⟨nofun, nofun⟩, trivial⟩

theorem terminal_records_coherent_completed :
    ∃ task, (run Sample.emptyWorld
        (Sample.updating 26 ++ [(.recover, Sample.calm 19)])).state.task = some task ∧
      task.stage = .succeeded ∧ Coherent task := by
  have succeeded : (run Sample.emptyWorld
      (Sample.updating 26 ++ [(.recover, Sample.calm 19)])).state.task.map (·.stage) =
        some .succeeded := by decide +kernel
  have found : (run Sample.emptyWorld (Sample.updating 26)).state.task.map
      (fun task => (task.errorCode, task.cleanup)) = some ("", .notRun) := by decide +kernel
  have restart : KeepsCourse (run Sample.emptyWorld (Sample.updating 26))
      (.recover, Sample.calm 19) := by
    constructor
    · intro _ interrupted kept _
      rw [kept, Option.map_some, Option.some.injEq, Prod.mk.injEq] at found
      exact found.1
    · intro _ interrupted kept _ pending
      rw [kept, Option.map_some, Option.some.injEq, Prod.mk.injEq] at found
      simp [found.2] at pending
  have keeps : EveryStep KeepsCourse Sample.emptyWorld
      (Sample.updating 26 ++ [(.recover, Sample.calm 19)]) :=
    everyStep_append (updating_keepsCourse _ 26) ⟨restart, trivial⟩
  have reached := reaches_run Sample.emptyWorld (Sample.updating 26 ++ [(.recover, Sample.calm 19)])
  rcases Option.map_eq_some_iff.mp succeeded with ⟨task, saved, stage⟩
  refine ⟨task, saved, stage, ?_⟩
  exact terminal_records_coherent Sample.emptyWorld rfl _ keeps _ reached task saved

end Finrec.Updater
