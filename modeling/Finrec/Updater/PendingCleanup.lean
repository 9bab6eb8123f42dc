import Finrec.Updater.CrashSafety
import Finrec.Updater.Executions

/-!
# Completing a pending cleanup

A success whose cleanup is pending blocks the next update until the cleanup is
completed.  A completion in which every step succeeds goes on from whatever the
journal says was done.  It needs a journal: a record without one was written
before journals existed, and such a success stays pending.
-/

namespace Finrec.Updater

open CrashLogic UpdateManager Relation

/-- Nothing dies and no platform step fails. -/
def Calm (choice : Choice) : Prop := choice.dies = false ∧ choice.raises = none

/-- The steps before a step. -/
def CleanupStep.earlier : CleanupStep → List CleanupStep
  | .versionTag => []
  | .rollbackAlias => [.versionTag]
  | .imageId => [.versionTag, .rollbackAlias]

namespace CleanupJournal

variable {journal : CleanupJournal} {step : CleanupStep}

/-- The steps before a step are done. -/
def Ready (journal : CleanupJournal) (step : CleanupStep) : Prop :=
  ∀ other ∈ step.earlier, journal.status other = .completed

theorem alias_notStarted (journal : CleanupJournal) (open_ : journal.versionTag ≠ .completed) :
    journal.rollbackAlias = .notStarted := by
  by_contra begun
  exact open_ (journal.aliasAfterTag begun)

theorem image_notStarted (journal : CleanupJournal) (open_ : journal.rollbackAlias ≠ .completed) :
    journal.imageId = .notStarted := by
  by_contra begun
  exact open_ (journal.imageAfterAlias begun)

theorem build_eq_some {versionTag rollbackAlias imageId : CleanupStepStatus}
    (aliasAfterTag : rollbackAlias ≠ .notStarted → versionTag = .completed)
    (imageAfterAlias : imageId ≠ .notStarted → rollbackAlias = .completed) :
    build versionTag rollbackAlias imageId =
      some ⟨versionTag, rollbackAlias, imageId, aliasAfterTag, imageAfterAlias⟩ := by
  unfold build
  rw [dif_pos aliasAfterTag, dif_pos imageAfterAlias]

/-- A step whose turn it is may be given any status. -/
theorem replace_of_ready (ready : journal.Ready step) (undone : journal.status step ≠ .completed)
    (status : CleanupStepStatus) :
    ∃ changed, journal.replace step status = some changed ∧ changed.Ready step ∧
      changed.status step = status := by
  cases step with
  | versionTag =>
      have aliasRests := journal.alias_notStarted undone
      have imageRests := journal.image_notStarted (by simp [aliasRests])
      refine ⟨_, build_eq_some (fun begun => absurd aliasRests begun)
        (fun begun => absurd imageRests begun), ?_, rfl⟩
      simp [Ready, CleanupStep.earlier]
  | rollbackAlias =>
      have imageRests := journal.image_notStarted undone
      have tagDone : journal.versionTag = .completed := ready .versionTag (by decide)
      refine ⟨_, build_eq_some (fun _ => tagDone) (fun begun => absurd imageRests begun), ?_, rfl⟩
      simpa [Ready, CleanupStep.earlier, CleanupJournal.status] using tagDone
  | imageId =>
      have tagDone : journal.versionTag = .completed := ready .versionTag (by decide)
      have aliasDone : journal.rollbackAlias = .completed := ready .rollbackAlias (by decide)
      refine ⟨_, build_eq_some (fun _ => tagDone) (fun _ => aliasDone), ?_, rfl⟩
      simp [Ready, CleanupStep.earlier, CleanupJournal.status, tagDone, aliasDone]

end CleanupJournal

section Calm

variable {world : World} {task : UpdateTask} {journal : CleanupJournal} {step : CleanupStep}

/-- A process that returns after this many calm steps. -/
abbrev CalmlyReturns (steps : ℕ) (process : Process α) (world : World) (value : α)
    (after : World) : Prop :=
  Succeeds Calm steps process world value after

/-- The world with another task in the slot. -/
def World.withTask (world : World) (task : UpdateTask) : World :=
  { world with state := { world.state with task := some task } }

theorem calm_taskOf {taskId : String} (saved : world.state.task = some task)
    (same : task.id = taskId) : CalmlyReturns 0 (taskOf taskId) world task world := by
  subst same
  exact fun choices _ _ => taskOf_saved saved choices

theorem calm_saveState (state : PersistentState) :
    CalmlyReturns 1 (saveState state) world () { world with state } := by
  unfold saveState
  refine Succeeds.act fun choice calm => ?_
  simp [calm.1]

theorem calm_saveTask (edited : UpdateTask) :
    CalmlyReturns 1 (saveTask edited) world () (world.withTask edited) := by
  have loaded : CalmlyReturns 0 loadState world world.state world := fun _ _ _ => rfl
  unfold saveTask
  refine Succeeds.after_free loaded ?_
  exact calm_saveState _

theorem calm_cleanupOriginalStep :
    CalmlyReturns 1 (DockerPlatform.cleanupOriginalStep task step) world () world := by
  unfold DockerPlatform.cleanupOriginalStep DockerPlatform.observe
  refine Succeeds.act fun choice calm => ?_
  simp [calm.1, calm.2]

@[simp]
theorem World.withTask_task (world : World) (task : UpdateTask) :
    (world.withTask task).state.task = some task := rfl

@[simp]
theorem World.withTask_withTask (world : World) (first second : UpdateTask) :
    (world.withTask first).withTask second = world.withTask second := rfl

/-- A task with another journal. -/
def UpdateTask.withJournal (task : UpdateTask) (journal : CleanupJournal) : UpdateTask :=
  { task with cleanupJournal := some journal }

theorem calm_withJournal {taskId : String} (same : task.id = taskId) :
    CalmlyReturns 0 (taskOf taskId) (world.withTask (task.withJournal journal))
      (task.withJournal journal) (world.withTask (task.withJournal journal)) :=
  calm_taskOf rfl same

theorem calm_saveJournal (changed : CleanupJournal) :
    CalmlyReturns 1 (saveJournal (task.withJournal journal) (some changed))
      (world.withTask (task.withJournal journal)) ()
      (world.withTask (task.withJournal changed)) :=
  calm_saveTask (task.withJournal changed)

theorem calm_completeStep (ready : journal.Ready step) (started : journal.status step = .started) :
    ∃ changed, CalmlyReturns (1 + 0) (completeStep task.id step)
        (world.withTask (task.withJournal journal)) true
        (world.withTask (task.withJournal changed)) ∧
      changed.Ready step ∧ changed.status step = .completed := by
  rcases journal.replace_of_ready ready (by simp [started]) .completed with
    ⟨changed, replaced, stillReady, completed⟩
  refine ⟨changed, ?_, stillReady, completed⟩
  unfold completeStep
  refine Succeeds.after_free (calm_withJournal rfl) ?_
  simp only [UpdateTask.withJournal, started, if_true, replaced]
  exact Succeeds.bind (calm_saveJournal changed) Succeeds.pure

/-- A step whose turn it is ends completed, wherever the last process left it. -/
theorem calm_cleanupStep (ready : journal.Ready step) :
    ∃ used ≤ 3, ∃ changed, CalmlyReturns used (cleanupStep task.id step)
        (world.withTask (task.withJournal journal)) true
        (world.withTask (task.withJournal changed)) ∧
      changed.Ready step ∧ changed.status step = .completed := by
  unfold cleanupStep
  by_cases done : journal.status step = .completed
  · refine ⟨0, by omega, journal, ?_, ready, done⟩
    refine Succeeds.after_free (calm_withJournal rfl) ?_
    simp only [UpdateTask.withJournal, done, if_true]
    exact Succeeds.pure
  -- the step is begun, or was begun by an earlier process
  obtain ⟨used, few, begun, saved, begunReady, started⟩ : ∃ used ≤ 1, ∃ begun,
      CalmlyReturns used (startStep (task.withJournal journal) journal step)
        (world.withTask (task.withJournal journal)) () (world.withTask (task.withJournal begun)) ∧
      begun.Ready step ∧ begun.status step = .started := by
    unfold startStep
    cases status : journal.status step with
    | completed => exact absurd status done
    | started => exact ⟨0, by omega, journal, Succeeds.pure, ready, status⟩
    | notStarted =>
        rcases journal.replace_of_ready ready done .started with
          ⟨begun, replaced, begunReady, started⟩
        refine ⟨1, by omega, begun, ?_, begunReady, started⟩
        simp only [if_true, replaced]
        exact calm_saveJournal begun
  obtain ⟨changed, completes, changedReady, completed⟩ :
      ∃ changed, CalmlyReturns (1 + 0) (completeStep task.id step)
          (world.withTask (task.withJournal begun)) true
          (world.withTask (task.withJournal changed)) ∧
        changed.Ready step ∧ changed.status step = .completed :=
    calm_completeStep begunReady started
  refine ⟨used + (1 + (1 + 0)), by omega, changed, ?_, changedReady, completed⟩
  refine Succeeds.after_free (calm_withJournal rfl) ?_
  simp only [UpdateTask.withJournal, done, if_false]
  refine Succeeds.bind saved ?_
  refine Succeeds.after_free (calm_withJournal rfl) ?_
  exact Succeeds.bind (Succeeds.attempt calm_cleanupOriginalStep) completes

/-- The cleanup of a task with a journal completes every step. -/
theorem calm_cleanupOriginal (pending : task.cleanup = .pending) (journal : CleanupJournal) :
    ∃ used ≤ 9, ∃ changed, CalmlyReturns used (cleanupOriginal task.id)
        (world.withTask (task.withJournal journal)) true
        (world.withTask (task.withJournal changed)) ∧ changed.imageId = .completed := by
  have tagReady : journal.Ready .versionTag := by simp [CleanupJournal.Ready, CleanupStep.earlier]
  rcases calm_cleanupStep tagReady with ⟨tagUsed, tagFew, tagged, tagSteps, -, tagDone⟩
  have aliasReady : tagged.Ready .rollbackAlias := by
    simpa [CleanupJournal.Ready, CleanupStep.earlier] using tagDone
  rcases calm_cleanupStep aliasReady with
    ⟨aliasUsed, aliasFew, aliased, aliasSteps, aliasStill, aliasDone⟩
  have imageReady : aliased.Ready .imageId := by
    intro other member
    simp only [CleanupStep.earlier, List.mem_cons, List.not_mem_nil, or_false] at member
    rcases member with rfl | rfl
    · exact aliasStill .versionTag (by decide)
    · exact aliasDone
  rcases calm_cleanupStep imageReady with
    ⟨imageUsed, imageFew, cleaned, imageSteps, -, imageDone⟩
  refine ⟨tagUsed + (aliasUsed + (imageUsed + 0)), by omega, cleaned, ?_, imageDone⟩
  unfold cleanupOriginal
  refine Succeeds.after_free (calm_withJournal rfl) ?_
  have marked : CalmlyReturns 0 (markPending (task.withJournal journal))
      (world.withTask (task.withJournal journal)) ()
      (world.withTask (task.withJournal journal)) := by
    unfold markPending
    rw [if_neg (by simp [UpdateTask.withJournal, pending])]
    exact Succeeds.pure
  refine Succeeds.after_free marked ?_
  exact tagSteps.bind (aliasSteps.bind (imageSteps.bind Succeeds.pure))

/-- Every step of a cleanup succeeds, and the process goes on long enough for it. -/
def CompletesCalmly (choices : List Choice) : Prop :=
  (∀ choice ∈ choices, Calm choice) ∧ 10 ≤ choices.length

/-- A calm completion of a pending cleanup with a journal succeeds. -/
theorem calm_completePendingCleanup (saved : world.state.task = some task)
    (succeeded : task.stage = .succeeded) (pending : task.cleanup = .pending)
    (kept : task.cleanupJournal ≠ none) {choices : List Choice} (calm : CompletesCalmly choices) :
    ∃ done, (completePendingCleanup.leaves world choices).state.task = some done ∧
      done.stage = .succeeded ∧ done.cleanup = .complete := by
  rcases found : task.cleanupJournal with _ | journal
  · exact absurd found kept
  have sameTask : task.withJournal journal = task := by
    rw [UpdateTask.withJournal, ← found]
  have sameWorld : world.withTask (task.withJournal journal) = world := by
    rw [sameTask, World.withTask, ← saved]
  obtain ⟨used, few, changed, cleans, imageDone⟩ :
      ∃ used ≤ 9, ∃ changed, CalmlyReturns used (cleanupOriginal task.id)
          (world.withTask (task.withJournal journal)) true
          (world.withTask (task.withJournal changed)) ∧ changed.imageId = .completed :=
    calm_cleanupOriginal pending journal
  rw [sameWorld] at cleans
  have closes : CalmlyReturns (1 + 0) (closeCleanup task.id)
      (world.withTask (task.withJournal changed))
      ((world.withTask { task.withJournal changed with cleanup := .complete }).state)
      (world.withTask { task.withJournal changed with cleanup := .complete }) := by
    unfold closeCleanup
    refine Succeeds.after_free (calm_withJournal rfl) ?_
    simp only [UpdateTask.withJournal, imageDone, if_true]
    exact Succeeds.bind (calm_saveTask _) fun _ _ _ => rfl
  have loaded : CalmlyReturns 0 loadState world world.state world := fun _ _ _ => rfl
  have completes : CalmlyReturns (used + (1 + 0)) completePendingCleanup world
      ((world.withTask { task.withJournal changed with cleanup := .complete }).state)
      (world.withTask { task.withJournal changed with cleanup := .complete }) := by
    unfold completePendingCleanup
    refine Succeeds.after_free loaded ?_
    simp only [saved, succeeded, pending, found, ne_eq, not_true_eq_false, reduceCtorEq, or_self,
      if_false]
    exact cleans.bind closes
  have left := completes.leaves calm.1 (by have := calm.2; omega)
  rw [left]
  exact ⟨_, rfl, succeeded, rfl⟩

/-- Without a journal nothing completes a pending cleanup. -/
theorem completePendingCleanup_refuses (saved : world.state.task = some task)
    (lost : task.cleanupJournal = none) (choices : List Choice) :
    completePendingCleanup.leaves world choices = world := by
  have loaded : loadState world choices = (.returned world.state, world, choices) := rfl
  unfold completePendingCleanup Program.leaves
  rw [Program.bind_returned loaded]
  simp only [saved, lost, or_true, if_true]
  rfl

end Calm

section DeadEnd

variable {task edited : UpdateTask}

/-- Edits neither give a record a journal nor take it away. -/
theorem Edit.journal_lost_iff {completes undoes : Prop} (edit : Edit completes undoes task edited) :
    edited.cleanupJournal = none ↔ task.cleanupJournal = none := by
  cases edit with
  | journal old new active kept => simp [kept]
  | _ => exact Iff.rfl

theorem Edits.journal_lost_iff (edits : Edits task edited) :
    edited.cleanupJournal = none ↔ task.cleanupJournal = none := by
  induction edits with
  | refl => exact Iff.rfl
  | tail _ edit ih => exact edit.journal_lost_iff.trans ih

end DeadEnd

/-- A success whose cleanup is pending can be completed exactly where the record that the operation
found has a cleanup journal. -/
theorem pending_cleanup_completes_iff (world : World) (task : UpdateTask)
    (saved : world.state.task = some task) (operation : Operation) (choices : List Choice)
    (final : UpdateTask)
    (savedFinally : (operation.leaves world choices).state.task = some final)
    (succeeded : final.stage = .succeeded) (pending : final.cleanup = .pending) :
    (∀ later, CompletesCalmly later →
      ∃ done, (completePendingCleanup.leaves (operation.leaves world choices) later).state.task =
          some done ∧ done.stage = .succeeded ∧ done.cleanup = .complete) ↔
      task.cleanupJournal ≠ none := by
  have edits : Edits task final := by
    rcases operation.leaves_task choices saved with ⟨after, savedAfter, edits⟩ | opened
    · obtain rfl : after = final := Option.some.inj (savedAfter.symm.trans savedFinally)
      exact edits
    · rcases opened with ⟨targetVersion, taskId, -, -, -, checked, createdAt, -, -, -, left⟩
      rw [left] at savedFinally
      obtain rfl : newTask checked taskId createdAt = final := Option.some.inj savedFinally
      cases succeeded
  rw [ne_eq, ← edits.journal_lost_iff]
  constructor
  · intro completes lost
    have calm : CompletesCalmly (List.replicate 10 { inspected := task.target }) := by
      refine ⟨?_, by simp⟩
      intro choice member
      rw [List.eq_of_mem_replicate member]
      exact ⟨rfl, rfl⟩
    rcases completes _ calm with ⟨done, savedDone, -, complete⟩
    rw [completePendingCleanup_refuses savedFinally lost] at savedDone
    obtain rfl : final = done := Option.some.inj (savedFinally.symm.trans savedDone)
    rw [pending] at complete
    cases complete
  · intro kept later calm
    exact calm_completePendingCleanup savedFinally succeeded pending kept calm

namespace Sample

/-- A record from before the journals, saved just before the version was persisted. -/
def legacyWorld : World where
  state := { task := some { Sample.task with
    stage := .persistingVersion, cleanupJournal := none, startedAt := some 0,
    original := { originalImage with
      rollbackAlias := "finance-reconciliation-rollback-web:11111111-1111-4111-8111-111111111111" } } }
  host := ⟨"v0.2.0", ⟨targetImage.image, true⟩⟩

/-- An execution in which only the cleanup of the version tag fails. -/
def unclean : List Choice :=
  List.replicate 29 { inspected := targetImage } ++
    [{ inspected := targetImage, raises := some "cleanup_refused" }] ++
    List.replicate 5 { inspected := targetImage }

end Sample

/-- The restart of an updater on a record without a journal ends in a success that stays pending,
whatever a later completion does. -/
theorem legacy_cleanup_stays_pending :
    ∃ final, (Operation.recover.leaves Sample.legacyWorld (Sample.calm 20)).state.task = some final ∧
      final.stage = .succeeded ∧ final.cleanup = .pending ∧
      ∀ later, completePendingCleanup.leaves
          (Operation.recover.leaves Sample.legacyWorld (Sample.calm 20)) later =
        Operation.recover.leaves Sample.legacyWorld (Sample.calm 20) := by
  have ended : (Operation.recover.leaves Sample.legacyWorld (Sample.calm 20)).state.task.map
      (fun task => (task.stage, task.cleanup, task.cleanupJournal.isNone)) =
        some (.succeeded, .pending, true) := by decide +kernel
  rcases Option.map_eq_some_iff.mp ended with ⟨final, saved, facts⟩
  simp only [Prod.mk.injEq] at facts
  exact ⟨final, saved, facts.1, facts.2.1,
    completePendingCleanup_refuses saved (Option.isNone_iff_eq_none.mp facts.2.2)⟩

theorem pending_cleanup_completes_unclean :
    ∃ done, (completePendingCleanup.leaves
        ((Operation.execute Sample.task.id).leaves Sample.world Sample.unclean)
        (List.replicate 10 { inspected := Sample.task.target })).state.task =
        some done ∧ done.stage = .succeeded ∧ done.cleanup = .complete := by
  have ended : ((Operation.execute Sample.task.id).leaves Sample.world
      Sample.unclean).state.task.map (fun task => (task.stage, task.cleanup)) =
        some (.succeeded, .pending) := by decide +kernel
  rcases Option.map_eq_some_iff.mp ended with ⟨final, saved, facts⟩
  simp only [Prod.mk.injEq] at facts
  have calm : CompletesCalmly (List.replicate 10 { inspected := Sample.task.target }) := by
    simp [CompletesCalmly, Calm]
  refine (pending_cleanup_completes_iff Sample.world Sample.task rfl (.execute Sample.task.id)
    Sample.unclean final saved facts.1 facts.2).mpr ?_ _ calm
  simp [Sample.task]

end Finrec.Updater
