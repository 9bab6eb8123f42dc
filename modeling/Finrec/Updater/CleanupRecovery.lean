import Finrec.Lib.CrashTraces
import Finrec.Updater.SuccessiveUpdates

/-!
# Recovery during the cleanup

A restart that finds the target unhealthy goes back to the original image
through its alias.  The cleanup takes the version tag of that image away while
the alias still points to it, and Docker drops the digests of the image with its
last tag in the web repository; the image is not recognised any more.
-/

namespace Finrec.Updater

open CrashLogic UpdateManager

namespace Docker

variable {docker after : Docker} {task : UpdateTask} {step : CleanupStep}

theorem removes_of_removeCleanupReference {reference imageId : String} {tags : List String}
    (removed : docker.removeCleanupReference reference imageId tags = some after) :
    after = docker ∨ docker.referenceImageId (.tag reference) = some (some imageId) ∧
      after = docker.removeTag reference imageId := by
  unfold removeCleanupReference at removed
  simp only [Option.bind_eq_bind, Option.bind_eq_some_iff] at removed
  rcases removed with ⟨_ | referenced, listed, removed⟩
  · left
    by_cases member : reference ∈ tags
    · simp [member] at removed
    · simpa [member] using removed.symm
  · right
    simp only [Option.bind_eq_some_iff, Option.guard_eq_some', Option.pure_def, Option.some.injEq,
      exists_const] at removed
    rcases removed with ⟨rfl, -, rfl⟩
    exact ⟨listed, rfl⟩

/-- What a step of the cleanup takes away, and what it has found before. -/
inductive Removes (docker : Docker) (task : UpdateTask) : CleanupStep → Docker → Prop where
  | versionTag {inspected : InspectedImage} {version : String}
      (read : docker.inspectImage (.id task.original.imageId) (some task.original.digest) =
        some inspected)
      (expected : inspected.allTags.all
        (· ∈ task.original.tags ++ [task.original.rollbackAlias]) = true)
      (first : task.original.tags.head? = some version)
      (refers : docker.referenceImageId (.tag version) = some (some task.original.imageId)) :
      Removes docker task .versionTag (docker.removeTag version task.original.imageId)
  | rollbackAlias {inspected : InspectedImage} {version : String}
      (read : docker.inspectImage (.id task.original.imageId) (some task.original.digest) =
        some inspected)
      (first : task.original.tags.head? = some version) (gone : version ∉ inspected.allTags) :
      Removes docker task .rollbackAlias
        (docker.removeTag task.original.rollbackAlias task.original.imageId)
  | imageId {inspected : InspectedImage}
      (read : docker.inspectImage (.id task.original.imageId) = some inspected)
      (bare : inspected.allTags = []) :
      Removes docker task .imageId (docker.removeImage task.original.imageId)

theorem removes_of_cleanupImageId (cleaned : docker.cleanupImageId task = some after) :
    after = docker ∨ docker.Removes task .imageId after := by
  unfold cleanupImageId at cleaned
  simp only [Option.bind_eq_bind, Option.bind_eq_some_iff] at cleaned
  rcases cleaned with ⟨_ | listed, -, cleaned⟩
  · left
    simp only [Option.bind_eq_some_iff, Option.guard_eq_some', Option.pure_def, Option.some.injEq,
      exists_const] at cleaned
    exact cleaned.2.symm
  · right
    simp only [Option.guard_eq_some', Option.pure_def, Option.some.injEq, exists_const,
      Option.bind_eq_some_iff] at cleaned
    rcases cleaned with ⟨-, inspected, read, ⟨-, bare⟩, -, -, rfl⟩
    exact .imageId read bare

theorem removes_of_cleanupTag (cleaned : docker.cleanupTag task step = some after)
    (notImage : step ≠ .imageId) : after = docker ∨ docker.Removes task step after := by
  unfold cleanupTag at cleaned
  simp only [Option.bind_eq_bind, Option.bind_eq_some_iff, Option.guard_eq_some',
    exists_const] at cleaned
  rcases cleaned with ⟨inspected, read, -, expected, -, version, first, cleaned⟩
  by_cases isTag : step = .versionTag
  · subst isTag
    simp only [if_true, Option.bind_eq_some_iff, Option.guard_eq_some', exists_const] at cleaned
    rcases cleaned with ⟨-, -, removed⟩
    rcases removes_of_removeCleanupReference removed with same | ⟨refers, rfl⟩
    · exact .inl same
    · exact .inr (.versionTag read expected first refers)
  · have isAlias : step = .rollbackAlias := by
      cases step with
      | versionTag => exact absurd rfl isTag
      | rollbackAlias => rfl
      | imageId => exact absurd rfl notImage
    subst isAlias
    simp only [reduceCtorEq, if_false, Option.bind_eq_some_iff, Option.guard_eq_some',
      exists_const] at cleaned
    rcases cleaned with ⟨gone, -, removed⟩
    rcases removes_of_removeCleanupReference removed with same | ⟨-, rfl⟩
    · exact .inl same
    · exact .inr (.rollbackAlias read first gone)

/-- A step of the cleanup leaves Docker alone or takes one reference away. -/
theorem removes_of_cleanupOriginalStep {environmentTag : String}
    (cleaned : docker.cleanupOriginalStep environmentTag task step = some after) :
    after = docker ∨ docker.Removes task step after := by
  unfold cleanupOriginalStep at cleaned
  simp only [Option.bind_eq_bind, Option.bind_eq_some_iff, Option.guard_eq_some',
    exists_const] at cleaned
  rcases cleaned with ⟨-, -, -, cleaned⟩
  by_cases isImage : step = .imageId
  · subst isImage
    exact removes_of_cleanupImageId cleaned
  · rw [if_neg isImage] at cleaned
    exact removes_of_cleanupTag cleaned isImage

end Docker

/-- Docker at the points of a cleanup. -/
inductive CleanupPoint (docker : Docker) (task : UpdateTask) : Docker → Prop where
  | running : CleanupPoint docker task (docker.running task)
  | untagged (own : OwnTags (docker.running task) task) :
      CleanupPoint docker task (docker.untagged task)
  | cleaned : CleanupPoint docker task (docker.cleaned task)

section Points

variable {docker before after : Docker} {task cleaning : UpdateTask} {step : CleanupStep}
  (ready : Ready docker task)
include ready

theorem Ready.present_target (point : CleanupPoint docker task before) :
    Present before task.target ∧ before.web.imageId = task.target.imageId ∧
      DockerPlatform.isWebImageReference before.web.configImage = true := by
  have aliased := ready.target.tagImage task.original.imageId task.id
  have running : Present (docker.running task) task.target := ⟨aliased.tag, aliased.read⟩
  have recorded := ready.target.isOriginal.2
  simp only [DockerPlatform.isRecordedTarget, Bool.and_eq_true, decide_eq_true_eq] at recorded
  have recognised := isWebImageReference_digest recorded.1.1.1.2
  have differ : DockerPlatform.versionTag task.target.version ≠
      DockerPlatform.versionTag task.original.version :=
    fun same => ready.newer (versionTag_injective same).symm
  have untagged : Present (docker.untagged task) task.target := by
    rcases running.read with ⟨core, read, described⟩
    refine ⟨?_, core, ?_, described⟩
    · exact (AList.lookup_erase_ne differ).trans running.tag
    · rw [← read]
      apply Docker.inspectCore_congr
      · rfl
      · exact congrArg (Docker.digestOf · none) (Names.namesOf_without ready.another)
      · rfl
  cases point with
  | running => exact ⟨running, rfl, recognised⟩
  | untagged => exact ⟨untagged, rfl, recognised⟩
  | cleaned =>
      refine ⟨?_, rfl, recognised⟩
      rcases untagged.read with ⟨core, read, described⟩
      refine ⟨?_, core, ?_, described⟩
      · exact (AList.lookup_erase_ne (aliasOf_ne_versionTag _ _).symm).trans untagged.tag
      · rw [← read]
        apply Docker.inspectCore_congr
        · exact AList.lookup_erase_ne ready.another
        · rfl
        · rfl

theorem Ready.inspectWeb_point (point : CleanupPoint docker task before) :
    before.inspectWeb = some task.target := by
  rcases ready.present_target point with ⟨present, web, recognised⟩
  rcases present.inspectWebImage web recognised with ⟨inspected, read, identity, -, -⟩
  simp [Docker.inspectWeb, read, identity]

theorem Ready.health_point (point : CleanupPoint docker task before) :
    before.health task.target = some () := by
  simp [Docker.health, ready.inspectWeb_point point, sameIdentity_refl]

omit ready in
/-- With its last tag in the web repository the image lost its digest. -/
theorem unread_untagged {reference : Reference}
    (refers : (docker.untagged task).imageOf reference = some task.original.imageId) :
    (docker.untagged task).inspectImage reference = none := by
  rw [Option.eq_none_iff_forall_ne_some]
  intro inspected read
  rcases Docker.inspectImage_eq_some.mp read with ⟨imageId, core, found, coreRead, -⟩
  have same : imageId = task.original.imageId := Option.some.inj (found.symm.trans refers)
  rw [same] at coreRead
  have only := Docker.digestOf_eq_some (Docker.reads_of_inspectCore coreRead).digest
  have lost : (docker.untagged task).repositoryDigests task.original.imageId = [] :=
    Names.namesOf_without_self
  simp [lost] at only

omit ready in
theorem unread_cleaned {expected : Option String} :
    (docker.cleaned task).inspectImage (.id task.original.imageId) expected = none := by
  have gone : task.original.imageId ∉ (docker.cleaned task).images := by
    change task.original.imageId ∉ AList.erase _ _
    simp [AList.mem_erase]
  have noImage : (docker.cleaned task).imageOf (.id task.original.imageId) = none := if_neg gone
  simp [Docker.inspectImage, noImage]

/-- The steps of a cleanup go from one of its points to another. -/
theorem Ready.cleanupPoint_step (point : CleanupPoint docker task before)
    (original : cleaning.original = (DockerPlatform.tagged task).original)
    {environmentTag : String}
    (cleaned : before.cleanupOriginalStep environmentTag cleaning step = some after) :
    CleanupPoint docker task after := by
  have idSame : cleaning.original.imageId = task.original.imageId := by rw [original]; rfl
  have tagsSame : cleaning.original.tags =
      [DockerPlatform.versionTag task.original.version] := by
    rw [original]
    exact ready.original_tags
  have aliasSame : cleaning.original.rollbackAlias = DockerPlatform.aliasOf task.id := by
    rw [original]
    rfl
  have listed {expected : Option String} {inspected : InspectedImage}
      (read : before.inspectImage (.id cleaning.original.imageId) expected = some inspected) :
      inspected.allTags = before.allTags task.original.imageId := by
    rcases Docker.inspectImage_eq_some.mp read with ⟨imageId, core, found, -, rfl⟩
    have same : imageId = task.original.imageId := by
      change (if _ then _ else _) = _ at found
      split_ifs at found
      exact (Option.some.inj found).symm.trans idSame
    rw [Docker.withTags_allTags, same]
  rcases Docker.removes_of_cleanupOriginalStep cleaned with rfl | removes
  · exact point
  cases removes with
  | versionTag read expected first refers =>
      rename_i inspected version
      have isVersion : version = DockerPlatform.versionTag task.original.version := by
        simpa [tagsSame, eq_comm] using first
      subst isVersion
      rw [idSame] at *
      cases point with
      | running =>
          have own : OwnTags (docker.running task) task := by
            rw [original] at expected
            exact (ready.expected_iff (listed read)).mp expected
          rw [removeTag_versionTag own]
          exact .untagged own
      | untagged own =>
          rw [referenceImageId_absent lookup_untagged_version] at refers
          cases refers
      | cleaned => cases unread_cleaned.symm.trans read
  | rollbackAlias read first gone =>
      rename_i inspected version
      have isVersion : version = DockerPlatform.versionTag task.original.version := by
        simpa [tagsSame, eq_comm] using first
      subst isVersion
      rw [idSame] at *
      rw [aliasSame]
      cases point with
      | running =>
          rw [listed read, Docker.mem_allTags] at gone
          exact absurd ready.lookup_running_version gone
      | untagged own =>
          rw [removeTag_alias own]
          exact .cleaned
      | cleaned => cases unread_cleaned.symm.trans read
  | imageId read bare =>
      rename_i inspected
      rw [idSame] at *
      cases point with
      | running =>
          have member : DockerPlatform.versionTag task.original.version ∈ inspected.allTags := by
            rw [listed read, Docker.mem_allTags]
            exact ready.lookup_running_version
          rw [bare] at member
          cases member
      | untagged own =>
          have present : (docker.untagged task).imageOf (.id task.original.imageId) =
              some task.original.imageId := Docker.imageOf_id ready.original.isPresent
          cases (unread_untagged present).symm.trans read
      | cleaned => cases unread_cleaned.symm.trans read

end Points

section Rollbacks

variable {docker before : Docker} {task cleaning : UpdateTask} (ready : Ready docker task)

theorem startRollback_congr (id : cleaning.id = task.id)
    (original : cleaning.original = (DockerPlatform.tagged task).original) :
    before.startRollback cleaning = before.startRollback (DockerPlatform.tagged task) := by
  have sameId : (DockerPlatform.tagged task).id = task.id := rfl
  unfold Docker.startRollback DockerPlatform.admitsRollback
  rw [id, original, sameId]

include ready in
theorem Ready.startRollback_running (fresh : task.original.rollbackAlias = "")
    (recognised : DockerPlatform.isAlias (DockerPlatform.aliasOf task.id) = true) :
    (docker.running task).startRollback (DockerPlatform.tagged task) =
      some (docker.rolledBack task) := by
  have aliased := ready.original.tagImage task.original.imageId task.id
  have original : Present (docker.running task) task.original := ⟨aliased.tag, aliased.read⟩
  exact startRollback_of_present original fresh recognised lookup_running_alias

/-- The alias of an image that lost its digest does not bring the image back. -/
theorem startRollback_untagged (own : OwnTags (docker.running task) task) :
    (docker.untagged task).startRollback (DockerPlatform.tagged task) = none := by
  have points : (docker.untagged task).imageOf (.tag (DockerPlatform.aliasOf task.id)) =
      some task.original.imageId := by
    change (docker.untagged task).tags.lookup _ = _
    rw [← Docker.mem_allTags]
    exact (mem_untagged own).mpr rfl
  have unread : (docker.untagged task).inspectImage
      (.tag (DockerPlatform.aliasOf (DockerPlatform.tagged task).id)) = none :=
    unread_untagged points
  unfold Docker.startRollback
  rw [unread]
  cases DockerPlatform.admitsRollback (DockerPlatform.tagged task) <;> rfl

theorem startRollback_unrecognised
    (unrecognised : DockerPlatform.isAlias (DockerPlatform.aliasOf task.id) = false) :
    before.startRollback (DockerPlatform.tagged task) = none := by
  have refused : DockerPlatform.admitsRollback (DockerPlatform.tagged task) = false := by
    have aliasSame : (DockerPlatform.tagged task).original.rollbackAlias =
        DockerPlatform.aliasOf task.id := rfl
    have aliased : DockerPlatform.aliasOf task.id ≠ "" := by
      intro empty
      have head := aliasOf_head task.id
      rw [empty] at head
      cases head
    simp [DockerPlatform.admitsRollback, DockerPlatform.isOriginal, aliasSame, unrecognised,
      aliased]
  unfold Docker.startRollback
  rw [refused]
  rfl

include ready in
theorem Ready.health_rolledBack
    (recognised : DockerPlatform.isAlias (DockerPlatform.aliasOf task.id) = true) :
    (docker.rolledBack task).health (DockerPlatform.tagged task).original = some () := by
  have aliased := ready.original.tagImage task.original.imageId task.id
  have original : Present (docker.rolledBack task) task.original := ⟨aliased.tag, aliased.read⟩
  have reference : DockerPlatform.isWebImageReference (docker.rolledBack task).web.configImage =
      true := by
    rw [← recognised]
    exact DockerPlatform.isWebImageReference_aliasOf task.id
  rcases original.inspectWebImage rfl reference with ⟨inspected, read, identity, -, -⟩
  have web : (docker.rolledBack task).inspectWeb = some task.original := by
    simp [Docker.inspectWeb, read, identity]
  have same : sameIdentity task.original (DockerPlatform.tagged task).original = true :=
    sameIdentity_refl task.original
  simp [Docker.health, web, same]

end Rollbacks

/-- The task with a step marked in its journal. -/
def UpdateTask.marked (task : UpdateTask) (step : CleanupStep) (status : CleanupStepStatus) :
    Option UpdateTask := do
  let journal ← task.cleanupJournal
  let replaced ← journal.replace step status
  return { task with cleanupJournal := some replaced }

namespace Docker

/-- One round of the loop of `_cleanup_original`, in which docker refuses nothing but what its
state makes it refuse. -/
def cleanupRound (environmentTag : String) (state : UpdateTask × Docker) (step : CleanupStep) :
    Option (UpdateTask × Docker) := do
  let journal ← state.1.cleanupJournal
  if journal.status step = .completed then return state
  else do
    let started ← if journal.status step = .notStarted then state.1.marked step .started
      else some state.1
    let after ← state.2.cleanupOriginalStep environmentTag started step
    let completed ← started.marked step .completed
    return (completed, after)

/-- The loop over the steps. -/
def cleanupOriginal (docker : Docker) (environmentTag : String) (task : UpdateTask) :
    Option (UpdateTask × Docker) :=
  [.versionTag, .rollbackAlias, .imageId].foldlM (cleanupRound environmentTag) (task, docker)

end Docker

/-- The process dies at this step, after its effect or before it. -/
def dyingAt (seen : ImageIdentity) (applied : Bool) : Choice :=
  { inspected := seen, dies := true, applied := applied }

namespace Scene

/-- The steps of a cleanup, and what there is after each of them. -/
def cleanupTrace : Scene → List CleanupStep → Trace Choice Scene
  | _, [] => []
  | scene, step :: rest =>
      match scene.task.cleanupJournal with
      | none => []
      | some journal =>
          if journal.status step = .completed then scene.cleanupTrace rest
          else
            let begun := scene.begins journal step
            begun.1.map (·, begun.2) ++
              match begun.2.docker.cleanupOriginalStep begun.2.environmentTag begun.2.task step with
              | none => [(refusal scene.task.target "cleanup_refused", begun.2)]
              | some docker =>
                  let done := begun.2.completes docker step
                  (plain scene.task.target, { begun.2 with docker := docker }) ::
                    (plain scene.task.target, done) :: done.cleanupTrace rest

/-- Every step goes through. -/
def cleans (scene : Scene) (steps : List CleanupStep) : Bool :=
  (steps.foldlM (Docker.cleanupRound scene.environmentTag) (scene.task, scene.docker)).isSome

/-- The mark that a cleanup has begun. -/
def marking (scene : Scene) : Trace Choice Scene :=
  if scene.task.cleanup = .notRun then
    [(plain scene.task.target, { scene with task := { scene.task with cleanup := .pending } })]
  else []

def cleanup (scene : Scene) : Trace Choice Scene :=
  scene.marking ++ (scene.marking.final scene).cleanupTrace cleanupSteps

/-- A cleanup, and after it the two looks at the clock before the success is saved. -/
def cleaning (scene : Scene) : Trace Choice Scene :=
  let clock := (plain scene.task.target, scene.cleanup.final scene)
  scene.cleanup ++ [clock, clock]

/-- A restart that finds the target healthy, up to the save of the success. -/
def completing (scene : Scene) : Option (Trace Choice Scene) := do
  let seen ← scene.docker.inspectWeb
  let () ← scene.docker.health scene.task.target
  return (plain seen, scene) :: (plain scene.task.target, scene) ::
    (plain scene.task.target, scene) :: scene.cleaning

/-- What a restart hears that finds the target unhealthy when every command of its rollback
succeeds. -/
def undoing (scene : Scene) : List Choice :=
  let seen := scene.task.target
  let manual := [plain seen, plain seen]
  match scene.docker.inspectWeb with
  | none => refusal seen "inspect_failed" :: manual
  | some found =>
      [plain found, plain seen, refusal seen "health_check_failed", plain seen] ++
        match scene.docker.startRollback scene.task with
        | none => refusal seen "rollback_failed" :: manual
        | some docker =>
            [plain seen, plain seen] ++
              match docker.health scene.task.original with
              | none =>
                  List.replicate startupHealthMaxAttempts (refusal seen "health_check_failed") ++
                    manual
              | some () => List.replicate 5 (plain seen)

end Scene

section Traces

variable {base : World} {seen found : ImageIdentity} {scene after : Scene} {step : CleanupStep}
  {journal : CleanupJournal} {holds : Scene → Prop}

/-- The world of a scene: the manager knows the task, and Docker only by what it hears. -/
def World.of (base : World) (scene : Scene) : World := base.withTask scene.task

theorem runs_taskOf_scene {taskId : String} (same : scene.task.id = taskId) :
    Runs [] (taskOf taskId) (base.of scene) scene.task (base.of scene) :=
  runs_taskOf rfl same

theorem follows_saveTask (scene after : Scene) (kept : holds after) :
    Follows (dyingAt seen) base.of holds [(plain found, after)] (saveTask after.task) scene () :=
  .of_step (runs_saveTask after.task) (fun _ => rfl) (fun _ => rfl) kept

theorem follows_now (kept : holds scene) :
    Follows (dyingAt seen) base.of holds [(plain found, scene)] now scene 0 :=
  .of_step runs_now (fun _ => rfl) (fun _ => rfl) kept

/-- Marking a step begun changes the journal only; an earlier process may have done it. -/
theorem follows_startStep (known : scene.task.cleanupJournal = some journal)
    (ready : journal.Ready step) (undone : journal.status step ≠ .completed)
    (kept : ∀ begun, holds { scene with task := scene.task.withJournal begun }) :
    ∃ begun saves, scene.begins journal step =
        (saves, { scene with task := scene.task.withJournal begun }) ∧
      begun.Ready step ∧ begun.status step = .started ∧
      Trace.final scene
        (saves.map (·, { scene with task := scene.task.withJournal begun })) =
          { scene with task := scene.task.withJournal begun } ∧
      Follows (dyingAt seen) base.of holds
        (saves.map (·, { scene with task := scene.task.withJournal begun }))
        (startStep scene.task journal step) scene () := by
  unfold Scene.begins startStep
  cases status : journal.status step with
  | completed => exact absurd status undone
  | started =>
      have same : { scene with task := scene.task.withJournal journal } = scene := by
        rw [UpdateTask.withJournal, ← known]
      refine ⟨journal, [], ?_, ready, status, same.symm, Follows.pure⟩
      rw [same]
      rfl
  | notStarted =>
      rcases journal.replace_of_ready ready undone .started with
        ⟨begun, replaced, begunReady, started⟩
      refine ⟨begun, [plain scene.task.target], ?_, begunReady, started, rfl, ?_⟩
      · simp only [if_true, replaced, UpdateTask.withJournal]
      · simp only [if_true, replaced, List.map_cons, List.map_nil]
        exact follows_saveTask scene { scene with task := scene.task.withJournal begun }
          (kept begun)

/-- The save that a step is done, after the platform did it. -/
theorem follows_completeStep (known : scene.task.cleanupJournal = some journal)
    (ready : journal.Ready step) (started : journal.status step = .started)
    (kept : ∀ done, holds { scene with task := scene.task.withJournal done }) :
    ∃ done, scene.completes scene.docker step =
        { scene with task := scene.task.withJournal done } ∧
      done.Ready step ∧ done.status step = .completed ∧
      Follows (dyingAt seen) base.of holds
        [(plain found, { scene with task := scene.task.withJournal done })]
        (completeStep scene.task.id step) scene true := by
  rcases journal.replace_of_ready ready (by simp [started]) .completed with
    ⟨done, replaced, doneReady, completed⟩
  refine ⟨done, ?_, doneReady, completed, ?_⟩
  · simp only [Scene.completes, known, Option.bind_some, replaced, UpdateTask.withJournal]
  · unfold completeStep
    refine Follows.bind_free (runs_taskOf_scene rfl) ?_
    simp only [known, started, if_true, replaced]
    exact Follows.bind (follows_saveTask scene
      { scene with task := scene.task.withJournal done } (kept done)) rfl Follows.pure

theorem runs_cleanupStep_completed {taskId : String} (same : scene.task.id = taskId)
    (known : scene.task.cleanupJournal = some journal)
    (completed : journal.status step = .completed) :
    Runs [] (cleanupStep taskId step) (base.of scene) true (base.of scene) := by
  unfold cleanupStep
  refine Runs.bind_free (runs_taskOf_scene same) ?_
  simp only [known, completed, if_true]
  exact Runs.pure

/-- A step of the cleanup ended, in this process or in an earlier one. -/
def Scene.Done (scene : Scene) (step : CleanupStep) : Prop :=
  ∃ journal, scene.task.cleanupJournal = some journal ∧ journal.Ready step ∧
    journal.status step = .completed

/-- A round of the cleanup once its step is begun. -/
theorem cleanupRound_of_begins {saves : List Choice} {begun : CleanupJournal}
    (known : scene.task.cleanupJournal = some journal)
    (undone : journal.status step ≠ .completed)
    (begins : scene.begins journal step = (saves, after))
    (marked : after.task.cleanupJournal = some begun) :
    Docker.cleanupRound scene.environmentTag (scene.task, scene.docker) step =
      (after.docker.cleanupOriginalStep after.environmentTag after.task step).bind fun docker =>
        (after.task.marked step .completed).bind fun completed => some (completed, docker) := by
  unfold Scene.begins at begins
  by_cases fresh : journal.status step = .notStarted
  · rw [if_pos fresh, Prod.mk.injEq] at begins
    obtain ⟨-, rfl⟩ := begins
    have replaced : journal.replace step .started = some begun := marked
    have started : scene.task.marked step .started =
        some { scene.task with cleanupJournal := journal.replace step .started } := by
      rw [UpdateTask.marked, known, replaced]
      simp [replaced]
    simp [Docker.cleanupRound, known, fresh, started]
  · rw [if_neg fresh, Prod.mk.injEq] at begins
    obtain ⟨-, rfl⟩ := begins
    simp [Docker.cleanupRound, known, undone, fresh]

theorem replace_of_completes {begun done : CleanupJournal} {docker : Docker}
    (known : scene.task.cleanupJournal = some begun)
    (completes : scene.completes docker step =
      { scene with docker := docker, task := scene.task.withJournal done }) :
    begun.replace step .completed = some done := by
  have journals := congrArg (·.task.cleanupJournal) completes
  simpa only [Scene.completes, known, Option.bind_some, UpdateTask.withJournal] using journals

theorem begins_of_cleanupRound {result : UpdateTask × Docker}
    (known : scene.task.cleanupJournal = some journal)
    (round : Docker.cleanupRound scene.environmentTag (scene.task, scene.docker) step =
      some result) :
    ∃ saves begun, scene.begins journal step = (saves, begun) ∧
      begun.environmentTag = scene.environmentTag ∧ begun.task.cleanupJournal.isSome = true := by
  unfold Scene.begins
  by_cases fresh : journal.status step = .notStarted
  · rw [if_pos fresh]
    refine ⟨_, _, rfl, rfl, ?_⟩
    cases replaced : journal.replace step .started with
    | none => simp [Docker.cleanupRound, UpdateTask.marked, known, fresh, replaced] at round
    | some begun => rfl
  · rw [if_neg fresh]
    exact ⟨_, _, rfl, rfl, by rw [known]; rfl⟩

theorem completes_of_marked {docker : Docker} {done : UpdateTask}
    (marked : scene.task.marked step .completed = some done) :
    scene.completes docker step = { scene with docker := docker, task := done } := by
  simp only [UpdateTask.marked, Option.bind_eq_bind, Option.bind_eq_some_iff] at marked
  obtain ⟨journal, known, replaced, doneJournal, same⟩ := marked
  cases same
  rw [Scene.completes, known, Option.bind_some, doneJournal]

theorem cleanupRound_of_completed (known : scene.task.cleanupJournal = some journal)
    (completed : journal.status step = .completed) :
    Docker.cleanupRound scene.environmentTag (scene.task, scene.docker) step =
      some (scene.task, scene.docker) := by
  simp [Docker.cleanupRound, known, completed]

/-- What the cleanup keeps, whichever answers it gets. -/
structure Scene.Invariant (taskId : String) (holds : Scene → Prop) : Prop where
  id : ∀ scene, holds scene → scene.task.id = taskId
  journal : ∀ scene journal, holds scene →
    holds { scene with task := scene.task.withJournal journal }
  marked : ∀ scene, holds scene →
    holds { scene with task := { scene.task with cleanup := .pending } }
  docker : ∀ scene step docker, holds scene →
    scene.docker.cleanupOriginalStep scene.environmentTag scene.task step = some docker →
    holds { scene with docker := docker }

/-- What a step of the cleanup does with the answer of Docker. -/
def stepTried (taskId : String) (step : CleanupStep) : Except String Unit → Process Bool
  | .error _ => return false
  | .ok () => completeStep taskId step

variable {taskId : String} (invariant : Scene.Invariant taskId holds)
include invariant

/-- A step of the cleanup as Docker answers it, with the rest of the cleanup as a continuation. -/
theorem follows_cleanupSteps_cons {rest : List CleanupStep} (begins : holds scene)
    (known : scene.task.cleanupJournal = some journal) (ready : journal.Ready step)
    (continues : ∀ after : Scene, after.Done step → holds after →
      Follows (dyingAt seen) base.of holds (after.cleanupTrace rest) (cleanupSteps taskId rest)
        after (after.cleans rest)) :
    Follows (dyingAt seen) base.of holds (scene.cleanupTrace (step :: rest))
      (cleanupSteps taskId (step :: rest)) scene (scene.cleans (step :: rest)) := by
  have same := invariant.id scene begins
  unfold Scene.cleanupTrace cleanupSteps
  simp only [known]
  by_cases completed : journal.status step = .completed
  · -- an earlier process did the step
    have follows := continues scene ⟨journal, known, ready, completed⟩ begins
    rw [if_pos completed, Scene.cleans, List.foldlM_cons, cleanupRound_of_completed known completed]
    exact Follows.bind_free (runs_cleanupStep_completed same known completed) follows
  rw [if_neg completed]
  obtain ⟨begun, saves, begun_eq, begunReady, started, final, starts⟩ :
      ∃ begun saves, scene.begins journal step =
          (saves, { scene with task := scene.task.withJournal begun }) ∧
        begun.Ready step ∧ begun.status step = .started ∧
        Trace.final scene
          (saves.map (·, { scene with task := scene.task.withJournal begun })) =
            { scene with task := scene.task.withJournal begun } ∧
        Follows (dyingAt seen) base.of holds
          (saves.map (·, { scene with task := scene.task.withJournal begun }))
          (startStep scene.task journal step) scene () :=
    follows_startStep known ready completed fun begun => invariant.journal scene begun begins
  have round := cleanupRound_of_begins known completed begun_eq rfl
  rw [begun_eq]
  have middleHolds : holds { scene with task := scene.task.withJournal begun } :=
    invariant.journal scene begun begins
  generalize middleEq : ({ scene with task := scene.task.withJournal begun } : Scene) = middle at *
  dsimp only
  have middleId := invariant.id middle middleHolds
  have middleKnown : middle.task.cleanupJournal = some begun := middleEq ▸ rfl
  have middleTag : scene.environmentTag = middle.environmentTag := middleEq ▸ rfl
  -- the step up to its answer
  have step_of {trace : Trace Choice Scene} {goOn : Bool}
      (ends : Follows (dyingAt seen) base.of holds trace
        (attempt (DockerPlatform.cleanupOriginalStep middle.task step) >>= stepTried taskId step)
        middle goOn) :
      Follows (dyingAt seen) base.of holds (saves.map (·, middle) ++ trace)
        (cleanupStep taskId step) scene goOn := by
    unfold cleanupStep
    refine Follows.bind_free (runs_taskOf_scene same) ?_
    simp only [known, if_neg completed]
    refine Follows.bind starts final ?_
    exact Follows.bind_free (runs_taskOf_scene middleId) ends
  cases answer : middle.docker.cleanupOriginalStep middle.environmentTag middle.task step with
  | none =>
      have refused : Follows (dyingAt seen) base.of holds
          [(refusal scene.task.target "cleanup_refused", middle)]
          (attempt (DockerPlatform.cleanupOriginalStep middle.task step)) middle
          (.error "cleanup_refused") :=
        .of_step (fun _ => rfl) (fun _ => rfl) (fun _ => rfl) middleHolds
      have ends := step_of (refused.bind rfl Follows.pure)
      rw [List.append_nil] at ends
      have stops : scene.cleans (step :: rest) = false := by
        rw [Scene.cleans, List.foldlM_cons, round, answer]
        rfl
      rw [stops, ← List.append_nil (_ ++ _)]
      exact Follows.bind ends rfl Follows.pure
  | some docker =>
      let cleaned : Scene := { middle with docker := docker }
      have cleanedHolds : holds cleaned := invariant.docker middle step docker middleHolds answer
      have cleanedKnown : cleaned.task.cleanupJournal = some begun := middleKnown
      have cleans : Follows (dyingAt seen) base.of holds [(plain scene.task.target, cleaned)]
          (attempt (DockerPlatform.cleanupOriginalStep middle.task step)) middle (.ok ()) :=
        .of_step (fun _ => rfl) (fun _ => rfl) (fun _ => rfl) cleanedHolds
      obtain ⟨done, done_eq, doneReady, doneStatus, completes⟩ :
          ∃ done, cleaned.completes cleaned.docker step =
              { cleaned with task := cleaned.task.withJournal done } ∧
            done.Ready step ∧ done.status step = .completed ∧
            Follows (dyingAt seen) base.of holds
              [(plain scene.task.target, { cleaned with task := cleaned.task.withJournal done })]
              (completeStep cleaned.task.id step) cleaned true :=
        follows_completeStep cleanedKnown begunReady started fun done =>
          invariant.journal cleaned done cleanedHolds
      rw [show cleaned.task.id = taskId from middleId] at completes
      have follows := continues { cleaned with task := cleaned.task.withJournal done }
        ⟨done, rfl, doneReady, doneStatus⟩ (invariant.journal cleaned done cleanedHolds)
      have ends := step_of (cleans.bind rfl completes)
      have afterEnds : Trace.final scene (saves.map (·, middle) ++
          ([(plain scene.task.target, cleaned)] ++ [(plain scene.task.target,
            { cleaned with task := cleaned.task.withJournal done })])) =
          { cleaned with task := cleaned.task.withJournal done } := by
        rw [Trace.final_append]
        rfl
      have same_completes : middle.completes docker step =
          { cleaned with task := cleaned.task.withJournal done } := done_eq
      have marked : middle.task.marked step .completed = some (middle.task.withJournal done) := by
        rw [UpdateTask.marked, middleKnown, Option.bind_eq_bind, Option.bind_some,
          replace_of_completes middleKnown same_completes]
        rfl
      have goesOn : scene.cleans (step :: rest) =
          Scene.cleans { cleaned with task := cleaned.task.withJournal done } rest := by
        rw [Scene.cleans, List.foldlM_cons, round, answer, Option.bind_some, marked, middleTag]
        rfl
      dsimp only
      rw [same_completes, goesOn]
      have parts : saves.map (·, middle) ++ (plain scene.task.target, cleaned) ::
          (plain scene.task.target, { cleaned with task := cleaned.task.withJournal done }) ::
            Scene.cleanupTrace { cleaned with task := cleaned.task.withJournal done } rest =
          (saves.map (·, middle) ++ ([(plain scene.task.target, cleaned)] ++
            [(plain scene.task.target,
              { cleaned with task := cleaned.task.withJournal done })])) ++
            Scene.cleanupTrace { cleaned with task := cleaned.task.withJournal done } rest := by
        simp only [List.append_assoc, List.cons_append, List.nil_append]
      exact parts ▸ Follows.bind ends afterEnds follows

theorem follows_cleanupSteps (begins : holds scene)
    (known : scene.task.cleanupJournal = some journal) :
    Follows (dyingAt seen) base.of holds (scene.cleanupTrace Scene.cleanupSteps)
      (cleanupSteps taskId Scene.cleanupSteps) scene (scene.cleans Scene.cleanupSteps) := by
  have tagReady : journal.Ready .versionTag := by simp [CleanupJournal.Ready, CleanupStep.earlier]
  apply follows_cleanupSteps_cons invariant begins known tagReady
  rintro tagged ⟨tagJournal, tagKnown, -, tagDone⟩ taggedHolds
  have aliasReady : tagJournal.Ready .rollbackAlias := by
    simpa [CleanupJournal.Ready, CleanupStep.earlier] using tagDone
  apply follows_cleanupSteps_cons invariant taggedHolds tagKnown aliasReady
  rintro aliased ⟨aliasJournal, aliasKnown, aliasStill, aliasDone⟩ aliasedHolds
  have imageReady : aliasJournal.Ready .imageId := by
    intro other member
    simp only [CleanupStep.earlier, List.mem_cons, List.not_mem_nil, or_false] at member
    rcases member with rfl | rfl
    · exact aliasStill .versionTag (by decide)
    · exact aliasDone
  apply follows_cleanupSteps_cons invariant aliasedHolds aliasKnown imageReady
  intro cleaned _ _
  exact Follows.pure

theorem follows_markPending (begins : holds scene) :
    holds (scene.marking.final scene) ∧
      (scene.marking.final scene).task.cleanupJournal = scene.task.cleanupJournal ∧
      Follows (dyingAt seen) base.of holds scene.marking (markPending scene.task) scene () := by
  unfold Scene.marking markPending
  by_cases unmarked : scene.task.cleanup = .notRun
  · simp only [unmarked, if_true]
    have marked := invariant.marked scene begins
    exact ⟨marked, rfl, follows_saveTask scene
      { scene with task := { scene.task with cleanup := .pending } } marked⟩
  · simp only [unmarked, if_false]
    exact ⟨begins, rfl, Follows.pure⟩

/-- The cleanup of the manager is complete just when every round goes through. -/
theorem follows_cleanupOriginal (begins : holds scene)
    (known : scene.task.cleanupJournal = some journal) :
    Follows (dyingAt seen) base.of holds scene.cleanup (cleanupOriginal taskId) scene
      ((scene.marking.final scene).cleans Scene.cleanupSteps) := by
  obtain ⟨marked, sameJournal, marks⟩ : holds (scene.marking.final scene) ∧
      (scene.marking.final scene).task.cleanupJournal = scene.task.cleanupJournal ∧
      Follows (dyingAt seen) base.of holds scene.marking (markPending scene.task) scene () :=
    follows_markPending invariant begins
  have steps : Follows (dyingAt seen) base.of holds
      ((scene.marking.final scene).cleanupTrace Scene.cleanupSteps)
      (cleanupSteps taskId Scene.cleanupSteps) (scene.marking.final scene)
      ((scene.marking.final scene).cleans Scene.cleanupSteps) :=
    follows_cleanupSteps invariant marked (sameJournal.trans known)
  unfold cleanupOriginal
  refine Follows.bind_free (runs_taskOf_scene (invariant.id scene begins)) ?_
  rw [known]
  exact Follows.bind marks rfl steps

omit invariant in
/-- Where every round goes through, the trace ends where the rounds do. -/
theorem final_cleanupTrace {steps : List CleanupStep} {task : UpdateTask} {docker : Docker}
    (ran : steps.foldlM (Docker.cleanupRound scene.environmentTag) (scene.task, scene.docker) =
      some (task, docker)) :
    (scene.cleanupTrace steps).final scene = { scene with docker := docker, task := task } := by
  induction steps generalizing scene with
  | nil =>
      cases ran
      rfl
  | cons step rest ih =>
      rw [List.foldlM_cons, Option.bind_eq_bind, Option.bind_eq_some_iff] at ran
      obtain ⟨⟨middle, cleaned⟩, round, others⟩ := ran
      obtain ⟨journal, known⟩ : ∃ journal, scene.task.cleanupJournal = some journal := by
        rw [Docker.cleanupRound, Option.bind_eq_bind, Option.bind_eq_some_iff] at round
        exact ⟨round.choose, round.choose_spec.1⟩
      unfold Scene.cleanupTrace
      simp only [known]
      by_cases completed : journal.status step = .completed
      · rw [cleanupRound_of_completed known completed, Option.some.injEq, Prod.mk.injEq] at round
        obtain ⟨rfl, rfl⟩ := round
        rw [if_pos completed]
        exact ih others
      rw [if_neg completed]
      obtain ⟨saves, begun, begins, sameTag, marked⟩ := begins_of_cleanupRound known round
      obtain ⟨begunJournal, begunKnown⟩ := Option.isSome_iff_exists.mp marked
      rw [cleanupRound_of_begins known completed begins begunKnown] at round
      obtain ⟨after, answer, round⟩ := Option.bind_eq_some_iff.mp round
      obtain ⟨done, doneMarked, same⟩ := Option.bind_eq_some_iff.mp round
      cases same
      have completes : begun.completes cleaned step =
          { begun with docker := cleaned, task := middle } :=
        completes_of_marked doneMarked
      rw [begins, Trace.final_append]
      simp only [answer, completes]
      rw [← sameTag] at others
      have ends := @ih { begun with docker := cleaned, task := middle } others
      exact ends.trans (by rw [sameTag])

omit invariant in
/-- The cleanup of the manager, with the answers that docker gives, is complete just when that of
docker goes through, and ends where it ends. -/
theorem runs_cleanupOriginal_answered (known : scene.task.cleanupJournal = some journal) :
    let marked := scene.marking.final scene
    let cleaned := marked.docker.cleanupOriginal marked.environmentTag marked.task
    Runs scene.cleanup.choices (cleanupOriginal scene.task.id) (base.of scene) cleaned.isSome
        (base.of (scene.cleanup.final scene)) ∧
      ∀ task docker, cleaned = some (task, docker) →
        scene.cleanup.final scene = { marked with docker := docker, task := task } := by
  intro marked cleaned
  have sameId : Scene.Invariant scene.task.id fun here => here.task.id = scene.task.id :=
    ⟨fun _ same => same, fun _ _ same => same, fun _ same => same, fun _ _ _ same _ => same⟩
  have follows := @follows_cleanupOriginal base scene.task.target scene journal _ _ sameId rfl known
  refine ⟨follows.runs, fun task docker ran => ?_⟩
  rw [Scene.cleanup, Trace.final_append]
  exact final_cleanupTrace ran

/-- A cleanup that dies leaves what its trace says, also while the success waits to be saved. -/
theorem walks_cleaning (begins : holds scene)
    (known : scene.task.cleanupJournal = some journal) :
    Walks (dyingAt seen) base.of holds scene.cleaning (do
      let complete ← cleanupOriginal taskId
      commitSuccess taskId complete) scene := by
  have cleans :=
    @follows_cleanupOriginal base seen scene journal holds taskId invariant begins known
  have ends : holds (scene.cleanup.final scene) := Trace.final_invariant begins cleans.keeps
  refine Follows.bind_walks cleans rfl ?_
  unfold commitSuccess
  refine Walks.bind_free (runs_taskOf_scene (invariant.id _ ends)) ?_
  have clock : Follows (dyingAt seen) base.of holds
      [(plain scene.task.target, scene.cleanup.final scene)] now (scene.cleanup.final scene) 0 :=
    follows_now ends
  exact Follows.bind_walks clock rfl (Follows.bind_walks clock rfl Walks.nil)

end Traces

/-- What the task and Docker are throughout the cleanup of an update. -/
structure CleansUp (docker : Docker) (task : UpdateTask) (scene : Scene) : Prop where
  id : scene.task.id = task.id
  original : scene.task.original = (DockerPlatform.tagged task).original
  target : scene.task.target = task.target
  stage : scene.task.stage = .cleaning
  started : scene.task.startedAt = some 0
  begun : ∃ journal, scene.task.cleanupJournal = some journal
  point : CleanupPoint docker task scene.docker

section CleansUp

variable {docker : Docker} {task : UpdateTask} {base : World} {scene : Scene} {seen : ImageIdentity}
  (ready : Ready docker task)
include ready

theorem Ready.invariant : Scene.Invariant task.id (CleansUp docker task) where
  id _ cleans := cleans.id
  journal _ journal cleans := ⟨cleans.id, cleans.original, cleans.target, cleans.stage,
    cleans.started, ⟨journal, rfl⟩, cleans.point⟩
  marked _ cleans := ⟨cleans.id, cleans.original, cleans.target, cleans.stage,
    cleans.started, cleans.begun, cleans.point⟩
  docker _ _ _ cleans cleaned := ⟨cleans.id, cleans.original, cleans.target,
    cleans.stage, cleans.started, cleans.begun,
    ready.cleanupPoint_step cleans.point cleans.original cleaned⟩

omit ready in
theorem complete_of_recorded {identity : ImageIdentity}
    (recorded : DockerPlatform.isRecordedTarget identity = true) :
    hasCompleteImageIdentity identity = true := by
  have noDigest : DockerPlatform.isDigest "" = false := by decide +kernel
  have noVersion : validateVersion "" = false := by decide +kernel
  have tagged : DockerPlatform.versionTag identity.version ≠ "" := by
    intro empty
    have head := webRepository_head (":" ++ identity.version)
    rw [← String.append_assoc] at head
    change (DockerPlatform.versionTag identity.version).toList.head? = _ at head
    rw [empty] at head
    cases head
  simp only [DockerPlatform.isRecordedTarget, Bool.and_eq_true, decide_eq_true_eq] at recorded
  rcases recorded with ⟨⟨⟨⟨⟨version, repository⟩, digest⟩, imageId⟩, tags⟩, -⟩
  have versionText : identity.version ≠ "" := by
    rintro empty
    simp [empty, noVersion] at version
  have digestText : identity.digest ≠ "" := by
    rintro empty
    simp [empty, noDigest] at digest
  have imageText : identity.imageId ≠ "" := by
    rintro empty
    simp [empty, noDigest] at imageId
  have repositoryText : DockerPlatform.webRepository ≠ "" := by decide
  simp [hasCompleteImageIdentity, repository, repositoryText, versionText, digestText, imageText,
    tags, tagged]

/-- What a restart concludes from the identities during the cleanup of an update. -/
theorem Ready.identities (cleans : CleansUp docker task scene) :
    hasCompleteRecoveryIdentities scene.task = true ∧
      hasCompleteImageIdentity task.target = true ∧
      sameRuntimeIdentity task.target scene.task.original = false ∧
      sameRuntimeIdentity task.target scene.task.target = true := by
  have target := complete_of_recorded ready.target.isOriginal.2
  -- the alias is no part of what makes an identity complete
  have original : hasCompleteImageIdentity task.original = true :=
    complete_of_recorded ready.original.isOriginal.2
  have tagged : hasCompleteImageIdentity (DockerPlatform.tagged task).original = true := original
  have another : (DockerPlatform.tagged task).original.imageId = task.original.imageId := rfl
  refine ⟨?_, target, ?_, ?_⟩
  · simp [hasCompleteRecoveryIdentities, cleans.original, cleans.target, tagged, target]
  · simp [sameRuntimeIdentity, cleans.original, another, ready.another]
  · simp [sameRuntimeIdentity, cleans.target]

/-- What a restart does once it has looked at the web container. -/
def recoverSeen (task : UpdateTask) : Except String ImageIdentity → Process Unit
  | .error _ => finishManual task.id
  | .ok actual =>
      if !hasCompleteImageIdentity actual then finishManual task.id else recoverFrom task actual

/-- A restart during the cleanup up to its verdict on the target. -/
theorem Ready.recover_asks (cleans : CleansUp docker task scene) (choices : List Choice) :
    recover (base.of scene) choices =
      (attempt DockerPlatform.inspectWeb >>= recoverSeen scene.task) (base.of scene) choices := by
  have loaded : Runs [] loadState (base.of scene) (base.of scene).state (base.of scene) :=
    fun _ => rfl
  have active : scene.task.stage ∉ terminalStages := by
    rw [cleans.stage]
    decide
  unfold recover
  refine (Program.bind_returned (loaded choices)).trans ?_
  have saved : (base.of scene).state.task = some scene.task := rfl
  simp only [saved, active, if_false, (ready.identities cleans).1, Bool.not_true,
    Bool.false_eq_true]
  rfl

theorem Ready.recoverFrom_target (cleans : CleansUp docker task scene) :
    recoverFrom scene.task task.target = completeRecoveredTarget scene.task.id := by
  rcases ready.identities cleans with ⟨-, -, notOriginal, isTarget⟩
  have completing : scene.task.stage ∈ targetCompletionStages := by
    rw [cleans.stage]
    decide
  unfold recoverFrom
  simp [notOriginal, isTarget, completing]

theorem Ready.recoverSeen_target (cleans : CleansUp docker task scene) :
    recoverSeen scene.task (.ok task.target) = completeRecoveredTarget scene.task.id := by
  simp only [recoverSeen, (ready.identities cleans).2.1, Bool.not_true, Bool.false_eq_true,
    if_false]
  exact ready.recoverFrom_target cleans

omit ready in
theorem follows_inspectWeb (cleans : CleansUp docker task scene)
    (installedHost : base.host = installed task.target) :
    Follows (dyingAt seen) base.of (CleansUp docker task) [(plain task.target, scene)]
      (attempt DockerPlatform.inspectWeb) scene (.ok task.target) := by
  have looks : Runs [plain task.target] DockerPlatform.inspectWeb (base.of scene) task.target
      (base.of scene) := by
    unfold DockerPlatform.inspectWeb
    refine runs_observe ?_
    change decide (task.target.image = base.host.web.image) = true
    rw [installedHost]
    exact decide_eq_true rfl
  exact .of_step looks.attempt (fun _ => rfl) (fun _ => rfl) cleans

omit ready in
theorem follows_checkpoint (cleans : CleansUp docker task scene) (found : ImageIdentity) :
    Follows (dyingAt seen) base.of (CleansUp docker task) [(plain found, scene)]
      (checkpoint scene.task.id scene.task.stage) scene () := by
  unfold checkpoint
  refine Follows.bind_free (runs_taskOf_scene rfl) ?_
  split
  · exact follows_saveTask scene scene cleans
  · rename_i unstarted
    rw [cleans.started] at unstarted
    cases unstarted

omit ready in
theorem runs_confirmTarget_end (cleans : CleansUp docker task scene) :
    Runs [] (persistAfterCheckpoint scene.task.id scene.task.stage scene.task.target.version
      (scene.task.stage = .persistingVersion)) (base.of scene) () (base.of scene) := by
  have cleaning : decide (scene.task.stage = .persistingVersion) = false := by
    rw [cleans.stage]
    rfl
  rw [cleaning]
  exact Runs.pure

/-- A restart that finds the target healthy goes on with the cleanup. -/
theorem Ready.walks_recover (cleans : CleansUp docker task scene)
    (installedHost : base.host = installed task.target) {trace : Trace Choice Scene}
    (healthy : scene.completing = some trace) :
    Walks (dyingAt seen) base.of (CleansUp docker task) trace recover scene := by
  have seenTarget := ready.inspectWeb_point cleans.point
  have healthyTarget := ready.health_point cleans.point
  rcases cleans.begun with ⟨journal, begun⟩
  have known : scene.task.cleanupJournal ≠ none := by simp [begun]
  have trace_eq : trace = [(plain task.target, scene)] ++
      (([(plain scene.task.target, scene)] ++ [(plain scene.task.target, scene)]) ++
        scene.cleaning) := by
    unfold Scene.completing at healthy
    rw [← cleans.target] at healthyTarget
    simp only [seenTarget, healthyTarget, Option.bind_eq_bind, Option.bind_some, Option.pure_def,
      Option.some.injEq] at healthy
    exact healthy.symm
  subst trace_eq
  have healths : Follows (dyingAt seen) base.of (CleansUp docker task)
      [(plain scene.task.target, scene)] (DockerPlatform.health scene.task.target) scene () := by
    refine .of_step (runs_health ?_) (fun _ => rfl) (fun _ => rfl) cleans
    change base.host.web = _
    rw [installedHost, cleans.target]
    rfl
  have confirms : Follows (dyingAt seen) base.of (CleansUp docker task)
      ([(plain scene.task.target, scene)] ++ [(plain scene.task.target, scene)])
      (confirmTarget scene.task.id scene.task.stage (scene.task.stage = .persistingVersion)) scene
      () := by
    unfold confirmTarget
    refine Follows.bind (follows_checkpoint cleans scene.task.target) rfl ?_
    refine Follows.bind_free (runs_taskOf_scene rfl) ?_
    rw [← List.append_nil [_]]
    refine Follows.bind healths rfl ?_
    exact ⟨Walks.nil, runs_confirmTarget_end cleans⟩
  have finishes : Walks (dyingAt seen) base.of (CleansUp docker task) scene.cleaning (do
      let complete ← cleanupOriginal scene.task.id
      commitSuccess scene.task.id complete) scene := by
    rw [cleans.id]
    exact walks_cleaning ready.invariant cleans begun
  have completes : Walks (dyingAt seen) base.of (CleansUp docker task)
      (([(plain scene.task.target, scene)] ++ [(plain scene.task.target, scene)]) ++
        scene.cleaning) (completeRecoveredTarget scene.task.id) scene := by
    unfold completeRecoveredTarget
    refine Walks.bind_free (runs_taskOf_scene rfl) ?_
    rw [if_neg fun lost => known lost.2]
    refine Follows.bind_walks confirms.attempt rfl ?_
    have enters : Runs [] (enterCleaning scene.task.id scene.task.stage) (base.of scene) ()
        (base.of scene) := by
      unfold enterCleaning
      rw [cleans.stage]
      exact Runs.pure
    exact Walks.bind_free enters finishes
  refine ⟨?_, ?_⟩
  · intro heard left cut rest
    rw [ready.recover_asks cleans]
    have walks : Walks (dyingAt seen) base.of (CleansUp docker task)
        ([(plain task.target, scene)] ++
          (([(plain scene.task.target, scene)] ++ [(plain scene.task.target, scene)]) ++
            scene.cleaning))
        (attempt DockerPlatform.inspectWeb >>= recoverSeen scene.task) scene := by
      refine Follows.bind_walks (follows_inspectWeb cleans installedHost) rfl ?_
      rw [ready.recoverSeen_target cleans]
      exact completes
    exact walks.dies heard left cut rest
  · intro step member
    rcases List.mem_append.mp member with inspected | rest
    · rw [List.mem_singleton.mp inspected]
      exact cleans
    · exact completes.keeps step rest

/-- A restart that finds the target unhealthy rolls it back. -/
theorem Ready.recover_unhealthy (cleans : CleansUp docker task scene)
    (installedHost : base.host = installed task.target) (found : ImageIdentity)
    (rest : List Choice) :
    recover (base.of scene)
        ([plain task.target, plain found, refusal found "health_check_failed"] ++ rest) =
      rollbackToOriginal scene.task.id "update_failed" true true (base.of scene) rest := by
  have known : scene.task.cleanupJournal ≠ none := by
    rcases cleans.begun with ⟨journal, begun⟩
    simp [begun]
  have looks : Follows (dyingAt found) base.of (CleansUp docker task) [(plain task.target, scene)]
      (attempt DockerPlatform.inspectWeb) scene (.ok task.target) :=
    follows_inspectWeb cleans installedHost
  have marks : Follows (dyingAt found) base.of (CleansUp docker task) [(plain found, scene)]
      (checkpoint scene.task.id scene.task.stage) scene () := follows_checkpoint cleans found
  have raises : attempt (confirmTarget scene.task.id scene.task.stage
      (scene.task.stage = .persistingVersion)) (base.of scene)
      ([plain found] ++ (refusal found "health_check_failed" :: rest)) =
      (.returned (.error "health_check_failed"), base.of scene, rest) := by
    have refused : DockerPlatform.health scene.task.target (base.of scene)
        (refusal found "health_check_failed" :: rest) =
        (.raised (.safeOperation "health_check_failed"), base.of scene, rest) := rfl
    have ran : confirmTarget scene.task.id scene.task.stage
        (scene.task.stage = .persistingVersion) (base.of scene)
        ([plain found] ++ (refusal found "health_check_failed" :: rest)) =
        (.raised (.safeOperation "health_check_failed"), base.of scene, rest) := by
      unfold confirmTarget
      refine (Program.bind_returned (marks.runs _)).trans ?_
      refine (Program.bind_returned (runs_taskOf_scene rfl _)).trans ?_
      exact Program.bind_raised refused
    exact Program.attempt_caught ran rfl
  rw [ready.recover_asks cleans]
  refine (Program.bind_returned (looks.runs _)).trans ?_
  rw [ready.recoverSeen_target cleans]
  change completeRecoveredTarget scene.task.id (base.of scene) _ = _
  unfold completeRecoveredTarget
  refine (Program.bind_returned (runs_taskOf_scene rfl _)).trans ?_
  rw [if_neg fun lost => known lost.2]
  exact Program.bind_returned raises

end CleansUp

section Rollback

variable {world : World} {task : UpdateTask} (found : ImageIdentity)

/-- The task with the reason for its rollback. -/
def UpdateTask.blamed (task : UpdateTask) : UpdateTask := { task with errorCode := "update_failed" }

/-- A rollback that the platform refuses ends in manual intervention. -/
theorem rollbackToOriginal_refused (code : String) :
    Runs [plain found, refusal found code, plain found, plain found]
      (rollbackToOriginal task.id "update_failed" true true) (world.withTask task) ()
      (world.withTask { task.blamed with
        stage := .manualIntervention, errorCode := "rollback_failed", finishedAt := some 0 }) := by
  have refused : Runs [refusal found code] (attempt (restoreOriginal task.id task.stage true))
      (world.withTask task.blamed) (.error code) (world.withTask task.blamed) := by
    intro rest
    have ran : restoreOriginal task.id task.stage true (world.withTask task.blamed)
        ([refusal found code] ++ rest) =
        (.raised (.safeOperation code), world.withTask task.blamed, rest) := by
      unfold restoreOriginal
      refine (Program.bind_returned (runs_saved task.blamed _)).trans ?_
      exact Program.bind_raised rfl
    exact Program.attempt_caught ran rfl
  have finishes : Runs [plain found, plain found] (finishManual task.id)
      (world.withTask task.blamed) () (world.withTask { task.blamed with
        stage := .manualIntervention, errorCode := "rollback_failed", finishedAt := some 0 }) := by
    unfold finishManual
    refine Runs.bind_free (runs_saved task.blamed) ?_
    exact Runs.bind runs_now (runs_saveTask _)
  unfold rollbackToOriginal
  refine Runs.bind_free (runs_saved task) ?_
  exact Runs.bind (runs_saveTask task.blamed) (Runs.bind refused finishes)

/-- A rollback that succeeds brings image and version back. -/
theorem rollbackToOriginal_succeeds (started : task.startedAt = some 0) :
    Runs (List.replicate 8 (plain found)) (rollbackToOriginal task.id "update_failed" true true)
      (world.withTask task) ()
      ({ world with host := installed task.original }.withTask { task.blamed with
        stage := .failed, rolledBack := true, finishedAt := some 0 }) := by
  let replaced : World := { world with host := { world.host with web := ⟨task.original.image, true⟩ } }
  have restarts : Runs [plain found] (DockerPlatform.startRollback task.blamed)
      (world.withTask task.blamed) () (replaced.withTask task.blamed) := fun _ => rfl
  have marks : Runs [plain found] (checkpoint task.id task.stage) (replaced.withTask task.blamed) ()
      (replaced.withTask task.blamed) := runs_checkpoint (by exact started) task.stage
  have waits : Runs [plain found] (waitForStartupHealth task.original)
      (replaced.withTask task.blamed) () (replaced.withTask task.blamed) :=
    runs_waitForStartupHealth rfl
  have persists : Runs [plain found] (DockerPlatform.persistVersion task.original.version)
      (replaced.withTask task.blamed) ()
      ({ world with host := installed task.original }.withTask task.blamed) := fun _ => rfl
  have restores : Runs (List.replicate 5 (plain found))
      (attempt (restoreOriginal task.id task.stage true)) (world.withTask task.blamed) (.ok ())
      ({ world with host := installed task.original }.withTask task.blamed) := by
    refine Runs.attempt ?_
    unfold restoreOriginal
    refine Runs.bind_free (runs_saved task.blamed) ?_
    refine Runs.bind restarts (Runs.bind marks (Runs.bind waits ?_))
    exact Runs.bind marks persists
  have finishes : Runs [plain found, plain found] (finishFailed task.id "update_failed" true)
      ({ world with host := installed task.original }.withTask task.blamed) ()
      ({ world with host := installed task.original }.withTask { task.blamed with
        stage := .failed, rolledBack := true, finishedAt := some 0 }) := by
    unfold finishFailed
    refine Runs.bind_free (runs_saved task.blamed) ?_
    exact Runs.bind runs_now (runs_saveTask _)
  unfold rollbackToOriginal
  refine Runs.bind_free (runs_saved task) ?_
  exact Runs.bind (runs_saveTask task.blamed) (Runs.bind restores finishes)

end Rollback

/-- What a restart has before it: Docker, and the task that it finds in the slot. -/
def World.sceneOf (world : World) (docker : Docker) (saved : UpdateTask) : Scene where
  docker := docker
  environmentTag := world.host.environmentTag
  task := saved

/-- The worlds that crashes inside the cleanup of an update leave, and Docker with them: crashes of
its execution, and of restarts that found the target healthy. -/
inductive CrashedInCleanup (registry : Registry) (start : Scene) (world : World) :
    World → Docker → Prop where
  | executing {entered : World} {saved : UpdateTask} {heard : List Choice} {left : Scene}
      (enters : (execute start.task.id).leaves world (start.hears registry Scene.script).1 =
        entered)
      (known : entered.state.task = some saved)
      (cut : Trace.Cut (dyingAt saved.target)
        (entered.sceneOf (start.hears registry Scene.script).2.docker saved)
        (entered.sceneOf (start.hears registry Scene.script).2.docker saved).cleaning heard left) :
      CrashedInCleanup registry start world
        ((execute start.task.id).leaves world ((start.hears registry Scene.script).1 ++ heard))
        left.docker
  | restarting {here : World} {docker : Docker} {saved : UpdateTask} {trace : Trace Choice Scene}
      {heard : List Choice} {left : Scene}
      (crashed : CrashedInCleanup registry start world here docker)
      (known : here.state.task = some saved)
      (healthy : (here.sceneOf docker saved).completing = some trace)
      (cut : Trace.Cut (dyingAt saved.target) (here.sceneOf docker saved) trace heard left) :
      CrashedInCleanup registry start world (recover.leaves here heard) left.docker

/-- The world after a restart that finds the target unhealthy. -/
def World.undone (world : World) (docker : Docker) : World :=
  match world.state.task with
  | some saved => recover.leaves world (world.sceneOf docker saved).undoing
  | none => world

/-- The image and the version from before the update are back, and the task says so. -/
def RestoresOriginal (original : ImageIdentity) (world : World) : Prop :=
  world.host = installed original ∧
    ∃ task, world.state.task = some task ∧ task.stage = .failed ∧ task.rolledBack = true

section Crashes

variable {docker left : Docker} {task : UpdateTask} {registry : Registry} {world here : World}
  {environmentTag : String} {seen : ImageIdentity}

theorem execute_entered (fresh : Fresh task) :
    (execute task.id).leaves (world.withTask task) (List.replicate 27 (plain seen)) =
      world.cleaning task := by
  have enters : execute task.id (world.withTask task) (List.replicate 27 (plain seen) ++ []) = (do
      let complete ← cleanupOriginal task.id
      commitSuccess task.id complete) (world.cleaning task) [] := execute_enters fresh []
  rw [List.append_nil] at enters
  have dies : cleanupOriginal task.id (world.cleaning task) [] =
      (.crashed, world.cleaning task, []) := by
    have saves : saveTask { task.cleaning with cleanup := .pending } (world.cleaning task) [] =
        (.crashed, world.cleaning task, []) := rfl
    unfold cleanupOriginal
    refine (Program.bind_returned (runs_saved task.cleaning [])).trans ?_
    rw [show task.cleaning.cleanupJournal = some {} from fresh.unbegun]
    refine Program.bind_crashed ?_
    unfold markPending
    rw [if_pos (show task.cleaning.cleanup = .notRun from fresh.unmarked)]
    exact saves
  rw [Program.bind_crashed dies] at enters
  exact Program.leaves_of_eq enters

variable (ready : Ready docker task) (fresh : Fresh task)
include ready fresh

theorem CrashedInCleanup.cleansUp
    (crashed : CrashedInCleanup registry ⟨docker, environmentTag, task⟩ (world.withTask task) here
      left) :
    here.host = installed task.target ∧
      ∃ saved, here.state.task = some saved ∧ CleansUp docker task (here.sceneOf left saved) := by
  induction crashed with
  | @executing entered saved heard cutScene enters known cut =>
      rw [ready.hears fresh.unaliased] at enters cut ⊢
      change (execute task.id).leaves _ _ = _ at enters
      rw [execute_entered fresh] at enters
      subst enters
      have same : saved = task.cleaning := (Option.some.inj known).symm
      subst same
      have cleans : CleansUp docker task
          ((world.cleaning task).sceneOf (docker.running task) task.cleaning) :=
        ⟨rfl, rfl, rfl, rfl, rfl, ⟨_, fresh.unbegun⟩, .running⟩
      have walks : Walks (dyingAt task.cleaning.target) (world.cleaning task).of
          (CleansUp docker task)
          ((world.cleaning task).sceneOf (docker.running task) task.cleaning).cleaning (do
            let complete ← cleanupOriginal task.id
            commitSuccess task.id complete)
          ((world.cleaning task).sceneOf (docker.running task) task.cleaning) :=
        walks_cleaning ready.invariant cleans fresh.unbegun
      rcases walks.leaves cut cleans with ⟨leaves, kept⟩
      have left_eq : (execute task.id).leaves (world.withTask task)
          (List.replicate 27 (plain task.target) ++ heard) =
          (world.cleaning task).of cutScene := by
        rw [← leaves]
        exact congrArg (fun outcome => outcome.2.1) (execute_enters fresh heard)
      change ((execute task.id).leaves _ _).host = _ ∧ _
      rw [left_eq]
      exact ⟨rfl, cutScene.task, rfl, kept.id, kept.original, kept.target, kept.stage,
        kept.started, kept.begun, kept.point⟩
  | @restarting here docker saved trace heard cutScene crashed known healthy cut ih =>
      rcases ih with ⟨installedHost, found, foundKnown, cleans⟩
      have same : found = saved := Option.some.inj (foundKnown.symm.trans known)
      subst same
      have world_eq : here.of (here.sceneOf docker found) = here := by
        change here.withTask found = here
        rw [World.withTask, ← known]
      have walks : Walks (dyingAt found.target) here.of (CleansUp _ task) trace recover
          (here.sceneOf docker found) := ready.walks_recover cleans installedHost healthy
      rcases walks.leaves cut cleans with ⟨leaves, kept⟩
      rw [world_eq] at leaves
      rw [leaves]
      exact ⟨installedHost, cutScene.task, rfl, kept.id, kept.original, kept.target, kept.stage,
        kept.started, kept.begun, kept.point⟩

section Undone

variable {saved : UpdateTask} (cleans : CleansUp docker task (here.sceneOf left saved))
  (installedHost : here.host = installed task.target) (known : here.state.task = some saved)
include cleans installedHost known

omit fresh in
theorem Ready.undone_of {heard : List Choice} {after : World}
    (hears : (here.sceneOf left saved).undoing =
      [plain task.target, plain saved.target, refusal saved.target "health_check_failed"] ++ heard)
    (rolls : Runs heard (rollbackToOriginal saved.id "update_failed" true true)
      (here.withTask saved) () after) : here.undone left = after := by
  have same : here.withTask saved = here := by
    rw [World.withTask, ← known]
  have unhealthy := ready.recover_unhealthy cleans installedHost saved.target (heard ++ [])
  have ran := rolls []
  have world_eq : here.of (here.sceneOf left saved) = here := same
  rw [world_eq] at unhealthy
  rw [same] at ran
  unfold World.undone
  rw [known]
  dsimp only
  rw [hears]
  rw [List.append_nil] at unhealthy ran
  exact Program.leaves_of_eq (unhealthy.trans ran)

omit fresh in
theorem Ready.undone_refused (refuses : left.startRollback (DockerPlatform.tagged task) = none) :
    here.undone left = here.withTask { saved.blamed with
      stage := .manualIntervention, errorCode := "rollback_failed", finishedAt := some 0 } := by
  have seenTarget : left.inspectWeb = some task.target := ready.inspectWeb_point cleans.point
  have rolls : left.startRollback saved = left.startRollback (DockerPlatform.tagged task) :=
    startRollback_congr cleans.id cleans.original
  refine ready.undone_of cleans installedHost known ?_
    (rollbackToOriginal_refused saved.target "rollback_failed")
  unfold Scene.undoing World.sceneOf
  simp only [seenTarget, rolls, refuses, List.cons_append, List.nil_append]

theorem Ready.undone_running (point : left = docker.running task)
    (recognised : DockerPlatform.isAlias (DockerPlatform.aliasOf task.id) = true) :
    here.undone left = { here with host := installed task.original }.withTask { saved.blamed with
      stage := .failed, rolledBack := true, finishedAt := some 0 } := by
  subst point
  have seenTarget : (docker.running task).inspectWeb = some task.target :=
    ready.inspectWeb_point cleans.point
  have rolls : (docker.running task).startRollback saved = some (docker.rolledBack task) :=
    (startRollback_congr cleans.id cleans.original).trans
      (ready.startRollback_running fresh.unaliased recognised)
  have original : saved.original = (DockerPlatform.tagged task).original := cleans.original
  have healthy : (docker.rolledBack task).health saved.original = some () := by
    rw [original]
    exact ready.health_rolledBack recognised
  have host : installed task.original = installed saved.original := by
    rw [original]
    rfl
  rw [host]
  refine ready.undone_of cleans installedHost known ?_
    (rollbackToOriginal_succeeds saved.target cleans.started)
  unfold Scene.undoing World.sceneOf
  simp only [seenTarget, rolls, healthy]
  rfl

/-- Recovery brings the original back as long as its version tag is there. -/
theorem Ready.undone_iff
    (points : left.tags.lookup (DockerPlatform.aliasOf task.id) = some task.original.imageId) :
    RestoresOriginal task.original (here.undone left) ↔
      DockerPlatform.isAlias (DockerPlatform.aliasOf task.id) = true ∧
        left.tags.lookup (DockerPlatform.versionTag task.original.version) =
          some task.original.imageId := by
  have refused : left.startRollback (DockerPlatform.tagged task) = none →
      ¬RestoresOriginal task.original (here.undone left) := by
    intro refuses
    rw [ready.undone_refused cleans installedHost known refuses]
    rintro ⟨-, ended, endedKnown, failed, -⟩
    cases endedKnown
    cases failed
  have point : CleanupPoint docker task left := cleans.point
  cases point with
  | running =>
      have tagged := ready.lookup_running_version
      cases recognised : DockerPlatform.isAlias (DockerPlatform.aliasOf task.id) with
      | false => simp [refused (startRollback_unrecognised recognised)]
      | true =>
          have restored := ready.undone_running fresh cleans installedHost known rfl recognised
          simp only [tagged, and_self, iff_true]
          rw [restored]
          exact ⟨rfl, _, rfl, rfl, rfl⟩
  | untagged own =>
      rw [lookup_untagged_version]
      simp [refused (startRollback_untagged own)]
  | cleaned =>
      have gone : (docker.cleaned task).tags.lookup (DockerPlatform.aliasOf task.id) = none :=
        AList.lookup_erase _ _
      rw [gone] at points
      cases points

end Undone

/-- A crash of the execution inside the cleanup that its commands lead to. -/
theorem Ready.crashed_executing {heard : List Choice} {cutScene : Scene}
    (cut : Trace.Cut (dyingAt task.target)
      ((world.cleaning task).sceneOf (docker.running task) task.cleaning)
      ((world.cleaning task).sceneOf (docker.running task) task.cleaning).cleaning heard cutScene)
    (registry : Registry) :
    ∃ here, CrashedInCleanup registry ⟨docker, environmentTag, task⟩ (world.withTask task) here
      cutScene.docker := by
  have enters : (execute task.id).leaves (world.withTask task)
      (Scene.hears registry ⟨docker, environmentTag, task⟩ Scene.script).1 =
        world.cleaning task := by
    rw [ready.hears fresh.unaliased]
    exact execute_entered fresh
  have hears := ready.hears fresh.unaliased registry environmentTag
  have same : (world.cleaning task).sceneOf
      (Scene.hears registry ⟨docker, environmentTag, task⟩ Scene.script).2.docker task.cleaning =
        (world.cleaning task).sceneOf (docker.running task) task.cleaning := by
    rw [hears]
  rw [← same] at cut
  exact ⟨_, .executing enters rfl cut⟩

/-- The process may die before the first step of the cleanup. -/
theorem Ready.crashed_running (registry : Registry) :
    ∃ here, CrashedInCleanup registry ⟨docker, environmentTag, task⟩ (world.withTask task) here
      (docker.running task) := by
  let entered := (world.cleaning task).sceneOf (docker.running task) task.cleaning
  have marks : entered.marking = [(plain task.target,
      { entered with task := { task.cleaning with cleanup := .pending } })] := by
    unfold Scene.marking
    exact if_pos fresh.unmarked
  have cut : Trace.Cut (dyingAt task.target) entered entered.cleaning [dyingAt task.target false]
      entered := by
    unfold Scene.cleaning Scene.cleanup
    rw [marks]
    exact .before _ _ _
  exact ready.crashed_executing fresh cut registry

/-- The process may die after the version tag of the original image is removed. -/
theorem Ready.crashed_untagged
    (recognised : DockerPlatform.isAlias (DockerPlatform.aliasOf task.id) = true)
    (own : OwnTags (docker.running task) task) (registry : Registry) :
    ∃ here, CrashedInCleanup registry ⟨docker, environmentTag, task⟩ (world.withTask task) here
      (docker.untagged task) := by
  let entered := (world.cleaning task).sceneOf (docker.running task) task.cleaning
  let marked : Scene := { entered with task := { task.cleaning with cleanup := .pending } }
  let begun : Scene := { marked with task := marked.task.withJournal begunJournal }
  have marks : entered.marking = [(plain task.target, marked)] := by
    unfold Scene.marking
    exact if_pos fresh.unmarked
  have known : marked.task.cleanupJournal = some {} := fresh.unbegun
  have begins : marked.begins {} .versionTag = ([plain task.target], begun) := rfl
  have cleaned : begun.docker.cleanupOriginalStep begun.environmentTag begun.task .versionTag =
      some (docker.untagged task) :=
    ready.cleans_versionTag fresh.unaliased ⟨rfl, rfl, rfl, rfl⟩ recognised own
  have undone : ({} : CleanupJournal).status .versionTag ≠ .completed := by decide
  obtain ⟨rest, steps⟩ : ∃ rest, marked.cleanupTrace Scene.cleanupSteps =
      (plain task.target, begun) :: (plain task.target, { begun with
        docker := docker.untagged task }) :: rest := by
    unfold Scene.cleanupSteps Scene.cleanupTrace
    simp only [known, if_neg undone, begins, cleaned]
    exact ⟨_, rfl⟩
  have cut : Trace.Cut (dyingAt task.target) entered entered.cleaning
      [plain task.target, plain task.target, dyingAt task.target true]
      { begun with docker := docker.untagged task } := by
    unfold Scene.cleaning Scene.cleanup
    rw [marks]
    change Trace.Cut _ _ (_ :: (marked.cleanupTrace Scene.cleanupSteps ++ _)) _ _
    rw [steps]
    exact .later (.later (.after _ _ _))
  exact ready.crashed_executing fresh cut registry

end Crashes

section Later

variable {docker before after left : Docker} {failed : List UpdateTask} {checked : CheckResult}
  {taskId : String} {createdAt : ℤ} {here : World}

/-- After crashes in the cleanup of an update, a restart that finds the target unhealthy while the
rollback alias is still there restores the original exactly when the id of the task is a UUID of
the usual variant and the version tag of the original image is still there too. -/
theorem cleanup_recovery_restores_iff (tidy : Tidy docker)
    (failures : Failures docker failed before) (accepted : acceptsTaskId taskId = true)
    {registry atStart : Registry}
    (admits : before.admitUpdate registry atStart = some ((checked.current, checked.target), after))
    (world : World) (saved : world.state.task = some (newTask checked taskId createdAt))
    (environmentTag : String) (atExecution : Registry)
    (crashed : CrashedInCleanup atExecution
      ⟨after, environmentTag, newTask checked taskId createdAt⟩ world here left)
    (points : left.tags.lookup (DockerPlatform.aliasOf taskId) = some checked.current.imageId) :
    RestoresOriginal checked.current (here.undone left) ↔
      (∃ digit ∈ DockerPlatform.variantOf taskId, DockerPlatform.isUsualVariant digit = true) ∧
        left.tags.lookup (DockerPlatform.versionTag checked.current.version) =
          some checked.current.imageId := by
  rcases stained_of_failures tidy failures with ⟨version, stained⟩
  have ready : Ready after (newTask checked taskId createdAt) :=
    ready_of_admitted stained (admitted_of_admitUpdate admits)
  have slot : world.withTask (newTask checked taskId createdAt) = world := by
    rw [World.withTask, ← saved]
  rw [← slot] at crashed
  rcases crashed.cleansUp ready (fresh_newTask ready) with ⟨host, found, known, cleans⟩
  rw [← DockerPlatform.isAlias_aliasOf_iff accepted]
  exact ready.undone_iff (fresh_newTask ready) cleans host known points

end Later

/-- The version tag of the original image is gone and its alias is not: a restart that finds the
target unhealthy does not recognise the image, and ends in manual intervention. -/
theorem cleanup_recovery_loses_original :
    ∃ after here left, Tidy Sample.installation ∧ acceptsTaskId Sample.firstTask.id = true ∧
      Sample.installation.admitUpdate (.always Sample.nextRelease) (.always Sample.nextRelease) =
        some ((Sample.installedImage, Sample.nextImage), after) ∧
      CrashedInCleanup (.always Sample.nextRelease) ⟨after, "v0.2.0", Sample.firstTask⟩
        (Sample.worldOf Sample.firstTask) here left ∧
      left.tags.lookup (DockerPlatform.aliasOf Sample.firstTask.id) =
        some Sample.installedImage.imageId ∧
      ¬RestoresOriginal Sample.installedImage (here.undone left) ∧
      (here.undone left).state.task.map (·.stage) = some .manualIntervention := by
  rcases Sample.admitUpdate_installation with ⟨started, admits⟩
  have admitted := admitted_of_admitUpdate admits
  rcases Sample.tidy_installation with ⟨version, stained⟩
  have ready : Ready started Sample.firstTask := ready_of_admitted stained admitted
  have fresh : Fresh Sample.firstTask := fresh_newTask ready
  have recognised : DockerPlatform.isAlias (DockerPlatform.aliasOf Sample.firstTask.id) = true := by
    decide +kernel
  have own : OwnTags (started.running Sample.firstTask) Sample.firstTask := by
    have none_failed : Stained Sample.installation Sample.installation.web.imageId version
        (([] : List UpdateTask).map (·.id)) := stained
    refine (ownTags_iff none_failed admitted).mpr ?_
    intro task member
    cases member
  obtain ⟨here, crashed⟩ : ∃ here, CrashedInCleanup (.always Sample.nextRelease)
      ⟨started, "v0.2.0", Sample.firstTask⟩
      ((Sample.worldOf Sample.firstTask).withTask Sample.firstTask) here
      (started.untagged Sample.firstTask) :=
    ready.crashed_untagged fresh recognised own (.always Sample.nextRelease)
  rcases crashed.cleansUp ready fresh with ⟨host, found, known, cleans⟩
  have points : (started.untagged Sample.firstTask).tags.lookup
      (DockerPlatform.aliasOf Sample.firstTask.id) = some Sample.installedImage.imageId :=
    Docker.mem_allTags.mp ((mem_untagged own).mpr rfl)
  refine ⟨started, here, _, Sample.tidy_installation, by decide +kernel, admits, crashed, points,
    ?_, ?_⟩
  · intro restores
    have tagged := ((ready.undone_iff fresh cleans host known points).mp restores).2
    rw [lookup_untagged_version] at tagged
    cases tagged
  · rw [ready.undone_refused cleans host known (startRollback_untagged own)]
    rfl

/-- A crash before the first step of the cleanup leaves the way back open. -/
theorem cleanup_recovery_restores_before_first_step :
    ∃ after here left, Sample.installation.admitUpdate (.always Sample.nextRelease)
        (.always Sample.nextRelease) = some ((Sample.installedImage, Sample.nextImage), after) ∧
      CrashedInCleanup (.always Sample.nextRelease) ⟨after, "v0.2.0", Sample.firstTask⟩
        (Sample.worldOf Sample.firstTask) here left ∧
      RestoresOriginal Sample.installedImage (here.undone left) := by
  rcases Sample.admitUpdate_installation with ⟨started, admits⟩
  rcases Sample.tidy_installation with ⟨version, stained⟩
  have ready : Ready started Sample.firstTask :=
    ready_of_admitted stained (admitted_of_admitUpdate admits)
  obtain ⟨here, crashed⟩ : ∃ here, CrashedInCleanup (.always Sample.nextRelease)
      ⟨started, "v0.2.0", Sample.firstTask⟩
      ((Sample.worldOf Sample.firstTask).withTask Sample.firstTask) here
      (started.running Sample.firstTask) :=
    ready.crashed_running (fresh_newTask ready) (.always Sample.nextRelease)
  refine ⟨started, here, _, admits, crashed, ?_⟩
  refine (cleanup_recovery_restores_iff Sample.tidy_installation .none (by decide +kernel) admits
    (Sample.worldOf Sample.firstTask) rfl "v0.2.0" (.always Sample.nextRelease) crashed
    lookup_running_alias).mpr ?_
  exact ⟨⟨'8', by decide +kernel, by decide⟩, ready.lookup_running_version⟩

end Finrec.Updater
