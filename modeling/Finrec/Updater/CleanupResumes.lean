import Finrec.Updater.CleanupRecovery

/-!
# Cleanup after a crash between a removal and its record

A crash can come after the removal of a cleanup step took effect and before the
step is recorded as completed.  The next run of the cleanup does the step again,
and then the steps after it.  This goes on to the end unless the alias was the
last reference to the original image: with it the image goes away, and the step
looks at the image before it finds the alias removed.
-/

namespace Finrec.Updater

open DockerPlatform

namespace Docker

/-- A step of the cleanup after its first checks. -/
def cleanupStep (task : UpdateTask) (docker : Docker) (step : CleanupStep) : Option Docker :=
  if step = .imageId then docker.cleanupImageId task else docker.cleanupTag task step

/-- A step and the steps after it. -/
def stepsFrom : CleanupStep → List CleanupStep
  | .versionTag => [.versionTag, .rollbackAlias, .imageId]
  | .rollbackAlias => [.rollbackAlias, .imageId]
  | .imageId => [.imageId]

section

variable {docker after : Docker} {task : UpdateTask} {step : CleanupStep} {environmentTag : String}

theorem cleanupOriginalStep_eq_some :
    docker.cleanupOriginalStep environmentTag task step = some after ↔
      validateCleanupTask task = true ∧ environmentTag = task.target.version ∧
        task.cleanupJournal.map (·.status step) = some .started ∧
        cleanupStep task docker step = some after := by
  unfold cleanupOriginalStep cleanupStep
  simp only [Option.bind_eq_bind, Option.bind_eq_some_iff, Option.guard_eq_some', exists_const]

/-- The first checks of a step do not look at docker. -/
theorem cleanupOriginalStep_started (valid : validateCleanupTask task = true)
    (journal : CleanupJournal) (started : journal.status step = .started) :
    docker.cleanupOriginalStep task.target.version
        { task with cleanupJournal := some journal } step = cleanupStep task docker step := by
  have known : validateCleanupTask { task with cleanupJournal := some journal } = true := valid
  unfold cleanupOriginalStep
  simp only [known, guard, if_true, Option.bind_eq_bind, Option.map_some, started]
  rfl

/-- The journal in which the cleanup has come to a step. -/
def journalAt (status : CleanupStepStatus) : CleanupStep → CleanupJournal
  | .versionTag => {
      versionTag := status
      aliasAfterTag := CleanupJournal.untouched
      imageAfterAlias := CleanupJournal.untouched }
  | .rollbackAlias => {
      versionTag := .completed
      rollbackAlias := status
      aliasAfterTag := fun _ => rfl
      imageAfterAlias := CleanupJournal.untouched }
  | .imageId => {
      versionTag := .completed
      rollbackAlias := .completed
      imageId := status
      aliasAfterTag := fun _ => rfl
      imageAfterAlias := fun _ => rfl }

/-- A started step comes after completed ones and before steps that are not begun. -/
theorem eq_journalAt {journal : CleanupJournal} (started : journal.status step = .started) :
    journal = journalAt .started step := by
  obtain ⟨versionTag, rollbackAlias, imageId, aliasAfterTag, imageAfterAlias⟩ := journal
  cases step with
  | versionTag =>
      cases started
      have noAlias : rollbackAlias = .notStarted := by
        by_contra begun
        cases aliasAfterTag begun
      subst noAlias
      have noImage : imageId = .notStarted := by
        by_contra begun
        cases imageAfterAlias begun
      subst noImage
      rfl
  | rollbackAlias =>
      cases started
      have tagged := aliasAfterTag nofun
      subst tagged
      have noImage : imageId = .notStarted := by
        by_contra begun
        cases imageAfterAlias begun
      subst noImage
      rfl
  | imageId =>
      cases started
      have aliased := imageAfterAlias nofun
      subst aliased
      have tagged := aliasAfterTag nofun
      subst tagged
      rfl

theorem cleanupRound_completed {journal : CleanupJournal}
    (completed : journal.status step = .completed) :
    cleanupRound environmentTag ({ task with cleanupJournal := some journal }, docker) step =
      some ({ task with cleanupJournal := some journal }, docker) := by
  simp [cleanupRound, completed]

theorem cleanupRound_started (valid : validateCleanupTask task = true) (step : CleanupStep) :
    cleanupRound task.target.version
        ({ task with cleanupJournal := some (journalAt .started step) }, docker) step =
      (cleanupStep task docker step).map fun after =>
        ({ task with cleanupJournal := some (journalAt .completed step) }, after) := by
  have started : (journalAt .started step).status step = .started := by cases step <;> rfl
  have completes : ({ task with cleanupJournal := some (journalAt .started step) } :
      UpdateTask).marked step .completed =
        some { task with cleanupJournal := some (journalAt .completed step) } := by
    cases step <;> rfl
  simp only [cleanupRound, Option.bind_eq_bind, Option.bind_some, started, reduceCtorEq, if_false,
    cleanupOriginalStep_started valid _ started, completes, Option.pure_def]
  cases cleanupStep task docker step <;> rfl

theorem cleanupRound_notStarted (valid : validateCleanupTask task = true)
    {journal : CleanupJournal} (untouched : journal.status step = .notStarted)
    (begins : journal.replace step .started = some (journalAt .started step)) :
    cleanupRound task.target.version ({ task with cleanupJournal := some journal }, docker) step =
      (cleanupStep task docker step).map fun after =>
        ({ task with cleanupJournal := some (journalAt .completed step) }, after) := by
  rw [← cleanupRound_started valid]
  have started : (journalAt .started step).status step = .started := by cases step <;> rfl
  simp [cleanupRound, UpdateTask.marked, untouched, begins, started]

/-- The loop from a step on, when it does that step from where the journal is. -/
theorem foldlM_cons_of_round {journal : CleanupJournal} {steps : List CleanupStep}
    (round : ∀ docker : Docker, cleanupRound task.target.version
        ({ task with cleanupJournal := some journal }, docker) step =
      (cleanupStep task docker step).map fun after =>
        ({ task with cleanupJournal := some (journalAt .completed step) }, after))
    (later : ∀ docker : Docker, steps.foldlM (cleanupRound task.target.version)
        ({ task with cleanupJournal := some (journalAt .completed step) }, docker) =
      (steps.foldlM (cleanupStep task) docker).map fun final =>
        ({ task with cleanupJournal := some (journalAt .completed .imageId) }, final))
    (docker : Docker) :
    (step :: steps).foldlM (cleanupRound task.target.version)
        ({ task with cleanupJournal := some journal }, docker) =
      ((step :: steps).foldlM (cleanupStep task) docker).map fun final =>
        ({ task with cleanupJournal := some (journalAt .completed .imageId) }, final) := by
  rw [List.foldlM_cons, List.foldlM_cons, round]
  cases cleanupStep task docker step with
  | none => rfl
  | some after => exact later after

/-- A cleanup that has come to a step does this step and the later ones. -/
theorem cleanupOriginal_started (valid : validateCleanupTask task = true) (step : CleanupStep)
    (started : task.cleanupJournal.map (·.status step) = some .started) (docker : Docker) :
    docker.cleanupOriginal task.target.version task =
      ((stepsFrom step).foldlM (cleanupStep task) docker).map fun final =>
        ({ task with cleanupJournal := some (journalAt .completed .imageId) }, final) := by
  obtain ⟨journal, known, status⟩ := Option.map_eq_some_iff.mp started
  obtain rfl := eq_journalAt status
  have same : task = { task with cleanupJournal := some (journalAt .started step) } := by
    rw [← known]
  have fromImage := @foldlM_cons_of_round task _ _ []
    (fun docker => cleanupRound_notStarted valid
      (rfl : (journalAt .completed .rollbackAlias).status .imageId = .notStarted) rfl)
    fun _ => rfl
  have fromAlias := @foldlM_cons_of_round task _ _ _
    (fun docker => cleanupRound_notStarted valid
      (rfl : (journalAt .completed .versionTag).status .rollbackAlias = .notStarted) rfl)
    fromImage
  rw [cleanupOriginal]
  conv_lhs => rw [same]
  cases step with
  | versionTag =>
      exact foldlM_cons_of_round (fun _ => cleanupRound_started valid _) fromAlias docker
  | rollbackAlias =>
      rw [List.foldlM_cons, cleanupRound_completed rfl]
      exact foldlM_cons_of_round (fun _ => cleanupRound_started valid _) fromImage docker
  | imageId =>
      rw [List.foldlM_cons, cleanupRound_completed rfl]
      change List.foldlM _ _ _ = _
      rw [List.foldlM_cons, cleanupRound_completed rfl]
      exact foldlM_cons_of_round (fun _ => cleanupRound_started valid _) (fun _ => rfl) docker

end

/-- An original image that the steps of a cleanup accept. -/
structure Cleanable (docker : Docker) (task : UpdateTask) : Prop where
  core : ∃ core, docker.inspectCore task.original.imageId (some task.original.digest) = some core ∧
    sameImageCore core.identity task.original = true
  own : ∀ name ∈ docker.allTags task.original.imageId,
    name = versionTag task.original.version ∨ name = task.original.rollbackAlias
  noContainer : docker.hasContainerReference task.original.imageId = false

/-- Neither tag of the original image is there. -/
structure Untagged (docker : Docker) (task : UpdateTask) : Prop where
  version : docker.tags.lookup (versionTag task.original.version) = none
  rollbackAlias : docker.tags.lookup task.original.rollbackAlias = none

section

variable {docker after : Docker} {task : UpdateTask} {reference : String}

theorem referenceImageId_eq_none :
    docker.referenceImageId (.tag reference) = some none ↔ docker.tags.lookup reference = none := by
  cases found : docker.tags.lookup reference with
  | none => simp [referenceImageId, imageOf, found]
  | some imageId =>
      by_cases valid : isDigest imageId = true
      · simp [referenceImageId, imageOf, found, valid]
      · simp [referenceImageId, imageOf, found, valid]

theorem referenceImageId_eq_some {imageId : String} :
    docker.referenceImageId (.tag reference) = some (some imageId) ↔
      docker.tags.lookup reference = some imageId ∧ isDigest imageId = true := by
  cases found : docker.tags.lookup reference with
  | none => simp [referenceImageId, imageOf, found]
  | some other =>
      by_cases valid : isDigest other = true
      · simp only [referenceImageId, imageOf, found, valid, if_true, Option.some.injEq]
        constructor
        · rintro rfl
          exact ⟨rfl, valid⟩
        · exact fun same => same.1
      · simp only [referenceImageId, imageOf, found, valid, if_false, Option.some.injEq, reduceCtorEq,
          false_iff]
        rintro ⟨rfl, isValid⟩
        exact valid isValid

theorem removeTag_tags (imageId : String) :
    (docker.removeTag reference imageId).tags = docker.tags.erase reference := by
  simp only [removeTag, prune]
  split_ifs <;> rfl

theorem removeCleanupReference_eq_some {imageId : String} {tags : List String} :
    docker.removeCleanupReference reference imageId tags = some after ↔
      (docker.tags.lookup reference = none ∧ reference ∉ tags ∧ after = docker) ∨
      (docker.tags.lookup reference = some imageId ∧ isDigest imageId = true ∧
        after = docker.removeTag reference imageId) := by
  have gone : (docker.removeTag reference imageId).referenceImageId (.tag reference) = some none := by
    rw [referenceImageId_eq_none, removeTag_tags]
    exact AList.lookup_erase _ _
  simp only [removeCleanupReference, Option.bind_eq_bind, Option.bind_eq_some_iff]
  constructor
  · rintro ⟨_ | referenced, listed, removed⟩
    · by_cases member : reference ∈ tags
      · simp [member] at removed
      · simp only [member, if_false, Option.pure_def, Option.some.injEq] at removed
        exact .inl ⟨referenceImageId_eq_none.mp listed, member, removed.symm⟩
    · simp only [Option.bind_eq_some_iff, Option.guard_eq_some', Option.pure_def,
        Option.some.injEq, exists_const] at removed
      obtain ⟨rfl, -, rfl⟩ := removed
      obtain ⟨found, valid⟩ := referenceImageId_eq_some.mp listed
      exact .inr ⟨found, valid, rfl⟩
  · rintro (⟨absent, unlisted, rfl⟩ | ⟨found, valid, rfl⟩)
    · exact ⟨none, referenceImageId_eq_none.mpr absent, if_neg unlisted⟩
    · exact ⟨some imageId, referenceImageId_eq_some.mpr ⟨found, valid⟩, by simp [gone]⟩

theorem inspectImage_id_eq_some {imageId : String} {expected : Option String}
    {inspected : InspectedImage} :
    docker.inspectImage (.id imageId) expected = some inspected ↔
      ∃ core, docker.inspectCore imageId expected = some core ∧
        core.withTags (docker.allTags imageId) = inspected := by
  rw [inspectImage_eq_some]
  constructor
  · rintro ⟨_, core, found, read, rfl⟩
    obtain ⟨-, same⟩ := Option.ite_none_right_eq_some.mp found
    cases same
    exact ⟨core, read, rfl⟩
  · rintro ⟨core, read, rfl⟩
    obtain ⟨labels, found, -⟩ := (reads_of_inspectCore read).labels
    have isPresent : imageId ∈ docker.images := AList.lookup_isSome.mp (by rw [found]; rfl)
    exact ⟨imageId, core, imageOf_id isPresent, read, rfl⟩

theorem cleanupTag_eq_some {step : CleanupStep} (valid : validateCleanupTask task = true) :
    docker.cleanupTag task step = some after ↔
      docker.Cleanable task ∧
        if step = .versionTag then
          docker.tags.lookup task.original.rollbackAlias = some task.original.imageId ∧
          docker.removeCleanupReference (versionTag task.original.version) task.original.imageId
            (docker.allTags task.original.imageId) = some after
        else
          docker.tags.lookup (versionTag task.original.version) = none ∧
          docker.removeCleanupReference task.original.rollbackAlias task.original.imageId
            (docker.allTags task.original.imageId) = some after := by
  simp only [validateCleanupTask, isOriginal, Bool.and_eq_true, decide_eq_true_eq] at valid
  obtain ⟨⟨⟨⟨⟨-, isImageId⟩, tags⟩, -⟩, -⟩, -⟩ := valid
  simp only [cleanupTag, Option.bind_eq_bind, Option.bind_eq_some_iff, Option.guard_eq_some',
    exists_const, tags, inspectImage_id_eq_some]
  constructor
  · rintro ⟨inspected, ⟨core, read, rfl⟩, same, own, noContainer, version, head, removed⟩
    obtain rfl := Option.some.inj head
    refine ⟨⟨⟨core, read, same⟩, ?_, noContainer⟩, ?_⟩
    · simpa using own
    · split_ifs at removed ⊢ with isVersion
      · simp only [Option.bind_eq_some_iff, Option.guard_eq_some', exists_const] at removed
        obtain ⟨-, aliased, removed⟩ := removed
        exact ⟨(referenceImageId_eq_some.mp aliased).1, removed⟩
      · simp only [Option.bind_eq_some_iff, Option.guard_eq_some', exists_const] at removed
        obtain ⟨-, absent, removed⟩ := removed
        exact ⟨referenceImageId_eq_none.mp absent, removed⟩
  · rintro ⟨⟨⟨core, read, same⟩, own, noContainer⟩, removed⟩
    refine ⟨_, ⟨core, read, rfl⟩, same, ?_, noContainer, _, rfl, ?_⟩
    · simpa using own
    · split_ifs at removed ⊢ with isVersion
      · obtain ⟨aliased, removed⟩ := removed
        simp only [Option.bind_eq_some_iff, Option.guard_eq_some', exists_const]
        exact ⟨mem_allTags.mpr aliased, referenceImageId_eq_some.mpr ⟨aliased, isImageId⟩, removed⟩
      · obtain ⟨absent, removed⟩ := removed
        simp only [Option.bind_eq_some_iff, Option.guard_eq_some', exists_const]
        refine ⟨?_, referenceImageId_eq_none.mpr absent, removed⟩
        intro listed
        rw [withTags_allTags, mem_allTags, absent] at listed
        cases listed

theorem cleanupReferencesAbsent_iff (tags : task.original.tags = [versionTag task.original.version]) :
    docker.cleanupReferencesAbsent task = true ↔ docker.Untagged task := by
  simp only [cleanupReferencesAbsent, tags, List.cons_append, List.nil_append, List.all_cons,
    List.all_nil, Bool.and_true, Bool.and_eq_true, decide_eq_true_eq, referenceImageId_eq_none]
  exact ⟨fun ⟨version, rollbackAlias⟩ => ⟨version, rollbackAlias⟩,
    fun untagged => ⟨untagged.version, untagged.rollbackAlias⟩⟩

theorem referenceImageId_id {imageId : String} (valid : isDigest imageId = true) :
    docker.referenceImageId (.id imageId) =
      some (if imageId ∈ docker.images then some imageId else none) := by
  by_cases found : imageId ∈ docker.images
  · simp [referenceImageId, imageOf, found, valid]
  · simp [referenceImageId, imageOf, found]

theorem cleanupImageId_eq_some (valid : validateCleanupTask task = true) :
    docker.cleanupImageId task = some after ↔
      docker.Untagged task ∧ docker.hasContainerReference task.original.imageId = false ∧
        ((task.original.imageId ∉ docker.images ∧ after = docker) ∨
        ((∃ core, docker.inspectCore task.original.imageId none = some core ∧
          sameImageCore core.identity task.original = true) ∧
          docker.allTags task.original.imageId = [] ∧
          after = docker.removeImage task.original.imageId)) := by
  simp only [validateCleanupTask, isOriginal, Bool.and_eq_true, decide_eq_true_eq] at valid
  obtain ⟨⟨⟨⟨⟨-, isImageId⟩, tags⟩, -⟩, -⟩, -⟩ := valid
  have gone : task.original.imageId ∉ (docker.removeImage task.original.imageId).images := by
    simp [removeImage, AList.mem_erase]
  simp only [cleanupImageId, referenceImageId_id isImageId, Option.bind_eq_bind, Option.bind_some]
  by_cases found : task.original.imageId ∈ docker.images
  · simp only [found, if_true, Option.bind_eq_some_iff, Option.guard_eq_some', exists_const,
      cleanupReferencesAbsent_iff tags, inspectImage_id_eq_some, Option.pure_def,
      Option.some.injEq, true_and, not_true_eq_false, false_and, false_or]
    constructor
    · rintro ⟨_, ⟨core, read, rfl⟩, ⟨same, bare⟩, ⟨noContainer, untagged⟩, -, rfl⟩
      exact ⟨untagged, noContainer, ⟨core, read, same⟩, bare, rfl⟩
    · rintro ⟨untagged, noContainer, ⟨core, read, same⟩, bare, rfl⟩
      exact ⟨_, ⟨core, read, rfl⟩, ⟨same, bare⟩, ⟨noContainer, untagged⟩, if_neg gone, rfl⟩
  · simp only [found, if_false, Option.bind_eq_some_iff, Option.guard_eq_some', exists_const,
      cleanupReferencesAbsent_iff tags, Option.pure_def, Option.some.injEq, not_false_eq_true,
      true_and]
    constructor
    · rintro ⟨⟨noContainer, untagged⟩, rfl⟩
      exact ⟨untagged, noContainer, .inl rfl⟩
    · rintro ⟨untagged, noContainer, rfl | ⟨⟨core, read, -⟩, -⟩⟩
      · exact ⟨⟨noContainer, untagged⟩, rfl⟩
      · obtain ⟨labels, known, -⟩ := (reads_of_inspectCore read).labels
        exact absurd (AList.lookup_isSome.mp (by rw [known]; rfl)) found

theorem digestOf_of_ne_nil {digests : List String} (some? : digests ≠ [])
    (expected other : Option String) : digestOf digests expected = digestOf digests other := by
  match digests with
  | [] => exact absurd rfl some?
  | [_] => rfl
  | _ :: _ :: _ => rfl

theorem Cleanable.isPresent (cleanable : docker.Cleanable task) :
    task.original.imageId ∈ docker.images := by
  obtain ⟨core, read, -⟩ := cleanable.core
  obtain ⟨labels, known, -⟩ := (reads_of_inspectCore read).labels
  exact AList.lookup_isSome.mp (by rw [known]; rfl)

theorem Cleanable.allTags_eq_nil (cleanable : docker.Cleanable task)
    (untagged : docker.Untagged task) : docker.allTags task.original.imageId = [] := by
  rw [List.eq_nil_iff_forall_not_mem]
  intro name member
  rcases cleanable.own name member with rfl | rfl
  · rw [mem_allTags, untagged.version] at member
    cases member
  · rw [mem_allTags, untagged.rollbackAlias] at member
    cases member

theorem lookup_erase_eq_some {name : String} {imageId : String} :
    (docker.tags.erase reference).lookup name = some imageId ↔
      name ≠ reference ∧ docker.tags.lookup name = some imageId := by
  by_cases same : name = reference
  · subst same
    rw [AList.lookup_erase]
    simp
  · rw [AList.lookup_erase_ne same]
    simp [same]

theorem alias_of_valid (valid : validateCleanupTask task = true) :
    task.original.rollbackAlias = aliasOf task.id := by
  simp only [validateCleanupTask, Bool.and_eq_true, decide_eq_true_eq] at valid
  exact valid.1.2

theorem alias_ne_version (valid : validateCleanupTask task = true) :
    task.original.rollbackAlias ≠ versionTag task.original.version := by
  rw [alias_of_valid valid]
  exact aliasOf_ne_versionTag _ _

/-- With the version tag the image loses its digests, and keeps the alias. -/
theorem Cleanable.removeTag_version (cleanable : docker.Cleanable task)
    (valid : validateCleanupTask task = true)
    (aliased : docker.tags.lookup task.original.rollbackAlias = some task.original.imageId) :
    docker.removeTag (versionTag task.original.version) task.original.imageId =
      { docker with
        tags := docker.tags.erase (versionTag task.original.version)
        digests := docker.digests.without task.original.imageId } := by
  have noWebTag : ((Docker.allTags { docker with
      tags := docker.tags.erase (versionTag task.original.version) }
        task.original.imageId).any isWebTag) = false := by
    rw [List.any_eq_false]
    intro name member
    rw [mem_allTags, lookup_erase_eq_some, ← mem_allTags] at member
    rcases cleanable.own name member.2 with same | rfl
    · exact absurd same member.1
    · rw [alias_of_valid valid, isWebTag_aliasOf]
      decide
  have kept : task.original.rollbackAlias ∈ Docker.allTags { docker with
      tags := docker.tags.erase (versionTag task.original.version)
      digests := docker.digests.without task.original.imageId } task.original.imageId := by
    rw [mem_allTags]
    exact lookup_erase_eq_some.mpr ⟨alias_ne_version valid, aliased⟩
  simp only [removeTag, isWebTag_versionTag, noWebTag, Bool.not_false, Bool.and_self, if_true]
  rw [prune, if_neg]
  rintro ⟨bare, -⟩
  rw [bare] at kept
  cases kept

/-- The steps go on with the image that lost its version tag. -/
theorem Cleanable.of_removeTag_version (cleanable : docker.Cleanable task)
    (valid : validateCleanupTask task = true)
    (aliased : docker.tags.lookup task.original.rollbackAlias = some task.original.imageId) :
    (docker.removeTag (versionTag task.original.version) task.original.imageId).Cleanable task := by
  obtain ⟨core, read, same⟩ := cleanable.core
  have digest : isDigest task.original.digest = true := by
    simp only [validateCleanupTask, isOriginal, Bool.and_eq_true, decide_eq_true_eq] at valid
    exact valid.1.1.1.1.1.2
  rw [cleanable.removeTag_version valid aliased]
  refine ⟨⟨core, ?_, same⟩, ?_, cleanable.noContainer⟩
  · refine Eq.trans (b := docker.inspectCore task.original.imageId (some task.original.digest))
      (inspectCore_congr rfl ?_ rfl) read
    have known := (reads_of_inspectCore read).digest
    have sameDigest : core.identity.digest = task.original.digest := by
      simp only [sameImageCore, Bool.and_eq_true, decide_eq_true_eq] at same
      exact same.1.1.2
    rw [known, sameDigest]
    simp [repositoryDigests, digestOf, digest]
  · intro name member
    rw [mem_allTags, lookup_erase_eq_some, ← mem_allTags] at member
    exact cleanable.own name member.2

/-- With its last reference the image goes away. -/
theorem Cleanable.removeTag_alias (cleanable : docker.Cleanable task)
    (valid : validateCleanupTask task = true)
    (absent : docker.tags.lookup (versionTag task.original.version) = none) :
    docker.removeTag task.original.rollbackAlias task.original.imageId =
      if docker.repositoryDigests task.original.imageId = [] then
        { docker with
          tags := docker.tags.erase task.original.rollbackAlias
          images := docker.images.erase task.original.imageId }
      else { docker with tags := docker.tags.erase task.original.rollbackAlias } := by
  have bare : Docker.allTags { docker with
      tags := docker.tags.erase task.original.rollbackAlias } task.original.imageId = [] := by
    rw [List.eq_nil_iff_forall_not_mem]
    intro name member
    rw [mem_allTags, lookup_erase_eq_some, ← mem_allTags] at member
    rcases cleanable.own name member.2 with rfl | same
    · have named := member.2
      rw [mem_allTags, absent] at named
      cases named
    · exact member.1 same
  have notWeb : isWebTag task.original.rollbackAlias = false := by
    rw [alias_of_valid valid, isWebTag_aliasOf]
  simp only [removeTag, notWeb, Bool.false_and, Bool.false_eq_true, if_false, prune, bare, true_and]
  rfl

theorem Untagged.of_removeTag_alias (valid : validateCleanupTask task = true)
    (absent : docker.tags.lookup (versionTag task.original.version) = none) :
    (docker.removeTag task.original.rollbackAlias task.original.imageId).Untagged task := by
  refine ⟨?_, ?_⟩
  · rw [removeTag_tags, AList.lookup_erase_ne (alias_ne_version valid).symm]
    exact absent
  · rw [removeTag_tags]
    exact AList.lookup_erase _ _

/-- The image that keeps a digest goes through the rest of the cleanup. -/
theorem Cleanable.of_removeTag_alias (cleanable : docker.Cleanable task)
    (valid : validateCleanupTask task = true)
    (absent : docker.tags.lookup (versionTag task.original.version) = none)
    (digests : docker.repositoryDigests task.original.imageId ≠ []) :
    (docker.removeTag task.original.rollbackAlias task.original.imageId).Cleanable task := by
  rw [cleanable.removeTag_alias valid absent, if_neg digests]
  refine ⟨cleanable.core, ?_, cleanable.noContainer⟩
  intro name member
  rw [mem_allTags, lookup_erase_eq_some, ← mem_allTags] at member
  exact cleanable.own name member.2

theorem cleanupStep_versionTag_again (cleanable : docker.Cleanable task)
    (valid : validateCleanupTask task = true)
    (absent : docker.tags.lookup (versionTag task.original.version) = none)
    (aliased : docker.tags.lookup task.original.rollbackAlias = some task.original.imageId) :
    cleanupStep task docker .versionTag = some docker := by
  refine (cleanupTag_eq_some valid).mpr ⟨cleanable, aliased, ?_⟩
  refine removeCleanupReference_eq_some.mpr (.inl ⟨absent, ?_, rfl⟩)
  rw [mem_allTags, absent]
  exact nofun

theorem cleanupStep_rollbackAlias_again (cleanable : docker.Cleanable task)
    (valid : validateCleanupTask task = true) (untagged : docker.Untagged task) :
    cleanupStep task docker .rollbackAlias = some docker := by
  refine (cleanupTag_eq_some valid).mpr ⟨cleanable, untagged.version, ?_⟩
  refine removeCleanupReference_eq_some.mpr (.inl ⟨untagged.rollbackAlias, ?_, rfl⟩)
  rw [mem_allTags, untagged.rollbackAlias]
  exact nofun

/-- The last step removes an image that can still be told by its digest. -/
theorem cleanupStep_imageId_iff (cleanable : docker.Cleanable task)
    (valid : validateCleanupTask task = true) (untagged : docker.Untagged task) :
    (∃ final, cleanupStep task docker .imageId = some final) ↔
      docker.repositoryDigests task.original.imageId ≠ [] := by
  change (∃ final, docker.cleanupImageId task = some final) ↔ _
  simp only [cleanupImageId_eq_some valid]
  constructor
  · rintro ⟨final, -, -, ⟨gone, -⟩ | ⟨⟨core, read, -⟩, -, -⟩⟩ none
    · exact gone cleanable.isPresent
    · have known := (reads_of_inspectCore read).digest
      rw [none] at known
      cases known
  · intro digests
    obtain ⟨core, read, same⟩ := cleanable.core
    refine ⟨_, untagged, cleanable.noContainer, .inr ⟨⟨core, ?_, same⟩,
      cleanable.allTags_eq_nil untagged, rfl⟩⟩
    exact (inspectCore_congr rfl (digestOf_of_ne_nil digests _ _) rfl).trans read

theorem cleanupStep_imageId_gone (valid : validateCleanupTask task = true)
    (untagged : docker.Untagged task)
    (noContainer : docker.hasContainerReference task.original.imageId = false)
    (gone : task.original.imageId ∉ docker.images) :
    cleanupStep task docker .imageId = some docker :=
  (cleanupImageId_eq_some valid).mpr ⟨untagged, noContainer, .inl ⟨gone, rfl⟩⟩

/-- From the alias on, the steps come to their end in one run. -/
theorem cleanupStep_alias_image (cleanable : docker.Cleanable task)
    (valid : validateCleanupTask task = true)
    (absent : docker.tags.lookup (versionTag task.original.version) = none)
    (aliased : docker.tags.lookup task.original.rollbackAlias = some task.original.imageId) :
    ∃ final, [CleanupStep.rollbackAlias, .imageId].foldlM (cleanupStep task) docker =
      some final := by
  have isImageId : isDigest task.original.imageId = true := by
    obtain ⟨core, read, -⟩ := cleanable.core
    exact (reads_of_inspectCore read).idValid
  have first : cleanupStep task docker .rollbackAlias =
      some (docker.removeTag task.original.rollbackAlias task.original.imageId) :=
    (cleanupTag_eq_some valid).mpr ⟨cleanable, absent,
      removeCleanupReference_eq_some.mpr (.inr ⟨aliased, isImageId, rfl⟩)⟩
  have untagged := Untagged.of_removeTag_alias valid absent
  simp only [List.foldlM_cons, List.foldlM_nil, first, Option.bind_eq_bind, Option.bind_some,
    Option.pure_def, Option.bind_fun_some]
  by_cases digests : docker.repositoryDigests task.original.imageId = []
  · refine ⟨_, cleanupStep_imageId_gone valid untagged ?_ ?_⟩
    · rw [cleanable.removeTag_alias valid absent, if_pos digests]
      exact cleanable.noContainer
    · rw [cleanable.removeTag_alias valid absent, if_pos digests]
      simp [AList.mem_erase]
  · apply (cleanupStep_imageId_iff (cleanable.of_removeTag_alias valid absent digests) valid
      untagged).mpr
    rw [cleanable.removeTag_alias valid absent, if_neg digests]
    exact digests

theorem cleanupStep_rollbackAlias_gone (valid : validateCleanupTask task = true)
    (gone : task.original.imageId ∉ docker.images) :
    cleanupStep task docker .rollbackAlias = none := by
  rw [Option.eq_none_iff_forall_ne_some]
  intro after stepped
  exact gone ((cleanupTag_eq_some valid).mp stepped).1.isPresent

/-- A cleanup that finds both tags removed and the image still there needs its digest. -/
theorem cleanupStep_alias_image_iff (cleanable : docker.Cleanable task)
    (valid : validateCleanupTask task = true) (untagged : docker.Untagged task) :
    (∃ final, [CleanupStep.rollbackAlias, .imageId].foldlM (cleanupStep task) docker =
        some final) ↔ docker.repositoryDigests task.original.imageId ≠ [] := by
  rw [← cleanupStep_imageId_iff cleanable valid untagged, List.foldlM_cons,
    cleanupStep_rollbackAlias_again cleanable valid untagged]
  simp only [Option.bind_eq_bind, Option.bind_some, List.foldlM_cons, List.foldlM_nil,
    Option.pure_def, Option.bind_fun_some]

end

end Docker

open Docker

/-- A cleanup whose step crashed after its removal took effect, and before it was recorded, comes to
its end in the next run if and only if the step was not that of the alias or the original image
still had a digest. -/
theorem cleanup_resumes_iff {docker after : Docker} {environmentTag : String} {task : UpdateTask}
    {step : CleanupStep} (ran : docker.cleanupOriginalStep environmentTag task step = some after) :
    (∃ final, after.cleanupOriginal environmentTag task =
        some ({ task with cleanupJournal := some (journalAt .completed .imageId) }, final)) ↔
      (step = .rollbackAlias → docker.repositoryDigests task.original.imageId ≠ []) := by
  obtain ⟨valid, rfl, started, stepped⟩ := cleanupOriginalStep_eq_some.mp ran
  rw [cleanupOriginal_started valid step started]
  simp only [Option.map_eq_some_iff, Prod.mk.injEq, true_and, exists_eq_right]
  cases step with
  | versionTag =>
      simp only [reduceCtorEq, false_implies, iff_true]
      obtain ⟨cleanable, aliased, removed⟩ := (cleanupTag_eq_some valid).mp stepped
      rw [stepsFrom, List.foldlM_cons]
      rcases removeCleanupReference_eq_some.mp removed with ⟨absent, -, rfl⟩ | ⟨-, -, rfl⟩
      · rw [cleanupStep_versionTag_again cleanable valid absent aliased, Option.bind_eq_bind,
          Option.bind_some]
        exact cleanupStep_alias_image cleanable valid absent aliased
      · have left := cleanable.of_removeTag_version valid aliased
        have absent : (docker.removeTag (versionTag task.original.version)
            task.original.imageId).tags.lookup (versionTag task.original.version) = none := by
          rw [removeTag_tags]
          exact AList.lookup_erase _ _
        have aliasedLeft : (docker.removeTag (versionTag task.original.version)
            task.original.imageId).tags.lookup task.original.rollbackAlias =
              some task.original.imageId := by
          rw [removeTag_tags]
          exact lookup_erase_eq_some.mpr ⟨alias_ne_version valid, aliased⟩
        rw [cleanupStep_versionTag_again left valid absent aliasedLeft, Option.bind_eq_bind,
          Option.bind_some]
        exact cleanupStep_alias_image left valid absent aliasedLeft
  | rollbackAlias =>
      simp only [true_implies]
      obtain ⟨cleanable, absent, removed⟩ := (cleanupTag_eq_some valid).mp stepped
      rcases removeCleanupReference_eq_some.mp removed with ⟨noAlias, -, rfl⟩ | ⟨-, -, rfl⟩
      · exact cleanupStep_alias_image_iff cleanable valid ⟨absent, noAlias⟩
      · have untagged := Untagged.of_removeTag_alias valid absent
        have removal := cleanable.removeTag_alias valid absent
        by_cases digests : docker.repositoryDigests task.original.imageId = []
        · rw [if_pos digests] at removal
          have gone : task.original.imageId ∉ (docker.removeTag task.original.rollbackAlias
              task.original.imageId).images := by
            rw [removal]
            simp [AList.mem_erase]
          rw [stepsFrom, List.foldlM_cons, cleanupStep_rollbackAlias_gone valid gone]
          simp [digests]
        · rw [if_neg digests] at removal
          have left := cleanable.of_removeTag_alias valid absent digests
          have same : (docker.removeTag task.original.rollbackAlias
              task.original.imageId).repositoryDigests task.original.imageId =
                docker.repositoryDigests task.original.imageId := by
            rw [removal]
            rfl
          rw [← same]
          exact cleanupStep_alias_image_iff left valid untagged
  | imageId =>
      simp only [reduceCtorEq, false_implies, iff_true, stepsFrom, List.foldlM_cons,
        List.foldlM_nil, Option.pure_def, Option.bind_eq_bind, Option.bind_fun_some]
      obtain ⟨untagged, noContainer, ⟨gone, rfl⟩ | ⟨-, -, rfl⟩⟩ :=
        (cleanupImageId_eq_some valid).mp stepped
      · exact ⟨_, cleanupStep_imageId_gone valid untagged noContainer gone⟩
      · refine ⟨_, cleanupStep_imageId_gone valid ⟨untagged.version, untagged.rollbackAlias⟩
          noContainer ?_⟩
        simp [removeImage, AList.mem_erase]

namespace Sample

def cleaningTask (step : CleanupStep) : UpdateTask :=
  { tagged firstTask with cleanupJournal := some (journalAt .started step) }

theorem cleans_firstTask (step : CleanupStep) : Cleans firstTask (cleaningTask step) step := by
  refine ⟨rfl, rfl, rfl, ?_⟩
  cases step <;> rfl

/-- The first update of the installation comes to its cleanup with no tags but its own. -/
theorem exists_ready_firstTask :
    ∃ started, Ready started firstTask ∧ OwnTags (started.running firstTask) firstTask := by
  rcases admitUpdate_installation with ⟨started, admits⟩
  rcases tidy_installation with ⟨version, stained⟩
  have admitted := admitted_of_admitUpdate admits
  have none_failed : Stained installation installation.web.imageId version
      (([] : List UpdateTask).map (·.id)) := stained
  refine ⟨started, ready_of_admitted stained admitted, (ownTags_iff none_failed admitted).mpr ?_⟩
  intro task member
  cases member

theorem isAlias_firstTask : isAlias (aliasOf firstTask.id) = true := by decide +kernel

/-- After a crash in the step of the version tag the cleanup goes on to its end. -/
theorem cleanup_resumes_versionTag :
    ∃ after final : Docker, after.cleanupOriginal "v0.3.0" (cleaningTask .versionTag) =
      some ({ cleaningTask .versionTag with
        cleanupJournal := some (journalAt .completed .imageId) }, final) := by
  obtain ⟨started, ready, own⟩ := exists_ready_firstTask
  have ran := ready.cleans_versionTag (fresh_newTask ready).unaliased (cleans_firstTask _)
    isAlias_firstTask own
  obtain ⟨final, resumed⟩ := (cleanup_resumes_iff ran).mpr nofun
  exact ⟨_, final, resumed⟩

/-- After a crash in the step of the alias the image is gone: the step is refused, and with it every
later run of the cleanup. -/
theorem cleanup_stuck_rollbackAlias :
    ∃ docker after : Docker,
      docker.cleanupOriginalStep "v0.3.0" (cleaningTask .rollbackAlias) .rollbackAlias = some after ∧
      after.cleanupOriginalStep "v0.3.0" (cleaningTask .rollbackAlias) .rollbackAlias = none ∧
      after.cleanupOriginal "v0.3.0" (cleaningTask .rollbackAlias) = none := by
  obtain ⟨started, ready, own⟩ := exists_ready_firstTask
  have ran := ready.cleans_alias (fresh_newTask ready).unaliased (cleans_firstTask _)
    isAlias_firstTask own
  obtain ⟨valid, -, journal, -⟩ := cleanupOriginalStep_eq_some.mp ran
  have gone : firstTask.original.imageId ∉ (started.cleaned firstTask).images := by
    change _ ∉ AList.erase _ _
    simp [AList.mem_erase]
  have refused := cleanupStep_rollbackAlias_gone valid gone
  refine ⟨_, _, ran, ?_, ?_⟩
  · rw [Option.eq_none_iff_forall_ne_some]
    intro after again
    rw [(cleanupOriginalStep_eq_some.mp again).2.2.2] at refused
    cases refused
  · change Docker.cleanupOriginal _ (cleaningTask .rollbackAlias).target.version _ = none
    rw [cleanupOriginal_started valid _ journal, stepsFrom, List.foldlM_cons, refused]
    rfl

end Sample

end Finrec.Updater
