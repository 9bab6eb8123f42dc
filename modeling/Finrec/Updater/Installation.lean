import Finrec.Updater.Leftovers

/-!
# Docker during an update

Between the start of a task and the end of its cleanup Docker goes through a few
states.  The new web container is started from the target, and the cleanup takes
the references to the original image away, one after the other; it refuses to
begin when it finds a tag that is not its own.
-/

namespace Finrec.Updater

open DockerPlatform

/-- Docker between the start of a task and its execution. -/
structure Ready (docker : Docker) (task : UpdateTask) : Prop where
  original : Present docker task.original
  target : Present docker task.target
  web : docker.web.imageId = task.original.imageId
  recognised : isWebImageReference docker.web.configImage = true
  another : task.target.imageId ≠ task.original.imageId
  newer : task.original.version ≠ task.target.version
  stable : docker.tags.lookup stableTag = some task.target.imageId

/-- Docker when an execution comes to its cleanup. -/
def Docker.running (docker : Docker) (task : UpdateTask) : Docker :=
  { docker.tagImage task.original.imageId (aliasOf task.id) with
    web := {
      imageId := task.target.imageId
      configImage := webRepository ++ "@" ++ task.target.digest } }

/-- Docker after the version tag of the original image is removed, and its digest with it. -/
def Docker.untagged (docker : Docker) (task : UpdateTask) : Docker :=
  { docker.running task with
    tags := (docker.running task).tags.erase (versionTag task.original.version)
    digests := (docker.running task).digests.without task.original.imageId }

/-- Docker after the alias is removed, and the image with it. -/
def Docker.cleaned (docker : Docker) (task : UpdateTask) : Docker :=
  { docker.untagged task with
    tags := (docker.untagged task).tags.erase (aliasOf task.id)
    images := (docker.untagged task).images.erase task.original.imageId }

/-- Docker after the web container was brought back to the original image. -/
def Docker.rolledBack (docker : Docker) (task : UpdateTask) : Docker :=
  { docker.running task with
    web := { imageId := task.original.imageId, configImage := aliasOf task.id } }

theorem isWebTag_versionTag (version : String) : Docker.isWebTag (versionTag version) = true := by
  have text : (webRepository ++ ":" ++ version).toList =
      (webRepository ++ ":").toList ++ version.toList := String.toList_append
  unfold Docker.isWebTag versionTag
  rw [List.isPrefixOf_iff_prefix, text]
  exact List.prefix_append _ _

theorem isWebTag_aliasOf (taskId : String) : Docker.isWebTag (aliasOf taskId) = false := by
  unfold Docker.isWebTag
  exact Patterns.isPrefixOf_of_head_ne (webRepository_head ":") (aliasOf_head taskId) (by decide)

theorem isWebImageReference_digest {digest : String} (valid : isDigest digest = true) :
    isWebImageReference (webRepository ++ "@" ++ digest) = true := by
  unfold isWebImageReference
  have text : (webRepository ++ "@" ++ digest).toList =
      (webRepository ++ "@").toList ++ digest.toList := String.toList_append
  rw [text, Patterns.fits_literal_append]
  change (isDigest digest || _ || _) = true
  rw [valid]
  rfl

section Installation

variable {docker after : Docker} {task : UpdateTask} {version : String} {taskIds : List String}
  {current : ImageIdentity}

theorem present_of_inspectWeb (stained : Stained docker docker.web.imageId version taskIds)
    (inspected : docker.inspectWeb = some current) : Present docker current := by
  have same := stained.version_eq inspected
  rcases inspectWeb_eq_some inspected with ⟨-, -, core, read, identity⟩
  have versionTagged : versionTag core.identity.version ∈ docker.allTags docker.web.imageId := by
    have sameVersion : core.identity.version = version := by
      rw [← same.1, ← identity]
      rfl
    rw [Docker.mem_allTags, sameVersion]
    exact stained.versioned
  rw [Docker.withTags_identity versionTagged] at identity
  refine ⟨?_, core, ?_, identity⟩
  · rw [same.1, same.2]
    exact stained.versioned
  · rw [same.2]
    exact read

theorem present_of_resolved {target : ImageIdentity} (resolved : docker.Resolved target after) :
    Present after target := ⟨resolved.version, resolved.read⟩

theorem Present.resolved {target : ImageIdentity} (present : Present docker current)
    (resolved : docker.Resolved target after) (newer : current.version ≠ target.version)
    (another : target.imageId ≠ current.imageId) : Present after current := by
  rcases present.read with ⟨core, read, described⟩
  rcases (Docker.reads_of_inspectCore read).labels with ⟨labels, found, -⟩
  refine ⟨?_, core, ?_, described⟩
  · rw [resolved.tags _ (versionTag_ne_stableTag current.versionValid)
      fun same => newer (versionTag_injective same)]
    exact present.tag
  · rw [← read]
    apply Docker.inspectCore_congr
    · rw [found, resolved.others.images _ _ found]
    · rw [resolved.others.digests _ another.symm]
    · exact resolved.others.architecture

theorem ready_of_admitted (stained : Stained docker docker.web.imageId version taskIds)
    (admitted : Admitted docker task.original task.target after) : Ready after task := by
  have same := stained.version_eq admitted.inspected
  have another : task.target.imageId ≠ task.original.imageId := same.2 ▸ admitted.another
  have web := admitted.resolved.others.web
  refine ⟨(present_of_inspectWeb stained admitted.inspected).resolved admitted.resolved
    admitted.newer another, present_of_resolved admitted.resolved, ?_, ?_, another,
    admitted.newer, admitted.resolved.stable⟩
  · rw [web, same.2]
  · rw [web]
    exact (inspectWeb_eq_some admitted.inspected).2.1

variable (ready : Ready docker task)
include ready

theorem Ready.inspectWebImage : ∃ inspected, docker.inspectWebImage = some inspected ∧
    inspected.identity = task.original ∧ inspected.osName = "linux" ∧
    inspected.architecture = docker.architecture :=
  ready.original.inspectWebImage ready.web ready.recognised

theorem Ready.verifyTarget (registry : Registry) :
    docker.verifyTarget registry task.target = some docker := by
  have refers : docker.imageOf (.digest task.target.digest) = some task.target.imageId :=
    ready.target.digest.2
  rcases ready.target.inspects refers with ⟨inspected, read, identity, -, osName, architecture⟩
  rcases ready.inspectWebImage with ⟨current, webRead, -, webOsName, webArchitecture⟩
  simp [Docker.verifyTarget, ready.target.isOriginal.2,
    Docker.pullDigest_present ready.target.digest.2,
    read, webRead, identity, sameIdentity_refl, osName, architecture, webOsName, webArchitecture]

theorem Ready.tagRollback (fresh : task.original.rollbackAlias = "") :
    docker.tagRollback task =
      some (tagged task, docker.tagImage task.original.imageId (aliasOf task.id)) := by
  have refers : (docker.tagImage task.original.imageId (aliasOf task.id)).imageOf
      (.tag (aliasOf task.id)) = some task.original.imageId := AList.lookup_insert _
  rcases (ready.original.tagImage task.original.imageId task.id).inspects refers with
    ⟨inspected, read, identity, allTags, -, -⟩
  rcases ready.inspectWebImage with ⟨current, webRead, webIdentity, -, -⟩
  have listed : aliasOf task.id ∈ inspected.allTags := by
    rw [allTags, Docker.mem_allTags]
    exact AList.lookup_insert _
  simp [Docker.tagRollback, admitsTag, fresh, ready.original.isOriginal.1, Docker.inspectWeb,
    webRead, webIdentity, sameIdentity_refl, read, listed, identity]

theorem Ready.migrateTarget : Docker.migrateTarget task.target = some () := by
  simp [Docker.migrateTarget, ready.target.isOriginal.2]

theorem Ready.startTarget :
    (docker.tagImage task.original.imageId (aliasOf task.id)).startTarget task.target =
      some (docker.running task) := by
  have refers : (docker.tagImage task.original.imageId (aliasOf task.id)).imageOf
      (.digest task.target.digest) = some task.target.imageId := ready.target.digest.2
  simp [Docker.startTarget, ready.target.isOriginal.2, Docker.up, refers, Docker.running]

omit ready in
/-- An alias that still points to the image with its version tag brings the image back. -/
theorem startRollback_of_present (present : Present docker task.original)
    (unaliased : task.original.rollbackAlias = "")
    (recognised : isAlias (aliasOf task.id) = true)
    (points : docker.tags.lookup (aliasOf task.id) = some task.original.imageId) :
    docker.startRollback (tagged task) = some { docker with
      web := { imageId := task.original.imageId, configImage := aliasOf task.id } } := by
  have admits : admitsTag task = true := by
    simp [admitsTag, unaliased, present.isOriginal.1]
  have rolls : admitsRollback (tagged task) = true := by
    have original := isOriginal_tagged task admits
    rw [recognised] at original
    simp only [admitsRollback, original, Bool.and_true]
    exact decide_eq_true rfl
  have refers : docker.imageOf (.tag (aliasOf (tagged task).id)) = some task.original.imageId :=
    points
  rcases present.inspects refers with ⟨inspected, read, identity, allTags, -, -⟩
  have listed : aliasOf (tagged task).id ∈ inspected.allTags := by
    rw [allTags, Docker.mem_allTags]
    exact points
  have same : sameIdentity inspected.identity (tagged task).original = true := by
    rw [identity]
    exact sameIdentity_refl task.original
  have starts : docker.up (.tag (aliasOf (tagged task).id)) (aliasOf (tagged task).id) =
      some { docker with
        web := { imageId := task.original.imageId, configImage := aliasOf task.id } } := by
    simp only [Docker.up, refers, Option.bind_eq_bind, Option.bind_some, Option.pure_def]
    rfl
  unfold Docker.startRollback
  simp only [rolls, read, listed, same, guard, if_true, and_self, Option.bind_eq_bind,
    Option.bind_some, Option.pure_def, starts]

theorem Ready.health : (docker.running task).health task.target = some () := by
  have aliased := ready.target.tagImage task.original.imageId task.id
  have target : Present (docker.running task) task.target := ⟨aliased.tag, aliased.read⟩
  have refers : (docker.running task).imageOf (.id task.target.imageId) =
      some task.target.imageId := Docker.imageOf_id target.isPresent
  rcases target.inspects refers with ⟨inspected, read, identity, -, -, -⟩
  have recorded := ready.target.isOriginal.2
  simp only [isRecordedTarget, Bool.and_eq_true, decide_eq_true_eq] at recorded
  have recognised := isWebImageReference_digest recorded.1.1.1.2
  have webRead : (docker.running task).inspectWebImage = some inspected := by
    unfold Docker.inspectWebImage
    rw [if_pos ⟨recorded.1.1.2, recognised⟩]
    exact read
  simp [Docker.health, Docker.inspectWeb, webRead, identity, sameIdentity_refl]

/-- The checks of the cleanup that do not look at Docker come down to the alias. -/
theorem Ready.validateCleanupTask (fresh : task.original.rollbackAlias = "") :
    validateCleanupTask (tagged task) = isAlias (aliasOf task.id) := by
  have admits : admitsTag task = true := by
    simp [admitsTag, fresh, ready.original.isOriginal.1]
  have digests : task.original.digest ≠ task.target.digest := by
    intro same
    have found := ready.original.digest.2
    rw [same, ready.target.digest.2] at found
    exact ready.another (Option.some.inj found)
  have repositories : task.original.repository = task.target.repository := by
    have original := ready.original.isOriginal.2
    have target := ready.target.isOriginal.2
    simp only [isRecordedTarget, Bool.and_eq_true, decide_eq_true_eq] at original target
    rw [original.1.1.1.1.2, target.1.1.1.1.2]
  have separates : separatesImages (tagged task) = true := by
    simp [separatesImages, tagged, ready.target.isOriginal.2, repositories, ready.newer, digests,
      ready.another.symm]
  unfold DockerPlatform.validateCleanupTask
  rw [isOriginal_tagged task admits, separates]
  simp [tagged]

end Installation

/-- The task that the platform is given for a step of its cleanup. -/
structure Cleans (task cleaning : UpdateTask) (step : CleanupStep) : Prop where
  id : cleaning.id = task.id
  original : cleaning.original = (tagged task).original
  target : cleaning.target = task.target
  started : cleaning.cleanupJournal.map (·.status step) = some .started

/-- The original image has no tags but those that the cleanup takes away. -/
def OwnTags (docker : Docker) (task : UpdateTask) : Prop :=
  ∀ name, docker.tags.lookup name = some task.original.imageId →
    name = versionTag task.original.version ∨ name = aliasOf task.id

section Cleanup

variable {docker : Docker} {task cleaning : UpdateTask} (ready : Ready docker task)
  (fresh : task.original.rollbackAlias = "")
include ready

theorem Ready.original_tags : task.original.tags = [versionTag task.original.version] := by
  have recorded := ready.original.isOriginal.2
  simp only [isRecordedTarget, Bool.and_eq_true, decide_eq_true_eq] at recorded
  exact recorded.1.2

theorem Ready.isDigest_original : isDigest task.original.imageId = true := by
  have recorded := ready.original.isOriginal.2
  simp only [isRecordedTarget, Bool.and_eq_true, decide_eq_true_eq] at recorded
  exact recorded.1.1.2

theorem Ready.not_hasContainerReference :
    (docker.running task).hasContainerReference task.original.imageId = false := by
  simp [Docker.hasContainerReference, Docker.running, ready.another]

/-- The inspection with which the cleanup of the version tag begins. -/
theorem Ready.inspects_running :
    ∃ inspected, (docker.running task).inspectImage (.id task.original.imageId)
        (some task.original.digest) = some inspected ∧
      sameImageCore inspected.identity task.original = true ∧
      inspected.allTags = (docker.running task).allTags task.original.imageId :=
  ready.original.inspectsId rfl (.inl ready.original.digest.1) rfl

theorem Ready.expected_iff {inspected : InspectedImage} {other : Docker}
    (allTags : inspected.allTags = other.allTags task.original.imageId) :
    (inspected.allTags.all
        (· ∈ (tagged task).original.tags ++ [(tagged task).original.rollbackAlias])) = true ↔
      OwnTags other task := by
  rw [allTags]
  simp [OwnTags, tagged, ready.original_tags, Docker.mem_allTags]

/-- A tag that is not its own stops the cleanup of an update. -/
theorem Ready.versionTag_refused (cleans : Cleans task cleaning .versionTag)
    (foreign : ¬ OwnTags (docker.running task) task) (environmentTag : String) :
    (docker.running task).cleanupOriginalStep environmentTag cleaning .versionTag = none := by
  rcases ready.inspects_running with ⟨inspected, read, same, allTags⟩
  rw [Option.eq_none_iff_forall_ne_some]
  intro after cleaned
  unfold Docker.cleanupOriginalStep Docker.cleanupTag at cleaned
  have read' : (docker.running task).inspectImage (.id (tagged task).original.imageId)
      (some (tagged task).original.digest) = some inspected := read
  rw [if_neg (by decide), cleans.original, read'] at cleaned
  simp only [Option.bind_eq_bind, Option.bind_eq_some_iff, Option.guard_eq_some',
    Option.some.injEq, exists_eq_left', exists_const] at cleaned
  rcases cleaned with ⟨-, -, -, -, expected, -⟩
  exact foreign ((ready.expected_iff allTags).mp expected)

include fresh in
theorem Ready.validates {step : CleanupStep} (cleans : Cleans task cleaning step) :
    DockerPlatform.validateCleanupTask cleaning = isAlias (aliasOf task.id) := by
  rw [← ready.validateCleanupTask fresh]
  unfold DockerPlatform.validateCleanupTask separatesImages
  rw [cleans.id, cleans.original, cleans.target]
  rfl

include fresh in
/-- The alias of an id of an unusual variant stops the cleanup, whatever its tags. -/
theorem Ready.versionTag_unrecognised (cleans : Cleans task cleaning .versionTag)
    (unrecognised : isAlias (aliasOf task.id) = false) (environmentTag : String) :
    (docker.running task).cleanupOriginalStep environmentTag cleaning .versionTag = none := by
  unfold Docker.cleanupOriginalStep
  rw [ready.validates fresh cleans, unrecognised]
  rfl

omit ready in
theorem lookup_running_alias :
    (docker.running task).tags.lookup (aliasOf task.id) = some task.original.imageId :=
  AList.lookup_insert _

omit ready in
/-- After the version tag only the alias is left. -/
theorem mem_untagged (own : OwnTags (docker.running task) task) {name : String} :
    name ∈ (docker.untagged task).allTags task.original.imageId ↔ name = aliasOf task.id := by
  rw [Docker.mem_allTags]
  change ((docker.running task).tags.erase _).lookup name = _ ↔ _
  by_cases isVersion : name = versionTag task.original.version
  · subst isVersion
    rw [AList.lookup_erase]
    simp [(aliasOf_ne_versionTag task.id _).symm]
  · rw [AList.lookup_erase_ne isVersion]
    constructor
    · intro names
      exact (own name names).resolve_left isVersion
    · rintro rfl
      exact lookup_running_alias

omit ready in
theorem removeTag_versionTag (own : OwnTags (docker.running task) task) :
    (docker.running task).removeTag (versionTag task.original.version) task.original.imageId =
      docker.untagged task := by
  have noWebTag : ((docker.untagged task).allTags task.original.imageId).any Docker.isWebTag =
      false := by
    rw [List.any_eq_false]
    intro name member
    rw [(mem_untagged own).mp member, isWebTag_aliasOf]
    decide
  have aliased : (docker.untagged task).allTags task.original.imageId ≠ [] :=
    List.ne_nil_of_mem ((mem_untagged own).mpr rfl)
  have kept : (docker.untagged task).prune task.original.imageId = docker.untagged task := by
    unfold Docker.prune
    rw [if_neg fun gone => aliased gone.1]
  unfold Docker.removeTag
  change (if (Docker.isWebTag _ && !((docker.untagged task).allTags _).any Docker.isWebTag) = true
    then docker.untagged task else _).prune _ = _
  rw [noWebTag, isWebTag_versionTag]
  exact kept

omit ready in
theorem removeTag_alias (own : OwnTags (docker.running task) task) :
    (docker.untagged task).removeTag (aliasOf task.id) task.original.imageId =
      docker.cleaned task := by
  have noTags : (docker.cleaned task).allTags task.original.imageId = [] := by
    rw [List.eq_nil_iff_forall_not_mem]
    intro name member
    rw [Docker.mem_allTags] at member
    change ((docker.untagged task).tags.erase _).lookup name = _ at member
    by_cases isAlias : name = aliasOf task.id
    · rw [isAlias, AList.lookup_erase] at member
      simp at member
    · rw [AList.lookup_erase_ne isAlias, ← Docker.mem_allTags] at member
      exact isAlias ((mem_untagged own).mp member)
  have noDigests : (docker.cleaned task).repositoryDigests task.original.imageId = [] :=
    Names.namesOf_without_self
  unfold Docker.removeTag
  rw [isWebTag_aliasOf]
  unfold Docker.prune
  exact if_pos ⟨noTags, noDigests⟩

include fresh in
/-- What the checks of a step that removes a reference come down to. -/
theorem Ready.cleanupOriginalStep_tag {other : Docker} {step : CleanupStep}
    (cleans : Cleans task cleaning step) (recognised : isAlias (aliasOf task.id) = true)
    (notImage : step ≠ .imageId) :
    other.cleanupOriginalStep task.target.version cleaning step = other.cleanupTag cleaning step := by
  unfold Docker.cleanupOriginalStep
  rw [ready.validates fresh cleans, recognised, cleans.target, cleans.started, if_neg notImage]
  simp

theorem Ready.referenceImageId {other : Docker} {name : String}
    (found : other.tags.lookup name = some task.original.imageId) :
    other.referenceImageId (.tag name) = some (some task.original.imageId) := by
  simp [Docker.referenceImageId, Docker.imageOf, found, ready.isDigest_original]

omit ready in
theorem referenceImageId_absent {other : Docker} {name : String}
    (absent : other.tags.lookup name = none) :
    other.referenceImageId (.tag name) = some none := by
  simp [Docker.referenceImageId, Docker.imageOf, absent]

omit ready in
theorem lookup_untagged_version :
    (docker.untagged task).tags.lookup (versionTag task.original.version) = none :=
  AList.lookup_erase _ _

theorem Ready.lookup_running_version :
    (docker.running task).tags.lookup (versionTag task.original.version) =
      some task.original.imageId :=
  (ready.original.tagImage task.original.imageId task.id).tag

include fresh in
theorem Ready.cleans_versionTag (cleans : Cleans task cleaning .versionTag)
    (recognised : isAlias (aliasOf task.id) = true) (own : OwnTags (docker.running task) task) :
    (docker.running task).cleanupOriginalStep task.target.version cleaning .versionTag =
      some (docker.untagged task) := by
  rcases ready.inspects_running with ⟨inspected, read, same, allTags⟩
  have read' : (docker.running task).inspectImage (.id (tagged task).original.imageId)
      (some (tagged task).original.digest) = some inspected := read
  have same' : sameImageCore inspected.identity (tagged task).original = true := same
  have aliasListed : (tagged task).original.rollbackAlias ∈ inspected.allTags := by
    rw [allTags, Docker.mem_allTags]
    exact lookup_running_alias
  have aliasRefers : (docker.running task).referenceImageId
      (.tag (tagged task).original.rollbackAlias) = some (some (tagged task).original.imageId) :=
    ready.referenceImageId lookup_running_alias
  have head : (tagged task).original.tags.head? = some (versionTag task.original.version) := by
    simp [tagged, ready.original_tags]
  have removes : (docker.running task).removeCleanupReference (versionTag task.original.version)
      (tagged task).original.imageId inspected.allTags = some (docker.untagged task) := by
    unfold Docker.removeCleanupReference
    change (Option.bind _ _) = _
    rw [ready.referenceImageId ready.lookup_running_version]
    have gone : (docker.untagged task).referenceImageId
        (.tag (versionTag task.original.version)) = some none :=
      referenceImageId_absent lookup_untagged_version
    simp [removeTag_versionTag own, gone, tagged]
  rw [ready.cleanupOriginalStep_tag fresh cleans recognised (by decide)]
  unfold Docker.cleanupTag
  rw [cleans.original, read']
  have expected := (ready.expected_iff allTags).mpr own
  have noContainer : (docker.running task).hasContainerReference (tagged task).original.imageId =
      false := ready.not_hasContainerReference
  simp only [same', expected, noContainer, head, aliasListed, aliasRefers, removes, guard, if_true,
    Option.bind_eq_bind, Option.bind_some, Option.pure_def]

include fresh in
theorem Ready.cleans_alias (cleans : Cleans task cleaning .rollbackAlias)
    (recognised : isAlias (aliasOf task.id) = true) (own : OwnTags (docker.running task) task) :
    (docker.untagged task).cleanupOriginalStep task.target.version cleaning .rollbackAlias =
      some (docker.cleaned task) := by
  have digests : (docker.untagged task).repositoryDigests task.original.imageId = [] :=
    Names.namesOf_without_self
  obtain ⟨inspected, read, same, allTags⟩ : ∃ inspected,
      (docker.untagged task).inspectImage (.id (tagged task).original.imageId)
        (some (tagged task).original.digest) = some inspected ∧
      sameImageCore inspected.identity (tagged task).original = true ∧
      inspected.allTags = (docker.untagged task).allTags task.original.imageId :=
    ready.original.inspectsId rfl (.inr digests) rfl
  have ownLeft : OwnTags (docker.untagged task) task := by
    intro name names
    rw [← Docker.mem_allTags] at names
    exact .inr ((mem_untagged own).mp names)
  have expected := (ready.expected_iff allTags).mpr ownLeft
  have noContainer : (docker.untagged task).hasContainerReference (tagged task).original.imageId =
      false := ready.not_hasContainerReference
  have head : (tagged task).original.tags.head? = some (versionTag task.original.version) := by
    simp [tagged, ready.original_tags]
  have versionGone : versionTag task.original.version ∉ inspected.allTags := by
    rw [allTags, mem_untagged own]
    exact (aliasOf_ne_versionTag _ _).symm
  have versionAbsent : (docker.untagged task).referenceImageId
      (.tag (versionTag task.original.version)) = some none :=
    referenceImageId_absent lookup_untagged_version
  have removes : (docker.untagged task).removeCleanupReference
      (tagged task).original.rollbackAlias (tagged task).original.imageId inspected.allTags =
        some (docker.cleaned task) := by
    have refers : (docker.untagged task).referenceImageId
        (.tag (tagged task).original.rollbackAlias) = some (some task.original.imageId) := by
      apply ready.referenceImageId
      rw [← Docker.mem_allTags]
      exact (mem_untagged own).mpr rfl
    have gone : (docker.cleaned task).referenceImageId (.tag (aliasOf task.id)) = some none :=
      referenceImageId_absent (AList.lookup_erase _ _)
    unfold Docker.removeCleanupReference
    rw [refers]
    simp [removeTag_alias own, gone, tagged]
  rw [ready.cleanupOriginalStep_tag fresh cleans recognised (by decide)]
  unfold Docker.cleanupTag
  rw [cleans.original, read]
  simp only [same, expected, noContainer, head, versionGone, versionAbsent, removes, guard,
    if_true, Option.bind_eq_bind, Option.bind_some, Option.pure_def, not_false_eq_true,
    reduceCtorEq, if_false]

include fresh in
theorem Ready.cleans_imageId (cleans : Cleans task cleaning .imageId)
    (recognised : isAlias (aliasOf task.id) = true) :
    (docker.cleaned task).cleanupOriginalStep task.target.version cleaning .imageId =
      some (docker.cleaned task) := by
  have imageGone : (docker.cleaned task).referenceImageId (.id (tagged task).original.imageId) =
      some none := by
    have gone : task.original.imageId ∉ (docker.cleaned task).images := by
      change task.original.imageId ∉ AList.erase _ _
      simp [AList.mem_erase]
    have noImage : (docker.cleaned task).imageOf (.id (tagged task).original.imageId) = none :=
      if_neg gone
    simp [Docker.referenceImageId, noImage]
  have noContainer : (docker.cleaned task).hasContainerReference (tagged task).original.imageId =
      false := ready.not_hasContainerReference
  have absent : (docker.cleaned task).cleanupReferencesAbsent cleaning = true := by
    have versionAbsent : (docker.cleaned task).tags.lookup (versionTag task.original.version) =
        none := by
      change ((docker.untagged task).tags.erase _).lookup _ = _
      rw [AList.lookup_erase_ne (aliasOf_ne_versionTag _ _).symm]
      exact lookup_untagged_version
    have aliasAbsent : (docker.cleaned task).tags.lookup (aliasOf task.id) = none :=
      AList.lookup_erase _ _
    unfold Docker.cleanupReferencesAbsent
    rw [cleans.original]
    simp [tagged, ready.original_tags, referenceImageId_absent versionAbsent,
      referenceImageId_absent aliasAbsent]
  unfold Docker.cleanupOriginalStep Docker.cleanupImageId
  rw [ready.validates fresh cleans, recognised, cleans.target, cleans.started, cleans.original,
    imageGone]
  simp [noContainer, absent]

end Cleanup

section RolledBack

variable {docker started : Docker} {task : UpdateTask} {registry atStart : Registry}

/-- A task that tagged its original image, started the target and was rolled back. -/
theorem fails_rolledBack (stained : Tidy docker)
    (admits : docker.admitUpdate registry atStart = some ((task.original, task.target), started))
    (unaliased : task.original.rollbackAlias = "")
    (recognised : isAlias (aliasOf task.id) = true) :
    Fails docker task (started.rolledBack task) := by
  rcases stained with ⟨version, stained⟩
  have admitted := admitted_of_admitUpdate admits
  have ready : Ready started task := ready_of_admitted stained admitted
  have aliased := ready.original.tagImage task.original.imageId task.id
  have original : Present (started.running task) task.original := ⟨aliased.tag, aliased.read⟩
  have rolls : (started.running task).startRollback (tagged task) =
      some (started.rolledBack task) :=
    startRollback_of_present original unaliased recognised lookup_running_alias
  have touched : Relation.ReflTransGen (Touches task) started (started.rolledBack task) := by
    refine .tail (.tail (.single (.tags ready.web)) ?_) (.startsRollback rolls)
    exact .startsTarget ready.startTarget
  refine ⟨⟨registry, atStart, started, admits, touched⟩, ?_⟩
  exact (stained.version_eq admitted.inspected).2

end RolledBack

end Finrec.Updater
