import Finrec.Updater.Docker

/-!
# What inspections read

An inspection reads the labels of an image, its digest and its tags.  Pulls,
tags and starts keep the labels, and move references only to the image that
they name.
-/

namespace Finrec.Updater

open DockerPlatform Patterns

theorem versionTag_injective {first second : String}
    (same : versionTag first = versionTag second) : first = second := by
  unfold versionTag at same
  exact String.append_right_inj _ |>.mp same

theorem aliasOf_injective {first second : String} (same : aliasOf first = aliasOf second) :
    first = second := by
  unfold aliasOf at same
  exact String.append_right_inj _ |>.mp same

theorem versionTag_ne_stableTag {version : String} (valid : validateVersion version = true) :
    versionTag version ≠ stableTag := by
  intro same
  have stable : ":" ++ version = ":stable" := by
    unfold versionTag stableTag at same
    rw [String.append_assoc] at same
    exact String.append_right_inj _ |>.mp same
  have same : version = "stable" := by
    rw [show (":stable" : String) = ":" ++ "stable" by decide +kernel] at stable
    exact String.append_right_inj _ |>.mp stable
  subst same
  exact absurd valid (by decide +kernel)

theorem aliasOf_head (taskId : String) : (aliasOf taskId).toList.head? = some 'f' := by
  rw [aliasOf_toList, List.head?_append, show aliasRepository.toList.head? = some 'f' by
    decide +kernel]
  rfl

theorem webRepository_head (suffix : String) :
    (webRepository ++ suffix).toList.head? = some 'g' := by
  rw [String.toList_append, List.head?_append, show webRepository.toList.head? = some 'g' by
    decide +kernel]
  rfl

theorem aliasOf_ne_web (taskId suffix : String) : aliasOf taskId ≠ webRepository ++ suffix := by
  intro same
  have head := aliasOf_head taskId
  rw [same, webRepository_head] at head
  simp at head

theorem aliasOf_ne_versionTag (taskId version : String) :
    aliasOf taskId ≠ versionTag version := by
  unfold versionTag
  rw [String.append_assoc]
  exact aliasOf_ne_web taskId _

theorem aliasOf_ne_stableTag (taskId : String) : aliasOf taskId ≠ stableTag :=
  aliasOf_ne_web taskId _

theorem version_of_sameImageCore {actual expected : ImageIdentity}
    (same : sameImageCore actual expected = true) : actual.version = expected.version := by
  simp only [sameImageCore, Bool.and_eq_true, decide_eq_true_eq] at same
  exact same.1.1.1.2

theorem imageId_of_sameImageCore {actual expected : ImageIdentity}
    (same : sameImageCore actual expected = true) : actual.imageId = expected.imageId := by
  simp only [sameImageCore, Bool.and_eq_true, decide_eq_true_eq] at same
  exact same.1.2

theorem sameImageCore_of_sameLockedImage {actual expected : InspectedImage}
    (same : sameLockedImage actual expected = true) :
    sameImageCore actual.identity expected.identity = true := by
  simp only [sameLockedImage, Bool.and_eq_true] at same
  exact same.1.1.1.1

theorem sameImageCore_refl (identity : ImageIdentity) :
    sameImageCore identity identity = true := by
  simp [sameImageCore]

theorem sameIdentity_refl (identity : ImageIdentity) : sameIdentity identity identity = true := by
  simp [sameIdentity, sameImageCore_refl]

namespace Docker

variable {docker other : Docker} {imageId : String} {reference : Reference}
  {expected : Option String} {inspected core : InspectedImage} {registry : Registry}

/-- What an inspection apart from the tags says. -/
structure Reads (docker : Docker) (imageId : String) (expected : Option String)
    (core : InspectedImage) : Prop where
  labels : ∃ labels, docker.images.lookup imageId = some labels ∧
    core.identity.version = labels.version
  digest : digestOf (docker.repositoryDigests imageId) expected = some core.identity.digest
  identified : core.identity.imageId = imageId
  idValid : isDigest imageId = true
  repository : core.identity.repository = webRepository
  rollbackAlias : core.identity.rollbackAlias = ""
  osName : core.osName = "linux"
  architecture : core.architecture = docker.architecture

theorem reads_of_inspectCore (read : docker.inspectCore imageId expected = some core) :
    docker.Reads imageId expected core := by
  unfold inspectCore at read
  simp only [Option.bind_eq_bind, Option.bind_eq_some_iff] at read
  rcases read with ⟨labels, found, digest, ofDigest, publishedAt, -, read⟩
  split at read
  · rename_i valid
    simp only [Option.pure_def, Option.some.injEq] at read
    subst read
    exact ⟨⟨labels, found, rfl⟩, ofDigest, rfl, valid.2.1, rfl, rfl, rfl, rfl⟩
  · simp at read

theorem digestOf_valid {digests : List String} {digest : String}
    (read : digestOf digests expected = some digest) : isDigest digest = true := by
  unfold digestOf at read
  split at read
  · split at read
    · simp_all
    · simp at read
  · exact (Option.filter_eq_some_iff.mp read).2
  · simp at read

theorem digestOf_eq_some {digests : List String} {digest : String}
    (read : digestOf digests none = some digest) : digests = [digest] := by
  unfold digestOf at read
  split at read
  · split at read
    · simp_all
    · simp at read
  · simp at read
  · simp at read

/-- Inspections agree on an image with the same labels and the same digest. -/
theorem inspectCore_congr {otherExpected : Option String}
    (labels : other.images.lookup imageId = docker.images.lookup imageId)
    (digest : digestOf (other.repositoryDigests imageId) otherExpected =
      digestOf (docker.repositoryDigests imageId) expected)
    (architecture : other.architecture = docker.architecture) :
    other.inspectCore imageId otherExpected = docker.inspectCore imageId expected := by
  unfold inspectCore
  simp only [labels, digest, architecture]

theorem inspectImage_eq_some :
    docker.inspectImage reference expected = some inspected ↔
      ∃ imageId core, docker.imageOf reference = some imageId ∧
        docker.inspectCore imageId expected = some core ∧
        core.withTags (docker.allTags imageId) = inspected := by
  simp [inspectImage, Option.bind_eq_some_iff]

theorem mem_allTags {name : String} :
    name ∈ docker.allTags imageId ↔ docker.tags.lookup name = some imageId :=
  Names.mem_namesOf

theorem imageOf_id (present : imageId ∈ docker.images) :
    docker.imageOf (.id imageId) = some imageId := if_pos present

@[simp]
theorem withTags_version (core : InspectedImage) (allTags : List String) :
    (core.withTags allTags).identity.version = core.identity.version := rfl

@[simp]
theorem withTags_allTags (core : InspectedImage) (allTags : List String) :
    (core.withTags allTags).allTags = allTags := rfl

/-- The identity of an image with its version tag. -/
theorem withTags_identity {allTags : List String}
    (tagged : versionTag core.identity.version ∈ allTags) :
    (core.withTags allTags).identity =
      { core.identity with tags := [versionTag core.identity.version] } := by
  simp only [InspectedImage.withTags, if_pos tagged]

section Fetch

variable (release : Release)

@[simp]
theorem fetch_tags : (docker.fetch release).2.tags = docker.tags := by
  unfold fetch
  split <;> rfl

@[simp]
theorem fetch_web : (docker.fetch release).2.web = docker.web := by
  unfold fetch
  split <;> rfl

@[simp]
theorem fetch_architecture :
    (docker.fetch release).2.architecture = docker.architecture := by
  unfold fetch
  split <;> rfl

theorem fetch_images {labels : ImageLabels} (found : docker.images.lookup imageId = some labels) :
    (docker.fetch release).2.images.lookup imageId = some labels := by
  unfold fetch
  split
  · exact found
  · dsimp only
    split
    · exact found
    · rename_i absent
      rw [AList.lookup_insert_ne ?_, found]
      rintro rfl
      exact absent (AList.lookup_isSome.mp (by simp [found]))

theorem fetch_digests (another : (docker.fetch release).1 ≠ imageId) :
    (docker.fetch release).2.repositoryDigests imageId = docker.repositoryDigests imageId := by
  unfold fetch at another ⊢
  unfold repositoryDigests
  split
  · rfl
  · rename_i absent
    rw [absent] at another
    exact Names.namesOf_insert_of_ne (AList.lookup_eq_none.mp absent) another

theorem fetch_known {value : String} (found : docker.digests.lookup value = some imageId) :
    (docker.fetch release).2.digests.lookup value = some imageId := by
  unfold fetch
  split
  · exact found
  · rename_i absent
    dsimp only
    rw [AList.lookup_insert_ne ?_, found]
    rintro rfl
    simp [found] at absent

/-- What was fetched is known by its digest. -/
theorem fetch_release : (docker.fetch release).2.digests.lookup release.digest =
    some (docker.fetch release).1 := by
  unfold fetch
  split
  · assumption
  · exact AList.lookup_insert _

theorem fetch_of_known {release : Release}
    (known : docker.digests.lookup release.digest = some imageId) :
    docker.fetch release = (imageId, docker) := by
  unfold fetch
  rw [known]

end Fetch

/-- What a call that names one image does not change. -/
structure KeepsOthers (docker after : Docker) (named : String) : Prop where
  web : after.web = docker.web
  architecture : after.architecture = docker.architecture
  images : ∀ imageId labels, docker.images.lookup imageId = some labels →
    after.images.lookup imageId = some labels
  digests : ∀ imageId, imageId ≠ named →
    after.repositoryDigests imageId = docker.repositoryDigests imageId
  known : ∀ value imageId, docker.digests.lookup value = some imageId →
    after.digests.lookup value = some imageId

theorem KeepsOthers.trans {middle after : Docker} {named : String}
    (first : docker.KeepsOthers middle named) (second : middle.KeepsOthers after named) :
    docker.KeepsOthers after named where
  web := second.web.trans first.web
  architecture := second.architecture.trans first.architecture
  images := fun imageId labels found => second.images _ _ (first.images imageId labels found)
  digests := fun imageId another =>
    (second.digests imageId another).trans (first.digests imageId another)
  known := fun value imageId found => second.known _ _ (first.known value imageId found)

theorem keepsOthers_fetch (release : Release) :
    docker.KeepsOthers (docker.fetch release).2 (docker.fetch release).1 where
  web := fetch_web release
  architecture := fetch_architecture release
  images := fun _ _ found => fetch_images release found
  digests := fun _ another => fetch_digests release another.symm
  known := fun _ _ found => fetch_known release found

/-- A pull moves its tag to the image that it fetched. -/
theorem pullTag_spec (docker : Docker) (registry : Registry) (name : String) :
    ∃ named, docker.KeepsOthers (docker.pullTag registry name) named ∧
      (docker.pullTag registry name).tags = docker.tags.insert name named := by
  have kept : docker.KeepsOthers (docker.fetch (registry.byTag name)).2
      (docker.fetch (registry.byTag name)).1 := keepsOthers_fetch _
  refine ⟨_, ⟨kept.web, kept.architecture, kept.images, kept.digests, kept.known⟩, ?_⟩
  simp [pullTag]

/-- A pull of a digest that is there changes nothing. -/
theorem pullDigest_present {value : String} (present : docker.digests.lookup value = some imageId) :
    docker.pullDigest registry value = docker := by
  simp [pullDigest, fetch, present]

/-- A check that found a target: what the pulls changed, and what is known of the target. -/
structure Resolved (docker : Docker) (target : ImageIdentity) (after : Docker) : Prop where
  others : docker.KeepsOthers after target.imageId
  tags : ∀ name, name ≠ stableTag → name ≠ versionTag target.version →
    after.tags.lookup name = docker.tags.lookup name
  stable : after.tags.lookup stableTag = some target.imageId
  version : after.tags.lookup (versionTag target.version) = some target.imageId
  read : ∃ core, after.inspectCore target.imageId none = some core ∧
    { core.identity with tags := [versionTag core.identity.version] } = target

theorem resolved_of_resolveStable {target : ImageIdentity} {after : Docker}
    (resolved : docker.resolveStable registry = some (target, after)) :
    docker.Resolved target after := by
  unfold resolveStable at resolved
  simp only [Option.bind_eq_bind, Option.bind_eq_some_iff, Option.guard_eq_some',
    Option.pure_def, Option.some.injEq, Prod.mk.injEq, exists_const] at resolved
  rcases resolved with
    ⟨locked, lockedRead, -, inspected, read, ⟨tagged, same⟩, rfl, rfl⟩
  rcases inspectImage_eq_some.mp lockedRead with ⟨stableId, lockedCore, stableRef, coreRead, rfl⟩
  rcases inspectImage_eq_some.mp read with ⟨imageId, core, versionRef, versionRead, rfl⟩
  simp only [withTags_version, withTags_allTags] at tagged read versionRef versionRead same ⊢
  have lockedReads := reads_of_inspectCore coreRead
  have reads := reads_of_inspectCore versionRead
  have sameCore := sameImageCore_of_sameLockedImage same
  have sameVersion : lockedCore.identity.version = core.identity.version :=
    version_of_sameImageCore sameCore
  have sameId : stableId = imageId := by
    rw [← lockedReads.identified, ← reads.identified]
    exact imageId_of_sameImageCore sameCore
  have versionNe := versionTag_ne_stableTag lockedCore.identity.versionValid
  obtain ⟨stableNamed, stableKept, stableTags⟩ := pullTag_spec docker registry stableTag
  obtain ⟨named, kept, tags⟩ := pullTag_spec (docker.pullTag registry stableTag) registry
    (versionTag lockedCore.identity.version)
  obtain rfl : stableNamed = stableId := by
    simpa [imageOf, stableTags] using stableRef
  obtain rfl : named = imageId := by
    simpa [imageOf, tags] using versionRef
  subst sameId
  rw [withTags_identity (by rw [← sameVersion]; exact tagged)]
  refine ⟨?_, ?_, ?_, ?_, ?_⟩
  · rw [reads.identified]
    exact stableKept.trans kept
  · intro name notStable notVersion
    rw [tags, AList.lookup_insert_ne (by rw [sameVersion]; exact notVersion), stableTags,
      AList.lookup_insert_ne notStable]
  · rw [tags, AList.lookup_insert_ne versionNe.symm, stableTags, AList.lookup_insert,
      reads.identified]
  · rw [tags, sameVersion, AList.lookup_insert, reads.identified]
  · rw [reads.identified]
    exact ⟨core, versionRead, rfl⟩

/-- A stable image that can be inspected is found under its version tag too. -/
theorem resolveStable_of_fetch {release : Release} {middle : Docker}
    (fetched : docker.fetch release = (imageId, middle))
    (read : middle.inspectCore imageId none = some core)
    (stable : registry.byTag stableTag = release)
    (versioned : registry.byTag (versionTag core.identity.version) = release) :
    docker.resolveStable registry =
      some ({ core.identity with tags := [versionTag core.identity.version] }, { middle with
        tags := (middle.tags.insert stableTag imageId).insert (versionTag core.identity.version)
          imageId }) := by
  have known : middle.digests.lookup release.digest = some imageId := by
    have kept : (docker.fetch release).2.digests.lookup release.digest =
        some (docker.fetch release).1 := fetch_release release
    rwa [fetched] at kept
  let first : Docker := { middle with tags := middle.tags.insert stableTag imageId }
  let second : Docker := { first with
    tags := first.tags.insert (versionTag core.identity.version) imageId }
  have withStable : docker.pullTag registry stableTag = first := by
    unfold pullTag
    rw [stable, fetched]
  have withVersion : first.pullTag registry (versionTag core.identity.version) = second := by
    have knownStill : first.digests.lookup release.digest = some imageId := known
    unfold pullTag
    rw [versioned, fetch_of_known knownStill]
  have stableRead : first.inspectImage (.tag stableTag) =
      some (core.withTags (first.allTags imageId)) :=
    inspectImage_eq_some.mpr ⟨imageId, core, AList.lookup_insert _, read, rfl⟩
  have versionRead : second.inspectImage (.tag (versionTag core.identity.version)) =
      some (core.withTags (second.allTags imageId)) :=
    inspectImage_eq_some.mpr ⟨imageId, core, AList.lookup_insert _, read, rfl⟩
  have stableListed : stableTag ∈ first.allTags imageId := mem_allTags.mpr (AList.lookup_insert _)
  have versionListed : versionTag core.identity.version ∈ second.allTags imageId :=
    mem_allTags.mpr (AList.lookup_insert _)
  have same : sameLockedImage (core.withTags (first.allTags imageId))
      (core.withTags (second.allTags imageId)) = true := by
    have sameCore : sameImageCore (core.withTags (first.allTags imageId)).identity
        (core.withTags (second.allTags imageId)).identity = true :=
      sameImageCore_refl core.identity
    unfold sameLockedImage
    rw [sameCore]
    simp [InspectedImage.withTags]
  unfold resolveStable
  simp only [withStable, stableRead, withTags_version, withTags_allTags, withVersion, versionRead,
    stableListed, versionListed, same, guard, if_true, and_self, Option.bind_eq_bind,
    Option.bind_some, Option.pure_def, withTags_identity versionListed]
  rfl

end Docker

/-- An image as an identity describes it, with its version tag. -/
structure Present (docker : Docker) (identity : ImageIdentity) : Prop where
  tag : docker.tags.lookup (versionTag identity.version) = some identity.imageId
  read : ∃ core, docker.inspectCore identity.imageId none = some core ∧
    { core.identity with tags := [versionTag core.identity.version] } = identity

namespace Present

variable {docker after : Docker} {identity current target : ImageIdentity} {reference : Reference}

theorem inspects (present : Present docker identity)
    (refers : docker.imageOf reference = some identity.imageId) :
    ∃ inspected, docker.inspectImage reference = some inspected ∧ inspected.identity = identity ∧
      inspected.allTags = docker.allTags identity.imageId ∧ inspected.osName = "linux" ∧
      inspected.architecture = docker.architecture := by
  rcases present.read with ⟨core, read, described⟩
  have reads := Docker.reads_of_inspectCore read
  have sameVersion : core.identity.version = identity.version := by rw [← described]
  refine ⟨core.withTags (docker.allTags identity.imageId),
    Docker.inspectImage_eq_some.mpr ⟨_, core, refers, read, rfl⟩, ?_, rfl, reads.osName,
    reads.architecture⟩
  rw [Docker.withTags_identity, described]
  rw [Docker.mem_allTags, sameVersion]
  exact present.tag

theorem isPresent (present : Present docker identity) : identity.imageId ∈ docker.images := by
  rcases present.read with ⟨core, read, -⟩
  rcases (Docker.reads_of_inspectCore read).labels with ⟨labels, found, -⟩
  exact AList.lookup_isSome.mp (by simp [found])

theorem isOriginal (present : Present docker identity) :
    isOriginal identity true = true ∧ isRecordedTarget identity = true := by
  rcases present.read with ⟨core, read, described⟩
  have reads := Docker.reads_of_inspectCore read
  have repository : identity.repository = webRepository := by rw [← described, reads.repository]
  have digest : isDigest identity.digest = true := by
    rw [← described]
    exact Docker.digestOf_valid reads.digest
  have tags : identity.tags = [versionTag identity.version] := by rw [← described]
  have rollbackAlias : identity.rollbackAlias = "" := by rw [← described, reads.rollbackAlias]
  simp [DockerPlatform.isOriginal, isRecordedTarget, identity.versionValid, repository, digest,
    reads.idValid, tags, rollbackAlias]

/-- An inspection of a web container that has the image. -/
theorem inspectWebImage (present : Present docker identity)
    (web : docker.web.imageId = identity.imageId)
    (recognised : isWebImageReference docker.web.configImage = true) :
    ∃ inspected, docker.inspectWebImage = some inspected ∧ inspected.identity = identity ∧
      inspected.osName = "linux" ∧ inspected.architecture = docker.architecture := by
  have refers : docker.imageOf (.id docker.web.imageId) = some identity.imageId := by
    rw [web]
    exact Docker.imageOf_id present.isPresent
  rcases present.inspects refers with ⟨inspected, read, described, -, osName, architecture⟩
  rcases present.read with ⟨core, coreRead, -⟩
  have idValid : isDigest docker.web.imageId = true := by
    rw [web]
    exact (Docker.reads_of_inspectCore coreRead).idValid
  refine ⟨inspected, ?_, described, osName, architecture⟩
  unfold Docker.inspectWebImage
  rw [if_pos ⟨idValid, recognised⟩, read]

theorem digest (present : Present docker identity) :
    docker.repositoryDigests identity.imageId = [identity.digest] ∧
      docker.digests.lookup identity.digest = some identity.imageId := by
  rcases present.read with ⟨core, read, described⟩
  have only := Docker.digestOf_eq_some (Docker.reads_of_inspectCore read).digest
  have sameDigest : core.identity.digest = identity.digest := by rw [← described]
  rw [sameDigest] at only
  refine ⟨only, ?_⟩
  rw [← Names.mem_namesOf]
  change identity.digest ∈ docker.repositoryDigests identity.imageId
  simp [only]

/-- The inspections of the cleanup, which go on without the digest that went with the version
tag. -/
theorem inspectsId {other : Docker} (present : Present docker identity)
    (images : other.images.lookup identity.imageId = docker.images.lookup identity.imageId)
    (digests : other.repositoryDigests identity.imageId = [identity.digest] ∨
      other.repositoryDigests identity.imageId = [])
    (architecture : other.architecture = docker.architecture) :
    ∃ inspected, other.inspectImage (.id identity.imageId) (some identity.digest) =
        some inspected ∧ sameImageCore inspected.identity identity = true ∧
      inspected.allTags = other.allTags identity.imageId := by
  rcases present.read with ⟨core, read, described⟩
  have reads := Docker.reads_of_inspectCore read
  have valid : isDigest identity.digest = true := by
    rw [← described]
    exact Docker.digestOf_valid reads.digest
  have refers : other.imageOf (.id identity.imageId) = some identity.imageId := by
    apply Docker.imageOf_id
    rw [← AList.lookup_isSome, images, AList.lookup_isSome]
    exact present.isPresent
  have coreRead : other.inspectCore identity.imageId (some identity.digest) = some core := by
    rw [← read]
    apply Docker.inspectCore_congr images ?_ architecture
    rw [present.digest.1]
    rcases digests with kept | lost
    · simp [kept, Docker.digestOf]
    · simp [lost, Docker.digestOf, valid]
  refine ⟨core.withTags (other.allTags identity.imageId),
    Docker.inspectImage_eq_some.mpr ⟨_, core, refers, coreRead, rfl⟩, ?_, rfl⟩
  rw [← described]
  exact sameImageCore_refl core.identity

/-- A new alias takes no version tag away. -/
theorem tagImage (present : Present docker identity) (imageId taskId : String) :
    Present (docker.tagImage imageId (aliasOf taskId)) identity := by
  refine ⟨?_, present.read⟩
  change (docker.tags.insert _ _).lookup _ = _
  rw [AList.lookup_insert_ne (aliasOf_ne_versionTag _ _).symm]
  exact present.tag

end Present

end Finrec.Updater
