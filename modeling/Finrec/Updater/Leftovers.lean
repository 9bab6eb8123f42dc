import Finrec.Updater.Inspections
import Finrec.Updater.Requests
import Mathlib.Logic.Relation

/-!
# Leftovers of failed updates

A failed task leaves its alias on the image that it tagged.  The next task finds
this alias when it cleans up after itself, and takes it for a reference that is
not its own.
-/

namespace Finrec.Updater

open DockerPlatform Relation

namespace Docker

/-- The check of a newer version; the repositories are the same by construction. -/
def offers (current target : ImageIdentity) : Bool :=
  match versionKey target.version, versionKey current.version with
  | some targetKey, some currentKey => isNewer targetKey currentKey
  | _, _ => false

/-- A check that offers an update, and the start of the update: the original and the target of
the task, and Docker after the pulls. -/
def admitUpdate (docker : Docker) (registry atStart : Registry) :
    Option ((ImageIdentity × ImageIdentity) × Docker) := do
  let current ← docker.inspectWeb
  let (target, pulled) ← docker.resolveStable registry
  guard (offers current target = true)
  let (resolved, after) ← pulled.resolveStable atStart
  guard (resolved.version = target.version ∧ resolved.digest = target.digest)
  return ((current, target), after)

end Docker

/-- What one command of a task before its cleanup changes.  The commands of an execution and of
the restarts after it may fail at any place, and may have taken effect all the same. -/
inductive Touches (task : UpdateTask) : Docker → Docker → Prop where
  | verifies {docker} (registry : Registry) :
      Touches task docker (docker.pullDigest registry task.target.digest)
  | tags {docker} (runtime : docker.web.imageId = task.original.imageId) :
      Touches task docker (docker.tagImage task.original.imageId (aliasOf task.id))
  | startsTarget {docker after} (started : docker.startTarget task.target = some after) :
      Touches task docker after
  | startsRollback {docker after} (started : docker.startRollback (tagged task) = some after) :
      Touches task docker after

/-- A task that was started and failed: the web container has its old image in the end. -/
structure Fails (docker : Docker) (task : UpdateTask) (after : Docker) : Prop where
  admitted : ∃ registry atStart started,
    docker.admitUpdate registry atStart = some ((task.original, task.target), started) ∧
      ReflTransGen (Touches task) started after
  web : after.web.imageId = docker.web.imageId

/-- Any number of tasks that failed, one after another; the last one comes first. -/
inductive Failures (docker : Docker) : List UpdateTask → Docker → Prop where
  | none : Failures docker [] docker
  | another {tasks middle task after} (earlier : Failures docker tasks middle)
      (fails : Fails middle task after) : Failures docker (task :: tasks) after

/-- The image of the web container has its version tag, and no tags but `stable`, its version tag
and the aliases of these tasks. -/
structure Stained (docker : Docker) (imageId version : String) (taskIds : List String) : Prop where
  labelled : ∃ labels, docker.images.lookup imageId = some labels ∧ labels.version = version
  valid : validateVersion version = true
  versioned : docker.tags.lookup (versionTag version) = some imageId
  tags : ∀ name, docker.tags.lookup name = some imageId →
    name = stableTag ∨ name = versionTag version ∨ ∃ taskId ∈ taskIds, name = aliasOf taskId

/-- As an installation or a completed update leaves Docker. -/
def Tidy (docker : Docker) : Prop := ∃ version, Stained docker docker.web.imageId version []

theorem isNewer_irrefl (key : ℕ × ℕ × ℕ) : isNewer key key = false := by
  simp [isNewer]

section Admission

variable {docker after : Docker} {registry atStart : Registry} {current target : ImageIdentity}

theorem version_ne_of_offers (offers : Docker.offers current target = true) :
    current.version ≠ target.version := by
  intro same
  unfold Docker.offers at offers
  rw [same] at offers
  split at offers
  · rename_i targetKey currentKey first second
    obtain rfl : targetKey = currentKey := Option.some.inj (first.symm.trans second)
    simp [isNewer_irrefl] at offers
  · simp at offers

theorem lookup_of_resolved (resolved : docker.Resolved target after) :
    after.digests.lookup target.digest = some target.imageId ∧
      ∃ labels, after.images.lookup target.imageId = some labels ∧
        labels.version = target.version := by
  rcases resolved.read with ⟨core, read, identity⟩
  have reads := Docker.reads_of_inspectCore read
  have sameDigest : core.identity.digest = target.digest := by rw [← identity]
  have sameVersion : core.identity.version = target.version := by rw [← identity]
  refine ⟨?_, ?_⟩
  · have only := Docker.digestOf_eq_some reads.digest
    rw [← Names.mem_namesOf]
    change target.digest ∈ after.repositoryDigests target.imageId
    simp [only, sameDigest]
  · rcases reads.labels with ⟨labels, found, version⟩
    exact ⟨labels, found, version.symm.trans sameVersion⟩

/-- The start finds the target of the check again. -/
theorem Docker.Resolved.again {middle : Docker} {again : ImageIdentity}
    (first : docker.Resolved target middle) (second : middle.Resolved again after)
    (sameVersion : again.version = target.version) (sameDigest : again.digest = target.digest) :
    docker.Resolved target after := by
  have known := second.others.known _ _ (lookup_of_resolved first).1
  have sameId : again.imageId = target.imageId := by
    rw [← sameDigest, (lookup_of_resolved second).1] at known
    exact Option.some.inj known
  rcases first.read with ⟨core, read, identity⟩
  rcases second.read with ⟨later, laterRead, laterIdentity⟩
  rcases (lookup_of_resolved first).2 with ⟨labels, found, -⟩
  have digest := (Docker.reads_of_inspectCore read).digest
  have laterDigest := (Docker.reads_of_inspectCore laterRead).digest
  have digestRead : core.identity.digest = target.digest := by rw [← identity]
  have laterDigestRead : later.identity.digest = again.digest := by rw [← laterIdentity]
  rw [digestRead] at digest
  rw [laterDigestRead, sameDigest, sameId] at laterDigest
  refine ⟨first.others.trans (sameId ▸ second.others), ?_, ?_, ?_, ?_⟩
  · intro name notStable notVersion
    rw [second.tags name notStable (by rw [sameVersion]; exact notVersion)]
    exact first.tags name notStable notVersion
  · rw [second.stable, sameId]
  · rw [← sameVersion, second.version, sameId]
  · refine ⟨core, ?_, identity⟩
    rw [← read]
    apply Docker.inspectCore_congr
    · rw [found, second.others.images _ _ found]
    · rw [laterDigest, digest]
    · exact second.others.architecture

/-- What an admission says: the target is another image with another version. -/
structure Admitted (docker : Docker) (current target : ImageIdentity) (after : Docker) : Prop where
  resolved : docker.Resolved target after
  inspected : docker.inspectWeb = some current
  newer : current.version ≠ target.version
  another : target.imageId ≠ docker.web.imageId

theorem inspectWeb_eq_some (inspected : docker.inspectWeb = some current) :
    isDigest docker.web.imageId = true ∧ isWebImageReference docker.web.configImage = true ∧
      ∃ core, docker.inspectCore docker.web.imageId none = some core ∧
        (core.withTags (docker.allTags docker.web.imageId)).identity = current := by
  unfold Docker.inspectWeb Docker.inspectWebImage at inspected
  rcases Option.map_eq_some_iff.mp inspected with ⟨image, read, rfl⟩
  split at read
  · rename_i recognised
    rcases Docker.inspectImage_eq_some.mp read with ⟨imageId, core, reference, coreRead, rfl⟩
    obtain rfl : docker.web.imageId = imageId := by
      simp only [Docker.imageOf, ite_eq_iff, Option.some.injEq, reduceCtorEq, and_false,
        or_false] at reference
      exact reference.2
    exact ⟨recognised.1, recognised.2, core, coreRead, rfl⟩
  · simp at read

theorem admitted_of_admitUpdate
    (admits : docker.admitUpdate registry atStart = some ((current, target), after)) :
    Admitted docker current target after := by
  unfold Docker.admitUpdate at admits
  simp only [Option.bind_eq_bind, Option.bind_eq_some_iff, Option.guard_eq_some',
    Option.pure_def, Option.some.injEq, Prod.mk.injEq, exists_const, Prod.exists] at admits
  rcases admits with ⟨inspected, inspectedRead, checked, pulled, resolves, offered, again, left,
    resolvesAgain, ⟨sameVersion, sameDigest⟩, ⟨rfl, rfl⟩, rfl⟩
  have first := Docker.resolved_of_resolveStable resolves
  have second := Docker.resolved_of_resolveStable resolvesAgain
  have newer := version_ne_of_offers offered
  have resolved := first.again second sameVersion sameDigest
  refine ⟨resolved, inspectedRead, newer, ?_⟩
  -- one image has one version
  intro same
  rcases inspectWeb_eq_some inspectedRead with ⟨-, -, core, read, identity⟩
  have reads := Docker.reads_of_inspectCore read
  rcases reads.labels with ⟨labels, found, version⟩
  rcases (lookup_of_resolved resolved).2 with ⟨targetLabels, targetFound, targetVersion⟩
  rw [same, resolved.others.images _ _ found] at targetFound
  obtain rfl : labels = targetLabels := Option.some.inj targetFound
  apply newer
  rw [← targetVersion, ← version, ← identity]
  rfl

/-- The registry that serves one release under every tag. -/
def Registry.always (release : Release) : Registry := ⟨fun _ => release, fun _ => release⟩

/-- A newer release that can be inspected is offered and admitted. -/
theorem admitUpdate_of_fetch {release : Release} {imageId : String} {middle : Docker}
    {core : InspectedImage} (inspected : docker.inspectWeb = some current)
    (fetched : docker.fetch release = (imageId, middle))
    (read : middle.inspectCore imageId none = some core)
    (described : { core.identity with tags := [versionTag core.identity.version] } = target)
    (offered : Docker.offers current target = true) :
    ∃ after, docker.admitUpdate (.always release) (.always release) =
      some ((current, target), after) := by
  have known : middle.digests.lookup release.digest = some imageId := by
    have kept : (docker.fetch release).2.digests.lookup release.digest =
        some (docker.fetch release).1 := Docker.fetch_release release
    rwa [fetched] at kept
  let pulled : Docker := { middle with
    tags := (middle.tags.insert stableTag imageId).insert (versionTag core.identity.version)
      imageId }
  let after : Docker := { pulled with
    tags := (pulled.tags.insert stableTag imageId).insert (versionTag core.identity.version)
      imageId }
  have resolves : docker.resolveStable (.always release) = some (target, pulled) := by
    rw [← described]
    exact Docker.resolveStable_of_fetch fetched read rfl rfl
  have knownStill : pulled.digests.lookup release.digest = some imageId := known
  have again : pulled.resolveStable (.always release) = some (target, after) := by
    rw [← described]
    exact Docker.resolveStable_of_fetch (Docker.fetch_of_known knownStill) read rfl rfl
  refine ⟨after, ?_⟩
  unfold Docker.admitUpdate
  simp only [inspected, resolves, offered, guard, if_true, again, and_self, Option.bind_eq_bind,
    Option.bind_some, Option.pure_def]

/-- While Docker keeps both images, the release that a task was started for is offered again. -/
theorem admits_again {release : Release} (original : Present docker current)
    (present : Present docker target) (web : docker.web.imageId = current.imageId)
    (recognised : isWebImageReference docker.web.configImage = true)
    (serves : release.digest = target.digest) (offered : Docker.offers current target = true) :
    ∃ after, docker.admitUpdate (.always release) (.always release) =
      some ((current, target), after) := by
  rcases original.inspectWebImage web recognised with ⟨inspected, read, identity, -, -⟩
  rcases present.read with ⟨core, coreRead, described⟩
  have known : docker.digests.lookup release.digest = some target.imageId := by
    rw [serves]
    exact present.digest.2
  refine admitUpdate_of_fetch ?_ (Docker.fetch_of_known known) coreRead described offered
  rw [Docker.inspectWeb, read, Option.map_some, identity]

end Admission

section Stains

variable {docker after : Docker} {imageId version : String} {taskIds : List String}
  {current target : ImageIdentity} {task : UpdateTask}

theorem Stained.weaken {more : List String} (stained : Stained docker imageId version taskIds)
    (includes : ∀ taskId ∈ taskIds, taskId ∈ more) : Stained docker imageId version more where
  labelled := stained.labelled
  valid := stained.valid
  versioned := stained.versioned
  tags := by
    intro name names
    rcases stained.tags name names with stable | versioned | ⟨taskId, member, known⟩
    · exact .inl stable
    · exact .inr (.inl versioned)
    · exact .inr (.inr ⟨taskId, includes taskId member, known⟩)

/-- The version of an identity that an inspection read is the one of the label. -/
theorem Stained.version_eq (stained : Stained docker docker.web.imageId version taskIds)
    (inspected : docker.inspectWeb = some current) :
    current.version = version ∧ current.imageId = docker.web.imageId := by
  rcases inspectWeb_eq_some inspected with ⟨-, -, core, read, rfl⟩
  have reads := Docker.reads_of_inspectCore read
  rcases reads.labels with ⟨labels, found, label⟩
  rcases stained.labelled with ⟨known, foundKnown, labelled⟩
  obtain rfl : labels = known := Option.some.inj (found.symm.trans foundKnown)
  exact ⟨label.trans labelled, reads.identified⟩

theorem Stained.resolved (stained : Stained docker imageId version taskIds)
    (resolved : docker.Resolved target after) (newer : version ≠ target.version)
    (another : target.imageId ≠ imageId) : Stained after imageId version taskIds where
  labelled := by
    rcases stained.labelled with ⟨labels, found, labelled⟩
    exact ⟨labels, resolved.others.images _ _ found, labelled⟩
  valid := stained.valid
  versioned := by
    rw [resolved.tags _ (versionTag_ne_stableTag stained.valid)
      fun same => newer (versionTag_injective same)]
    exact stained.versioned
  tags := by
    intro name names
    by_cases stable : name = stableTag
    · exact .inl stable
    by_cases isTarget : name = versionTag target.version
    · rw [isTarget, resolved.version] at names
      exact absurd (Option.some.inj names) another
    · rw [resolved.tags name stable isTarget] at names
      exact stained.tags name names

theorem web_of_up {reference : Reference} {configImage : String}
    (up : docker.up reference configImage = some after) :
    ∃ web, after = { docker with web := web } := by
  unfold Docker.up at up
  simp only [Option.bind_eq_bind, Option.bind_eq_some_iff, Option.pure_def,
    Option.some.injEq] at up
  rcases up with ⟨imageId, -, rfl⟩
  exact ⟨_, rfl⟩

theorem web_of_startTarget (started : docker.startTarget target = some after) :
    ∃ web, after = { docker with web := web } := by
  unfold Docker.startTarget at started
  simp only [Option.bind_eq_bind, Option.bind_eq_some_iff] at started
  rcases started with ⟨-, -, up⟩
  exact web_of_up up

theorem web_of_startRollback (started : docker.startRollback task = some after) :
    ∃ web, after = { docker with web := web } := by
  unfold Docker.startRollback at started
  simp only [Option.bind_eq_bind, Option.bind_eq_some_iff] at started
  rcases started with ⟨-, -, inspected, -, -, -, up⟩
  exact web_of_up up

/-- The commands of a task put its own alias on the image, and nothing else. -/
theorem Stained.touched (stained : Stained docker imageId version taskIds)
    (mine : task.id ∈ taskIds)
    (touches : Touches task docker after) : Stained after imageId version taskIds := by
  cases touches with
  | verifies registry =>
      let release := { registry.byDigest task.target.digest with digest := task.target.digest }
      have kept : docker.KeepsOthers (docker.fetch release).2 (docker.fetch release).1 :=
        Docker.keepsOthers_fetch release
      refine ⟨?_, stained.valid, ?_, ?_⟩
      · rcases stained.labelled with ⟨labels, found, labelled⟩
        exact ⟨labels, kept.images _ _ found, labelled⟩
      · simpa [Docker.pullDigest] using stained.versioned
      · simpa [Docker.pullDigest] using stained.tags
  | tags runtime =>
      refine ⟨stained.labelled, stained.valid, ?_, ?_⟩
      · change (docker.tags.insert _ _).lookup _ = _
        rw [AList.lookup_insert_ne (aliasOf_ne_versionTag _ _).symm]
        exact stained.versioned
      · intro name names
        change (docker.tags.insert _ _).lookup _ = _ at names
        by_cases isAlias : name = aliasOf task.id
        · exact .inr (.inr ⟨task.id, mine, isAlias⟩)
        · rw [AList.lookup_insert_ne isAlias] at names
          exact stained.tags name names
  | startsTarget started =>
      rcases web_of_startTarget started with ⟨web, rfl⟩
      exact ⟨stained.labelled, stained.valid, stained.versioned, stained.tags⟩
  | startsRollback started =>
      rcases web_of_startRollback started with ⟨web, rfl⟩
      exact ⟨stained.labelled, stained.valid, stained.versioned, stained.tags⟩

/-- The tags that any number of failed tasks leave on the image of the web container. -/
theorem stained_of_failures {tasks : List UpdateTask} (tidy : Tidy docker)
    (failures : Failures docker tasks after) :
    ∃ version, Stained after after.web.imageId version (tasks.map (·.id)) := by
  induction failures with
  | none => exact tidy
  | @another tasks middle task after _ fails ih =>
      rcases ih with ⟨version, stained⟩
      rcases fails.admitted with ⟨registry, atStart, started, admits, touched⟩
      have admitted := admitted_of_admitUpdate admits
      have original := stained.version_eq admitted.inspected
      refine ⟨version, ?_⟩
      rw [fails.web, List.map_cons]
      have wider : Stained middle middle.web.imageId version (task.id :: tasks.map (·.id)) :=
        stained.weaken fun taskId member => List.mem_cons_of_mem _ member
      have atStart := wider.resolved admitted.resolved (original.1 ▸ admitted.newer)
        admitted.another
      clear fails
      induction touched with
      | refl => exact atStart
      | tail _ touches stainedBefore =>
          exact stainedBefore.touched List.mem_cons_self touches

end Stains

end Finrec.Updater
