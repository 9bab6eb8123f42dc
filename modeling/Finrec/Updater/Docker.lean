import Finrec.Lib.Names
import Finrec.Updater.References
import Mathlib.Data.Option.Basic

/-!
# Docker

Docker keeps images, and references to them: tags and digests.  An inspection of
an image lists every reference to it.  The platform calls are modelled here as
runs of Docker and compose commands that all succeed, so a call is refused by
nothing but its own checks.
-/

namespace Finrec.Updater

open DockerPlatform

/-- What the labels of an image say.  `publishedAt` is the instant that `created` names. -/
structure ImageLabels where
  version : String
  revision : String
  created : String
  publishedAt : Option ℤ
deriving DecidableEq

/-- What a registry serves under a reference. -/
structure Release where
  digest : String
  imageId : String
  labels : ImageLabels

/-- The registry by the names of its tags, and by the digests of its web repository. -/
structure Registry where
  byTag : String → Release
  byDigest : String → Release

structure Container where
  imageId : String
  configImage : String
deriving DecidableEq

inductive Reference where
  | tag (name : String)
  | digest (value : String)
  | id (imageId : String)
deriving DecidableEq

/-- The digests are those of the web repository.  All images are of the architecture of the
host, and only the web container was made from one of them. -/
structure Docker where
  tags : Names String String := ∅
  digests : Names String String := ∅
  images : Names String ImageLabels := ∅
  architecture : String
  web : Container

structure InspectedImage where
  identity : ImageIdentity
  revision : String
  created : String
  osName : String
  architecture : String
  allTags : List String

deriving instance DecidableEq for ImageIdentity, InspectedImage

/-- The tags of an identity: the version tag, if the image has it. -/
def InspectedImage.withTags (inspected : InspectedImage) (allTags : List String) : InspectedImage :=
  { inspected with
    identity := { inspected.identity with
      tags := if versionTag inspected.identity.version ∈ allTags then
        [versionTag inspected.identity.version] else [] }
    allTags := allTags }

/-- `^[0-9a-f]{7,64}$`. -/
def isRevision (value : String) : Bool :=
  7 ≤ value.length && value.length ≤ 64 && value.toList.all Patterns.isHex

def stableTag : String := webRepository ++ ":stable"

def sameImageCore (actual expected : ImageIdentity) : Bool :=
  actual.repository = expected.repository && actual.version = expected.version &&
    actual.digest = expected.digest && actual.imageId = expected.imageId &&
    actual.publishedAt = expected.publishedAt

def sameIdentity (actual expected : ImageIdentity) : Bool :=
  sameImageCore actual expected && actual.tags = expected.tags

def sameLockedImage (actual expected : InspectedImage) : Bool :=
  sameImageCore actual.identity expected.identity && actual.revision = expected.revision &&
    actual.created = expected.created && actual.osName = expected.osName &&
    actual.architecture = expected.architecture

namespace Docker

/-- `docker image ls`, and what an inspection resolves its argument to. -/
def imageOf (docker : Docker) : Reference → Option String
  | .tag name => docker.tags.lookup name
  | .digest value => docker.digests.lookup value
  | .id imageId => if imageId ∈ docker.images then some imageId else none

def allTags (docker : Docker) (imageId : String) : List String := docker.tags.namesOf imageId

def repositoryDigests (docker : Docker) (imageId : String) : List String :=
  docker.digests.namesOf imageId

/-- The layers of a digest that is there already are not fetched again. -/
def fetch (docker : Docker) (release : Release) : String × Docker :=
  match docker.digests.lookup release.digest with
  | some imageId => (imageId, docker)
  | none => (release.imageId, { docker with
      digests := docker.digests.insert release.digest release.imageId
      images :=
        if release.imageId ∈ docker.images then docker.images
        else docker.images.insert release.imageId release.labels })

/-- `docker pull` of a tag. -/
def pullTag (docker : Docker) (registry : Registry) (name : String) : Docker :=
  let fetched := docker.fetch (registry.byTag name)
  { fetched.2 with tags := fetched.2.tags.insert name fetched.1 }

/-- `docker pull` of a digest. -/
def pullDigest (docker : Docker) (registry : Registry) (value : String) : Docker :=
  (docker.fetch { registry.byDigest value with digest := value }).2

/-- `docker image tag`. -/
def tagImage (docker : Docker) (imageId name : String) : Docker :=
  { docker with tags := docker.tags.insert name imageId }

/-- `docker compose up` with the image that an override file names. -/
def up (docker : Docker) (reference : Reference) (configImage : String) : Option Docker := do
  let imageId ← docker.imageOf reference
  return { docker with web := { imageId := imageId, configImage := configImage } }

/-- An image without references goes away. -/
def prune (docker : Docker) (imageId : String) : Docker :=
  if docker.allTags imageId = [] ∧ docker.repositoryDigests imageId = [] then
    { docker with images := docker.images.erase imageId }
  else docker

/-- The repository of a tag is the web repository. -/
def isWebTag (name : String) : Bool := (webRepository ++ ":").toList.isPrefixOf name.toList

/-- `docker image rm` of a tag.  With its last tag in a repository an image loses its digests
there. -/
def removeTag (docker : Docker) (name imageId : String) : Docker :=
  let untagged := { docker with tags := docker.tags.erase name }
  let released :=
    if isWebTag name && !(untagged.allTags imageId).any isWebTag then
      { untagged with digests := untagged.digests.without imageId }
    else untagged
  released.prune imageId

/-- `docker image rm` of an image that has no tags. -/
def removeImage (docker : Docker) (imageId : String) : Docker :=
  { docker with
    digests := docker.digests.without imageId
    images := docker.images.erase imageId }

/-- The digest of an image: its only one, or the expected one where it has none. -/
def digestOf (digests : List String) (expected : Option String) : Option String :=
  match digests with
  | [digest] => if isDigest digest then some digest else none
  | [] => expected.filter fun digest => isDigest digest
  | _ => none

/-- What an inspection reads of an image apart from its tags. -/
def inspectCore (docker : Docker) (imageId : String) (expected : Option String) :
    Option InspectedImage := do
  let labels ← docker.images.lookup imageId
  let digest ← digestOf (docker.repositoryDigests imageId) expected
  let publishedAt ← labels.publishedAt
  if valid : validateVersion labels.version = true ∧ isDigest imageId = true ∧
      isRevision labels.revision = true ∧ docker.architecture ≠ "" then
    return {
      identity := {
        repository := webRepository, version := labels.version, digest := digest,
        imageId := imageId, publishedAt := some publishedAt, versionValid := valid.1 }
      revision := labels.revision
      created := labels.created
      osName := "linux"
      architecture := docker.architecture
      allTags := [] }
  else none

def inspectImage (docker : Docker) (reference : Reference) (expected : Option String := none) :
    Option InspectedImage := do
  let imageId ← docker.imageOf reference
  let inspected ← docker.inspectCore imageId expected
  return inspected.withTags (docker.allTags imageId)

def inspectWebImage (docker : Docker) : Option InspectedImage :=
  if isDigest docker.web.imageId ∧ isWebImageReference docker.web.configImage then
    docker.inspectImage (.id docker.web.imageId)
  else none

def inspectWeb (docker : Docker) : Option ImageIdentity := docker.inspectWebImage.map (·.identity)

def resolveStable (docker : Docker) (registry : Registry) : Option (ImageIdentity × Docker) := do
  let withStable := docker.pullTag registry stableTag
  let lockedStable ← withStable.inspectImage (.tag stableTag)
  guard (stableTag ∈ lockedStable.allTags)
  let immutable := versionTag lockedStable.identity.version
  let withImmutable := withStable.pullTag registry immutable
  let inspectedImmutable ← withImmutable.inspectImage (.tag immutable)
  guard (immutable ∈ inspectedImmutable.allTags ∧
    sameLockedImage lockedStable inspectedImmutable = true)
  return (inspectedImmutable.identity, withImmutable)

@[irreducible]
def verifyTarget (docker : Docker) (registry : Registry) (target : ImageIdentity) :
    Option Docker := do
  guard (isRecordedTarget target = true)
  let pulled := docker.pullDigest registry target.digest
  let inspectedTarget ← pulled.inspectImage (.digest target.digest)
  let inspectedCurrent ← pulled.inspectWebImage
  guard (sameIdentity inspectedTarget.identity target = true ∧
    inspectedTarget.osName = inspectedCurrent.osName ∧
    inspectedTarget.architecture = inspectedCurrent.architecture)
  return pulled

@[irreducible]
def tagRollback (docker : Docker) (task : UpdateTask) : Option (UpdateTask × Docker) := do
  guard (admitsTag task = true)
  let actual ← docker.inspectWeb
  guard (sameIdentity actual task.original = true)
  let withAlias := docker.tagImage task.original.imageId (aliasOf task.id)
  let inspected ← withAlias.inspectImage (.tag (aliasOf task.id))
  guard (aliasOf task.id ∈ inspected.allTags ∧
    sameIdentity inspected.identity task.original = true)
  return (tagged task, withAlias)

/-- The migration needs an override file for the target. -/
@[irreducible]
def migrateTarget (target : ImageIdentity) : Option Unit := guard (isRecordedTarget target = true)

@[irreducible]
def startTarget (docker : Docker) (target : ImageIdentity) : Option Docker := do
  guard (isRecordedTarget target = true)
  docker.up (.digest target.digest) (webRepository ++ "@" ++ target.digest)

def startRollback (docker : Docker) (task : UpdateTask) : Option Docker := do
  guard (admitsRollback task = true)
  let inspected ← docker.inspectImage (.tag (aliasOf task.id))
  guard (aliasOf task.id ∈ inspected.allTags ∧
    sameIdentity inspected.identity task.original = true)
  docker.up (.tag (aliasOf task.id)) (aliasOf task.id)

/-- The part of the health check that asks Docker. -/
@[irreducible]
def health (docker : Docker) (expected : ImageIdentity) : Option Unit := do
  let actual ← docker.inspectWeb
  guard (sameIdentity actual expected = true)

/-- The image that a reference is listed with; `none` where the listing is refused. -/
def referenceImageId (docker : Docker) (reference : Reference) : Option (Option String) :=
  match docker.imageOf reference with
  | none => some none
  | some imageId => if isDigest imageId then some (some imageId) else none

/-- Only the web container can refer to an image of the web repository. -/
def hasContainerReference (docker : Docker) (imageId : String) : Bool :=
  docker.web.imageId = imageId

def removeCleanupReference (docker : Docker) (reference expectedImageId : String)
    (inspectedTags : List String) : Option Docker := do
  match ← docker.referenceImageId (.tag reference) with
  | none => if reference ∈ inspectedTags then none else return docker
  | some referencedId =>
      guard (referencedId = expectedImageId)
      let removed := docker.removeTag reference expectedImageId
      guard (removed.referenceImageId (.tag reference) = some none)
      return removed

def cleanupReferencesAbsent (docker : Docker) (task : UpdateTask) : Bool :=
  (task.original.tags ++ [task.original.rollbackAlias]).all fun reference =>
    docker.referenceImageId (.tag reference) = some none

def cleanupImageId (docker : Docker) (task : UpdateTask) : Option Docker := do
  match ← docker.referenceImageId (.id task.original.imageId) with
  | none =>
      guard (docker.hasContainerReference task.original.imageId = false ∧
        docker.cleanupReferencesAbsent task = true)
      return docker
  | some imageId =>
      guard (imageId = task.original.imageId)
      let inspected ← docker.inspectImage (.id task.original.imageId)
      guard (sameImageCore inspected.identity task.original = true ∧ inspected.allTags = [])
      guard (docker.hasContainerReference task.original.imageId = false ∧
        docker.cleanupReferencesAbsent task = true)
      let removed := docker.removeImage task.original.imageId
      guard (removed.referenceImageId (.id task.original.imageId) = some none)
      return removed

/-- The version tag first, while the alias still holds the image; then the alias. -/
def cleanupTag (docker : Docker) (task : UpdateTask) (step : CleanupStep) : Option Docker := do
  let inspected ← docker.inspectImage (.id task.original.imageId) (some task.original.digest)
  guard (sameImageCore inspected.identity task.original = true)
  guard (inspected.allTags.all (· ∈ task.original.tags ++ [task.original.rollbackAlias]) = true)
  guard (docker.hasContainerReference task.original.imageId = false)
  let version ← task.original.tags.head?
  if step = .versionTag then do
    guard (task.original.rollbackAlias ∈ inspected.allTags)
    guard (docker.referenceImageId (.tag task.original.rollbackAlias) =
      some (some task.original.imageId))
    docker.removeCleanupReference version task.original.imageId inspected.allTags
  else do
    guard (version ∉ inspected.allTags)
    guard (docker.referenceImageId (.tag version) = some none)
    docker.removeCleanupReference task.original.rollbackAlias task.original.imageId
      inspected.allTags

@[irreducible]
def cleanupOriginalStep (docker : Docker) (environmentTag : String) (task : UpdateTask)
    (step : CleanupStep) : Option Docker := do
  guard (validateCleanupTask task = true)
  guard (environmentTag = task.target.version)
  guard (task.cleanupJournal.map (·.status step) = some .started)
  if step = .imageId then docker.cleanupImageId task else docker.cleanupTag task step

end Docker

end Finrec.Updater
