import Finrec.Updater.Commands
import Finrec.Updater.Manager

/-!
# The identity of a target

A check resolves a target from what docker says of an image; the execution and
the recovery of an update look at the same image again and compare what they
find with the record.  The image keeps its id and its labels, and as long as it
keeps its version tag and its digest, every later look at it gives the record
back, whatever other tags it has gained.
-/

namespace Finrec.Updater

open CrashLogic DockerPlatform UpdateManager

namespace ImagePayload

/-- What an inspection says of an image that does not change with the references to it. -/
structure SameImage (first later : ImagePayload) : Prop where
  id : later.id = first.id
  version : later.version = first.version
  revision : later.revision = first.revision
  created : later.created = first.created
  os : later.os = first.os
  architecture : later.architecture = first.architecture

/-- The image still has its version tag, and the digest as its only one. -/
structure KeepsReferences (later : ImagePayload) (digest : String) : Prop where
  versionTag : versionTag later.version ∈ later.repoTags
  repoDigests : later.repoDigests = [digestPrefix ++ digest]

variable {readers : PlatformReaders} {payload later : ImagePayload} {expected : Option String}
  {inspected : InspectedImage}

theorem webDigests_single (digest : String) : webDigests [digestPrefix ++ digest] = [digest] := by
  have isPrefix : digestPrefix.toList.isPrefixOf (digestPrefix ++ digest).toList = true := by
    rw [List.isPrefixOf_iff_prefix, String.toList_append]
    exact List.prefix_append _ _
  have rest : (digestPrefix ++ digest).toList.drop digestPrefix.length = digest.toList := by
    rw [String.toList_append, ← String.length_toList, List.drop_left]
  simp only [webDigests, List.filter_cons, isPrefix, if_true, List.filter_nil, List.map_cons,
    List.map_nil, rest, String.ofList_toList]

theorem repositoryDigest_single {digest : String} (valid : isDigest digest = true) :
    repositoryDigest [digestPrefix ++ digest] expected = some digest := by
  simp only [repositoryDigest, webDigests_single, valid, if_true]

theorem isDigest_of_repositoryDigest {repoDigests : List String} {digest : String}
    (found : repositoryDigest repoDigests expected = some digest) : isDigest digest = true := by
  unfold repositoryDigest at found
  split at found
  · split_ifs at found with valid
    cases found
    exact valid
  · exact (Option.filter_eq_some_iff.mp found).2
  · cases found

/-- Every target that was looked at under its version tag is one that can be recorded. -/
theorem isRecordedTarget_of_inspected (found : payload.inspected readers expected = some inspected)
    (tagged : versionTag payload.version ∈ payload.repoTags) :
    isRecordedTarget inspected.identity = true := by
  obtain ⟨valid, versionValid, digest, publishedAt, ofDigest, -, rfl⟩ := inspected_eq_some.mp found
  simp [isRecordedTarget, image, versionValid, isDigest_of_repositoryDigest ofDigest, valid.id,
    tagged]

/-- The time of a record is one that can be written. -/
theorem exists_toDict_of_inspected (found : payload.inspected readers expected = some inspected) :
    ∃ json, inspected.identity.stored.toDict = some json := by
  obtain ⟨-, versionValid, digest, publishedAt, -, ofTime, rfl⟩ := inspected_eq_some.mp found
  simp only [datetimeFromDict, Option.bind_eq_bind, Option.bind_eq_some_iff] at ofTime
  obtain ⟨_, _, moment, _, read⟩ := ofTime
  split_ifs at read with noOffset
  have written : utcMoment? publishedAt = some moment :=
    utcMoment?_eq_some.mpr ⟨noOffset, Option.some.inj read⟩
  simp [Records.ImageIdentity.toDict, ImageIdentity.stored, image, datetimeToDict, written]

/-- A later look at the image fails only on a tag that is listed twice. -/
theorem inspected_later (found : payload.inspected readers expected = some inspected)
    (same : payload.SameImage later) (unique : later.repoTags.Nodup)
    (keeps : later.KeepsReferences inspected.identity.digest) (expectedLater : Option String) :
    ∃ again, later.inspected readers expectedLater = some again := by
  obtain ⟨valid, versionValid, digest, publishedAt, ofDigest, ofTime, rfl⟩ :=
    inspected_eq_some.mp found
  obtain ⟨tags, digests⟩ := keeps
  refine ⟨_, inspected_eq_some.mpr ⟨⟨?_, unique, ?_, ?_, ?_, ?_⟩, ?_, digest, publishedAt, ?_, ?_,
    rfl⟩⟩
  · rw [same.id]
    exact valid.id
  · rw [digests]
    exact List.nodup_singleton _
  · rw [same.revision]
    exact valid.revision
  · rw [same.os]
    exact valid.os
  · rw [same.architecture]
    exact valid.architecture
  · rw [same.version]
    exact versionValid
  · rw [digests]
    exact repositoryDigest_single (isDigest_of_repositoryDigest ofDigest)
  · rw [same.created]
    exact ofTime

/-- What a later look at the image finds is what the first one found, up to the other tags. -/
theorem identity_later (found : payload.inspected readers expected = some inspected)
    (tagged : versionTag payload.version ∈ payload.repoTags) (same : payload.SameImage later)
    (keeps : later.KeepsReferences inspected.identity.digest) {expectedLater : Option String}
    {again : InspectedImage} (foundLater : later.inspected readers expectedLater = some again) :
    again.identity = inspected.identity := by
  obtain ⟨-, versionValid, digest, publishedAt, ofDigest, ofTime, rfl⟩ :=
    inspected_eq_some.mp found
  obtain ⟨-, versionValid', digest', publishedAt', ofDigest', ofTime', rfl⟩ :=
    inspected_eq_some.mp foundLater
  have digests : digest' = digest := by
    rw [keeps.repoDigests] at ofDigest'
    have valid := isDigest_of_repositoryDigest ofDigest
    exact Option.some.inj (ofDigest'.symm.trans (repositoryDigest_single valid))
  have times : publishedAt' = publishedAt := by
    rw [same.created] at ofTime'
    exact Option.some.inj (ofTime'.symm.trans ofTime)
  have tagsLater := keeps.versionTag
  rw [same.version] at tagsLater
  simp only [image, digests, times, tagged, tagsLater, if_true, same.version, same.id]

end ImagePayload

namespace PlatformReaders

open Session

variable {readers : PlatformReaders}

/-- What a check has seen of the target that it resolved. -/
theorem logs_resolveStable (readers : PlatformReaders) :
    Logs readers.resolveStable
      (fun target added => ∃ stdout payload inspected, inspected.identity = target ∧
        (∃ before, added = before ++ [⟨inspectArgv (versionTag target.version), .completed stdout⟩]) ∧
        readers.imagePayload stdout = some payload ∧
        payload.inspected readers none = some inspected ∧
        versionTag payload.version ∈ payload.repoTags)
      fun _ => True := by
  apply logs_withCode
  apply logs_issue_bind trivial fun _ => trivial
  intro pulled
  apply Logs.bind ((logs_inspectImage readers _ _).conseq (fun _ _ seen => seen) fun _ _ => trivial)
  intro lockedStable first _
  apply logs_require_bind trivial
  intro _
  apply logs_issue_bind trivial fun _ => trivial
  intro pulledAgain
  apply Logs.bind ((logs_inspectImage readers _ _).conseq (fun _ _ seen => seen) fun _ _ => trivial)
  rintro inspected _ ⟨stdout, payload, rfl, read, found⟩
  apply logs_require_bind trivial
  rintro ⟨tagged, locked⟩
  apply Logs.pure
  obtain ⟨-, versionValid, digest, publishedAt, -, -, rfl⟩ := ImagePayload.inspected_eq_some.mp found
  have version : lockedStable.identity.version = payload.version := by
    simp only [sameLockedImage, sameImageCore, Bool.and_eq_true, decide_eq_true_eq] at locked
    exact locked.1.1.1.1.1.1.1.2
  rw [version] at tagged
  rw [version]
  refine ⟨stdout, payload, _, rfl, ?_, read, found, tagged⟩
  exact ⟨⟨["docker", "pull", stableTag], .completed pulled⟩ ::
    (first ++ [⟨["docker", "pull", versionTag payload.version], .completed pulledAgain⟩]), by
    simp [ImagePayload.image]⟩

theorem imagePayload_encodeUtf8 {text : List Char} {json : Json String} {payload : ImagePayload}
    (loaded : readers.loads text = some json) (read : ImagePayload.read json = some payload) :
    readers.imagePayload (encodeUtf8 text) = some payload := by
  simp only [imagePayload, decodeUtf8_encodeUtf8, Option.bind_eq_bind, Option.bind_some, loaded,
    read]

/-- An inspection whose output is known. -/
theorem inspectImage_completed {reference : String} {expected : Option String}
    {issued : List Issued} {stdout : ByteArray} {outcomes : List CommandOutcome}
    {payload : ImagePayload} (read : readers.imagePayload stdout = some payload) :
    readers.inspectImage reference expected issued (.completed stdout :: outcomes) =
      Session.present (payload.inspected readers expected)
        (issued ++ [⟨inspectArgv reference, .completed stdout⟩]) outcomes := by
  simp only [inspectImage, Session.issue, Program.act, bind, Program.bind, read, Session.present,
    pure, Program.pure]

end PlatformReaders

open PlatformReaders

/-- A target that a check resolved can be recorded, is read back from its record, and every later
inspection of its image that still finds the version tag and the digest gives the same identity,
with the manager's comparison and with the platform's.  Such an inspection is refused only when
docker lists a tag twice. -/
theorem resolved_target_recognised (readers : PlatformReaders) {issued after : List Issued}
    {outcomes rest : List CommandOutcome} {target : ImageIdentity}
    (resolved : readers.resolveStable issued outcomes = (.returned target, after, rest)) :
    isRecordedTarget target = true ∧
    (∃ json, target.stored.toDict = some json ∧
      Records.ImageIdentity.fromDict readers.toTextReaders json = some target.stored) ∧
    ∃ stdout payload,
      (∃ before, after = before ++ [⟨inspectArgv (versionTag target.version), .completed stdout⟩]) ∧
      readers.imagePayload stdout = some payload ∧
      ∀ (later : ImagePayload) (output : ByteArray), readers.imagePayload output = some later →
        payload.SameImage later → later.KeepsReferences target.digest →
        ∀ (reference : String) (expected : Option String) (log : List Issued)
          (others : List CommandOutcome),
          (later.repoTags.Nodup → ∃ again,
            (readers.inspectImage reference expected log (.completed output :: others)).1 =
              .returned again) ∧
          ∀ again,
            (readers.inspectImage reference expected log (.completed output :: others)).1 =
              .returned again →
            sameIdentity again.identity target = true ∧
            sameRuntimeIdentity again.identity target = true := by
  obtain ⟨_, rfl, stdout, payload, inspected, rfl, ⟨before, rfl⟩, read, found, tagged⟩ :=
    (logs_resolveStable readers).of_returned resolved
  refine ⟨ImagePayload.isRecordedTarget_of_inspected found tagged, ?_, stdout, payload,
    ⟨issued ++ before, (List.append_assoc _ _ _).symm⟩, read, ?_⟩
  · obtain ⟨json, written⟩ := ImagePayload.exists_toDict_of_inspected found
    exact ⟨json, written, Records.ImageIdentity.fromDict_toDict readers.toTextReaders written⟩
  · intro later output readLater same keeps reference expected log others
    rw [inspectImage_completed readLater]
    constructor
    · intro unique
      obtain ⟨again, foundLater⟩ := ImagePayload.inspected_later found same unique keeps expected
      exact ⟨again, by rw [foundLater]; rfl⟩
    · intro again returned
      cases foundLater : later.inspected readers expected with
      | none =>
          rw [foundLater] at returned
          cases returned
      | some looked =>
          rw [foundLater] at returned
          cases returned
          have identity := ImagePayload.identity_later found tagged same keeps foundLater
          simp [identity, sameIdentity, sameImageCore, sameRuntimeIdentity]

namespace Session

variable {issued : List Issued}

theorem runs_issue (argv : List String) (stdout : ByteArray) :
    Runs [.completed stdout] (issue argv) issued stdout (issued ++ [⟨argv, .completed stdout⟩]) :=
  Runs.act rfl

theorem runs_require {condition : Prop} [Decidable condition] (held : condition) :
    Runs [] (require condition) issued () issued := by
  rw [require, if_pos held]
  exact Runs.pure

theorem runs_inspectImage (readers : PlatformReaders) (reference : String)
    {expected : Option String} {stdout : ByteArray} {payload : ImagePayload}
    {inspected : InspectedImage} (read : readers.imagePayload stdout = some payload)
    (found : payload.inspected readers expected = some inspected) :
    Runs [.completed stdout] (readers.inspectImage reference expected) issued inspected
      (issued ++ [⟨inspectArgv reference, .completed stdout⟩]) := by
  intro rest
  rw [List.singleton_append, inspectImage_completed read, found]
  rfl

theorem runs_withCode {α : Type} (code : SessionError → String) {session : Session α}
    {choices : List CommandOutcome} {value : α} {after : List Issued}
    (runs : Runs choices session issued value after) :
    Runs choices (withCode code session) issued value after := by
  have caught : Runs choices (Program.attempt isInner session) issued (.ok value) after :=
    runs.attempt
  intro rest
  exact Program.bind_returned (caught rest)

end Session

namespace Sample

open Session

/-- The image of a release, under the tag of the release and the stable one. -/
def releaseImage : ImagePayload where
  id := "sha256:000000000000000000000000000000000000000000000000000000000000001b"
  repoTags := [stableTag, "ghcr.io/s450586793/finance-reconciliation-web:v0.3.0"]
  repoDigests := ["ghcr.io/s450586793/finance-reconciliation-web@" ++
    "sha256:000000000000000000000000000000000000000000000000000000000000001a"]
  version := "v0.3.0"
  revision := "0123abc"
  created := "2026-01-05T08:30:00+00:00"
  os := "linux"
  architecture := "amd64"

@[irreducible]
def releaseText : String :=
  "\x7b\"Id\":\"sha256:000000000000000000000000000000000000000000000000000000000000001b\"," ++
  "\"RepoTags\":[\"ghcr.io/s450586793/finance-reconciliation-web:stable\"," ++
  "\"ghcr.io/s450586793/finance-reconciliation-web:v0.3.0\"]," ++
  "\"RepoDigests\":[\"ghcr.io/s450586793/finance-reconciliation-web@" ++
  "sha256:000000000000000000000000000000000000000000000000000000000000001a\"]," ++
  "\"Version\":\"v0.3.0\",\"Revision\":\"0123abc\"," ++
  "\"Created\":\"2026-01-05T08:30:00+00:00\",\"Os\":\"linux\",\"Architecture\":\"amd64\"\x7d"

/-- The release after the manager has tagged it for a rollback. -/
def taggedImage : ImagePayload :=
  { releaseImage with repoTags := releaseImage.repoTags ++
      ["finance-reconciliation-rollback-web:11111111-1111-4111-8111-111111111111"] }

@[irreducible]
def taggedText : String :=
  "\x7b\"Id\":\"sha256:000000000000000000000000000000000000000000000000000000000000001b\"," ++
  "\"RepoTags\":[\"ghcr.io/s450586793/finance-reconciliation-web:stable\"," ++
  "\"ghcr.io/s450586793/finance-reconciliation-web:v0.3.0\"," ++
  "\"finance-reconciliation-rollback-web:11111111-1111-4111-8111-111111111111\"]," ++
  "\"RepoDigests\":[\"ghcr.io/s450586793/finance-reconciliation-web@" ++
  "sha256:000000000000000000000000000000000000000000000000000000000000001a\"]," ++
  "\"Version\":\"v0.3.0\",\"Revision\":\"0123abc\"," ++
  "\"Created\":\"2026-01-05T08:30:00+00:00\",\"Os\":\"linux\",\"Architecture\":\"amd64\"\x7d"

def imageJson (payload : ImagePayload) : Json String := .object [
  ("Id", .string payload.id),
  ("RepoTags", .array (payload.repoTags.map .string)),
  ("RepoDigests", .array (payload.repoDigests.map .string)),
  ("Version", .string payload.version),
  ("Revision", .string payload.revision),
  ("Created", .string payload.created),
  ("Os", .string payload.os),
  ("Architecture", .string payload.architecture)]

def loadRelease (text : List Char) : Option (Json String) :=
  if text = releaseText.toList then some (imageJson releaseImage)
  else if text = taggedText.toList then some (imageJson taggedImage)
  else none

def readers : PlatformReaders := { textReaders with loads := loadRelease }

def releaseOutput : ByteArray := encodeUtf8 releaseText.toList

def taggedOutput : ByteArray := encodeUtf8 taggedText.toList

theorem read_imageJson (payload : ImagePayload) :
    ImagePayload.read (imageJson payload) = some payload := by
  simp [ImagePayload.read, imageJson, imageFields, Json.exactObject?_object, Json.readField?,
    Json.field?, Json.string?, Json.strings?_array]

theorem imagePayload_releaseOutput : readers.imagePayload releaseOutput = some releaseImage :=
  imagePayload_encodeUtf8 (if_pos rfl) (read_imageJson releaseImage)

theorem imagePayload_taggedOutput : readers.imagePayload taggedOutput = some taggedImage := by
  have other : taggedText.toList ≠ releaseText.toList := by
    intro same
    have texts := String.toList_inj.mp same
    rw [taggedText, releaseText] at texts
    exact absurd texts (by decide +kernel)
  refine imagePayload_encodeUtf8 ?_ (read_imageJson taggedImage)
  exact (if_neg other).trans (if_pos rfl)

theorem releaseVersion : validateVersion releaseImage.version = true := by decide

def released : InspectedImage :=
  releaseImage.image releaseVersion
    "sha256:000000000000000000000000000000000000000000000000000000000000001a" 63903285000000000

theorem inspected_releaseImage : releaseImage.inspected readers none = some released := by
  refine ImagePayload.inspected_eq_some.mpr ⟨by decide +kernel, releaseVersion, _, _, ?_, ?_, rfl⟩
  · decide +kernel
  · decide +kernel

def releaseOutcomes : List CommandOutcome :=
  [.completed ByteArray.empty] ++ ([.completed releaseOutput] ++
    ([.completed ByteArray.empty] ++ ([.completed releaseOutput] ++ [])))

theorem taggedImage_keeps : taggedImage.KeepsReferences released.identity.digest :=
  ⟨by decide +kernel, by decide +kernel⟩

theorem nodup_taggedImage : taggedImage.repoTags.Nodup := by decide +kernel

/-- The image is looked at under the stable tag and under its version tag. -/
theorem resolves_release :
    ∃ before, Runs releaseOutcomes readers.resolveStable [] released.identity
      (before ++ [⟨inspectArgv (versionTag released.identity.version),
        .completed releaseOutput⟩]) := by
  have inspects : ∀ reference issued, Runs [.completed releaseOutput]
      (readers.inspectImage reference) issued released
      (issued ++ [⟨inspectArgv reference, .completed releaseOutput⟩]) := fun reference issued =>
    runs_inspectImage readers reference imagePayload_releaseOutput inspected_releaseImage
  have lockedAgain : versionTag released.identity.version ∈ released.allTags ∧
      sameLockedImage released released = true := by decide +kernel
  exact ⟨_, runs_withCode _ <|
    (runs_issue _ _).bind <| (inspects _ _).bind <|
    Runs.bind_free (runs_require List.mem_cons_self) <|
    (runs_issue _ _).bind <| (inspects _ _).bind <|
    Runs.bind_free (runs_require lockedAgain) Runs.pure⟩

/-- A check that meets only this release, and a later look that finds the tag of a rollback too. -/
theorem resolved_target_recognised_release :
    isRecordedTarget released.identity = true ∧
      ∃ again, (readers.inspectImage (versionTag released.identity.version) none []
          [.completed taggedOutput]).1 = .returned again ∧
        sameIdentity again.identity released.identity = true ∧
        sameRuntimeIdentity again.identity released.identity = true := by
  obtain ⟨before, resolves⟩ := resolves_release
  obtain ⟨recorded, -, stdout, payload, ⟨earlier, log⟩, read, later⟩ :=
    resolved_target_recognised readers (resolves [])
  have looked := List.append_inj' log (by simp only [List.length_singleton])
  have output : stdout = releaseOutput := by
    simpa using looked.2.symm
  rw [output, imagePayload_releaseOutput, Option.some.injEq] at read
  subst read
  obtain ⟨returns, recognised⟩ := later taggedImage taggedOutput imagePayload_taggedOutput
    ⟨rfl, rfl, rfl, rfl, rfl, rfl⟩ taggedImage_keeps (versionTag released.identity.version) none
    [] []
  obtain ⟨again, returned⟩ := returns nodup_taggedImage
  exact ⟨recorded, again, returned, recognised again returned⟩

end Sample

end Finrec.Updater
