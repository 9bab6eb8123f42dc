import Finrec.Lib.Logs
import Finrec.Updater.Docker
import Finrec.Updater.Environment
import Finrec.Updater.StateFile

/-!
# The commands of the platform

The platform runs docker commands and believes of their outputs only what it has
checked.  A session is a run of such commands whose outputs and failures are not
known beforehand; it keeps every command that was issued with the way it ended.
The text of a refusal does not leave the platform, which puts its own code in its
place.
-/

namespace Finrec.Updater

open CrashLogic Lines DockerPlatform

/-- How a command ended: with its output, or with the code of a `SafeCommandError`. -/
inductive CommandOutcome where
  | completed (stdout : ByteArray)
  | failed (code : String)

structure Issued where
  argv : List String
  outcome : CommandOutcome

inductive SessionError where
  | command (code : String)
  | refused
  | operation (code : String)
deriving DecidableEq

abbrev Session : Type → Type := Program CommandOutcome (List Issued) SessionError

/-- The readers of the standard library that the platform calls. -/
structure PlatformReaders extends TextReaders where
  /-- `json.loads`. -/
  loads : List Char → Option (Json String)

/-- What `_inspect_image` reads of an image. -/
structure ImagePayload where
  id : String
  repoTags : List String
  repoDigests : List String
  version : String
  revision : String
  created : String
  os : String
  architecture : String

def imageFormat : String :=
  "\x7b\"Id\":\x7b\x7bjson .Id\x7d\x7d,\"RepoTags\":\x7b\x7bjson .RepoTags\x7d\x7d," ++
  "\"RepoDigests\":\x7b\x7bjson .RepoDigests\x7d\x7d," ++
  "\"Version\":\x7b\x7bjson (index .Config.Labels \"org.opencontainers.image.version\")\x7d\x7d," ++
  "\"Revision\":\x7b\x7bjson (index .Config.Labels \"org.opencontainers.image.revision\")\x7d\x7d," ++
  "\"Created\":\x7b\x7bjson (index .Config.Labels \"org.opencontainers.image.created\")\x7d\x7d," ++
  "\"Os\":\x7b\x7bjson .Os\x7d\x7d,\"Architecture\":\x7b\x7bjson .Architecture\x7d\x7d\x7d"

def imageFields : List String :=
  ["Id", "RepoTags", "RepoDigests", "Version", "Revision", "Created", "Os", "Architecture"]

def digestPrefix : String := webRepository ++ "@"

/-- The digests among the values that are of the web repository. -/
def webDigests (repoDigests : List String) : List String :=
  (repoDigests.filter fun value => digestPrefix.toList.isPrefixOf value.toList).map fun value =>
    String.ofList (value.toList.drop digestPrefix.length)

/-- The only digest of the image; where it has none, the one that is expected. -/
def repositoryDigest (repoDigests : List String) (expected : Option String) : Option String :=
  match repoDigests, webDigests repoDigests with
  | [_], [digest] => if isDigest digest then some digest else none
  | [], _ => expected.filter fun digest => isDigest digest
  | _, _ => none

/-- `bytes.decode("ascii", errors="strict")`. -/
def decodeAscii (bytes : ByteArray) : Option (List Char) :=
  if bytes.data.all (· < 128) then
    some (bytes.data.toList.map fun byte => Char.ofNat byte.toNat)
  else none

/-- `bytes.strip()` of the output leaves nothing. -/
def isBlank (bytes : ByteArray) : Bool :=
  bytes.data.all fun byte => 9 ≤ byte && byte ≤ 13 || byte = 32

namespace ImagePayload

def read (payload : Json String) : Option ImagePayload := do
  let data ← payload.exactObject? imageFields
  let id ← Json.readField? Json.string? data "Id"
  let repoTags ← Json.readField? Json.strings? data "RepoTags"
  let repoDigests ← Json.readField? Json.strings? data "RepoDigests"
  let version ← Json.readField? Json.string? data "Version"
  let revision ← Json.readField? Json.string? data "Revision"
  let created ← Json.readField? Json.string? data "Created"
  let os ← Json.readField? Json.string? data "Os"
  let architecture ← Json.readField? Json.string? data "Architecture"
  return { id, repoTags, repoDigests, version, revision, created, os, architecture }

structure IsValid (payload : ImagePayload) : Prop where
  id : isDigest payload.id = true
  repoTags : payload.repoTags.Nodup
  repoDigests : payload.repoDigests.Nodup
  revision : isRevision payload.revision = true
  os : payload.os = "linux"
  architecture : payload.architecture ≠ ""

instance (payload : ImagePayload) : Decidable payload.IsValid :=
  decidable_of_iff (isDigest payload.id = true ∧ payload.repoTags.Nodup ∧
      payload.repoDigests.Nodup ∧ isRevision payload.revision = true ∧ payload.os = "linux" ∧
      payload.architecture ≠ "")
    ⟨fun ⟨id, tags, digests, revision, os, architecture⟩ =>
      ⟨id, tags, digests, revision, os, architecture⟩,
    fun valid => ⟨valid.id, valid.repoTags, valid.repoDigests, valid.revision, valid.os,
      valid.architecture⟩⟩

/-- The image, with the digest and the time that were read of it. -/
def image (payload : ImagePayload) (versionValid : validateVersion payload.version = true)
    (digest : String) (publishedAt : ℤ) : InspectedImage where
  identity := {
    repository := webRepository
    version := payload.version
    digest := digest
    imageId := payload.id
    tags := if versionTag payload.version ∈ payload.repoTags then [versionTag payload.version]
      else []
    publishedAt := some publishedAt
    versionValid := versionValid }
  revision := payload.revision
  created := payload.created
  osName := payload.os
  architecture := payload.architecture
  allTags := payload.repoTags

/-- The checks of `_inspect_image`, and the image that passes them. -/
def inspected (readers : PlatformReaders) (payload : ImagePayload)
    (expectedDigestIfUnavailable : Option String) : Option InspectedImage := do
  guard payload.IsValid
  if versionValid : validateVersion payload.version = true then
    let digest ← repositoryDigest payload.repoDigests expectedDigestIfUnavailable
    let publishedAt ← datetimeFromDict readers.toTextReaders
      (.string (PythonText.ofString payload.created))
    return payload.image versionValid digest publishedAt
  else none

theorem inspected_eq_some {readers : PlatformReaders} {payload : ImagePayload}
    {expected : Option String} {inspected : InspectedImage} :
    payload.inspected readers expected = some inspected ↔
      payload.IsValid ∧ ∃ versionValid digest publishedAt,
        repositoryDigest payload.repoDigests expected = some digest ∧
        datetimeFromDict readers.toTextReaders (.string (PythonText.ofString payload.created)) =
          some publishedAt ∧
        payload.image versionValid digest publishedAt = inspected := by
  simp only [ImagePayload.inspected, Option.bind_eq_bind, Option.bind_eq_some_iff,
    Option.guard_eq_some', exists_const]
  refine and_congr_right fun _ => ?_
  by_cases versionValid : validateVersion payload.version = true
  · simp [versionValid, Option.bind_eq_some_iff]
  · simp [versionValid]

end ImagePayload

namespace Session

/-- One command. -/
def issue (argv : List String) : Session ByteArray :=
  Program.act fun outcome issued =>
    match outcome with
    | .completed stdout => (.returned stdout, issued ++ [⟨argv, .completed stdout⟩])
    | .failed code => (.raised (.command code), issued ++ [⟨argv, .failed code⟩])

def require (condition : Prop) [Decidable condition] : Session Unit :=
  if condition then pure () else Program.raise .refused

def present {α : Type} (value : Option α) : Session α :=
  match value with
  | some value => pure value
  | none => Program.raise .refused

/-- The errors in whose place a call of the platform puts its own. -/
def isInner : SessionError → Option SessionError
  | .operation _ => none
  | error => some error

/-- Leaves the platform with the code for an error. -/
def withCode {α : Type} (code : SessionError → String) (session : Session α) : Session α := do
  match ← Program.attempt isInner session with
  | .ok value => return value
  | .error error => Program.raise (.operation (code error))

end Session

namespace PlatformReaders

open Session

variable (readers : PlatformReaders)

def imagePayload (stdout : ByteArray) : Option ImagePayload := do
  let text ← decodeUtf8 stdout
  let payload ← readers.loads text
  ImagePayload.read payload

def inspectArgv (reference : String) : List String :=
  ["docker", "image", "inspect", "--format", imageFormat, reference]

def inspectImage (reference : String) (expectedDigestIfUnavailable : Option String := none) :
    Session InspectedImage := do
  let stdout ← issue (inspectArgv reference)
  let payload ← present (readers.imagePayload stdout)
  present (payload.inspected readers expectedDigestIfUnavailable)

def resolveStable : Session ImageIdentity :=
  withCode (fun _ => "pull_failed") do
    let _ ← issue ["docker", "pull", stableTag]
    let lockedStable ← readers.inspectImage stableTag
    require (stableTag ∈ lockedStable.allTags)
    let immutable := versionTag lockedStable.identity.version
    let _ ← issue ["docker", "pull", immutable]
    let inspectedImmutable ← readers.inspectImage immutable
    require (immutable ∈ inspectedImmutable.allTags ∧
      sameLockedImage lockedStable inspectedImmutable = true)
    return inspectedImmutable.identity

end PlatformReaders

def containersArgv (imageId : String) : List String :=
  ["docker", "container", "ls", "--all", "--quiet", "--filter", "ancestor=" ++ imageId]

def listArgv (reference : String) : List String :=
  ["docker", "image", "ls", "--no-trunc", "--quiet", reference]

def removeArgv (reference : String) : List String := ["docker", "image", "rm", reference]

/-- The image that a listing names, if it names any; a listing is refused that is not one id. -/
def listedImageId (stdout : ByteArray) : Option (Option String) := do
  let text ← decodeAscii stdout
  match splitlines text with
  | [] => return none
  | [line] =>
      if isDigest (String.ofList line) then return some (String.ofList line) else none
  | _ => none

namespace Session

def requireNoContainerReferences (imageId : String) : Session Unit := do
  let stdout ← issue (containersArgv imageId)
  require (isBlank stdout = true)

def referenceImageId (reference : String) : Session (Option String) := do
  let stdout ← issue (listArgv reference)
  present (listedImageId stdout)

def removeCleanupReference (reference expectedImageId : String) (inspectedTags : List String) :
    Session Unit := do
  match ← referenceImageId reference with
  | none => require (reference ∉ inspectedTags)
  | some referencedId => do
      require (referencedId = expectedImageId)
      let _ ← issue (removeArgv reference)
      let remaining ← referenceImageId reference
      require (remaining = none)

def requireAbsent : List String → Session Unit
  | [] => pure ()
  | reference :: references => do
      let found ← referenceImageId reference
      require (found = none)
      requireAbsent references

def requireCleanupReferencesAbsent (task : UpdateTask) : Session Unit :=
  requireAbsent (task.original.tags ++ [task.original.rollbackAlias])

end Session

namespace PlatformReaders

open Session

variable (readers : PlatformReaders)

def cleanupImageId (task : UpdateTask) : Session Unit := do
  match ← referenceImageId task.original.imageId with
  | none => do
      requireNoContainerReferences task.original.imageId
      requireCleanupReferencesAbsent task
  | some imageId => do
      require (imageId = task.original.imageId)
      let inspected ← readers.inspectImage task.original.imageId
      require (sameImageCore inspected.identity task.original = true ∧ inspected.allTags = [])
      requireNoContainerReferences task.original.imageId
      requireCleanupReferencesAbsent task
      let _ ← issue (removeArgv task.original.imageId)
      let remaining ← referenceImageId task.original.imageId
      require (remaining = none)

/-- The steps of the version tag and of the alias. -/
def cleanupTag (task : UpdateTask) (step : CleanupStep) : Session Unit := do
  let inspected ← readers.inspectImage task.original.imageId (some task.original.digest)
  require (sameImageCore inspected.identity task.original = true)
  require (∀ tag ∈ inspected.allTags, tag ∈ task.original.tags ++ [task.original.rollbackAlias])
  requireNoContainerReferences task.original.imageId
  let version ← present task.original.tags.head?
  if step = .versionTag then do
    require (task.original.rollbackAlias ∈ inspected.allTags)
    let aliased ← referenceImageId task.original.rollbackAlias
    require (aliased = some task.original.imageId)
    removeCleanupReference version task.original.imageId inspected.allTags
  else do
    require (version ∉ inspected.allTags)
    let tagged ← referenceImageId version
    require (tagged = none)
    removeCleanupReference task.original.rollbackAlias task.original.imageId inspected.allTags

/-- The environment file may be missing. -/
def cleanupOriginalStep (environment : Option EnvironmentFile) (task : UpdateTask)
    (step : CleanupStep) : Session Unit :=
  withCode (fun
    | .command _ => "cleanup_failed"
    | _ => "cleanup_refused") do
    require (validateCleanupTask task = true)
    let (_, values) ← present (environment.bind readEnvironmentAt)
    require (values.lookup webTagKey = some task.target.version)
    require (task.cleanupJournal.map (·.status step) = some .started)
    if step = .imageId then readers.cleanupImageId task else readers.cleanupTag task step

end PlatformReaders

/-! ## What a session logs -/

/-- The command removes an image or a reference to one. -/
def IsRemoval (argv : List String) : Prop := ["docker", "image", "rm"] <+: argv

/-- No command removes an image. -/
def Quiet (issued : List Issued) : Prop := ∀ command ∈ issued, ¬ IsRemoval command.argv

namespace Session

variable {α : Type} {returned : α → List Issued → Prop} {stopped : List Issued → Prop}

/-- A command is issued once, or not at all. -/
theorem logs_issue {argv : List String} (cutOff : stopped [])
    (failed : ∀ code, stopped [⟨argv, .failed code⟩]) :
    Logs (issue argv) (fun stdout added => added = [⟨argv, .completed stdout⟩]) stopped := by
  apply Logs.act (fun outcome => ⟨argv, outcome⟩) cutOff
  · intro outcome log
    cases outcome with
    | completed stdout => rfl
    | failed code => rfl
  · intro outcome log
    cases outcome with
    | completed stdout => rfl
    | failed code => exact failed code

theorem logs_issue_bind {argv : List String} {next : ByteArray → Session α} (cutOff : stopped [])
    (failed : ∀ code, stopped [⟨argv, .failed code⟩])
    (rest : ∀ stdout, Logs (next stdout)
      (fun result more => returned result (⟨argv, .completed stdout⟩ :: more))
      fun more => stopped (⟨argv, .completed stdout⟩ :: more)) :
    Logs (issue argv >>= next) returned stopped := by
  apply Logs.bind (logs_issue cutOff failed)
  rintro stdout _ rfl
  exact rest stdout

theorem logs_require {condition : Prop} [Decidable condition]
    {returned : Unit → List Issued → Prop} (holds : condition → returned () [])
    (refused : stopped []) : Logs (require condition) returned stopped := by
  by_cases held : condition
  · simpa only [require, if_pos held] using Logs.pure (holds held)
  · simpa only [require, if_neg held] using Logs.raise refused

theorem logs_require_bind {condition : Prop} [Decidable condition] {next : Unit → Session α}
    (refused : stopped []) (rest : condition → Logs (next ()) returned stopped) :
    Logs (require condition >>= next) returned stopped := by
  by_cases held : condition
  · rw [require, if_pos held]
    exact Logs.pure_bind (rest held)
  · rw [require, if_neg held]
    exact Logs.raise_bind refused

theorem logs_present {value : Option α} (missing : stopped [])
    (found : ∀ result, value = some result → returned result []) :
    Logs (present value) returned stopped := by
  cases value with
  | none => exact Logs.raise missing
  | some result => exact Logs.pure (found result rfl)

theorem logs_present_bind {β : Type} {value : Option β} {next : β → Session α}
    (missing : stopped [])
    (rest : ∀ result, value = some result → Logs (next result) returned stopped) :
    Logs (present value >>= next) returned stopped := by
  cases value with
  | none => exact Logs.raise_bind missing
  | some result => exact Logs.pure_bind (rest result rfl)

theorem logs_withCode {session : Session α} (code : SessionError → String)
    (logs : Logs session returned stopped) : Logs (withCode code session) returned stopped := by
  apply Logs.bind (Logs.attempt logs)
  intro result added ended
  cases result with
  | ok value =>
      apply Logs.pure
      rwa [List.append_nil]
  | error error =>
      apply Logs.raise
      rwa [List.append_nil]

end Session

namespace PlatformReaders

open Session

theorem logs_inspectImage (readers : PlatformReaders) (reference : String)
    (expected : Option String) :
    Logs (readers.inspectImage reference expected)
      (fun inspected added => ∃ stdout payload,
        added = [⟨inspectArgv reference, .completed stdout⟩] ∧
        readers.imagePayload stdout = some payload ∧
        payload.inspected readers expected = some inspected)
      fun added => ∀ command ∈ added, command.argv = inspectArgv reference := by
  apply logs_issue_bind (by simp) (by simp)
  intro stdout
  apply logs_present_bind (by simp)
  intro payload read
  apply logs_present (by simp)
  intro inspected found
  exact ⟨stdout, payload, rfl, read, found⟩

end PlatformReaders

end Finrec.Updater
