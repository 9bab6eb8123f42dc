import Finrec.Updater.StateFile

/-!
# The records of the state file

A task holds its id in the canonical spelling of a UUID and its times as
instants of the calendar, whatever the spelling they were read in.  A record
that was read is therefore written in one form only, and that form is read as
the same record.  Its JSON text is read as the record with the pairs of its texts
joined.
-/

namespace Finrec.Updater

open Calendar Patterns PythonText

/-! ## Enumerations -/

def Stage.value : Stage → String
  | .checking => "checking"
  | .backingUp => "backing_up"
  | .pulling => "pulling"
  | .stoppingWeb => "stopping_web"
  | .migrating => "migrating"
  | .startingWeb => "starting_web"
  | .checkingHealth => "checking_health"
  | .stabilizing => "stabilizing"
  | .persistingVersion => "persisting_version"
  | .cleaning => "cleaning"
  | .rollingBack => "rolling_back"
  | .succeeded => "succeeded"
  | .failed => "failed"
  | .manualIntervention => "manual_intervention"

def stages : List Stage := [.checking, .backingUp, .pulling, .stoppingWeb, .migrating, .startingWeb,
  .checkingHealth, .stabilizing, .persistingVersion, .cleaning, .rollingBack, .succeeded, .failed,
  .manualIntervention]

def CleanupStatus.value : CleanupStatus → String
  | .notRun => "not_run"
  | .complete => "complete"
  | .pending => "pending"

def cleanupStatuses : List CleanupStatus := [.notRun, .complete, .pending]

def CleanupStepStatus.value : CleanupStepStatus → String
  | .notStarted => "not_started"
  | .started => "started"
  | .completed => "completed"

def cleanupStepStatuses : List CleanupStepStatus := [.notStarted, .started, .completed]

/-- The member of an enumeration that has a value. -/
def member? {α : Type} (members : List α) (value : α → String) (json : Json PythonText) :
    Option α :=
  json.string?.bind fun text => members.find? fun member => ofString (value member) = text

theorem member?_string {α : Type} (members : List α) (value : α → String) (text : String) :
    member? members value (.string text) = members.find? fun member => value member = text := by
  simp only [member?, Json.string?, Option.bind_some, ofString_inj]

theorem Stage.member?_value (stage : Stage) :
    member? stages Stage.value (.string stage.value) = some stage := by
  rw [member?_string]
  cases stage <;> rfl

theorem CleanupStatus.member?_value (status : CleanupStatus) :
    member? cleanupStatuses CleanupStatus.value (.string status.value) = some status := by
  rw [member?_string]
  cases status <;> rfl

theorem CleanupStepStatus.member?_value (status : CleanupStepStatus) :
    member? cleanupStepStatuses CleanupStepStatus.value (.string status.value) = some status := by
  rw [member?_string]
  cases status <;> rfl

/-! ## The journal -/

def cleanupJournalFields : List String := ["version_tag", "rollback_alias", "image_id"]

namespace CleanupJournal

def dictFields (journal : CleanupJournal) : List (String × Json PythonText) := [
  ("version_tag", .string journal.versionTag.value),
  ("rollback_alias", .string journal.rollbackAlias.value),
  ("image_id", .string journal.imageId.value)]

def toDict (journal : CleanupJournal) : Json PythonText := .object (Json.named journal.dictFields)

def stepStatus? : Json PythonText → Option CleanupStepStatus :=
  member? cleanupStepStatuses CleanupStepStatus.value

def fromDict (payload : Json PythonText) : Option CleanupJournal := do
  let data ← payload.exactObject? (cleanupJournalFields.map ofString)
  let versionTag ← Json.readField? stepStatus? data "version_tag"
  let rollbackAlias ← Json.readField? stepStatus? data "rollback_alias"
  let imageId ← Json.readField? stepStatus? data "image_id"
  build versionTag rollbackAlias imageId

theorem build_eq_some_iff {versionTag rollbackAlias imageId : CleanupStepStatus}
    {journal : CleanupJournal} :
    build versionTag rollbackAlias imageId = some journal ↔
      versionTag = journal.versionTag ∧ rollbackAlias = journal.rollbackAlias ∧
        imageId = journal.imageId := by
  constructor
  · intro built
    rw [build] at built
    split_ifs at built
    cases built
    exact ⟨rfl, rfl, rfl⟩
  · rintro ⟨rfl, rfl, rfl⟩
    rw [build, dif_pos journal.aliasAfterTag, dif_pos journal.imageAfterAlias]

theorem fromDict_eq_some {payload : Json PythonText} {journal : CleanupJournal} :
    fromDict payload = some journal ↔
      ∃ data, payload.exactObject? (cleanupJournalFields.map ofString) = some data ∧
        Json.readField? stepStatus? data "version_tag" = some journal.versionTag ∧
        Json.readField? stepStatus? data "rollback_alias" = some journal.rollbackAlias ∧
        Json.readField? stepStatus? data "image_id" = some journal.imageId := by
  simp only [fromDict, Option.bind_eq_bind, Option.bind_eq_some_iff, build_eq_some_iff]
  constructor
  · rintro ⟨data, exact, _, h₁, _, h₂, _, h₃, rfl, rfl, rfl⟩
    exact ⟨data, exact, h₁, h₂, h₃⟩
  · rintro ⟨data, exact, h₁, h₂, h₃⟩
    exact ⟨data, exact, _, h₁, _, h₂, _, h₃, rfl, rfl, rfl⟩

theorem fromDict_toDict (journal : CleanupJournal) : fromDict journal.toDict = some journal := by
  apply fromDict_eq_some.mpr
  refine ⟨Json.named journal.dictFields, Json.exactObject?_named rfl, ?_⟩
  simp only [Json.readField?_named]
  exact ⟨journal.versionTag.member?_value, journal.rollbackAlias.member?_value,
    journal.imageId.member?_value⟩

theorem toDict_ne_null (journal : CleanupJournal) : journal.toDict ≠ .null := by
  simp [toDict]

theorem joined_toDict (journal : CleanupJournal) : journal.toDict.joined = journal.toDict := by
  rw [toDict, Json.joined_named]
  simp only [dictFields, List.map_cons, List.map_nil, Json.joined, joinPairs_ofString]

theorem writable_toDict (journal : CleanupJournal) : journal.toDict.Writable := by
  refine .named (by decide : cleanupJournalFields.Nodup) ?_
  simp only [dictFields, List.forall_mem_cons, List.not_mem_nil, false_imp_iff, implies_true,
    and_true]
  exact ⟨.string _, .string _, .string _⟩

end CleanupJournal

/-! ## Times -/

theorem exists_utcMoment?_iff {instant : ℤ} :
    (∃ moment, utcMoment? instant = some moment) ↔ DateTime.InCalendar instant := by
  have below := Int.emod_lt_of_pos instant (by decide : 0 < dayMicros)
  have fits : (instant % dayMicros).toNat < 86400000000 := by
    have nonneg := Int.emod_nonneg instant (by decide : dayMicros ≠ 0)
    simp only [dayMicros] at below nonneg ⊢
    omega
  rw [← Option.isSome_iff_exists, ← DateTime.utcText?_isSome, utcMoment?, dif_pos fits,
    DateTime.utcText?, Option.isSome_map, Option.isSome_map]

/-- The instants that can be written. -/
theorem exists_datetimeToDict {instant : Option ℤ}
    (typed : ∀ moment ∈ instant, DateTime.InCalendar moment) :
    ∃ json, datetimeToDict instant = some json := by
  cases instant with
  | none => exact ⟨.null, rfl⟩
  | some instant =>
      obtain ⟨moment, found⟩ := exists_utcMoment?_iff.mpr (typed instant rfl)
      exact ⟨_, by rw [datetimeToDict, found, Option.map_some]⟩

theorem exists_datetimeToDict_some {instant : ℤ} (typed : DateTime.InCalendar instant) :
    ∃ json, datetimeToDict (some instant) = some json := by
  apply exists_datetimeToDict
  rintro _ ⟨⟩
  exact typed

theorem inCalendar_of_datetimeFromDict {readers : TextReaders} {json : Json PythonText}
    {instant : ℤ} (read : datetimeFromDict readers json = some instant) :
    DateTime.InCalendar instant := by
  simp only [datetimeFromDict, Option.bind_eq_bind, Option.bind_eq_some_iff] at read
  obtain ⟨text, -, moment, -, built⟩ := read
  split_ifs at built with noOffset
  cases built
  exact exists_utcMoment?_iff.mp ⟨moment, utcMoment?_eq_some.mpr ⟨noOffset, rfl⟩⟩

theorem inCalendar_of_nullableDatetimeFromDict {readers : TextReaders} {json : Json PythonText}
    {instant : Option ℤ} (read : nullableDatetimeFromDict readers json = some instant) :
    ∀ moment ∈ instant, DateTime.InCalendar moment := by
  intro moment member
  cases member
  exact inCalendar_of_datetimeFromDict (Json.of_nullable?_eq_some read).1

theorem writable_datetimeToDict {instant : Option ℤ} {json : Json PythonText}
    (written : datetimeToDict instant = some json) : json.Writable := by
  cases instant with
  | none =>
      cases written
      exact .null
  | some instant =>
      obtain ⟨moment, -, rfl⟩ := Option.map_eq_some_iff.mp written
      exact .string _

namespace Records

/-! ## Typed records -/

/-- The time of an identity is a time of the calendar. -/
def ImageIdentity.Typed (identity : ImageIdentity) : Prop :=
  ∀ instant ∈ identity.publishedAt, DateTime.InCalendar instant

theorem ImageIdentity.exists_toDict {identity : ImageIdentity} (typed : identity.Typed) :
    ∃ json, identity.toDict = some json := by
  obtain ⟨publishedAt, published⟩ := exists_datetimeToDict typed
  exact ⟨_, by rw [ImageIdentity.toDict, published, Option.map_some]⟩

theorem ImageIdentity.typed_of_fromDict {readers : TextReaders} {payload : Json PythonText}
    {identity : ImageIdentity} (read : ImageIdentity.fromDict readers payload = some identity) :
    identity.Typed := by
  obtain ⟨data, -, -, -, -, -, -, -, published⟩ := ImageIdentity.fromDict_eq_some.mp read
  obtain ⟨json, -, publishedAt⟩ := Json.readField?_eq_some.mp published
  exact inCalendar_of_nullableDatetimeFromDict publishedAt

/-! ## Check results -/

structure CheckResult where
  current : ImageIdentity
  target : ImageIdentity
  available : Bool
  checkedAt : ℤ
deriving DecidableEq

def checkResultFields : List String := ["current", "target", "available", "checked_at"]

namespace CheckResult

def dictFields (result : CheckResult) (current target checkedAt : Json PythonText) :
    List (String × Json PythonText) := [
  ("current", current),
  ("target", target),
  ("available", .bool result.available),
  ("checked_at", checkedAt)]

def toDict (result : CheckResult) : Option (Json PythonText) := do
  let current ← result.current.toDict
  let target ← result.target.toDict
  let checkedAt ← datetimeToDict (some result.checkedAt)
  return .object (Json.named (result.dictFields current target checkedAt))

def fromDict (readers : TextReaders) (payload : Json PythonText) : Option CheckResult := do
  let data ← payload.exactObject? (checkResultFields.map ofString)
  let available ← Json.readField? Json.bool? data "available"
  let checkedAt ← Json.readField? (datetimeFromDict readers) data "checked_at"
  let current ← Json.readField? (ImageIdentity.fromDict readers) data "current"
  let target ← Json.readField? (ImageIdentity.fromDict readers) data "target"
  return { current, target, available, checkedAt }

structure Typed (result : CheckResult) : Prop where
  current : result.current.Typed
  target : result.target.Typed
  checkedAt : DateTime.InCalendar result.checkedAt

theorem toDict_eq_some {result : CheckResult} {json : Json PythonText} :
    result.toDict = some json ↔
      ∃ current target checkedAt, result.current.toDict = some current ∧
        result.target.toDict = some target ∧
        datetimeToDict (some result.checkedAt) = some checkedAt ∧
        .object (Json.named (result.dictFields current target checkedAt)) = json := by
  simp only [toDict, Option.bind_eq_bind, Option.bind_eq_some_iff, Option.pure_def,
    Option.some.injEq]
  constructor
  · rintro ⟨current, h₁, target, h₂, checkedAt, h₃, built⟩
    exact ⟨current, target, checkedAt, h₁, h₂, h₃, built⟩
  · rintro ⟨current, target, checkedAt, h₁, h₂, h₃, built⟩
    exact ⟨current, h₁, target, h₂, checkedAt, h₃, built⟩

theorem fromDict_eq_some {readers : TextReaders} {payload : Json PythonText}
    {result : CheckResult} :
    fromDict readers payload = some result ↔
      ∃ data, payload.exactObject? (checkResultFields.map ofString) = some data ∧
        Json.readField? Json.bool? data "available" = some result.available ∧
        Json.readField? (datetimeFromDict readers) data "checked_at" = some result.checkedAt ∧
        Json.readField? (ImageIdentity.fromDict readers) data "current" = some result.current ∧
        Json.readField? (ImageIdentity.fromDict readers) data "target" = some result.target := by
  simp only [fromDict, Option.bind_eq_bind, Option.bind_eq_some_iff, Option.pure_def,
    Option.some.injEq]
  constructor
  · rintro ⟨data, exact, _, h₁, _, h₂, _, h₃, _, h₄, rfl⟩
    exact ⟨data, exact, h₁, h₂, h₃, h₄⟩
  · rintro ⟨data, exact, h₁, h₂, h₃, h₄⟩
    exact ⟨data, exact, _, h₁, _, h₂, _, h₃, _, h₄, rfl⟩

theorem fromDict_toDict (readers : TextReaders) {result : CheckResult} {json : Json PythonText}
    (written : result.toDict = some json) : fromDict readers json = some result := by
  obtain ⟨current, target, checkedAt, currentDict, targetDict, checked, rfl⟩ :=
    toDict_eq_some.mp written
  apply fromDict_eq_some.mpr
  refine ⟨_, Json.exactObject?_named rfl, ?_⟩
  simp only [Json.readField?_named]
  exact ⟨rfl, (datetimeFromDict_of_instant readers checked).1,
    ImageIdentity.fromDict_toDict readers currentDict,
    ImageIdentity.fromDict_toDict readers targetDict⟩

theorem Typed.exists_toDict {result : CheckResult} (typed : result.Typed) :
    ∃ json, result.toDict = some json := by
  obtain ⟨current, currentDict⟩ := ImageIdentity.exists_toDict typed.current
  obtain ⟨target, targetDict⟩ := ImageIdentity.exists_toDict typed.target
  obtain ⟨checkedAt, checked⟩ := exists_datetimeToDict_some typed.checkedAt
  exact ⟨_, toDict_eq_some.mpr ⟨current, target, checkedAt, currentDict, targetDict, checked, rfl⟩⟩

theorem toDict_ne_null {result : CheckResult} {json : Json PythonText}
    (written : result.toDict = some json) : json ≠ .null := by
  obtain ⟨_, _, _, -, -, -, rfl⟩ := toDict_eq_some.mp written
  simp

theorem typed_of_fromDict {readers : TextReaders} {payload : Json PythonText} {result : CheckResult}
    (read : fromDict readers payload = some result) : result.Typed := by
  obtain ⟨data, -, -, checked, current, target⟩ := fromDict_eq_some.mp read
  obtain ⟨_, -, checkedAt⟩ := Json.readField?_eq_some.mp checked
  obtain ⟨_, -, currentRead⟩ := Json.readField?_eq_some.mp current
  obtain ⟨_, -, targetRead⟩ := Json.readField?_eq_some.mp target
  exact ⟨ImageIdentity.typed_of_fromDict currentRead, ImageIdentity.typed_of_fromDict targetRead,
    inCalendar_of_datetimeFromDict checkedAt⟩

def joined (result : CheckResult) : CheckResult :=
  { result with current := result.current.joined, target := result.target.joined }

structure Unpaired (result : CheckResult) : Prop where
  current : result.current.Unpaired
  target : result.target.Unpaired

theorem joined_eq_self_iff {result : CheckResult} : result.joined = result ↔ result.Unpaired := by
  constructor
  · intro same
    exact ⟨ImageIdentity.joined_eq_self_iff.mp (congrArg current same),
      ImageIdentity.joined_eq_self_iff.mp (congrArg target same)⟩
  · rintro ⟨currentUnpaired, targetUnpaired⟩
    rw [joined, ImageIdentity.joined_eq_self_iff.mpr currentUnpaired,
      ImageIdentity.joined_eq_self_iff.mpr targetUnpaired]

theorem unpaired_joined (result : CheckResult) : result.joined.Unpaired :=
  ⟨result.current.unpaired_joined, result.target.unpaired_joined⟩

theorem toDict_joined {result : CheckResult} {json : Json PythonText}
    (written : result.toDict = some json) : result.joined.toDict = some json.joined := by
  obtain ⟨current, target, checkedAt, currentDict, targetDict, checked, rfl⟩ :=
    toDict_eq_some.mp written
  apply toDict_eq_some.mpr
  refine ⟨_, _, checkedAt, ImageIdentity.toDict_joined currentDict,
    ImageIdentity.toDict_joined targetDict, checked, ?_⟩
  rw [Json.joined_named]
  simp only [dictFields, joined, List.map_cons, List.map_nil, Json.joined,
    joined_datetimeToDict checked]

theorem Typed.joined {result : CheckResult} (typed : result.Typed) : result.joined.Typed :=
  ⟨typed.current, typed.target, typed.checkedAt⟩

end CheckResult

/-! ## Tasks -/

structure UpdateTask where
  id : String
  original : ImageIdentity
  target : ImageIdentity
  stage : Stage
  createdAt : ℤ
  startedAt : Option ℤ
  finishedAt : Option ℤ
  databaseBackup : PythonText
  uploadsBackup : PythonText
  rolledBack : Bool
  cleanup : CleanupStatus
  cleanupJournal : Option CleanupJournal
  errorCode : PythonText
  errorMessage : PythonText
deriving DecidableEq

def updateTaskFields : List String := ["id", "original", "target", "stage", "created_at",
  "started_at", "finished_at", "database_backup", "uploads_backup", "rolled_back", "cleanup",
  "cleanup_journal", "error_code", "error_message"]

/-- Records from before the journal do not have its field. -/
def legacyTaskFields : List String := updateTaskFields.filter (· ≠ "cleanup_journal")

def journalToDict : Option CleanupJournal → Json PythonText
  | some journal => journal.toDict
  | none => .null

/-- A task without the field has no journal. -/
def journalFromDict (data : List (PythonText × Json PythonText)) : Option (Option CleanupJournal) :=
  match Json.field? data "cleanup_journal" with
  | some payload => Json.nullable? CleanupJournal.fromDict payload
  | none => some none

namespace UpdateTask

def dictFields (task : UpdateTask)
    (original target createdAt startedAt finishedAt : Json PythonText) :
    List (String × Json PythonText) := [
  ("id", .string task.id),
  ("original", original),
  ("target", target),
  ("stage", .string task.stage.value),
  ("created_at", createdAt),
  ("started_at", startedAt),
  ("finished_at", finishedAt),
  ("database_backup", .string task.databaseBackup),
  ("uploads_backup", .string task.uploadsBackup),
  ("rolled_back", .bool task.rolledBack),
  ("cleanup", .string task.cleanup.value),
  ("cleanup_journal", journalToDict task.cleanupJournal),
  ("error_code", .string task.errorCode),
  ("error_message", .string task.errorMessage)]

def toDict (task : UpdateTask) : Option (Json PythonText) := do
  let original ← task.original.toDict
  let target ← task.target.toDict
  let createdAt ← datetimeToDict (some task.createdAt)
  let startedAt ← datetimeToDict task.startedAt
  let finishedAt ← datetimeToDict task.finishedAt
  return .object (Json.named (task.dictFields original target createdAt startedAt finishedAt))

/-- The fields of a record of today, or of one from before the journal. -/
def taskData? (payload : Json PythonText) : Option (List (PythonText × Json PythonText)) :=
  (payload.exactObject? (updateTaskFields.map ofString)).orElse fun _ =>
    payload.exactObject? (legacyTaskFields.map ofString)

/-- `UUID(...)` keeps the number, so every spelling of an id becomes the canonical one. -/
def idFromDict (readers : TextReaders) (payload : Json PythonText) : Option String := do
  let text ← payload.string?
  let id ← readers.uuid text
  return String.ofList id.text

def fromDict (readers : TextReaders) (payload : Json PythonText) : Option UpdateTask := do
  let data ← taskData? payload
  let id ← Json.readField? (idFromDict readers) data "id"
  let stage ← Json.readField? (member? stages Stage.value) data "stage"
  let cleanup ← Json.readField? (member? cleanupStatuses CleanupStatus.value) data "cleanup"
  let createdAt ← Json.readField? (datetimeFromDict readers) data "created_at"
  let original ← Json.readField? (ImageIdentity.fromDict readers) data "original"
  let target ← Json.readField? (ImageIdentity.fromDict readers) data "target"
  let startedAt ← Json.readField? (nullableDatetimeFromDict readers) data "started_at"
  let finishedAt ← Json.readField? (nullableDatetimeFromDict readers) data "finished_at"
  let databaseBackup ← Json.readField? Json.string? data "database_backup"
  let uploadsBackup ← Json.readField? Json.string? data "uploads_backup"
  let rolledBack ← Json.readField? Json.bool? data "rolled_back"
  let cleanupJournal ← journalFromDict data
  let errorCode ← Json.readField? Json.string? data "error_code"
  let errorMessage ← Json.readField? Json.string? data "error_message"
  return {
    id, original, target, stage, createdAt, startedAt, finishedAt, databaseBackup, uploadsBackup,
    rolledBack, cleanup, cleanupJournal, errorCode, errorMessage }

/-- The id is a UUID, and the times are times of the calendar. -/
structure Typed (task : UpdateTask) : Prop where
  id : ∃ id : Patterns.Uuid, task.id = String.ofList id.text
  original : task.original.Typed
  target : task.target.Typed
  createdAt : DateTime.InCalendar task.createdAt
  startedAt : ∀ instant ∈ task.startedAt, DateTime.InCalendar instant
  finishedAt : ∀ instant ∈ task.finishedAt, DateTime.InCalendar instant

theorem toDict_eq_some {task : UpdateTask} {json : Json PythonText} :
    task.toDict = some json ↔
      ∃ original target createdAt startedAt finishedAt, task.original.toDict = some original ∧
        task.target.toDict = some target ∧ datetimeToDict (some task.createdAt) = some createdAt ∧
        datetimeToDict task.startedAt = some startedAt ∧
        datetimeToDict task.finishedAt = some finishedAt ∧
        .object (Json.named (task.dictFields original target createdAt startedAt finishedAt)) =
          json := by
  simp only [toDict, Option.bind_eq_bind, Option.bind_eq_some_iff, Option.pure_def,
    Option.some.injEq]
  constructor
  · rintro ⟨_, h₁, _, h₂, _, h₃, _, h₄, _, h₅, built⟩
    exact ⟨_, _, _, _, _, h₁, h₂, h₃, h₄, h₅, built⟩
  · rintro ⟨_, _, _, _, _, h₁, h₂, h₃, h₄, h₅, built⟩
    exact ⟨_, h₁, _, h₂, _, h₃, _, h₄, _, h₅, built⟩

theorem fromDict_eq_some {readers : TextReaders} {payload : Json PythonText} {task : UpdateTask} :
    fromDict readers payload = some task ↔
      ∃ data, taskData? payload = some data ∧
        Json.readField? (idFromDict readers) data "id" = some task.id ∧
        Json.readField? (member? stages Stage.value) data "stage" = some task.stage ∧
        Json.readField? (member? cleanupStatuses CleanupStatus.value) data "cleanup" =
          some task.cleanup ∧
        Json.readField? (datetimeFromDict readers) data "created_at" = some task.createdAt ∧
        Json.readField? (ImageIdentity.fromDict readers) data "original" = some task.original ∧
        Json.readField? (ImageIdentity.fromDict readers) data "target" = some task.target ∧
        Json.readField? (nullableDatetimeFromDict readers) data "started_at" =
          some task.startedAt ∧
        Json.readField? (nullableDatetimeFromDict readers) data "finished_at" =
          some task.finishedAt ∧
        Json.readField? Json.string? data "database_backup" = some task.databaseBackup ∧
        Json.readField? Json.string? data "uploads_backup" = some task.uploadsBackup ∧
        Json.readField? Json.bool? data "rolled_back" = some task.rolledBack ∧
        journalFromDict data = some task.cleanupJournal ∧
        Json.readField? Json.string? data "error_code" = some task.errorCode ∧
        Json.readField? Json.string? data "error_message" = some task.errorMessage := by
  constructor
  · intro read
    obtain ⟨data, exact, read⟩ := Option.bind_eq_some_iff.mp read
    obtain ⟨id, h₁, read⟩ := Option.bind_eq_some_iff.mp read
    obtain ⟨stage, h₂, read⟩ := Option.bind_eq_some_iff.mp read
    obtain ⟨cleanup, h₃, read⟩ := Option.bind_eq_some_iff.mp read
    obtain ⟨createdAt, h₄, read⟩ := Option.bind_eq_some_iff.mp read
    obtain ⟨original, h₅, read⟩ := Option.bind_eq_some_iff.mp read
    obtain ⟨target, h₆, read⟩ := Option.bind_eq_some_iff.mp read
    obtain ⟨startedAt, h₇, read⟩ := Option.bind_eq_some_iff.mp read
    obtain ⟨finishedAt, h₈, read⟩ := Option.bind_eq_some_iff.mp read
    obtain ⟨databaseBackup, h₉, read⟩ := Option.bind_eq_some_iff.mp read
    obtain ⟨uploadsBackup, h₁₀, read⟩ := Option.bind_eq_some_iff.mp read
    obtain ⟨rolledBack, h₁₁, read⟩ := Option.bind_eq_some_iff.mp read
    obtain ⟨cleanupJournal, h₁₂, read⟩ := Option.bind_eq_some_iff.mp read
    obtain ⟨errorCode, h₁₃, read⟩ := Option.bind_eq_some_iff.mp read
    obtain ⟨errorMessage, h₁₄, read⟩ := Option.bind_eq_some_iff.mp read
    cases read
    exact ⟨data, exact, h₁, h₂, h₃, h₄, h₅, h₆, h₇, h₈, h₉, h₁₀, h₁₁, h₁₂, h₁₃, h₁₄⟩
  · rintro ⟨data, exact, h₁, h₂, h₃, h₄, h₅, h₆, h₇, h₈, h₉, h₁₀, h₁₁, h₁₂, h₁₃, h₁₄⟩
    refine Option.bind_eq_some_iff.mpr ⟨data, exact, ?_⟩
    refine Option.bind_eq_some_iff.mpr ⟨_, h₁, ?_⟩
    refine Option.bind_eq_some_iff.mpr ⟨_, h₂, ?_⟩
    refine Option.bind_eq_some_iff.mpr ⟨_, h₃, ?_⟩
    refine Option.bind_eq_some_iff.mpr ⟨_, h₄, ?_⟩
    refine Option.bind_eq_some_iff.mpr ⟨_, h₅, ?_⟩
    refine Option.bind_eq_some_iff.mpr ⟨_, h₆, ?_⟩
    refine Option.bind_eq_some_iff.mpr ⟨_, h₇, ?_⟩
    refine Option.bind_eq_some_iff.mpr ⟨_, h₈, ?_⟩
    refine Option.bind_eq_some_iff.mpr ⟨_, h₉, ?_⟩
    refine Option.bind_eq_some_iff.mpr ⟨_, h₁₀, ?_⟩
    refine Option.bind_eq_some_iff.mpr ⟨_, h₁₁, ?_⟩
    refine Option.bind_eq_some_iff.mpr ⟨_, h₁₂, ?_⟩
    refine Option.bind_eq_some_iff.mpr ⟨_, h₁₃, ?_⟩
    refine Option.bind_eq_some_iff.mpr ⟨_, h₁₄, ?_⟩
    rfl

theorem journalFromDict_dictFields (task : UpdateTask)
    (original target createdAt startedAt finishedAt : Json PythonText) :
    journalFromDict (Json.named (task.dictFields original target createdAt startedAt
      finishedAt)) = some task.cleanupJournal := by
  have found : Json.field? (Json.named (task.dictFields original target createdAt startedAt
      finishedAt)) "cleanup_journal" = some (journalToDict task.cleanupJournal) := by
    have read := Json.readField?_named some (task.dictFields original target createdAt startedAt
      finishedAt) "cleanup_journal"
    rw [Json.readField?, Option.bind_fun_some] at read
    exact read
  rw [journalFromDict, found]
  cases task.cleanupJournal with
  | none => rfl
  | some journal => exact Json.nullable?_of_some journal.fromDict_toDict journal.toDict_ne_null

theorem taskData?_dictFields (task : UpdateTask)
    (original target createdAt startedAt finishedAt : Json PythonText) :
    taskData? (.object (Json.named (task.dictFields original target createdAt startedAt
      finishedAt))) = some (Json.named (task.dictFields original target createdAt startedAt
        finishedAt)) := by
  have exact := @Json.exactObject?_named (task.dictFields original target createdAt startedAt
    finishedAt) updateTaskFields rfl
  rw [taskData?, exact]
  rfl

/-- The journal is read from the record of a task. -/
theorem journal_of_written {task : UpdateTask} {json : Json PythonText}
    (written : task.toDict = some json) :
    ∃ data, taskData? json = some data ∧ journalFromDict data = some task.cleanupJournal := by
  obtain ⟨original, target, createdAt, startedAt, finishedAt, -, -, -, -, -, rfl⟩ :=
    toDict_eq_some.mp written
  exact ⟨_, taskData?_dictFields task original target createdAt startedAt finishedAt,
    journalFromDict_dictFields task original target createdAt startedAt finishedAt⟩

theorem cleanupJournal_of_read {readers : TextReaders} {task loaded : UpdateTask}
    {json : Json PythonText} (written : task.toDict = some json)
    (read : fromDict readers json = some loaded) :
    loaded.cleanupJournal = task.cleanupJournal := by
  obtain ⟨data, taskData, journal⟩ := journal_of_written written
  obtain ⟨found, foundData, -, -, -, -, -, -, -, -, -, -, -, foundJournal, -, -⟩ :=
    fromDict_eq_some.mp read
  cases taskData.symm.trans foundData
  exact Option.some.inj (foundJournal.symm.trans journal)

theorem fromDict_toDict (readers : TextReaders) {task : UpdateTask}
    (canonical : ∃ id : Patterns.Uuid, task.id = String.ofList id.text) {json : Json PythonText}
    (written : task.toDict = some json) : fromDict readers json = some task := by
  obtain ⟨original, target, createdAt, startedAt, finishedAt, originalDict, targetDict, created,
    started, finished, rfl⟩ := toDict_eq_some.mp written
  obtain ⟨id, idText⟩ := canonical
  have idRead : idFromDict readers (.string task.id) = some task.id := by
    rw [idText, ofString, String.toList_ofList]
    simp only [idFromDict, Json.string?, Option.bind_eq_bind, Option.bind_some, readers.reads_uuid,
      Option.pure_def]
  have journal := journalFromDict_dictFields task original target createdAt startedAt finishedAt
  apply fromDict_eq_some.mpr
  refine ⟨_, taskData?_dictFields task original target createdAt startedAt finishedAt, ?_⟩
  simp only [Json.readField?_named]
  exact ⟨idRead, task.stage.member?_value, task.cleanup.member?_value,
    (datetimeFromDict_of_instant readers created).1,
    ImageIdentity.fromDict_toDict readers originalDict,
    ImageIdentity.fromDict_toDict readers targetDict,
    nullableDatetimeFromDict_of_written readers started,
    nullableDatetimeFromDict_of_written readers finished, rfl, rfl, rfl, journal, rfl, rfl⟩

theorem Typed.exists_toDict {task : UpdateTask} (typed : task.Typed) :
    ∃ json, task.toDict = some json := by
  obtain ⟨original, originalDict⟩ := ImageIdentity.exists_toDict typed.original
  obtain ⟨target, targetDict⟩ := ImageIdentity.exists_toDict typed.target
  obtain ⟨createdAt, created⟩ := exists_datetimeToDict_some typed.createdAt
  obtain ⟨startedAt, started⟩ := exists_datetimeToDict typed.startedAt
  obtain ⟨finishedAt, finished⟩ := exists_datetimeToDict typed.finishedAt
  exact ⟨_, toDict_eq_some.mpr ⟨original, target, createdAt, startedAt, finishedAt, originalDict,
    targetDict, created, started, finished, rfl⟩⟩

theorem toDict_ne_null {task : UpdateTask} {json : Json PythonText}
    (written : task.toDict = some json) : json ≠ .null := by
  obtain ⟨_, _, _, _, _, -, -, -, -, -, rfl⟩ := toDict_eq_some.mp written
  simp

theorem typed_of_fromDict {readers : TextReaders} {payload : Json PythonText} {task : UpdateTask}
    (read : fromDict readers payload = some task) : task.Typed := by
  obtain ⟨data, -, id, -, -, created, original, target, started, finished, -⟩ :=
    fromDict_eq_some.mp read
  obtain ⟨_, -, idRead⟩ := Json.readField?_eq_some.mp id
  obtain ⟨_, -, createdAt⟩ := Json.readField?_eq_some.mp created
  obtain ⟨_, -, originalRead⟩ := Json.readField?_eq_some.mp original
  obtain ⟨_, -, targetRead⟩ := Json.readField?_eq_some.mp target
  obtain ⟨_, -, startedAt⟩ := Json.readField?_eq_some.mp started
  obtain ⟨_, -, finishedAt⟩ := Json.readField?_eq_some.mp finished
  refine ⟨?_, ImageIdentity.typed_of_fromDict originalRead,
    ImageIdentity.typed_of_fromDict targetRead, inCalendar_of_datetimeFromDict createdAt,
    inCalendar_of_nullableDatetimeFromDict startedAt,
    inCalendar_of_nullableDatetimeFromDict finishedAt⟩
  simp only [idFromDict, Option.bind_eq_bind, Option.bind_eq_some_iff, Option.pure_def,
    Option.some.injEq] at idRead
  obtain ⟨text, -, uuid, -, same⟩ := idRead
  exact ⟨uuid, same.symm⟩

/-- The task with the pairs of its texts joined. -/
def joined (task : UpdateTask) : UpdateTask := { task with
  original := task.original.joined
  target := task.target.joined
  databaseBackup := joinPairs task.databaseBackup
  uploadsBackup := joinPairs task.uploadsBackup
  errorCode := joinPairs task.errorCode
  errorMessage := joinPairs task.errorMessage }

structure Unpaired (task : UpdateTask) : Prop where
  original : task.original.Unpaired
  target : task.target.Unpaired
  databaseBackup : PythonText.Unpaired task.databaseBackup
  uploadsBackup : PythonText.Unpaired task.uploadsBackup
  errorCode : PythonText.Unpaired task.errorCode
  errorMessage : PythonText.Unpaired task.errorMessage

theorem joined_eq_self_iff {task : UpdateTask} : task.joined = task ↔ task.Unpaired := by
  constructor
  · intro same
    exact ⟨ImageIdentity.joined_eq_self_iff.mp (congrArg original same),
      ImageIdentity.joined_eq_self_iff.mp (congrArg target same),
      joinPairs_eq_self_iff.mp (congrArg databaseBackup same),
      joinPairs_eq_self_iff.mp (congrArg uploadsBackup same),
      joinPairs_eq_self_iff.mp (congrArg errorCode same),
      joinPairs_eq_self_iff.mp (congrArg errorMessage same)⟩
  · intro unpaired
    rw [joined, ImageIdentity.joined_eq_self_iff.mpr unpaired.original,
      ImageIdentity.joined_eq_self_iff.mpr unpaired.target,
      joinPairs_of_unpaired unpaired.databaseBackup, joinPairs_of_unpaired unpaired.uploadsBackup,
      joinPairs_of_unpaired unpaired.errorCode, joinPairs_of_unpaired unpaired.errorMessage]

theorem unpaired_joined (task : UpdateTask) : task.joined.Unpaired where
  original := task.original.unpaired_joined
  target := task.target.unpaired_joined
  databaseBackup := unpaired_joinPairs _
  uploadsBackup := unpaired_joinPairs _
  errorCode := unpaired_joinPairs _
  errorMessage := unpaired_joinPairs _

theorem toDict_joined {task : UpdateTask} {json : Json PythonText}
    (written : task.toDict = some json) : task.joined.toDict = some json.joined := by
  obtain ⟨original, target, createdAt, startedAt, finishedAt, originalDict, targetDict, created,
    started, finished, rfl⟩ := toDict_eq_some.mp written
  have journal : (journalToDict task.cleanupJournal).joined =
      journalToDict task.cleanupJournal := by
    cases task.cleanupJournal with
    | none => rfl
    | some journal => exact journal.joined_toDict
  apply toDict_eq_some.mpr
  refine ⟨_, _, createdAt, startedAt, finishedAt, ImageIdentity.toDict_joined originalDict,
    ImageIdentity.toDict_joined targetDict, created, started, finished, ?_⟩
  rw [Json.joined_named]
  simp only [dictFields, joined, List.map_cons, List.map_nil, Json.joined, joinPairs_ofString,
    joined_datetimeToDict created, joined_datetimeToDict started, joined_datetimeToDict finished,
    journal]

theorem Typed.joined {task : UpdateTask} (typed : task.Typed) : task.joined.Typed :=
  ⟨typed.id, typed.original, typed.target, typed.createdAt, typed.startedAt, typed.finishedAt⟩

end UpdateTask

/-! ## The state -/

structure PersistentState where
  lastCheck : Option CheckResult := none
  task : Option UpdateTask := none
deriving DecidableEq

def persistentStateFields : List String := ["last_check", "task"]

/-- A record, or `null` for one that is absent. -/
def recordToDict {α : Type} (toDict : α → Option (Json PythonText)) :
    Option α → Option (Json PythonText)
  | some record => toDict record
  | none => some .null

section Records

variable {α : Type} {toDict : α → Option (Json PythonText)}

/-- An optional record is read back, given that of a record. -/
theorem recordToDict_spec {fromDict : Json PythonText → Option α} {record : Option α}
    (typed : α → Prop) (writes : ∀ record, typed record → ∃ json, toDict record = some json)
    (reads : ∀ record, typed record → ∀ {json}, toDict record = some json →
      fromDict json = some record)
    (present : ∀ {record json}, toDict record = some json → json ≠ .null)
    (allTyped : ∀ other ∈ record, typed other) :
    ∃ json, recordToDict toDict record = some json ∧
      Json.nullable? fromDict json = some record := by
  cases record with
  | none => exact ⟨.null, rfl, rfl⟩
  | some record =>
      obtain ⟨json, written⟩ := writes record (allTyped record rfl)
      have read := reads record (allTyped record rfl) written
      exact ⟨json, written, Json.nullable?_of_some read (present written)⟩

theorem recordToDict_joined {record : Option α} {joined : α → α} {json : Json PythonText}
    (joins : ∀ {record json}, toDict record = some json →
      toDict (joined record) = some json.joined)
    (written : recordToDict toDict record = some json) :
    recordToDict toDict (record.map joined) = some json.joined := by
  cases record with
  | none =>
      cases written
      rfl
  | some record => exact joins written

theorem writable_recordToDict {record : Option α} {json : Json PythonText}
    (writable : ∀ {record json}, toDict record = some json → json.Writable)
    (written : recordToDict toDict record = some json) : json.Writable := by
  cases record with
  | none =>
      cases written
      exact .null
  | some record => exact writable written

end Records

namespace PersistentState

def dictFields (lastCheck task : Json PythonText) : List (String × Json PythonText) := [
  ("last_check", lastCheck),
  ("task", task)]

def toDict (state : PersistentState) : Option (Json PythonText) := do
  let lastCheck ← recordToDict CheckResult.toDict state.lastCheck
  let task ← recordToDict UpdateTask.toDict state.task
  return .object (Json.named (dictFields lastCheck task))

def fromDict (readers : TextReaders) (payload : Json PythonText) : Option PersistentState := do
  let data ← payload.exactObject? (persistentStateFields.map ofString)
  let lastCheck ← Json.readField? (Json.nullable? (CheckResult.fromDict readers)) data "last_check"
  let task ← Json.readField? (Json.nullable? (UpdateTask.fromDict readers)) data "task"
  return { lastCheck, task }

/-- The records of a state hold values of the types of their fields. -/
structure Typed (state : PersistentState) : Prop where
  lastCheck : ∀ result ∈ state.lastCheck, result.Typed
  task : ∀ task ∈ state.task, task.Typed

theorem toDict_eq_some {state : PersistentState} {json : Json PythonText} :
    state.toDict = some json ↔
      ∃ lastCheck task, recordToDict CheckResult.toDict state.lastCheck = some lastCheck ∧
        recordToDict UpdateTask.toDict state.task = some task ∧
        .object (Json.named (dictFields lastCheck task)) = json := by
  simp only [toDict, Option.bind_eq_bind, Option.bind_eq_some_iff, Option.pure_def,
    Option.some.injEq]
  constructor
  · rintro ⟨lastCheck, h₁, task, h₂, built⟩
    exact ⟨lastCheck, task, h₁, h₂, built⟩
  · rintro ⟨lastCheck, task, h₁, h₂, built⟩
    exact ⟨lastCheck, h₁, task, h₂, built⟩

theorem fromDict_eq_some {readers : TextReaders} {payload : Json PythonText}
    {state : PersistentState} :
    fromDict readers payload = some state ↔
      ∃ data, payload.exactObject? (persistentStateFields.map ofString) = some data ∧
        Json.readField? (Json.nullable? (CheckResult.fromDict readers)) data "last_check" =
          some state.lastCheck ∧
        Json.readField? (Json.nullable? (UpdateTask.fromDict readers)) data "task" =
          some state.task := by
  simp only [fromDict, Option.bind_eq_bind, Option.bind_eq_some_iff, Option.pure_def,
    Option.some.injEq]
  constructor
  · rintro ⟨data, exact, _, h₁, _, h₂, rfl⟩
    exact ⟨data, exact, h₁, h₂⟩
  · rintro ⟨data, exact, h₁, h₂⟩
    exact ⟨data, exact, _, h₁, _, h₂, rfl⟩

/-- A state of typed records has a dict, which is read as that state. -/
theorem Typed.fromDict_toDict {state : PersistentState} (typed : state.Typed)
    (readers : TextReaders) :
    ∃ json, state.toDict = some json ∧ fromDict readers json = some state := by
  obtain ⟨lastCheck, lastCheckDict, lastCheckRead⟩ := recordToDict_spec CheckResult.Typed
    (fun _ typed => typed.exists_toDict) (fun _ _ => CheckResult.fromDict_toDict readers)
    CheckResult.toDict_ne_null typed.lastCheck
  obtain ⟨task, taskDict, taskRead⟩ := recordToDict_spec UpdateTask.Typed
    (fun _ typed => typed.exists_toDict)
    (fun _ typed => UpdateTask.fromDict_toDict readers typed.id)
    UpdateTask.toDict_ne_null typed.task
  refine ⟨_, toDict_eq_some.mpr ⟨lastCheck, task, lastCheckDict, taskDict, rfl⟩, ?_⟩
  apply fromDict_eq_some.mpr
  refine ⟨_, Json.exactObject?_named rfl, ?_⟩
  simp only [Json.readField?_named]
  exact ⟨lastCheckRead, taskRead⟩

/-- Whatever was read is typed, with or without a journal and in any spelling. -/
theorem typed_of_fromDict {readers : TextReaders} {payload : Json PythonText}
    {state : PersistentState}
    (read : fromDict readers payload = some state) : state.Typed := by
  obtain ⟨data, -, lastCheck, task⟩ := fromDict_eq_some.mp read
  obtain ⟨_, -, lastCheckRead⟩ := Json.readField?_eq_some.mp lastCheck
  obtain ⟨_, -, taskRead⟩ := Json.readField?_eq_some.mp task
  constructor
  · intro result member
    rw [Option.mem_def.mp member] at lastCheckRead
    exact CheckResult.typed_of_fromDict (Json.of_nullable?_eq_some lastCheckRead).1
  · intro task member
    rw [Option.mem_def.mp member] at taskRead
    exact UpdateTask.typed_of_fromDict (Json.of_nullable?_eq_some taskRead).1

def joined (state : PersistentState) : PersistentState where
  lastCheck := state.lastCheck.map CheckResult.joined
  task := state.task.map UpdateTask.joined

/-- No text of the state has two halves in a row that stand for a character. -/
structure Unpaired (state : PersistentState) : Prop where
  lastCheck : ∀ result ∈ state.lastCheck, result.Unpaired
  task : ∀ task ∈ state.task, task.Unpaired

theorem joined_eq_self_iff {state : PersistentState} : state.joined = state ↔ state.Unpaired := by
  have checks : state.lastCheck.map CheckResult.joined = state.lastCheck ↔
      ∀ result ∈ state.lastCheck, result.Unpaired := by
    cases state.lastCheck with
    | none => simp
    | some result => simp [CheckResult.joined_eq_self_iff]
  have tasks : state.task.map UpdateTask.joined = state.task ↔
      ∀ task ∈ state.task, task.Unpaired := by
    cases state.task with
    | none => simp
    | some task => simp [UpdateTask.joined_eq_self_iff]
  constructor
  · intro same
    exact ⟨checks.mp (congrArg lastCheck same), tasks.mp (congrArg task same)⟩
  · intro unpaired
    rw [joined, checks.mpr unpaired.lastCheck, tasks.mpr unpaired.task]

theorem unpaired_joined (state : PersistentState) : state.joined.Unpaired where
  lastCheck := by
    intro result member
    obtain ⟨other, -, rfl⟩ := Option.map_eq_some_iff.mp member
    exact other.unpaired_joined
  task := by
    intro task member
    obtain ⟨other, -, rfl⟩ := Option.map_eq_some_iff.mp member
    exact other.unpaired_joined

theorem toDict_joined {state : PersistentState} {json : Json PythonText}
    (written : state.toDict = some json) : state.joined.toDict = some json.joined := by
  obtain ⟨lastCheck, task, lastCheckDict, taskDict, rfl⟩ := toDict_eq_some.mp written
  apply toDict_eq_some.mpr
  refine ⟨_, _, recordToDict_joined CheckResult.toDict_joined lastCheckDict,
    recordToDict_joined UpdateTask.toDict_joined taskDict, ?_⟩
  rw [Json.joined_named]
  rfl

theorem Typed.joined {state : PersistentState} (typed : state.Typed) : state.joined.Typed where
  lastCheck := by
    intro result member
    obtain ⟨other, otherMem, rfl⟩ := Option.map_eq_some_iff.mp member
    exact (typed.lastCheck other otherMem).joined
  task := by
    intro task member
    obtain ⟨other, otherMem, rfl⟩ := Option.map_eq_some_iff.mp member
    exact (typed.task other otherMem).joined

end PersistentState

/-! ## Texts of the records -/

theorem writable_journalToDict (journal : Option CleanupJournal) :
    (journalToDict journal).Writable := by
  cases journal with
  | none => exact .null
  | some journal => exact journal.writable_toDict

theorem ImageIdentity.writable_toDict {identity : ImageIdentity} {json : Json PythonText}
    (written : identity.toDict = some json) : json.Writable := by
  obtain ⟨publishedAt, published, rfl⟩ := Option.map_eq_some_iff.mp written
  refine .named (by decide : imageIdentityFields.Nodup) ?_
  have tags : (Json.array (identity.tags.map .string)).Writable := by
    refine .array fun item member => ?_
    obtain ⟨tag, -, rfl⟩ := List.mem_map.mp member
    exact .string tag
  simp only [dictFields, List.forall_mem_cons, List.not_mem_nil, false_imp_iff, implies_true,
    and_true]
  exact ⟨.string _, .string _, .string _, .string _, tags, .string _,
    writable_datetimeToDict published⟩

theorem CheckResult.writable_toDict {result : CheckResult} {json : Json PythonText}
    (written : result.toDict = some json) : json.Writable := by
  obtain ⟨current, target, checkedAt, currentDict, targetDict, checked, rfl⟩ :=
    toDict_eq_some.mp written
  refine .named (by decide : checkResultFields.Nodup) ?_
  simp only [dictFields, List.forall_mem_cons, List.not_mem_nil, false_imp_iff, implies_true,
    and_true]
  exact ⟨ImageIdentity.writable_toDict currentDict, ImageIdentity.writable_toDict targetDict,
    .bool _, writable_datetimeToDict checked⟩

theorem UpdateTask.writable_toDict {task : UpdateTask} {json : Json PythonText}
    (written : task.toDict = some json) : json.Writable := by
  obtain ⟨original, target, createdAt, startedAt, finishedAt, originalDict, targetDict, created,
    started, finished, rfl⟩ := toDict_eq_some.mp written
  refine .named (by decide : updateTaskFields.Nodup) ?_
  simp only [dictFields, List.forall_mem_cons, List.not_mem_nil, false_imp_iff, implies_true,
    and_true]
  exact ⟨.string _, ImageIdentity.writable_toDict originalDict,
    ImageIdentity.writable_toDict targetDict, .string _, writable_datetimeToDict created,
    writable_datetimeToDict started, writable_datetimeToDict finished, .string _, .string _,
    .bool _, .string _, writable_journalToDict _, .string _, .string _⟩

theorem PersistentState.writable_toDict {state : PersistentState} {json : Json PythonText}
    (written : state.toDict = some json) : json.Writable := by
  obtain ⟨lastCheck, task, lastCheckDict, taskDict, rfl⟩ := toDict_eq_some.mp written
  refine .named (by decide : persistentStateFields.Nodup) ?_
  simp only [dictFields, List.forall_mem_cons, List.not_mem_nil, false_imp_iff, implies_true,
    and_true]
  exact ⟨writable_recordToDict CheckResult.writable_toDict lastCheckDict,
    writable_recordToDict UpdateTask.writable_toDict taskDict⟩

end Records

/-! ## The records of the manager -/

def CheckResult.stored (result : CheckResult) : Records.CheckResult where
  current := result.current.stored
  target := result.target.stored
  available := result.available
  checkedAt := result.checkedAt

def UpdateTask.stored (task : UpdateTask) : Records.UpdateTask where
  id := task.id
  original := task.original.stored
  target := task.target.stored
  stage := task.stage
  createdAt := task.createdAt
  startedAt := task.startedAt
  finishedAt := task.finishedAt
  databaseBackup := task.databaseBackup
  uploadsBackup := task.uploadsBackup
  rolledBack := task.rolledBack
  cleanup := task.cleanup
  cleanupJournal := task.cleanupJournal
  errorCode := task.errorCode
  errorMessage := task.errorMessage

def PersistentState.stored (state : PersistentState) : Records.PersistentState where
  lastCheck := state.lastCheck.map CheckResult.stored
  task := state.task.map UpdateTask.stored

theorem PersistentState.unpaired_stored (state : PersistentState) : state.stored.Unpaired where
  lastCheck := by
    intro result member
    obtain ⟨own, -, rfl⟩ := Option.map_eq_some_iff.mp member
    exact ⟨own.current.unpaired_stored, own.target.unpaired_stored⟩
  task := by
    intro task member
    obtain ⟨own, -, rfl⟩ := Option.map_eq_some_iff.mp member
    exact ⟨own.original.unpaired_stored, own.target.unpaired_stored, unpaired_ofString _,
      unpaired_ofString _, unpaired_ofString _, unpaired_ofString _⟩

end Finrec.Updater
