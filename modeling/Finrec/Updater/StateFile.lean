import Finrec.Lib.JsonText
import Finrec.Lib.Ordinals
import Finrec.Lib.Patterns
import Finrec.Updater.Types

/-!
# The state file

The records of the updater are written as JSON objects and read back through
strict decoders.  The texts of a record are any texts of Python, but a version is
one of its pattern.  The times of a record are of UTC, the id of a task is a UUID;
Python keeps both as values of their own types, so they are written in one
spelling and read in any.
-/

namespace Finrec.Updater

open Calendar Patterns PythonText

/-- The readers of the standard library that the decoders call. -/
structure TextReaders where
  /-- `datetime.fromisoformat`, where the text has an offset. -/
  fromisoformat : PythonText → Option DateTime
  /-- `UUID(text)`. -/
  uuid : PythonText → Option Patterns.Uuid
  reads_isoformat : ∀ moment : DateTime, fromisoformat (ofChars moment.isoformat) = some moment
  reads_uuid : ∀ id : Patterns.Uuid, uuid (ofChars id.text) = some id

/-- The time of UTC at an instant. -/
def utcMoment? (instant : ℤ) : Option DateTime :=
  if fits : (instant % dayMicros).toNat < 86400000000 then
    (Date.ofDay? (instant / dayMicros)).map fun date =>
      ⟨date, (instant % dayMicros).toNat, 0, fits, by decide, by decide⟩
  else none

theorem utcMoment?_eq_some {instant : ℤ} {moment : DateTime} :
    utcMoment? instant = some moment ↔ moment.offset = 0 ∧ moment.instant = instant := by
  have positive : 0 < dayMicros := by decide
  have below := Int.emod_lt_of_pos instant positive
  have nonneg := Int.emod_nonneg instant positive.ne'
  have split := Int.mul_ediv_add_emod instant dayMicros
  have fits : (instant % dayMicros).toNat < 86400000000 := by
    unfold dayMicros at below nonneg ⊢
    omega
  rw [utcMoment?, dif_pos fits, Option.map_eq_some_iff]
  constructor
  · rintro ⟨date, found, rfl⟩
    rw [Date.ofDay?_eq_some] at found
    refine ⟨rfl, ?_⟩
    simp only [DateTime.instant, found, Int.toNat_of_nonneg nonneg, zero_mul, sub_zero]
    rw [mul_comm]
    exact split
  · rintro ⟨noOffset, same⟩
    obtain ⟨date, time, offset, valid⟩ := moment
    simp only at noOffset
    subst noOffset
    simp only [DateTime.instant, zero_mul, sub_zero] at same
    have early := valid.1
    have days : instant / dayMicros = date.toDay := by
      unfold dayMicros at same ⊢
      omega
    have rest : instant % dayMicros = time := by
      unfold dayMicros at same ⊢
      omega
    refine ⟨date, ?_, ?_⟩
    · rw [days]
      exact Date.ofDay?_eq_some.mpr rfl
    · simp only [rest, Int.toNat_natCast]

/-- `_datetime_to_dict`. -/
def datetimeToDict : Option ℤ → Option (Json PythonText)
  | none => some .null
  | some instant => (utcMoment? instant).map fun moment => .string (ofChars moment.isoformat)

section

variable (readers : TextReaders)

/-- `_datetime_from_dict`. -/
def datetimeFromDict (payload : Json PythonText) : Option ℤ := do
  let text ← payload.string?
  let moment ← readers.fromisoformat text
  if moment.offset = 0 then some moment.instant else none

/-- `_datetime_from_dict(..., nullable=True)`. -/
def nullableDatetimeFromDict : Json PythonText → Option (Option ℤ) :=
  Json.nullable? (datetimeFromDict readers)

end

theorem datetimeFromDict_of_instant (readers : TextReaders) {instant : ℤ} {json : Json PythonText}
    (written : datetimeToDict (some instant) = some json) :
    datetimeFromDict readers json = some instant ∧ json ≠ .null := by
  obtain ⟨moment, found, rfl⟩ := Option.map_eq_some_iff.mp written
  obtain ⟨noOffset, same⟩ := utcMoment?_eq_some.mp found
  refine ⟨?_, by simp⟩
  simp [datetimeFromDict, Json.string?, readers.reads_isoformat, noOffset, same]

theorem nullableDatetimeFromDict_of_written (readers : TextReaders) {instant : Option ℤ}
    {json : Json PythonText} (written : datetimeToDict instant = some json) :
    nullableDatetimeFromDict readers json = some instant := by
  cases instant with
  | none =>
      cases Option.some.inj written
      rfl
  | some instant =>
      obtain ⟨found, present⟩ := datetimeFromDict_of_instant readers written
      exact Json.nullable?_of_some found present

theorem joined_datetimeToDict {instant : Option ℤ} {json : Json PythonText}
    (written : datetimeToDict instant = some json) : json.joined = json := by
  cases instant with
  | none =>
      cases Option.some.inj written
      rfl
  | some instant =>
      obtain ⟨moment, -, rfl⟩ := Option.map_eq_some_iff.mp written
      rw [Json.joined, joinPairs_ofChars]

/-! ## Identities of images -/

def imageIdentityFields : List String :=
  ["repository", "version", "digest", "image_id", "tags", "rollback_alias", "published_at"]

namespace Records

/-- An identity as Python holds it. -/
@[ext]
structure ImageIdentity where
  repository : PythonText
  version : String
  digest : PythonText
  imageId : PythonText
  tags : List PythonText
  rollbackAlias : PythonText
  publishedAt : Option ℤ
  versionValid : validateVersion version = true

namespace ImageIdentity

instance : DecidableEq ImageIdentity :=
  fun _ _ => decidable_of_iff _ ImageIdentity.ext_iff.symm

def dictFields (identity : ImageIdentity) (publishedAt : Json PythonText) :
    List (String × Json PythonText) := [
  ("repository", .string identity.repository),
  ("version", .string identity.version),
  ("digest", .string identity.digest),
  ("image_id", .string identity.imageId),
  ("tags", .array (identity.tags.map .string)),
  ("rollback_alias", .string identity.rollbackAlias),
  ("published_at", publishedAt)]

def toDict (identity : ImageIdentity) : Option (Json PythonText) :=
  (datetimeToDict identity.publishedAt).map fun publishedAt =>
    .object (Json.named (identity.dictFields publishedAt))

def fromDict (readers : TextReaders) (payload : Json PythonText) : Option ImageIdentity := do
  let data ← payload.exactObject? (imageIdentityFields.map ofString)
  let repository ← Json.readField? Json.string? data "repository"
  let versionText ← Json.readField? Json.string? data "version"
  let digest ← Json.readField? Json.string? data "digest"
  let imageId ← Json.readField? Json.string? data "image_id"
  let rollbackAlias ← Json.readField? Json.string? data "rollback_alias"
  let tags ← Json.readField? Json.strings? data "tags"
  let publishedAt ← Json.readField? (nullableDatetimeFromDict readers) data "published_at"
  let version ← toString? versionText
  if versionValid : validateVersion version = true then
    some { repository, version, digest, imageId, tags, rollbackAlias, publishedAt, versionValid }
  else none

theorem fromDict_eq_some {readers : TextReaders} {payload : Json PythonText}
    {identity : ImageIdentity} :
    fromDict readers payload = some identity ↔
      ∃ data, payload.exactObject? (imageIdentityFields.map ofString) = some data ∧
        Json.readField? Json.string? data "repository" = some identity.repository ∧
        (∃ text, Json.readField? Json.string? data "version" = some text ∧
          toString? text = some identity.version) ∧
        Json.readField? Json.string? data "digest" = some identity.digest ∧
        Json.readField? Json.string? data "image_id" = some identity.imageId ∧
        Json.readField? Json.string? data "rollback_alias" = some identity.rollbackAlias ∧
        Json.readField? Json.strings? data "tags" = some identity.tags ∧
        Json.readField? (nullableDatetimeFromDict readers) data "published_at" =
          some identity.publishedAt := by
  simp only [fromDict, Option.bind_eq_bind, Option.bind_eq_some_iff]
  constructor
  · rintro ⟨data, exact, repository, h₁, text, h₂, digest, h₃, imageId, h₄, rollbackAlias, h₅,
      tags, h₆, publishedAt, h₇, version, isVersion, built⟩
    split_ifs at built
    cases built
    exact ⟨data, exact, h₁, ⟨text, h₂, isVersion⟩, h₃, h₄, h₅, h₆, h₇⟩
  · rintro ⟨data, exact, h₁, ⟨text, h₂, isVersion⟩, h₃, h₄, h₅, h₆, h₇⟩
    exact ⟨data, exact, _, h₁, text, h₂, _, h₃, _, h₄, _, h₅, _, h₆, _, h₇, _, isVersion,
      dif_pos identity.versionValid⟩

theorem fromDict_toDict (readers : TextReaders) {identity : ImageIdentity} {json : Json PythonText}
    (written : identity.toDict = some json) : fromDict readers json = some identity := by
  obtain ⟨publishedAt, published, rfl⟩ := Option.map_eq_some_iff.mp written
  apply fromDict_eq_some.mpr
  refine ⟨Json.named (identity.dictFields publishedAt), Json.exactObject?_named rfl, ?_⟩
  simp only [Json.readField?_named]
  exact ⟨rfl, ⟨_, rfl, toString?_ofString _⟩, rfl, rfl, rfl, Json.strings?_array identity.tags,
    nullableDatetimeFromDict_of_written readers published⟩

/-- The identity with the pairs of its texts joined. -/
def joined (identity : ImageIdentity) : ImageIdentity := { identity with
  repository := joinPairs identity.repository
  digest := joinPairs identity.digest
  imageId := joinPairs identity.imageId
  tags := identity.tags.map joinPairs
  rollbackAlias := joinPairs identity.rollbackAlias }

/-- No text of the identity has two halves in a row that stand for a character. -/
structure Unpaired (identity : ImageIdentity) : Prop where
  repository : PythonText.Unpaired identity.repository
  digest : PythonText.Unpaired identity.digest
  imageId : PythonText.Unpaired identity.imageId
  tags : ∀ tag ∈ identity.tags, PythonText.Unpaired tag
  rollbackAlias : PythonText.Unpaired identity.rollbackAlias

theorem joined_eq_self_iff {identity : ImageIdentity} :
    identity.joined = identity ↔ identity.Unpaired := by
  have tags : identity.tags.map joinPairs = identity.tags ↔
      ∀ tag ∈ identity.tags, PythonText.Unpaired tag := by
    simp only [← joinPairs_eq_self_iff]
    conv_lhs => rhs; rw [← List.map_id identity.tags]
    exact List.map_inj_left
  constructor
  · intro same
    exact ⟨joinPairs_eq_self_iff.mp (congrArg repository same),
      joinPairs_eq_self_iff.mp (congrArg digest same),
      joinPairs_eq_self_iff.mp (congrArg imageId same),
      tags.mp (congrArg ImageIdentity.tags same),
      joinPairs_eq_self_iff.mp (congrArg rollbackAlias same)⟩
  · intro unpaired
    rw [joined, joinPairs_of_unpaired unpaired.repository, joinPairs_of_unpaired unpaired.digest,
      joinPairs_of_unpaired unpaired.imageId, tags.mpr unpaired.tags,
      joinPairs_of_unpaired unpaired.rollbackAlias]

theorem unpaired_joined (identity : ImageIdentity) : identity.joined.Unpaired where
  repository := unpaired_joinPairs _
  digest := unpaired_joinPairs _
  imageId := unpaired_joinPairs _
  tags := by
    intro tag member
    obtain ⟨other, -, rfl⟩ := List.mem_map.mp member
    exact unpaired_joinPairs other
  rollbackAlias := unpaired_joinPairs _

theorem toDict_joined {identity : ImageIdentity} {json : Json PythonText}
    (written : identity.toDict = some json) : identity.joined.toDict = some json.joined := by
  obtain ⟨publishedAt, published, rfl⟩ := Option.map_eq_some_iff.mp written
  have items (tags : List PythonText) :
      Json.joinedItems (tags.map .string) = (tags.map joinPairs).map .string := by
    induction tags with
    | nil => rfl
    | cons tag tags ih => simp only [List.map_cons, Json.joinedItems, Json.joined, ih]
  rw [toDict, joined, published, Option.map_some, Json.joined_named]
  simp only [dictFields, List.map_cons, List.map_nil, Json.joined, joinPairs_ofString, items,
    joined_datetimeToDict published]

end ImageIdentity

end Records

/-- The identity as it is stored. -/
def ImageIdentity.stored (identity : ImageIdentity) : Records.ImageIdentity where
  repository := identity.repository
  version := identity.version
  digest := identity.digest
  imageId := identity.imageId
  tags := identity.tags.map ofString
  rollbackAlias := identity.rollbackAlias
  publishedAt := identity.publishedAt
  versionValid := identity.versionValid

theorem ImageIdentity.unpaired_stored (identity : ImageIdentity) : identity.stored.Unpaired where
  repository := unpaired_ofString _
  digest := unpaired_ofString _
  imageId := unpaired_ofString _
  tags := by
    intro tag member
    obtain ⟨text, -, rfl⟩ := List.mem_map.mp member
    exact unpaired_ofString text
  rollbackAlias := unpaired_ofString _

namespace Sample

/-- Readers of the spellings that Python writes. -/
def textReaders : TextReaders where
  fromisoformat text := (toString? text).bind fun text => DateTime.fromisoformat? text.toList
  uuid text := (toString? text).bind fun text => Patterns.Uuid.parse? text.toList
  reads_isoformat moment := by
    rw [toString?_ofChars, Option.bind_some, String.toList_ofList]
    exact DateTime.fromisoformat?_isoformat moment
  reads_uuid id := by
    rw [toString?_ofChars, Option.bind_some, String.toList_ofList]
    exact Patterns.Uuid.parse?_text id

end Sample

end Finrec.Updater
