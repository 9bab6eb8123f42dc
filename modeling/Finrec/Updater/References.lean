import Finrec.Lib.Patterns
import Finrec.Updater.CrashSafety
import Finrec.Updater.Requests

/-!
# Image references

The platform makes the alias of a rollback from the id of the task, and reads it
back through hand-written patterns.  The server accepts every id in the
canonical spelling of a UUID; the patterns ask for a UUID of the usual variant.
-/

namespace Finrec.Updater

open Patterns

/-- The test of the start endpoint on the text of a task id. -/
def acceptsTaskId (value : String) : Bool :=
  Uuid.isCanonical value.toList

namespace DockerPlatform

def webRepository : String := "ghcr.io/s450586793/finance-reconciliation-web"

def aliasRepository : String := "finance-reconciliation-rollback-web:"

/-- `[89ab]`. -/
def isUsualVariant (character : Char) : Bool :=
  character = '8' || character = '9' || character = 'a' || character = 'b'

def digestClasses : List (Char → Bool) :=
  literal "sha256:".toList ++ List.replicate 64 isHex

def isDigest (value : String) : Bool :=
  fits digestClasses value.toList

def aliasClasses : List (Char → Bool) :=
  literal aliasRepository.toList ++ Uuid.classes isUsualVariant

def isAlias (reference : String) : Bool :=
  fits aliasClasses reference.toList

def versionTag (version : String) : String := webRepository ++ ":" ++ version

def isOriginal (original : ImageIdentity) (aliasOptional : Bool) : Bool :=
  validateVersion original.version && original.repository = webRepository &&
    isDigest original.digest && isDigest original.imageId &&
    original.tags = [versionTag original.version] &&
    (isAlias original.rollbackAlias || aliasOptional && original.rollbackAlias = "")

def isRecordedTarget (target : ImageIdentity) : Bool :=
  validateVersion target.version && target.repository = webRepository &&
    isDigest target.digest && isDigest target.imageId &&
    target.tags = [versionTag target.version] && target.rollbackAlias = ""

/-- A reference by digest, by version tag, or by the alias of a rollback. -/
def isWebImageReference (reference : String) : Bool :=
  fits (literal (webRepository ++ "@").toList ++ digestClasses) reference.toList ||
    (webRepository ++ ":").toList.isPrefixOf reference.toList &&
      validateVersion (String.ofList (reference.toList.drop (webRepository ++ ":").length)) ||
    isAlias reference

/-- The checks of `tag_rollback` before it looks at the container. -/
def admitsTag (task : UpdateTask) : Bool :=
  (task.original.rollbackAlias = "" || task.original.rollbackAlias = aliasOf task.id) &&
    isOriginal task.original true

/-- The checks of `start_rollback` before it looks at the image. -/
def admitsRollback (task : UpdateTask) : Bool :=
  task.original.rollbackAlias = aliasOf task.id && isOriginal task.original false

/-- The checks of the cleanup on the two images, apart from the alias. -/
def separatesImages (task : UpdateTask) : Bool :=
  isRecordedTarget task.target && task.original.repository = task.target.repository &&
    task.original.version ≠ task.target.version && task.original.digest ≠ task.target.digest &&
    task.original.imageId ≠ task.target.imageId

def validateCleanupTask (task : UpdateTask) : Bool :=
  isOriginal task.original false && task.original.rollbackAlias = aliasOf task.id &&
    separatesImages task

/-- The task as `tag_rollback` leaves it. -/
def tagged (task : UpdateTask) : UpdateTask :=
  { task with original := { task.original with rollbackAlias := aliasOf task.id } }

/-- Everything that later reads the alias of a task accepts it. -/
structure RecognisesAlias (task : UpdateTask) : Prop where
  original : isOriginal (tagged task).original false = true
  rollback : admitsRollback (tagged task) = true
  cleanup : separatesImages task = true → validateCleanupTask (tagged task) = true
  container : isWebImageReference (aliasOf task.id) = true

/-- The digit of an id that tells the variant of the UUID, after the third hyphen. -/
def variantOf (taskId : String) : Option Char := taskId.toList[19]?

theorem aliasOf_toList (taskId : String) :
    (aliasOf taskId).toList = aliasRepository.toList ++ taskId.toList :=
  String.toList_append

theorem isAlias_aliasOf (taskId : String) :
    isAlias (aliasOf taskId) = fits (Uuid.classes isUsualVariant) taskId.toList := by
  unfold isAlias aliasClasses
  rw [aliasOf_toList, fits_literal_append]

theorem isWebImageReference_aliasOf (taskId : String) :
    isWebImageReference (aliasOf taskId) = isAlias (aliasOf taskId) := by
  have aliasHead : (aliasOf taskId).toList.head? = some 'f' := by
    rw [aliasOf_toList, List.head?_append, show aliasRepository.toList.head? = some 'f' by
      decide +kernel]
    rfl
  have webHead : ∀ suffix : String, (webRepository ++ suffix).toList.head? = some 'g' := by
    intro suffix
    rw [String.toList_append, List.head?_append, show webRepository.toList.head? = some 'g' by
      decide +kernel]
    rfl
  unfold isWebImageReference
  rw [fits_literal_of_head_ne (webHead "@") aliasHead (by decide),
    isPrefixOf_of_head_ne (webHead ":") aliasHead (by decide), Bool.false_and, Bool.false_or,
    Bool.false_or]

theorem isOriginal_tagged (task : UpdateTask) (tags : admitsTag task = true) :
    isOriginal (tagged task).original false = isAlias (aliasOf task.id) := by
  simp only [admitsTag, isOriginal, Bool.and_eq_true, decide_eq_true_eq] at tags
  simp [isOriginal, tagged, tags]

/-- The character that the patterns look at is the digit for the variant. -/
theorem isAlias_aliasOf_iff {taskId : String} (accepted : acceptsTaskId taskId = true) :
    isAlias (aliasOf taskId) = true ↔ ∃ digit ∈ variantOf taskId, isUsualVariant digit = true := by
  obtain ⟨id, canonical⟩ := Uuid.eq_text_of_isCanonical accepted
  rw [isAlias_aliasOf, canonical, Uuid.fits_classes_text, variantOf, canonical,
    Uuid.text_variant]
  simp

/-- The alias of an accepted task id is recognised by everything that later reads it exactly when
the digit for the variant of the UUID is one of `89ab`. -/
theorem alias_recognised_iff (task : UpdateTask) (accepted : acceptsTaskId task.id = true)
    (tags : admitsTag task = true) :
    RecognisesAlias task ↔ ∃ digit ∈ variantOf task.id, isUsualVariant digit = true := by
  rw [← isAlias_aliasOf_iff accepted]
  have original := isOriginal_tagged task tags
  constructor
  · intro recognises
    rw [← original]
    exact recognises.original
  · intro known
    rw [known] at original
    refine ⟨original, ?_, ?_, ?_⟩
    · simp only [admitsRollback, original, Bool.and_true]
      exact decide_eq_true rfl
    · intro separates
      have images : separatesImages (tagged task) = true := separates
      simp only [validateCleanupTask, original, images, Bool.true_and, Bool.and_true]
      exact decide_eq_true rfl
    · rw [isWebImageReference_aliasOf, known]

end DockerPlatform

namespace Sample

/-- An original that passes the checks before the tag. -/
def taggableImage : ImageIdentity where
  repository := "ghcr.io/s450586793/finance-reconciliation-web"
  version := "v0.2.0"
  digest := "sha256:0000000000000000000000000000000000000000000000000000000000000001"
  imageId := "sha256:0000000000000000000000000000000000000000000000000000000000000002"
  tags := ["ghcr.io/s450586793/finance-reconciliation-web:v0.2.0"]
  versionValid := originalImage.versionValid

def taggableTask (taskId : String) : UpdateTask where
  id := taskId
  original := taggableImage
  target := targetImage
  stage := .pulling
  createdAt := 0

def nilId : String := "00000000-0000-0000-0000-000000000000"

theorem admitsTag_taggableTask (taskId : String) :
    DockerPlatform.admitsTag (taggableTask taskId) = true := by
  have original : DockerPlatform.isOriginal taggableImage true = true := by decide +kernel
  simp only [DockerPlatform.admitsTag, taggableTask, original, Bool.and_true]
  rfl

end Sample

namespace DockerPlatform

/-- The nil UUID is accepted, and its alias is refused. -/
theorem alias_refused :
    ∃ task, acceptsTaskId task.id = true ∧ admitsTag task = true ∧
      admitsRollback (tagged task) = false ∧ isWebImageReference (aliasOf task.id) = false := by
  have refused : isAlias (aliasOf Sample.nilId) = false := by
    rw [isAlias_aliasOf]
    decide +kernel
  have original := isOriginal_tagged _ (Sample.admitsTag_taggableTask Sample.nilId)
  refine ⟨Sample.taggableTask Sample.nilId, by decide +kernel,
    Sample.admitsTag_taggableTask Sample.nilId, ?_, ?_⟩
  · simp only [admitsRollback, original]
    exact (congrArg _ refused).trans (Bool.and_false _)
  · rw [isWebImageReference_aliasOf]
    exact refused

theorem alias_recognised_random :
    RecognisesAlias (Sample.taggableTask "11111111-1111-4111-8111-111111111111") :=
  (alias_recognised_iff (Sample.taggableTask "11111111-1111-4111-8111-111111111111")
    (by decide +kernel) (Sample.admitsTag_taggableTask _)).mpr ⟨'8', by decide +kernel, by decide⟩

end DockerPlatform

end Finrec.Updater
