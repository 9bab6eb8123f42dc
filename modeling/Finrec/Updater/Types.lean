import Finrec.Lib.Digits
import Mathlib.Data.Int.Notation

/-!
# The records of the updater

The updater keeps one `PersistentState`: the last check and at most one update
task.  Task ids are UUIDs in their canonical spelling, instants are microseconds
on the UTC time line.  The records carry the conditions that their constructors
check, so a state that could not be loaded cannot be built.
-/

namespace Finrec.Updater

inductive Stage where
  | checking
  | backingUp
  | pulling
  | stoppingWeb
  | migrating
  | startingWeb
  | checkingHealth
  | stabilizing
  | persistingVersion
  | cleaning
  | rollingBack
  | succeeded
  | failed
  | manualIntervention
deriving DecidableEq, Repr

inductive CleanupStatus where
  | notRun
  | complete
  | pending
deriving DecidableEq, Repr

inductive CleanupStep where
  | versionTag
  | rollbackAlias
  | imageId
deriving DecidableEq, Repr

inductive CleanupStepStatus where
  | notStarted
  | started
  | completed
deriving DecidableEq, Repr

/-- How far the cleanup came.  A step is begun only after the one before it is completed. -/
structure CleanupJournal where
  versionTag : CleanupStepStatus := .notStarted
  rollbackAlias : CleanupStepStatus := .notStarted
  imageId : CleanupStepStatus := .notStarted
  aliasAfterTag : rollbackAlias ≠ .notStarted → versionTag = .completed := by decide
  imageAfterAlias : imageId ≠ .notStarted → rollbackAlias = .completed := by decide
deriving DecidableEq

namespace CleanupJournal

/-- Nothing follows from a step that is not begun. -/
theorem untouched {status : CleanupStepStatus}
    (begun : CleanupStepStatus.notStarted ≠ .notStarted) : status = .completed := absurd rfl begun

/-- The field that records a step. -/
def status (journal : CleanupJournal) : CleanupStep → CleanupStepStatus
  | .versionTag => journal.versionTag
  | .rollbackAlias => journal.rollbackAlias
  | .imageId => journal.imageId

def build (versionTag rollbackAlias imageId : CleanupStepStatus) : Option CleanupJournal :=
  if aliasAfterTag : rollbackAlias ≠ .notStarted → versionTag = .completed then
    if imageAfterAlias : imageId ≠ .notStarted → rollbackAlias = .completed then
      some { versionTag, rollbackAlias, imageId, aliasAfterTag, imageAfterAlias }
    else none
  else none

/-- `dataclasses.replace` of one field: it runs the checks of the constructor again. -/
def replace (journal : CleanupJournal) (step : CleanupStep) (status : CleanupStepStatus) :
    Option CleanupJournal :=
  match step with
  | .versionTag => build status journal.rollbackAlias journal.imageId
  | .rollbackAlias => build journal.versionTag status journal.imageId
  | .imageId => build journal.versionTag journal.rollbackAlias status

end CleanupJournal

/-- A part of a version: `0` or digits without a leading zero. -/
def isVersionPart : List Char → Bool
  | [] => false
  | ['0'] => true
  | first :: rest =>
      '1' ≤ first && first ≤ '9' && rest.all fun digit => '0' ≤ digit && digit ≤ '9'

def validateVersion (value : String) : Bool :=
  match value.toList with
  | 'v' :: numbers =>
      match numbers.splitOn '.' with
      | [major, minor, patch] => isVersionPart major && isVersionPart minor && isVersionPart patch
      | _ => false
  | _ => false

/-- The three numbers of a version.  A part of more than 4300 digits, for which `int` raises, is read
here. -/
def versionKey (value : String) : Option (ℕ × ℕ × ℕ) :=
  if validateVersion value then
    match ((value.toList.drop 1).splitOn '.').map Digits.number? with
    | [some major, some minor, some patch] => some (major, minor, patch)
    | _ => none
  else none

/-- The order of the keys: the first number that differs decides. -/
def isNewer (later earlier : ℕ × ℕ × ℕ) : Bool :=
  earlier.1 < later.1 || earlier.1 = later.1 &&
    (earlier.2.1 < later.2.1 || earlier.2.1 = later.2.1 && earlier.2.2 < later.2.2)

structure ImageIdentity where
  repository : String
  version : String
  digest : String
  imageId : String
  tags : List String := []
  rollbackAlias : String := ""
  publishedAt : Option ℤ := none
  versionValid : validateVersion version = true := by decide

/-- The part of an identity that belongs to the image itself: its id and its version label.
Tags and digests are references to it that come and go. -/
structure Image where
  imageId : String
  version : String
deriving DecidableEq, Repr

def ImageIdentity.image (identity : ImageIdentity) : Image :=
  ⟨identity.imageId, identity.version⟩

structure CheckResult where
  current : ImageIdentity
  target : ImageIdentity
  available : Bool
  checkedAt : ℤ

structure UpdateTask where
  id : String
  original : ImageIdentity
  target : ImageIdentity
  stage : Stage
  createdAt : ℤ
  startedAt : Option ℤ := none
  finishedAt : Option ℤ := none
  databaseBackup : String := ""
  uploadsBackup : String := ""
  rolledBack : Bool := false
  cleanup : CleanupStatus := .notRun
  cleanupJournal : Option CleanupJournal := some {
    aliasAfterTag := CleanupJournal.untouched, imageAfterAlias := CleanupJournal.untouched }
  errorCode : String := ""
  errorMessage : String := ""

structure PersistentState where
  lastCheck : Option CheckResult := none
  task : Option UpdateTask := none

def publicErrorMessages : List (String × String) := [
  ("", ""),
  ("backup_failed", "备份失败，请联系管理员。"),
  ("pull_failed", "下载升级版本失败，请联系管理员。"),
  ("migration_failed", "升级失败，请联系管理员。"),
  ("health_check_failed", "升级后检查失败，请联系管理员。"),
  ("rollback_failed", "升级失败，需要人工处理。"),
  ("update_failed", "升级失败，请联系管理员。")]

/-- The code and the message that are shown; a code without a message is not shown. -/
def publicError (errorCode : String) : String × String :=
  match publicErrorMessages.lookup errorCode with
  | some message => (errorCode, message)
  | none => ("update_failed", "升级失败，请联系管理员。")

/-- What the updater tells about its task. -/
structure TaskView where
  id : String
  fromVersion : String
  toVersion : String
  stage : Stage
  createdAt : ℤ
  startedAt : Option ℤ
  finishedAt : Option ℤ
  backupComplete : Bool
  rolledBack : Bool
  cleanup : CleanupStatus
  errorCode : String
  errorMessage : String

structure StatusView where
  currentVersion : String
  currentPublishedAt : Option ℤ
  latestVersion : Option String
  latestPublishedAt : Option ℤ
  updateAvailable : Bool
  checkedAt : Option ℤ
  task : Option TaskView

def UpdateTask.publicView (task : UpdateTask) : TaskView where
  id := task.id
  fromVersion := task.original.version
  toVersion := task.target.version
  stage := task.stage
  createdAt := task.createdAt
  startedAt := task.startedAt
  finishedAt := task.finishedAt
  backupComplete := task.databaseBackup ≠ "" && task.uploadsBackup ≠ ""
  rolledBack := task.rolledBack
  cleanup := task.cleanup
  errorCode := (publicError task.errorCode).1
  errorMessage := (publicError task.errorCode).2

end Finrec.Updater
