import Mathlib
import Finrec.Lib.CrashLogic
import Finrec.Lib.Digits
import Finrec.Lib.Json
import Finrec.Updater.Environment

/-!
# The atomic helper

The updater is brought to another version by a script that changes the tag of its
own image in the environment file.  The helper captures the file and what it is
to become, replaces the file as long as it is the one that was captured, and says
after a failure which of the two is there.  Nobody else writes during a call, so
a file that is opened is the file that was looked at.
-/

namespace Finrec.AtomicHelper

open Lines Updater CrashLogic

def maxEnvBytes : ℕ := 1048576

def updaterTagKey : String := "FINREC_UPDATER_IMAGE_TAG"

inductive FileKind where
  | regular
  | directory
  | other
deriving DecidableEq, Repr

/-- What `os.lstat` and `os.fstat` say, but for the size. -/
structure Status where
  kind : FileKind
  mode : ℕ
  uid : ℕ
  device : ℕ
  inode : ℕ
deriving DecidableEq, Repr

namespace Status

/-- A regular file of root that nobody else can open. -/
def IsPrivate (status : Status) : Prop :=
  status.kind = .regular ∧ status.mode = 0o600 ∧ status.uid = 0

instance (status : Status) : Decidable status.IsPrivate :=
  inferInstanceAs (Decidable (_ ∧ _ ∧ _))

/-- Only root can change what is there. -/
def IsTrusted (status : Status) (kind : FileKind) : Prop :=
  status.kind = kind ∧ status.uid = 0 ∧ status.mode &&& 0o022 = 0

instance (status : Status) (kind : FileKind) : Decidable (status.IsTrusted kind) :=
  inferInstanceAs (Decidable (_ ∧ _ ∧ _))

end Status

structure HostFile where
  status : Status
  bytes : ByteArray
deriving DecidableEq

/-- `handle.read(limit)`. -/
def HostFile.read (file : HostFile) (limit : ℕ) : ByteArray := file.bytes.extract 0 limit

/-- A file is read whole where the limit is not below its size. -/
theorem extract_all {bytes : ByteArray} {limit : ℕ} (enough : bytes.size ≤ limit) :
    bytes.extract 0 limit = bytes := by
  have whole := @ByteArray.extract_zero_max_size bytes limit
  rwa [max_eq_left enough] at whole

def readEnvironment (environment : Option HostFile) : Option (ByteArray × Status) := do
  let linked ← environment
  guard (linked.status.IsPrivate ∧ linked.bytes.size ≤ maxEnvBytes)
  let payload := linked.read (maxEnvBytes + 1)
  guard (payload.size ≤ maxEnvBytes)
  some (payload, linked.status)

theorem readEnvironment_eq_some {environment : Option HostFile} {payload : ByteArray}
    {status : Status} : readEnvironment environment = some (payload, status) ↔
      ∃ file, environment = some file ∧ file.status.IsPrivate ∧ file.bytes.size ≤ maxEnvBytes ∧
        payload = file.bytes ∧ status = file.status := by
  simp only [readEnvironment, Option.bind_eq_bind, Option.bind_eq_some_iff, Option.guard_eq_some',
    exists_const, Option.some.injEq, Prod.mk.injEq]
  constructor
  · rintro ⟨file, rfl, ⟨isPrivate, small⟩, -, rfl, rfl⟩
    refine ⟨file, rfl, isPrivate, small, ?_, rfl⟩
    rw [HostFile.read, extract_all (by omega)]
  · rintro ⟨file, rfl, isPrivate, small, rfl, rfl⟩
    have all : file.read (maxEnvBytes + 1) = file.bytes := extract_all (by omega)
    exact ⟨file, rfl, ⟨isPrivate, small⟩, by rwa [all], all, rfl⟩

def statPayload (status : Status) : Json String :=
  let number (value : ℕ) := Json.number (String.ofList (Digits.natural value))
  .object [("device", number status.device), ("inode", number status.inode),
    ("mode", number status.mode), ("uid", number status.uid)]

/-- An `int` of Python that is not negative; the truth values are some too. -/
def statNumber? : Json String → Option ℕ
  | .number text => Digits.number? text.toList
  | .bool value => some (if value then 1 else 0)
  | _ => none

structure ExpectedStat where
  device : ℕ
  inode : ℕ
deriving DecidableEq, Repr

def expectedEnvironmentStat (payload : Json String) : Option ExpectedStat := do
  let fields ← Json.exactObject? ["device", "inode", "mode", "uid"] payload
  let device ← Json.readField? statNumber? fields "device"
  let inode ← Json.readField? statNumber? fields "inode"
  let mode ← Json.readField? statNumber? fields "mode"
  let uid ← Json.readField? statNumber? fields "uid"
  guard (mode = 0o600 ∧ uid = 0)
  some ⟨device, inode⟩

def Status.Is (status : Status) (expected : ExpectedStat) : Prop :=
  status.device = expected.device ∧ status.inode = expected.inode

instance (status : Status) (expected : ExpectedStat) : Decidable (status.Is expected) :=
  inferInstanceAs (Decidable (_ ∧ _))

/-! ## `capture` -/

/-- The application directory and the compose file next to the environment file. -/
structure Site where
  appIsResolved : Bool
  app : Status
  compose : Status

structure Captured where
  original : ByteArray
  target : ByteArray
  oldTag : String
  stat : Json String

/-- `rstrip("\r\n")`. -/
def rstripNewlines (line : List Char) : List Char :=
  line.rdropWhile fun character => character = '\r' || character = '\n'

/-- The keys so far, and the number and the value of the line of the updater. -/
structure LineScan where
  seen : List String := []
  updater : Option (ℕ × String) := none

def scanLine (scan : LineScan) (numbered : List Char × ℕ) : Option LineScan :=
  let line := rstripNewlines numbered.1
  if line = [] ∨ line.head? = some '#' then some scan
  else
    match matchEnvironmentLine line with
    | none => none
    | some (key, value) =>
        if key ∈ scan.seen then none
        else some {
          seen := key :: scan.seen
          updater := if key = updaterTagKey then some (numbered.2, value) else scan.updater }

def updaterTagLine (tag : String) : List Char := updaterTagKey.toList ++ '=' :: tag.toList

def captureEnvironment (site : Site) (environment : Option HostFile) (targetTag : String) :
    Option Captured := do
  guard (site.appIsResolved = true ∧ site.app.IsTrusted .directory)
  guard (site.compose.IsTrusted .regular)
  let (payload, status) ← readEnvironment environment
  let content ← decodeUtf8 payload
  let lines := splitlinesKeepends content
  let scan ← lines.zipIdx.foldlM scanLine {}
  let (index, oldTag) ← scan.updater
  guard (validateVersion oldTag = true)
  guard (oldTag ≠ targetTag)
  let completeLine ← lines[index]?
  let ending := completeLine.drop (rstripNewlines completeLine).length
  let target := encodeUtf8 (lines.set index (updaterTagLine targetTag ++ ending)).flatten
  guard (target ≠ payload)
  some ⟨payload, target, oldTag, statPayload status⟩

/-! ## `classify` -/

inductive Classified where
  | original
  | target (stat : Json String)

def classifyEnvironment (original target : ByteArray) (originalStat : Json String)
    (environment : Option HostFile) : Option Classified := do
  let expected ← expectedEnvironmentStat originalStat
  let (payload, opened) ← readEnvironment environment
  if payload = target then some (.target (statPayload opened))
  else if payload = original ∧ opened.Is expected then some .original
  else none

/-! ## `replace` -/

/-- How a step ends for the process that does it. -/
inductive Fate where
  | done
  | failed
  | died
deriving DecidableEq, Repr

structure Choice where
  fate : Fate := .done
  /-- The step takes effect although it fails or the process dies. -/
  applied : Bool := false
  /-- How much of a payload is written by a step that is not done. -/
  written : ℕ := 0
  /-- The file that is created. -/
  created : Status

/-- The files that a call sees or leaves.  `renamed` is no part of them: it says whether the
temporary file has taken the place of the environment file in this call. -/
structure Disk where
  environment : Option HostFile
  temporary : Option HostFile := none
  marker : Option ByteArray := none
  /-- A description that was cut short has no value. -/
  nextStat : Option (Option (Json String)) := none
  renamed : Bool := false

/-- A call of `fail`, or an error of the system or of a check. -/
inductive Failure where
  | exit
  | error
deriving DecidableEq, Repr

abbrev Process := Program Choice Disk Failure

def call (effect : Choice → Disk → Disk) : Process Unit :=
  .act fun choice disk =>
    match choice.fate with
    | .done => (.returned (), effect choice disk)
    | .failed => (.raised .error, if choice.applied then effect choice disk else disk)
    | .died => (.crashed, if choice.applied then effect choice disk else disk)

def look {α : Type} (failure : Failure) (found : Disk → Option α) : Process α :=
  .act fun choice disk =>
    match choice.fate with
    | .done =>
        match found disk with
        | some value => (.returned value, disk)
        | none => (.raised failure, disk)
    | .failed => (.raised .error, disk)
    | .died => (.crashed, disk)

/-- The part of a payload that a step writes. -/
def Choice.writes (choice : Choice) (payload : ByteArray) : ByteArray :=
  if choice.fate = .done then payload else payload.extract 0 choice.written

/-- What a replacement is told, and reads from private files at its start. -/
structure Replacement where
  source : ByteArray
  expected : ByteArray
  expectedStat : Json String
  hasMarker : Bool

def fsync : Process Unit := call fun _ disk => disk

def writeMarker (hasMarker : Bool) : Process Unit :=
  if hasMarker then do
    look .error fun disk => if disk.marker.isSome then none else some ()
    call fun choice disk =>
      { disk with marker := some (choice.writes "recovery-required".toUTF8) }
    fsync
  else return ()

def validateCurrentEnvironment (expected : ByteArray) (stat : ExpectedStat) : Process Unit :=
  look .error fun disk => do
    let linked ← disk.environment
    guard (linked.status.IsPrivate ∧ linked.status.Is stat)
    guard (linked.read (expected.size + 1) = expected)

def createTemporary : Process Unit :=
  call fun choice disk => { disk with temporary := some ⟨choice.created, ByteArray.empty⟩ }

/-- What is done while the temporary file is open. -/
def writeTemporary (source : ByteArray) (stat : ExpectedStat) : Process Status := do
  call fun _ disk => { disk with
    temporary := disk.temporary.map fun file => { file with status.mode := 0o600 } }
  call fun choice disk => { disk with
    temporary := disk.temporary.map fun file => { file with bytes := choice.writes source } }
  fsync
  let status ← look .error fun disk => disk.temporary.map (·.status)
  if status.IsPrivate ∧ ¬ status.Is stat then return status
  else Program.raise .error

/-- `os.replace(temporary_path, path)`. -/
def osReplace : Process Unit :=
  call fun _ disk =>
    { disk with environment := disk.temporary, temporary := none, renamed := true }

/-- The `finally` of `replace_environment`: the temporary file goes away if the block fails. -/
def removingTemporary {α : Type} (block : Process α) : Process α := do
  match ← Program.attempt some block with
  | .ok value => return value
  | .error failure =>
      call fun _ disk => { disk with temporary := none }
      Program.raise failure

def validateReplacedEnvironment (source : ByteArray) (stat : ExpectedStat) (temporary : Status) :
    Process Status :=
  look .error fun disk => do
    let opened ← disk.environment
    guard (opened.status.IsPrivate ∧ opened.status.device = temporary.device ∧
      opened.status.inode = temporary.inode ∧ ¬ opened.status.Is stat)
    guard (opened.read (source.size + 1) = source)
    some opened.status

def writeNextStat (status : Status) : Process Unit := do
  look .error fun disk => if disk.nextStat.isSome then none else some ()
  call fun choice disk => { disk with
    nextStat := some (if choice.fate = .done then some (statPayload status) else none) }

def replaceEnvironment (replacement : Replacement) : Process Unit := do
  let stat ← look .exit fun _ => expectedEnvironmentStat replacement.expectedStat
  writeMarker replacement.hasMarker
  validateCurrentEnvironment replacement.expected stat
  createTemporary
  let temporary ← removingTemporary do
    let temporary ← writeTemporary replacement.source stat
    validateCurrentEnvironment replacement.expected stat
    osReplace
    return temporary
  fsync
  let replaced ← validateReplacedEnvironment replacement.source stat temporary
  writeNextStat replaced

end Finrec.AtomicHelper
