import Finrec.Lib.Checks
import Finrec.Updater.StateRecords

/-!
# The store of the state

The state is one private file in a private directory.  A save writes a temporary
file and puts it in the place of the state file in one step; a load refuses
everything that a save would not have left there, and a link in the place of the
directory, through which a save goes.
-/

namespace Finrec.Updater

open Patterns PythonText

inductive LookupError where
  | notFound
  | failed
deriving DecidableEq

/-- What `lstat` tells of a path, and the bytes of a regular file. -/
inductive Node where
  | directory (permissions : ℕ)
  | regular (identity permissions : ℕ) (content : List UInt8)
  | directoryLink (permissions : ℕ)
  | other
deriving DecidableEq

/-- The state file and its directory. -/
structure StateFiles where
  parent : Except LookupError Node
  file : Except LookupError Node
  missing : parent = .error .notFound → file = .error .notFound

theorem StateFiles.present {node : Node} {file : Except LookupError Node}
    (missing : (.ok node : Except LookupError Node) = .error .notFound) :
    file = .error .notFound := by
  cases missing

inductive StoreError where
  | unsafeStatePath
  | stateTooLarge
  | invalidState
  | timestampMustBeUtc
  | osError
deriving DecidableEq

/-- The decoders of the state file; `json.loads` also takes texts of UTF-16 and UTF-32. -/
structure StoreReaders extends TextReaders where
  wide : List UInt8 → Option PythonText

namespace FileStateStore

def maxBytes : ℕ := 1048576

section Load

variable (readers : StoreReaders)

def parse (payload : List UInt8) : Except StoreError Records.PersistentState :=
  if maxBytes < payload.length then .error .stateTooLarge
  else
    match (Json.loadsBytes readers.wide payload).bind
        (Records.PersistentState.fromDict readers.toTextReaders) with
    | some state => .ok state
    | none => .error .invalidState

/-- `_read_validated_file`: what is opened must be the file that was looked at. -/
def readValidatedFile (expected : ℕ) : Except LookupError Node → Except StoreError (List UInt8)
  | .ok (.regular identity permissions content) =>
      if permissions = 0o600 ∧ identity = expected then .ok (content.take (maxBytes + 1))
      else .error .unsafeStatePath
  | _ => .error .unsafeStatePath

def loadFile (file opened : Except LookupError Node) : Except StoreError Records.PersistentState :=
  match file with
  | .error .notFound => .ok {}
  | .ok (.regular identity permissions content) =>
      if permissions ≠ 0o600 then .error .unsafeStatePath
      else if maxBytes < content.length then .error .stateTooLarge
      else (readValidatedFile identity opened).bind (parse readers)
  | _ => .error .unsafeStatePath

/-- The three looks of a load at its paths. -/
def loadLooking (parent file opened : Except LookupError Node) :
    Except StoreError Records.PersistentState :=
  match parent with
  | .error .notFound => .ok {}
  | .ok (.directory permissions) =>
      if permissions = 0o700 then loadFile readers file opened else .error .unsafeStatePath
  | _ => .error .unsafeStatePath

def load (files : StateFiles) : Except StoreError Records.PersistentState :=
  loadLooking readers files.parent files.file files.file

end Load

/-! ## Saving -/

inductive ReplaceStep where
  | makeDirectory
  | restrict
  | write
  | replace
  | sync
deriving DecidableEq

/-- What the operating system decides during a save. -/
structure Surroundings where
  fails : ReplaceStep → Bool := fun _ => false
  createdPermissions : ℕ := 0o755
  identity : ℕ := 0

/-- `mkdir(parents=True, exist_ok=True)`. -/
def makeParent (created : ℕ) : Except LookupError Node → Option Node
  | .error .notFound => some (.directory created)
  | .ok (.directory permissions) => some (.directory permissions)
  | .ok (.directoryLink permissions) => some (.directoryLink permissions)
  | _ => none

/-- `os.chmod(path, 0o700)` follows a link. -/
def restrict : Node → Node
  | .directory _ => .directory 0o700
  | .directoryLink _ => .directoryLink 0o700
  | node => node

def isDirectory : Except LookupError Node → Bool
  | .ok (.directory _) => true
  | _ => false

/-- Whether the replacement returned, and the files it left.  A temporary file that is not put in
place is removed. -/
def atomicPrivateReplace (around : Surroundings) (payload : List UInt8) (files : StateFiles) :
    Bool × StateFiles :=
  match if around.fails .makeDirectory then none
      else makeParent around.createdPermissions files.parent with
  | none => (false, files)
  | some parent =>
      if around.fails .restrict then (false, ⟨.ok parent, files.file, StateFiles.present⟩)
      else if around.fails .write || around.fails .replace || isDirectory files.file then
        (false, ⟨.ok (restrict parent), files.file, StateFiles.present⟩)
      else
        (!around.fails .sync, ⟨.ok (restrict parent),
          .ok (.regular around.identity 0o600 payload), StateFiles.present⟩)

def save (around : Surroundings) (state : Records.PersistentState) (files : StateFiles) :
    Except StoreError Unit × StateFiles :=
  match state.toDict with
  | none => (.error .timestampMustBeUtc, files)
  | some json =>
      let payload := Json.encode (Json.dumps json)
      if maxBytes < payload.length then (.error .stateTooLarge, files)
      else
        let replaced := atomicPrivateReplace around payload files
        (if replaced.1 then .ok () else .error .osError, replaced.2)

/-! ## A save and the load after it -/

section RoundTrip

variable {readers : StoreReaders} {around : Surroundings} {state : Records.PersistentState}
  {files : StateFiles} {payload : List UInt8} {json : Json PythonText}

/-- The parent is a link to a directory. -/
def isLink : Except LookupError Node → Bool
  | .ok (.directoryLink _) => true
  | _ => false

/-- No step fails, there is or can be a directory, and the path of the file is free or a file's. -/
structure CanReplace (around : Surroundings) (files : StateFiles) : Prop where
  works : ∀ step, around.fails step = false
  parent : (makeParent around.createdPermissions files.parent).isSome = true
  file : isDirectory files.file = false

theorem restrict_of_makeParent {created : ℕ} {node : Node}
    (made : makeParent created files.parent = some node) :
    restrict node = if isLink files.parent then .directoryLink 0o700 else .directory 0o700 := by
  cases parent : files.parent with
  | error reason =>
      rw [parent] at made
      cases reason with
      | notFound =>
          cases made
          rfl
      | failed => cases made
  | ok found =>
      rw [parent] at made
      cases found with
      | directory =>
          cases made
          rfl
      | directoryLink =>
          cases made
          rfl
      | regular | other => cases made

/-- A replacement that returns was possible, and has left the new file in the directory. -/
theorem atomicPrivateReplace_returned
    (returned : (atomicPrivateReplace around payload files).1 = true) :
    CanReplace around files ∧ (atomicPrivateReplace around payload files).2 =
      ⟨.ok (if isLink files.parent then .directoryLink 0o700 else .directory 0o700),
        .ok (.regular around.identity 0o600 payload), StateFiles.present⟩ := by
  rw [atomicPrivateReplace] at returned ⊢
  by_cases noDirectory : around.fails .makeDirectory = true
  · simp [noDirectory] at returned
  · simp only [noDirectory, Bool.false_eq_true, if_false] at returned ⊢
    cases made : makeParent around.createdPermissions files.parent with
    | none => simp [made] at returned
    | some node =>
        simp only [made, restrict_of_makeParent made] at returned ⊢
        by_cases noChange : around.fails .restrict = true
        · simp [noChange] at returned
        by_cases noFile : (around.fails .write || around.fails .replace ||
            isDirectory files.file) = true
        · simp [noChange, noFile] at returned
        simp only [noChange, noFile, Bool.false_eq_true, if_false, Bool.not_eq_true'] at returned ⊢
        simp only [Bool.or_eq_true, not_or, Bool.not_eq_true] at noFile
        refine ⟨⟨?_, by rw [made]; rfl, noFile.2⟩, trivial⟩
        intro step
        cases step with
        | makeDirectory => exact Bool.eq_false_of_not_eq_true noDirectory
        | restrict => exact Bool.eq_false_of_not_eq_true noChange
        | write => exact noFile.1.1
        | replace => exact noFile.1.2
        | sync => exact returned

theorem CanReplace.returns (can : CanReplace around files) :
    (atomicPrivateReplace around payload files).1 = true := by
  obtain ⟨node, made⟩ := Option.isSome_iff_exists.mp can.parent
  rw [atomicPrivateReplace, made]
  simp only [can.works, can.file, Bool.false_eq_true, if_false, Bool.or_self, Bool.not_false]

theorem load_private {identity : ℕ} (parent : files.parent = .ok (.directory 0o700))
    (file : files.file = .ok (.regular identity 0o600 payload))
    (fits : payload.length ≤ maxBytes) : load readers files = parse readers payload := by
  have notTooLarge : ¬ maxBytes < payload.length := Nat.not_lt_of_le fits
  have whole : payload.take (maxBytes + 1) = payload := List.take_of_length_le (by omega)
  simp only [load, loadLooking, parent, file, if_true, loadFile, ne_eq, not_true_eq_false,
    if_false, notTooLarge, readValidatedFile, and_self, whole]
  rfl

theorem parse_written (readers : StoreReaders) (typed : state.Typed)
    (written : state.toDict = some json)
    (fits : (Json.encode (Json.dumps json)).length ≤ maxBytes) :
    parse readers (Json.encode (Json.dumps json)) = .ok state.joined := by
  obtain ⟨other, otherWritten, read⟩ := typed.joined.fromDict_toDict readers.toTextReaders
  cases (Records.PersistentState.toDict_joined written).symm.trans otherWritten
  rw [parse, if_neg (Nat.not_lt_of_le fits),
    Json.loadsBytes_encode (Records.PersistentState.writable_toDict written), Option.bind_some,
    read]

/-- The dict of a state is read as the state; its text, and the file that a save leaves, are read as
the state with the pairs of its texts joined.  A save returns where the text is not too large and
the operating system does its part; a load does not go through a link. -/
structure RoundTrips (readers : StoreReaders) (state : Records.PersistentState)
    (json : Json PythonText) : Prop where
  written : state.toDict = some json
  dict : Records.PersistentState.fromDict readers.toTextReaders json = some state
  text : (Json.loads (ofChars (Json.dumps json))).bind
    (Records.PersistentState.fromDict readers.toTextReaders) = some state.joined
  saves : ∀ around files, (save around state files).1 = .ok () ↔
    (Json.encode (Json.dumps json)).length ≤ maxBytes ∧ CanReplace around files
  loads : ∀ around files, (save around state files).1 = .ok () →
    load readers (save around state files).2 =
      if isLink files.parent then .error .unsafeStatePath else .ok state.joined

theorem save_iff (written : state.toDict = some json) (around : Surroundings)
    (files : StateFiles) : (save around state files).1 = .ok () ↔
      (Json.encode (Json.dumps json)).length ≤ maxBytes ∧ CanReplace around files := by
  have possible : CanReplace around files ↔
      (atomicPrivateReplace around (Json.encode (Json.dumps json)) files).1 = true :=
    ⟨CanReplace.returns, fun returned => (atomicPrivateReplace_returned returned).1⟩
  rw [possible]
  simp only [save, written]
  by_cases large : maxBytes < (Json.encode (Json.dumps json)).length
  · simp [large]
  · simp only [if_neg large, Nat.le_of_not_lt large, true_and]
    split_ifs with returned <;> simp [returned]

theorem load_save (typed : state.Typed) (written : state.toDict = some json)
    (saved : (save around state files).1 = .ok ()) :
    load readers (save around state files).2 =
      if isLink files.parent then .error .unsafeStatePath else .ok state.joined := by
  obtain ⟨fits, can⟩ := (save_iff written around files).mp saved
  have leaves := (atomicPrivateReplace_returned
    (@CanReplace.returns around files (Json.encode (Json.dumps json)) can)).2
  simp only [save, written, if_neg (Nat.not_lt_of_le fits), leaves]
  by_cases link : isLink files.parent = true
  · simp only [link, if_true]
    rfl
  · simp only [link, if_false, Bool.false_eq_true]
    rw [load_private rfl rfl fits]
    exact parse_written readers typed written fits

theorem roundTrips_of_typed (readers : StoreReaders) (typed : state.Typed) :
    ∃ json, RoundTrips readers state json := by
  obtain ⟨json, written, dict⟩ := typed.fromDict_toDict readers.toTextReaders
  obtain ⟨other, otherWritten, read⟩ := typed.joined.fromDict_toDict readers.toTextReaders
  cases (Records.PersistentState.toDict_joined written).symm.trans otherWritten
  have text := Json.loads_dumps (Records.PersistentState.writable_toDict written)
  refine ⟨json, written, dict, ?_, save_iff written, fun _ _ => load_save typed written⟩
  rw [text, Option.bind_some, read]

/-- Every state of typed records makes the round trips, and so does every state that was read, from
whatever dict.  Joining changes a state just when two halves in a row stand for a character, and
never changes one twice; it does not change a state of the manager's own texts. -/
theorem persistent_state_round_trips (readers : StoreReaders) :
    (∀ state : Records.PersistentState, state.Typed → ∃ json, RoundTrips readers state json) ∧
    (∀ payload state,
      Records.PersistentState.fromDict readers.toTextReaders payload = some state →
        ∃ json, RoundTrips readers state json) ∧
    (∀ state : Records.PersistentState, (state.joined = state ↔ state.Unpaired) ∧
      state.joined.joined = state.joined) ∧
    ∀ state : PersistentState, state.stored.joined = state.stored := by
  refine ⟨fun _ typed => roundTrips_of_typed readers typed, ?_, fun state => ?_, fun state => ?_⟩
  · intro payload state read
    exact roundTrips_of_typed readers (Records.PersistentState.typed_of_fromDict read)
  · exact ⟨Records.PersistentState.joined_eq_self_iff,
      Records.PersistentState.joined_eq_self_iff.mpr state.unpaired_joined⟩
  · exact Records.PersistentState.joined_eq_self_iff.mpr state.unpaired_stored

end RoundTrip

namespace Sample

def storeReaders : StoreReaders := { Updater.Sample.textReaders with wide := fun _ => none }

theorem storedVersion_valid : validateVersion "v0.2.0" = true := by
  decide

def storedIdentity : ImageIdentity where
  repository := "ghcr.io/s450586793/finance-reconciliation-web"
  version := "v0.2.0"
  digest := "sha256:0a"
  imageId := "sha256:0b"
  tags := ["v0.2.0"]
  publishedAt := some 63903285000000000
  versionValid := storedVersion_valid

/-- A task whose download failed. -/
def storedTask (errorMessage : String) : UpdateTask where
  id := "11111111-1111-4111-8111-111111111111"
  original := storedIdentity
  target := storedIdentity
  stage := .failed
  createdAt := 63903285000000000
  errorCode := "pull_failed"
  errorMessage := errorMessage

def storedState (errorMessage : String) : PersistentState :=
  { task := some (storedTask errorMessage) }

def noFiles : StateFiles := ⟨.error .notFound, .error .notFound, fun _ => rfl⟩

theorem typed_storedIdentity : storedIdentity.stored.Typed := by
  rintro _ ⟨⟩
  decide

theorem typed_storedTask (errorMessage : PythonText) :
    ({ (storedTask "").stored with errorMessage } : Records.UpdateTask).Typed where
  id := by
    obtain ⟨id, same⟩ := Uuid.eq_text_of_isCanonical
      (by decide +kernel : Uuid.isCanonical (storedTask "").id.toList = true)
    exact ⟨id, by rw [← same, String.ofList_toList]; rfl⟩
  original := typed_storedIdentity
  target := typed_storedIdentity
  createdAt := (by decide : Calendar.DateTime.InCalendar 63903285000000000)
  startedAt := by simp [UpdateTask.stored, storedTask]
  finishedAt := by simp [UpdateTask.stored, storedTask]

theorem typed_stored {state : Records.PersistentState} {errorMessage : PythonText}
    (same : state = { task := some { (storedTask "").stored with errorMessage } }) :
    state.Typed where
  lastCheck := by simp [same]
  task := by
    rw [same]
    rintro _ ⟨⟩
    exact typed_storedTask errorMessage

/-- The size of a file is that of its text. -/
theorem fits_of_text {state : Records.PersistentState} {json : Json PythonText}
    (written : state.toDict = some json)
    (short : (state.toDict.map fun json => decide ((Json.dumps json).length ≤ maxBytes)) =
      some true) : (Json.encode (Json.dumps json)).length ≤ maxBytes := by
  rw [written, Option.map_some, Option.some.injEq, decide_eq_true_eq] at short
  rw [Json.encode_plain (Records.PersistentState.writable_toDict written).plainText,
    List.length_map]
  exact short

/-- The file of the task, with the bytes of two halves of a surrogate pair for its message. -/
def pairedBytes : List UInt8 :=
  let text := ((storedState "").stored.toDict.map Json.dumps).getD []
  let bytes := text.map fun character => UInt8.ofNat character.toNat
  bytes.take (bytes.length - 3) ++ [0xed, 0xa0, 0xbd, 0xed, 0xb8, 0x80] ++
    bytes.drop (bytes.length - 3)

def pairedFiles : StateFiles :=
  ⟨.ok (.directory 0o700), .ok (.regular 1 0o600 pairedBytes), StateFiles.present⟩

def pairedState : Records.PersistentState :=
  { task := some { (storedTask "").stored with
      errorMessage := [.surrogate 0x3d, .surrogate 0x600] } }

theorem load_pairedFiles : load storeReaders pairedFiles = .ok pairedState := by
  have found : (load storeReaders pairedFiles).toOption = some pairedState := by decide +kernel
  exact Checks.toOption_eq_some.mp found

end Sample

/-- A failed task that is saved where there was no directory, and loaded. -/
theorem persistent_state_round_trips_saved :
    (save {} (Sample.storedState "下载失败").stored Sample.noFiles).1 = .ok () ∧
      load Sample.storeReaders (save {} (Sample.storedState "下载失败").stored Sample.noFiles).2 =
        .ok (Sample.storedState "下载失败").stored := by
  obtain ⟨all, -, -, own⟩ := persistent_state_round_trips Sample.storeReaders
  obtain ⟨json, trips⟩ := all (Sample.storedState "下载失败").stored (Sample.typed_stored rfl)
  have saved := (trips.saves {} Sample.noFiles).mpr
    ⟨Sample.fits_of_text trips.written (by decide +kernel), ⟨fun _ => rfl, rfl, rfl⟩⟩
  refine ⟨saved, ?_⟩
  have loaded := trips.loads {} Sample.noFiles saved
  rwa [own] at loaded

/-- A message of two halves in a row is loaded, saved, and loaded as the character of the pair. -/
theorem saved_pair_becomes_character :
    ∃ found again, load Sample.storeReaders Sample.pairedFiles = .ok found ∧
      (save {} found Sample.pairedFiles).1 = .ok () ∧
      load Sample.storeReaders (save {} found Sample.pairedFiles).2 = .ok again ∧
      found.task.map (·.errorMessage) = some [.surrogate 0x3d, .surrogate 0x600] ∧
      again.task.map (·.errorMessage) = some [.scalar '😀'] := by
  obtain ⟨json, trips⟩ := roundTrips_of_typed Sample.storeReaders
    (Sample.typed_stored (rfl : Sample.pairedState = _))
  have saved := (trips.saves {} Sample.pairedFiles).mpr
    ⟨Sample.fits_of_text trips.written (by decide +kernel), ⟨fun _ => rfl, rfl, rfl⟩⟩
  exact ⟨Sample.pairedState, Sample.pairedState.joined, Sample.load_pairedFiles, saved,
    trips.loads {} Sample.pairedFiles saved, rfl, by decide⟩

end FileStateStore

end Finrec.Updater
