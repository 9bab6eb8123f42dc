import Finrec.AtomicHelper.Capture
import Finrec.AtomicHelper.Replace

/-!
# Recovery after a replacement

After a failure the helper says whether the captured file or its target is there.
The reader that it uses for this takes no more than 1 MiB, while a capture does
not look at the size of the target, so a file that grows beyond the limit with
its new tag is replaced and then not recognised.
-/

namespace Finrec.AtomicHelper

open CrashLogic Lines Updater

def Captured.replacement (captured : Captured) (source : ByteArray) (hasMarker : Bool) :
    Replacement where
  source := source
  expected := captured.original
  expectedStat := captured.stat
  hasMarker := hasMarker

def Captured.classify (captured : Captured) (environment : Option HostFile) : Option Classified :=
  classifyEnvironment captured.original captured.target captured.stat environment

/-- The update of a captured file can be recovered.  A file with the kind, permissions, owner,
identity and bytes of the captured file is the captured file; any other is a changed one. -/
structure RecoverableSwap (file : HostFile) (targetTag : String) (captured : Captured) : Prop where
  differs : DiffersInTag file.bytes captured.target captured.oldTag targetTag
  guarded : ∀ source hasMarker disk choices, disk.renamed = false →
    let after := (replaceEnvironment (captured.replacement source hasMarker)).leaves disk choices
    after.environment = disk.environment ∨
      (∃ found, disk.environment = some found ∧ found.bytes = file.bytes ∧
        found.status.device = file.status.device ∧ found.status.inode = file.status.inode) ∧
      ∃ new, after.environment = some new ∧ new.bytes = source
  reported : ∀ hasMarker disk choices, disk.environment = some file → disk.renamed = false →
    let after :=
      (replaceEnvironment (captured.replacement captured.target hasMarker)).leaves disk choices
    (captured.classify after.environment = some .original ↔ after.renamed = false) ∧
      ((∃ stat, captured.classify after.environment = some (.target stat)) ↔ after.renamed = true)
  changed : ∀ changed : Option HostFile, changed ≠ some file →
    (captured.classify changed = none ∨
      ∃ found, changed = some found ∧ found.bytes = captured.target) ∧
    ∀ source hasMarker disk choices, disk.environment = changed → disk.renamed = false →
      (∀ value, (replaceEnvironment (captured.replacement source hasMarker) disk choices).1 ≠
        .returned value) ∧
      ((replaceEnvironment (captured.replacement source hasMarker)).leaves disk
        choices).environment = changed

section

variable {site : Site} {file : HostFile} {targetTag : String} {captured : Captured}

theorem statNumber?_natural (value : ℕ) :
    statNumber? (.number (String.ofList (Digits.natural value))) = some value := by
  rw [statNumber?, String.toList_ofList, Digits.number?_natural]

/-- A description of a private file is read back. -/
theorem expectedEnvironmentStat_statPayload {status : Status} (isPrivate : status.IsPrivate) :
    expectedEnvironmentStat (statPayload status) = some ⟨status.device, status.inode⟩ := by
  obtain ⟨-, mode, uid⟩ := isPrivate
  have fields : Json.exactObject? ["device", "inode", "mode", "uid"] (statPayload status) =
      some [("device", .number (String.ofList (Digits.natural status.device))),
        ("inode", .number (String.ofList (Digits.natural status.inode))),
        ("mode", .number (String.ofList (Digits.natural status.mode))),
        ("uid", .number (String.ofList (Digits.natural status.uid)))] :=
    Json.exactObject?_object rfl
  simp [expectedEnvironmentStat, fields, Json.readField?, Json.field?, statNumber?_natural, mode,
    uid, guard]

theorem Accepted.known (accepted : Accepted file targetTag captured) :
    expectedEnvironmentStat captured.stat = some ⟨file.status.device, file.status.inode⟩ := by
  rw [accepted.stat]
  exact expectedEnvironmentStat_statPayload accepted.isPrivate

/-- What is private and has the identity and the bytes of the captured file is the captured file. -/
theorem Accepted.eq_of_matches (accepted : Accepted file targetTag captured)
    {environment : Option HostFile}
    (found : Matches captured.original ⟨file.status.device, file.status.inode⟩ environment) :
    environment = some file := by
  obtain ⟨⟨⟨kind, mode, uid, device, inode⟩, bytes⟩, rfl, isPrivate, isStat, same⟩ := found
  obtain ⟨⟨kind', mode', uid', device', inode'⟩, bytes'⟩ := file
  obtain ⟨rfl, rfl, rfl⟩ := isPrivate
  obtain ⟨rfl, rfl, rfl⟩ := accepted.isPrivate
  obtain ⟨rfl, rfl⟩ := isStat
  obtain rfl := same.trans accepted.original
  rfl

theorem Accepted.classify_eq_original (accepted : Accepted file targetTag captured)
    {environment : Option HostFile} :
    captured.classify environment = some .original ↔ environment = some file := by
  simp only [Captured.classify, classifyEnvironment, accepted.known, Option.bind_eq_bind,
    Option.bind_some, Option.bind_eq_some_iff, Prod.exists, readEnvironment_eq_some]
  constructor
  · rintro ⟨_, _, ⟨found, rfl, isPrivate, -, rfl, rfl⟩, reported⟩
    by_cases isTarget : found.bytes = captured.target
    · rw [if_pos isTarget] at reported
      cases reported
    · rw [if_neg isTarget, Option.ite_none_right_eq_some] at reported
      exact accepted.eq_of_matches ⟨found, rfl, isPrivate, reported.1.2, reported.1.1⟩
  · rintro rfl
    refine ⟨_, _, ⟨file, rfl, accepted.isPrivate, accepted.small, rfl, rfl⟩, ?_⟩
    rw [if_neg accepted.differs.symm, if_pos ⟨accepted.original.symm, rfl, rfl⟩]

theorem Accepted.classify_eq_target (accepted : Accepted file targetTag captured)
    {environment : Option HostFile} :
    (∃ stat, captured.classify environment = some (.target stat)) ↔
      ∃ found, environment = some found ∧ found.status.IsPrivate ∧ found.bytes = captured.target ∧
        captured.target.size ≤ maxEnvBytes := by
  simp only [Captured.classify, classifyEnvironment, accepted.known, Option.bind_eq_bind,
    Option.bind_some, Option.bind_eq_some_iff, Prod.exists, readEnvironment_eq_some]
  constructor
  · rintro ⟨stat, _, _, ⟨found, rfl, isPrivate, small, rfl, rfl⟩, reported⟩
    by_cases isTarget : found.bytes = captured.target
    · exact ⟨found, rfl, isPrivate, isTarget, isTarget ▸ small⟩
    · rw [if_neg isTarget, Option.ite_none_right_eq_some] at reported
      cases reported.2
  · rintro ⟨found, rfl, isPrivate, same, small⟩
    exact ⟨statPayload found.status, _, _, ⟨found, rfl, isPrivate, same ▸ small, rfl, rfl⟩,
      if_pos same⟩

/-- A replacement with the captured state leaves the file, or the captured file gives way to the
source. -/
theorem Accepted.sound (accepted : Accepted file targetTag captured) {source : ByteArray}
    {hasMarker : Bool} {disk after : Disk}
    (sound : Sound disk.environment (captured.replacement source hasMarker) after) :
    (after.renamed = false ∧ after.environment = disk.environment) ∨
      (after.renamed = true ∧ disk.environment = some file ∧ ∃ new, after.environment = some new ∧
        new.status.IsPrivate ∧ new.bytes = source ∧
        ¬ new.status.Is ⟨file.status.device, file.status.inode⟩) := by
  rcases sound with untouched | ⟨renamed, stat, known, found, new, isNew, isPrivate, isOther, bytes⟩
  · exact .inl ⟨untouched.notRenamed, untouched.kept⟩
  · change expectedEnvironmentStat captured.stat = some stat at known
    rw [accepted.known, Option.some.injEq] at known
    subst known
    exact .inr ⟨renamed, accepted.eq_of_matches found, new, isNew, isPrivate, bytes, isOther⟩

theorem Captured.leaves (captured : Captured) (source : ByteArray) (hasMarker : Bool)
    {disk : Disk} (start : disk.renamed = false) (choices : List Choice) :
    Sound disk.environment (captured.replacement source hasMarker)
      ((replaceEnvironment (captured.replacement source hasMarker)).leaves disk choices) :=
  Satisfies.leaves_of satisfies_replaceEnvironment (fun _ _ swapped => .inr swapped)
    (fun _ _ sound => sound) (fun _ sound => sound) ⟨rfl, start⟩ choices

end

/-! ## A replacement that nothing stops -/

/-- Some choices let the program return. -/
def CanReturn {α : Type} (program : Process α) (disk : Disk) (value : α) (after : Disk) : Prop :=
  ∃ choices, Runs choices program disk value after

namespace CanReturn

variable {choice : Choice} {disk middle after : Disk} {α β : Type} {value : α}

theorem pure : CanReturn (Pure.pure value : Process α) disk value disk := ⟨[], Runs.pure⟩

theorem bind {first : Process α} {next : α → Process β} {result : β}
    (returns : CanReturn first disk value middle)
    (goesOn : CanReturn (next value) middle result after) :
    CanReturn (first >>= next) disk result after := by
  obtain ⟨choices, runs⟩ := returns
  obtain ⟨more, rest⟩ := goesOn
  exact ⟨choices ++ more, Runs.bind runs rest⟩

theorem call (choice : Choice) (done : choice.fate = .done) {effect : Choice → Disk → Disk} :
    CanReturn (call effect) disk () (effect choice disk) := by
  refine ⟨[choice], Runs.act ?_⟩
  simp only [done]

theorem look (choice : Choice) (done : choice.fate = .done) {failure : Failure}
    {found : Disk → Option α} (known : found disk = some value) :
    CanReturn (look failure found) disk value disk := by
  refine ⟨[choice], Runs.act ?_⟩
  simp only [done, known]

theorem removingTemporary {block : Process α} (returns : CanReturn block disk value after) :
    CanReturn (removingTemporary block) disk value after := by
  obtain ⟨choices, runs⟩ := returns
  have attempted : Runs choices (Program.attempt some block) disk (.ok value) after :=
    Runs.attempt runs
  have goesOn : CanReturn (Program.attempt some block) disk (.ok value) after :=
    ⟨choices, attempted⟩
  exact goesOn.bind pure

end CanReturn

/-- A private file with another identity than the expected one. -/
def otherStatus (stat : ExpectedStat) : Status := ⟨.regular, 0o600, 0, stat.device, stat.inode + 1⟩

theorem otherStatus_isPrivate (stat : ExpectedStat) : (otherStatus stat).IsPrivate :=
  ⟨rfl, rfl, rfl⟩

theorem otherStatus_not_is (stat : ExpectedStat) : ¬ (otherStatus stat).Is stat := by
  rintro ⟨-, inode⟩
  exact Nat.succ_ne_self stat.inode inode

/-- A step that is done. -/
def calm (stat : ExpectedStat) : Choice where
  created := otherStatus stat

/-- What a replacement leaves that nothing stops. -/
def swappedDisk (source : ByteArray) (stat : ExpectedStat) : Disk where
  environment := some ⟨otherStatus stat, source⟩
  nextStat := some (some (statPayload (otherStatus stat)))
  renamed := true

theorem canReturn_replaceEnvironment {source expected : ByteArray} {expectedStat : Json String}
    {stat : ExpectedStat} (known : expectedEnvironmentStat expectedStat = some stat)
    {environment : Option HostFile} (found : Matches expected stat environment) :
    CanReturn (replaceEnvironment ⟨source, expected, expectedStat, false⟩)
      { environment := environment } () (swappedDisk source stat) := by
  have validated (temporary : Option HostFile) :
      CanReturn (validateCurrentEnvironment expected stat)
        { environment := environment, temporary := temporary } ()
        { environment := environment, temporary := temporary } := by
    obtain ⟨file, rfl, isPrivate, isStat, bytes⟩ := found
    have whole : file.read (expected.size + 1) = expected := extract_eq_iff.mpr bytes
    apply CanReturn.look (calm stat) rfl
    simp [isPrivate, isStat, whole, guard]
  have written : CanReturn (writeTemporary source stat)
      { environment := environment, temporary := some ⟨otherStatus stat, ByteArray.empty⟩ }
      (otherStatus stat)
      { environment := environment, temporary := some ⟨otherStatus stat, source⟩ } := by
    refine (CanReturn.call (calm stat) rfl).bind ?_
    refine (CanReturn.call (calm stat) rfl).bind ?_
    refine (CanReturn.call (calm stat) rfl).bind ?_
    have known : CanReturn (look .error fun disk => disk.temporary.map (·.status))
        { environment := environment, temporary := some ⟨otherStatus stat, source⟩ }
        (otherStatus stat)
        { environment := environment, temporary := some ⟨otherStatus stat, source⟩ } :=
      CanReturn.look (calm stat) rfl rfl
    refine known.bind ?_
    rw [if_pos ⟨otherStatus_isPrivate stat, otherStatus_not_is stat⟩]
    exact CanReturn.pure
  have replaced : CanReturn (validateReplacedEnvironment source stat (otherStatus stat))
      { environment := some ⟨otherStatus stat, source⟩, renamed := true } (otherStatus stat)
      { environment := some ⟨otherStatus stat, source⟩, renamed := true } := by
    apply CanReturn.look (calm stat) rfl
    have whole : (⟨otherStatus stat, source⟩ : HostFile).read (source.size + 1) = source :=
      extract_eq_iff.mpr rfl
    simp [otherStatus_isPrivate, otherStatus_not_is, whole, guard]
  have swapped : CanReturn (removingTemporary do
        let temporary ← writeTemporary source stat
        validateCurrentEnvironment expected stat
        osReplace
        return temporary)
      { environment := environment, temporary := some ⟨otherStatus stat, ByteArray.empty⟩ }
      (otherStatus stat)
      { environment := some ⟨otherStatus stat, source⟩, renamed := true } := by
    apply CanReturn.removingTemporary
    refine written.bind ?_
    refine (validated _).bind ?_
    refine (CanReturn.call (calm stat) rfl).bind ?_
    exact CanReturn.pure
  refine (CanReturn.look (calm stat) rfl known).bind ?_
  refine CanReturn.pure.bind ?_
  refine (validated none).bind ?_
  refine (CanReturn.call (calm stat) rfl).bind ?_
  refine swapped.bind ?_
  refine (CanReturn.call (calm stat) rfl).bind ?_
  refine replaced.bind ?_
  have noStat : CanReturn (look .error fun disk => if disk.nextStat.isSome then none else some ())
      { environment := some ⟨otherStatus stat, source⟩, renamed := true } ()
      { environment := some ⟨otherStatus stat, source⟩, renamed := true } :=
    CanReturn.look (calm stat) rfl rfl
  refine noStat.bind ?_
  exact CanReturn.call (calm stat) rfl

/-! ## The update -/

section

variable {site : Site} {file : HostFile} {targetTag : String} {captured : Captured}

/-- The tag that a line of the captured file sets is the captured one. -/
theorem Accepted.oldTag_eq (accepted : Accepted file targetTag captured) {content : List Char}
    (encoded : file.bytes = encodeUtf8 content) {old : String} {ending : List Char}
    (listed : ⟨updaterTagLine old, ending⟩ ∈ lines content) : old = captured.oldTag := by
  obtain ⟨content', earlier, ending', later, cuts, -⟩ := accepted.target
  have same : content = content' := by
    have decoded := decodeUtf8_encodeUtf8 content
    rw [← encoded, cuts.encoded, decodeUtf8_encodeUtf8, Option.some.injEq] at decoded
    exact decoded.symm
  subst same
  obtain ⟨front, back, cut⟩ := List.append_of_mem listed
  have wellCut := wellCut_lines content
  rw [cut] at wellCut
  have sets : Sets updaterTagKey (updaterTagLine old) :=
    sets_iff.mpr ⟨old, matchEnvironmentLine_updaterTagLine wellCut.line.1⟩
  rw [cuts.cut, List.mem_append, List.mem_cons] at listed
  rcases listed with inEarlier | here | inLater
  · exact absurd sets (cuts.others _ (List.mem_append_left _ inEarlier))
  · exact updaterTagLine_injective (congrArg Line.body here)
  · exact absurd sets (cuts.others _ (List.mem_append_right _ inLater))

theorem Accepted.reported (accepted : Accepted file targetTag captured)
    (small : captured.target.size ≤ maxEnvBytes) (hasMarker : Bool) {disk : Disk}
    (there : disk.environment = some file) (start : disk.renamed = false) (choices : List Choice) :
    let after :=
      (replaceEnvironment (captured.replacement captured.target hasMarker)).leaves disk choices
    (captured.classify after.environment = some .original ↔ after.renamed = false) ∧
      ((∃ stat, captured.classify after.environment = some (.target stat)) ↔
        after.renamed = true) := by
  intro after
  rw [accepted.classify_eq_original, accepted.classify_eq_target]
  rcases accepted.sound (captured.leaves captured.target hasMarker start choices) with
    ⟨notRenamed, kept⟩ | ⟨renamed, -, new, isNew, isPrivate, bytes, isOther⟩
  · have same : after.environment = some file := kept.trans there
    refine ⟨⟨fun _ => notRenamed, fun _ => same⟩, ?_, ?_⟩
    · rintro ⟨found, known, -, isTarget, -⟩
      rw [same, Option.some.injEq] at known
      subst known
      exact absurd isTarget.symm accepted.differs
    · intro renamed
      rw [show after.renamed = false from notRenamed] at renamed
      cases renamed
  · refine ⟨⟨?_, ?_⟩, fun _ => renamed, fun _ => ⟨new, isNew, isPrivate, bytes, small⟩⟩
    · intro same
      rw [show after.environment = some new from isNew, Option.some.injEq] at same
      subst same
      exact absurd ⟨rfl, rfl⟩ isOther
    · intro notRenamed
      rw [show after.renamed = true from renamed] at notRenamed
      cases notRenamed

theorem Accepted.changed (accepted : Accepted file targetTag captured) {changed : Option HostFile}
    (isChanged : changed ≠ some file) :
    (captured.classify changed = none ∨
      ∃ found, changed = some found ∧ found.bytes = captured.target) ∧
    ∀ source hasMarker disk choices, disk.environment = changed → disk.renamed = false →
      (∀ value, (replaceEnvironment (captured.replacement source hasMarker) disk choices).1 ≠
        .returned value) ∧
      ((replaceEnvironment (captured.replacement source hasMarker)).leaves disk
        choices).environment = changed := by
  refine ⟨?_, ?_⟩
  · cases reported : captured.classify changed with
    | none => exact .inl rfl
    | some state =>
        right
        cases state with
        | original => exact absurd (accepted.classify_eq_original.mp reported) isChanged
        | target stat =>
            obtain ⟨found, known, -, bytes, -⟩ := accepted.classify_eq_target.mp ⟨stat, reported⟩
            exact ⟨found, known, bytes⟩
  · rintro source hasMarker disk choices rfl start
    refine ⟨?_, ?_⟩
    · intro value returned
      have swapped : Swapped disk.environment _ _ := swapped_of_returned ⟨rfl, start⟩ returned
      rcases accepted.sound (.inr swapped) with ⟨notRenamed, -⟩ | ⟨-, same, -⟩
      · have renamed := swapped.renamed
        rw [notRenamed] at renamed
        cases renamed
      · exact isChanged same
    · rcases accepted.sound (captured.leaves source hasMarker start choices) with
        ⟨-, kept⟩ | ⟨-, same, -⟩
      · exact kept
      · exact absurd same isChanged

/-- What an update leaves that nothing stops. -/
def Captured.updatedDisk (captured : Captured) (file : HostFile) : Disk :=
  swappedDisk captured.target ⟨file.status.device, file.status.inode⟩

theorem Accepted.exists_updated (accepted : Accepted file targetTag captured) :
    ∃ choices, (replaceEnvironment (captured.replacement captured.target false)).leaves
      { environment := some file } choices = captured.updatedDisk file := by
  have found : Matches captured.original ⟨file.status.device, file.status.inode⟩ (some file) :=
    ⟨file, rfl, accepted.isPrivate, ⟨rfl, rfl⟩, accepted.original.symm⟩
  have returns : CanReturn (replaceEnvironment (captured.replacement captured.target false))
      { environment := some file } () (captured.updatedDisk file) :=
    canReturn_replaceEnvironment accepted.known found
  obtain ⟨choices, runs⟩ := returns
  exact ⟨choices, runs.leaves⟩

/-- A file that outgrows the limit is neither of the two when it has been replaced. -/
theorem Accepted.classify_large (accepted : Accepted file targetTag captured)
    (large : maxEnvBytes < captured.target.size) :
    captured.classify (captured.updatedDisk file).environment = none := by
  cases reported : captured.classify (captured.updatedDisk file).environment with
  | none => rfl
  | some state =>
      cases state with
      | original =>
          have same := Option.some.inj (accepted.classify_eq_original.mp reported)
          have inode := congrArg (·.status.inode) same
          exact absurd inode (Nat.succ_ne_self _)
      | target stat =>
          obtain ⟨-, -, -, -, small⟩ := accepted.classify_eq_target.mp ⟨stat, reported⟩
          omega

/-- An update after which the file is too large for the reader cannot be recovered. -/
theorem Accepted.not_recoverable (accepted : Accepted file targetTag captured)
    (large : maxEnvBytes < captured.target.size) : ¬ RecoverableSwap file targetTag captured := by
  intro recoverable
  obtain ⟨choices, left⟩ := accepted.exists_updated
  have reported := (recoverable.reported false { environment := some file } choices rfl rfl).2
  simp only [left, accepted.classify_large large] at reported
  obtain ⟨stat, unknown⟩ := reported.mpr rfl
  cases unknown

/-- The update of a captured file can be recovered if and only if the file with its new tag is no
larger than the limit. -/
theorem recoverableSwap_iff (valid : validateVersion targetTag = true)
    (ran : captureEnvironment site (some file) targetTag = some captured) {content : List Char}
    (encoded : file.bytes = encodeUtf8 content) {old : String} {ending : List Char}
    (listed : ⟨updaterTagLine old, ending⟩ ∈ lines content) :
    RecoverableSwap file targetTag captured ↔
      file.bytes.size + targetTag.utf8ByteSize ≤ maxEnvBytes + old.utf8ByteSize := by
  have accepted := accepted_of_capture ran
  obtain rfl := accepted.oldTag_eq encoded listed
  have size := accepted.size_target
  constructor
  · intro recoverable
    by_contra large
    exact accepted.not_recoverable (by omega) recoverable
  · intro fits
    refine ⟨accepted.original ▸ accepted.differsInTag valid, ?_, ?_, ?_⟩
    · intro source hasMarker disk choices start
      rcases accepted.sound (captured.leaves source hasMarker start choices) with
        ⟨-, kept⟩ | ⟨-, there, new, isNew, -, bytes, -⟩
      · exact .inl kept
      · exact .inr ⟨⟨file, there, rfl, rfl, rfl⟩, new, isNew, bytes⟩
    · intro hasMarker disk choices there start
      exact accepted.reported (by omega) hasMarker there start choices
    · intro changed isChanged
      exact accepted.changed isChanged

end

namespace Sample

/-- A file of the tag and a comment after it. -/
def commented (tag : String) (length : ℕ) : List Char :=
  updaterTagLine tag ++ '\n' :: '#' :: List.replicate length 'x'

def environmentFile (tag : String) (length : ℕ) : HostFile :=
  ⟨⟨.regular, 0o600, 0, 64, 1001⟩, encodeUtf8 (commented tag length)⟩

def site : Site := ⟨true, ⟨.directory, 0o755, 0, 64, 900⟩, ⟨.regular, 0o644, 0, 64, 901⟩⟩

end Sample

open Finrec.AtomicHelper.Sample

theorem environmentFile_bytes (tag : String) (length : ℕ) :
    (environmentFile tag length).bytes = encodeUtf8 (commented tag length) := by
  rw [environmentFile]

theorem size_commented (tag : String) (length : ℕ) :
    (environmentFile tag length).bytes.size = tag.utf8ByteSize + length + 27 := by
  have comment (length : ℕ) : (encodeUtf8 (List.replicate length 'x')).size = length := by
    induction length with
    | zero => rfl
    | succ length ih =>
        rw [List.replicate_succ, ← List.singleton_append, size_append, ih, Nat.add_comm]
        rfl
  have key : (encodeUtf8 (updaterTagKey.toList ++ ['='])).size = 25 := by decide +kernel
  have start : (encodeUtf8 ['\n', '#']).size = 2 := by decide +kernel
  have bytes : (environmentFile tag length).bytes =
      encodeUtf8 (updaterTagLine tag ++ (['\n', '#'] ++ List.replicate length 'x')) := by
    rw [environmentFile_bytes, commented, List.cons_append, List.cons_append, List.nil_append]
  rw [bytes, size_append, size_append, size_updaterTagLine, key, start, comment]
  omega

theorem lines_commented {tag : String} (valid : validateVersion tag = true) (length : ℕ) :
    lines (commented tag length) =
      [⟨updaterTagLine tag, ['\n']⟩, ⟨'#' :: List.replicate length 'x', []⟩] := by
  apply lines_append_inside (updaterTagLine_inside valid)
  have comment : lines ('#' :: List.replicate length 'x') =
      [⟨'#' :: List.replicate length 'x', []⟩] := by
    apply lines_open
    · intro c member
      rcases List.mem_cons.mp member with rfl | member
      · rfl
      · rw [List.eq_of_mem_replicate member]
        rfl
    · simp
  rw [lines.eq_3 _ _ (by simp), if_pos (by decide), comment]

/-- Such a file is captured as long as it is not too large. -/
theorem capture_commented {old tag : String} (oldValid : validateVersion old = true)
    (valid : validateVersion tag = true) (differ : old ≠ tag) {length : ℕ}
    (small : (environmentFile old length).bytes.size ≤ maxEnvBytes) :
    ∃ captured, captureEnvironment site (some (environmentFile old length)) tag = some captured := by
  have complete : splitlinesKeepends (commented old length) =
      [updaterTagLine old ++ ['\n'], '#' :: List.replicate length 'x'] := by
    simp [splitlinesKeepends, lines_commented oldValid, Line.text]
  have tagLine : rstripNewlines (updaterTagLine old ++ ['\n']) = updaterTagLine old :=
    rstripNewlines_plain (updaterTagLine_inside oldValid) (by simp [plainEndings])
  have commentLine : rstripNewlines ('#' :: List.replicate length 'x') =
      '#' :: List.replicate length 'x' := by
    apply rstripNewlines_body
    intro c member
    rcases List.mem_cons.mp member with rfl | member
    · rfl
    · rw [List.eq_of_mem_replicate member]
      rfl
  have first : scanLine {} (updaterTagLine old ++ ['\n'], 0) =
      some ⟨[updaterTagKey], some (0, old)⟩ := by
    have shape := matchEnvironmentLine_updaterTagLine (updaterTagLine_inside oldValid)
    rw [← tagLine] at shape
    apply scanLine_eq_some.mpr
    right
    exact ⟨updaterTagKey, old, shape, List.not_mem_nil, by rw [if_pos rfl]⟩
  have second : scanLine ⟨[updaterTagKey], some (0, old)⟩ ('#' :: List.replicate length 'x', 1) =
      some ⟨[updaterTagKey], some (0, old)⟩ := by
    have hash : (rstripNewlines ('#' :: List.replicate length 'x')).head? = some '#' := by
      rw [commentLine, List.head?_cons]
    apply scanLine_eq_some.mpr
    left
    exact ⟨rfl, .inr hash⟩
  have scanned : ([updaterTagLine old ++ ['\n'], '#' :: List.replicate length 'x'].zipIdx).foldlM
      scanLine {} = some ⟨[updaterTagKey], some (0, old)⟩ := by
    simp [List.zipIdx_cons, first, second]
  have reads : readEnvironment (some (environmentFile old length)) =
      some (encodeUtf8 (commented old length), (environmentFile old length).status) :=
    readEnvironment_eq_some.mpr ⟨_, rfl, ⟨rfl, rfl, rfl⟩, small,
      (environmentFile_bytes old length).symm, rfl⟩
  have differs : encodeUtf8 (commented tag length) ≠ encodeUtf8 (commented old length) := by
    intro same
    have decoded := decodeUtf8_encodeUtf8 (commented tag length)
    rw [same, decodeUtf8_encodeUtf8, Option.some.injEq] at decoded
    have cut := congrArg lines decoded
    rw [lines_commented oldValid, lines_commented valid] at cut
    simp only [List.cons.injEq, Line.mk.injEq] at cut
    exact differ (updaterTagLine_injective cut.1.1)
  have target : ([updaterTagLine old ++ ['\n'], '#' :: List.replicate length 'x'].set 0
      (updaterTagLine tag ++ (updaterTagLine old ++ ['\n']).drop
        (rstripNewlines (updaterTagLine old ++ ['\n'])).length)).flatten = commented tag length := by
    simp [tagLine, commented]
  have ran : captureEnvironment site (some (environmentFile old length)) tag =
      some ⟨encodeUtf8 (commented old length), encodeUtf8 (commented tag length), old,
        statPayload (environmentFile old length).status⟩ := by
    simp only [captureEnvironment, reads, complete, scanned, decodeUtf8_encodeUtf8,
      Option.bind_eq_bind, Option.bind_some, oldValid, List.getElem?_cons_zero, target]
    simp [guard, differ, differs, site, Status.IsTrusted]
  exact ⟨_, ran⟩

/-- A small file is updated from one version to the next. -/
theorem recoverableSwap_small : ∃ captured,
    captureEnvironment site (some (environmentFile "v0.2.0" 0)) "v0.3.0" = some captured ∧
      RecoverableSwap (environmentFile "v0.2.0" 0) "v0.3.0" captured := by
  have oldValid : validateVersion "v0.2.0" = true := by decide +kernel
  have valid : validateVersion "v0.3.0" = true := by decide +kernel
  have size : (environmentFile "v0.2.0" 0).bytes.size = 33 := by
    rw [size_commented]
    decide +kernel
  have small : (environmentFile "v0.2.0" 0).bytes.size ≤ maxEnvBytes := by
    rw [size]
    decide
  obtain ⟨captured, ran⟩ := capture_commented oldValid valid (by decide) small
  refine ⟨captured, ran, ?_⟩
  have listed : (⟨updaterTagLine "v0.2.0", ['\n']⟩ : Line) ∈ lines (commented "v0.2.0" 0) := by
    simp [lines_commented oldValid]
  exact (recoverableSwap_iff valid ran (environmentFile_bytes _ _) listed).mpr (by decide +kernel)

/-- Such a file is captured, and cannot be recovered when it outgrows the limit. -/
theorem not_recoverable_commented {old tag : String} (oldValid : validateVersion old = true)
    (valid : validateVersion tag = true) (differ : old ≠ tag) {length : ℕ}
    (small : old.utf8ByteSize + length + 27 ≤ maxEnvBytes)
    (large : maxEnvBytes < tag.utf8ByteSize + length + 27) :
    ∃ captured, captureEnvironment site (some (environmentFile old length)) tag = some captured ∧
      ¬ RecoverableSwap (environmentFile old length) tag captured := by
  have size := size_commented old length
  obtain ⟨captured, ran⟩ := capture_commented oldValid valid differ (size ▸ small)
  refine ⟨captured, ran, ?_⟩
  have accepted := accepted_of_capture ran
  have listed : (⟨updaterTagLine old, ['\n']⟩ : Line) ∈ lines (commented old length) := by
    simp [lines_commented oldValid]
  have grown := accepted.size_target
  have sameTag : old = captured.oldTag :=
    accepted.oldTag_eq (environmentFile_bytes old length) listed
  rw [← sameTag] at grown
  exact accepted.not_recoverable (by omega)

/-- A file of 1 MiB is updated to a version with a longer tag. -/
theorem not_recoverableSwap_large : ∃ captured,
    captureEnvironment site (some (environmentFile "v0.9.0" 1048543)) "v0.10.0" = some captured ∧
      ¬ RecoverableSwap (environmentFile "v0.9.0" 1048543) "v0.10.0" captured := by
  apply not_recoverable_commented
  · decide +kernel
  · decide +kernel
  · decide
  · decide +kernel
  · decide +kernel

end Finrec.AtomicHelper
