import Finrec.AtomicHelper.Helper

/-!
# What a replacement leaves

Wherever a replacement fails or dies, the environment file is the one it has
found, or it was the expected one and the source has taken its place.
-/

namespace Finrec.AtomicHelper

open CrashLogic

/-- One byte more than expected tells a longer file from the expected one. -/
theorem extract_eq_iff {bytes expected : ByteArray} :
    bytes.extract 0 (expected.size + 1) = expected ↔ bytes = expected := by
  constructor
  · intro same
    have size := congrArg ByteArray.size same
    rw [ByteArray.size_extract] at size
    rw [extract_all (by omega)] at same
    exact same
  · rintro rfl
    exact extract_all (by omega)

/-- The environment file is private and the expected one. -/
def Matches (expected : ByteArray) (stat : ExpectedStat) (environment : Option HostFile) : Prop :=
  ∃ file, environment = some file ∧ file.status.IsPrivate ∧ file.status.Is stat ∧
    file.bytes = expected

/-- The replacement has not taken place. -/
structure Untouched (environment : Option HostFile) (disk : Disk) : Prop where
  kept : disk.environment = environment
  notRenamed : disk.renamed = false

/-- The environment file was the expected one, and the source has taken its place. -/
structure Swapped (environment : Option HostFile) (replacement : Replacement) (disk : Disk) :
    Prop where
  renamed : disk.renamed = true
  isNew : ∃ stat, expectedEnvironmentStat replacement.expectedStat = some stat ∧
    Matches replacement.expected stat environment ∧
    ∃ file, disk.environment = some file ∧ file.status.IsPrivate ∧ ¬ file.status.Is stat ∧
      file.bytes = replacement.source

/-- What a replacement can leave. -/
def Sound (environment : Option HostFile) (replacement : Replacement) (disk : Disk) : Prop :=
  Untouched environment disk ∨ Swapped environment replacement disk

/-- The temporary file can take the place of the environment file. -/
structure Filled (environment : Option HostFile) (source : ByteArray) (stat : ExpectedStat)
    (status : Status) (disk : Disk) : Prop extends Untouched environment disk where
  filled : disk.temporary = some ⟨status, source⟩
  isPrivate : status.IsPrivate
  isOther : ¬ status.Is stat

section Rules

variable {before common : Disk → Prop} {α : Type}

theorem satisfies_call {effect : Choice → Disk → Disk} {after : Unit → Disk → Prop}
    (keeps : ∀ disk, before disk → common disk)
    (applies : ∀ choice disk, before disk → common (effect choice disk))
    (done : ∀ choice disk, before disk → choice.fate = .done → after () (effect choice disk)) :
    Satisfies before (call effect) ⟨after, fun _ => common, common⟩ := by
  apply Satisfies.act keeps
  intro choice disk start
  cases fate : choice.fate with
  | done => exact done choice disk start fate
  | failed =>
      simp only [Contract.Holds]
      split_ifs
      · exact applies choice disk start
      · exact keeps disk start
  | died =>
      simp only [Contract.Holds]
      split_ifs
      · exact applies choice disk start
      · exact keeps disk start

theorem satisfies_look {failure : Failure} {found : Disk → Option α} {after : α → Disk → Prop}
    (keeps : ∀ disk, before disk → common disk)
    (finds : ∀ disk value, before disk → found disk = some value → after value disk) :
    Satisfies before (look failure found) ⟨after, fun _ => common, common⟩ := by
  apply Satisfies.act keeps
  intro choice disk start
  cases fate : choice.fate with
  | done =>
      cases known : found disk with
      | none => exact keeps disk start
      | some value => exact finds disk value start known
  | failed => exact keeps disk start
  | died => exact keeps disk start

theorem satisfies_bind {β : Type} {first : Process α} {next : α → Process β}
    {after : β → Disk → Prop} (middle : α → Disk → Prop)
    (keeps : Satisfies before first ⟨middle, fun _ => common, common⟩)
    (goesOn : ∀ value, Satisfies (middle value) (next value) ⟨after, fun _ => common, common⟩) :
    Satisfies before (first >>= next) ⟨after, fun _ => common, common⟩ :=
  Satisfies.bind keeps goesOn

/-- What a block leaves whose errors are caught. -/
def Attempted (after : α → Disk → Prop) (common : Disk → Prop) : Except Failure α → Disk → Prop
  | .ok value, disk => after value disk
  | .error _, disk => common disk

/-- A block that fails keeps what does not depend on the temporary file. -/
theorem satisfies_removingTemporary {block : Process α} {after : α → Disk → Prop}
    (keeps : Satisfies before block ⟨after, fun _ => common, common⟩)
    (ignores : ∀ disk, common disk → common { disk with temporary := none }) :
    Satisfies before (removingTemporary block) ⟨after, fun _ => common, common⟩ := by
  refine satisfies_bind (Attempted after common) ?_ ?_
  · exact Satisfies.attempt keeps
  · intro result
    cases result with
    | ok value => exact Satisfies.pure fun _ holds => holds
    | error failure =>
        refine satisfies_bind (fun _ => common) ?_ ?_
        · apply satisfies_call
          · exact fun _ holds => holds
          · exact fun _ disk holds => ignores disk holds
          · exact fun _ disk holds _ => ignores disk holds
        · intro _
          exact Satisfies.raise fun _ holds => holds

end Rules

section Steps

variable {environment : Option HostFile} {replacement : Replacement} {stat : ExpectedStat}
  {status : Status} {disk : Disk}

/-- A step that leaves the environment file alone. -/
theorem satisfies_call_untouched {effect : Choice → Disk → Disk}
    (leaves : ∀ choice disk, (effect choice disk).environment = disk.environment ∧
      (effect choice disk).renamed = disk.renamed) :
    Satisfies (Untouched environment) (call effect)
      ⟨fun _ => Untouched environment, fun _ => Sound environment replacement,
        Sound environment replacement⟩ := by
  have untouched (choice : Choice) (disk : Disk) (start : Untouched environment disk) :
      Untouched environment (effect choice disk) :=
    ⟨(leaves choice disk).1.trans start.kept, (leaves choice disk).2.trans start.notRenamed⟩
  apply satisfies_call
  · exact fun _ start => .inl start
  · exact fun choice disk start => .inl (untouched choice disk start)
  · exact fun choice disk start _ => untouched choice disk start

theorem satisfies_writeMarker {hasMarker : Bool} :
    Satisfies (Untouched environment) (writeMarker hasMarker)
      ⟨fun _ => Untouched environment, fun _ => Sound environment replacement,
        Sound environment replacement⟩ := by
  unfold writeMarker
  split_ifs
  swap
  · exact Satisfies.pure fun _ start => start
  refine satisfies_bind (fun _ => Untouched environment) ?_ fun _ => ?_
  · exact satisfies_look (fun _ start => .inl start) fun _ _ start _ => start
  refine satisfies_bind (fun _ => Untouched environment) ?_ fun _ => ?_
  · exact satisfies_call_untouched fun _ _ => ⟨rfl, rfl⟩
  · exact satisfies_call_untouched fun _ _ => ⟨rfl, rfl⟩

theorem matches_of_validateCurrent {expected : ByteArray} {value : Unit}
    (found : (do
      let linked ← disk.environment
      guard (linked.status.IsPrivate ∧ linked.status.Is stat)
      guard (linked.read (expected.size + 1) = expected)) = some value) :
    Matches expected stat disk.environment := by
  simp only [Option.bind_eq_bind, Option.bind_eq_some_iff, Option.guard_eq_some',
    exists_const] at found
  obtain ⟨linked, known, ⟨isPrivate, isStat⟩, read⟩ := found
  exact ⟨linked, known, isPrivate, isStat, extract_eq_iff.mp read⟩

theorem satisfies_writeTemporary {source : ByteArray} :
    Satisfies (Untouched environment) (writeTemporary source stat)
      ⟨Filled environment source stat, fun _ => Sound environment replacement,
        Sound environment replacement⟩ := by
  refine satisfies_bind (fun _ => Untouched environment) ?_ fun _ => ?_
  · exact satisfies_call_untouched fun _ _ => ⟨rfl, rfl⟩
  refine satisfies_bind (fun _ disk => Untouched environment disk ∧
    ∀ file ∈ disk.temporary, file.bytes = source) ?_ fun _ => ?_
  · apply satisfies_call
    · exact fun _ start => .inl start
    · exact fun _ _ start => .inl ⟨start.kept, start.notRenamed⟩
    · intro choice disk start done
      refine ⟨⟨start.kept, start.notRenamed⟩, ?_⟩
      intro file written
      obtain ⟨_, -, rfl⟩ := Option.map_eq_some_iff.mp written
      exact if_pos done
  refine satisfies_bind (fun _ disk => Untouched environment disk ∧
    ∀ file ∈ disk.temporary, file.bytes = source) ?_ fun _ => ?_
  · apply satisfies_call
    · exact fun _ start => .inl start.1
    · exact fun _ _ start => .inl start.1
    · exact fun _ _ start _ => start
  refine satisfies_bind (fun status disk => Untouched environment disk ∧
    disk.temporary = some ⟨status, source⟩) ?_ fun status => ?_
  · apply satisfies_look
    · exact fun _ start => .inl start.1
    · intro disk status start found
      obtain ⟨file, known, rfl⟩ := Option.map_eq_some_iff.mp found
      have bytes := start.2 file known
      subst bytes
      exact ⟨start.1, known⟩
  · split_ifs with fits
    · exact Satisfies.pure fun _ start => ⟨start.1, start.2, fits.1, fits.2⟩
    · exact Satisfies.raise fun _ start => .inl start.1

/-- The block that ends with the temporary file in the place of the environment file. -/
theorem satisfies_swap (known : expectedEnvironmentStat replacement.expectedStat = some stat) :
    Satisfies (Untouched environment) (do
        let temporary ← writeTemporary replacement.source stat
        validateCurrentEnvironment replacement.expected stat
        osReplace
        return temporary)
      ⟨fun _ => Swapped environment replacement, fun _ => Sound environment replacement,
        Sound environment replacement⟩ := by
  refine satisfies_bind (Filled environment replacement.source stat)
    satisfies_writeTemporary fun status => ?_
  refine satisfies_bind (fun _ disk =>
    Filled environment replacement.source stat status disk ∧
      Matches replacement.expected stat environment) ?_ fun _ => ?_
  · apply satisfies_look
    · exact fun _ start => .inl start.toUntouched
    · intro disk _ start found
      exact ⟨start, start.kept ▸ matches_of_validateCurrent found⟩
  have swaps (choice : Choice) (disk : Disk)
      (start : Filled environment replacement.source stat status disk ∧
        Matches replacement.expected stat environment) :
      Swapped environment replacement
        { disk with environment := disk.temporary, temporary := none, renamed := true } :=
    ⟨rfl, stat, known, start.2, _, start.1.filled, start.1.isPrivate, start.1.isOther, rfl⟩
  refine satisfies_bind (fun _ => Swapped environment replacement) ?_ fun _ => ?_
  · apply satisfies_call
    · exact fun _ start => .inl start.1.toUntouched
    · exact fun choice disk start => .inr (swaps choice disk start)
    · exact fun choice disk start _ => swaps choice disk start
  · exact Satisfies.pure fun _ start => start

/-- A step after the replacement. -/
theorem satisfies_call_swapped {effect : Choice → Disk → Disk}
    (leaves : ∀ choice disk, (effect choice disk).environment = disk.environment ∧
      (effect choice disk).renamed = disk.renamed) :
    Satisfies (Swapped environment replacement) (call effect)
      ⟨fun _ => Swapped environment replacement, fun _ => Sound environment replacement,
        Sound environment replacement⟩ := by
  have swapped (choice : Choice) (disk : Disk) (start : Swapped environment replacement disk) :
      Swapped environment replacement (effect choice disk) :=
    ⟨(leaves choice disk).2.trans start.renamed, (leaves choice disk).1 ▸ start.isNew⟩
  apply satisfies_call
  · exact fun _ start => .inr start
  · exact fun choice disk start => .inr (swapped choice disk start)
  · exact fun choice disk start _ => swapped choice disk start

/-- What a replacement of any file leaves, however it ends. -/
theorem satisfies_replaceEnvironment :
    Satisfies (Untouched environment) (replaceEnvironment replacement)
      ⟨fun _ => Swapped environment replacement, fun _ => Sound environment replacement,
        Sound environment replacement⟩ := by
  refine satisfies_bind (fun stat disk => Untouched environment disk ∧
    expectedEnvironmentStat replacement.expectedStat = some stat) ?_ fun stat => ?_
  · exact satisfies_look (fun _ start => .inl start) fun _ _ start known => ⟨start, known⟩
  by_cases known : expectedEnvironmentStat replacement.expectedStat = some stat
  · refine Satisfies.weaken ?_ fun _ start => start.1
    refine satisfies_bind (fun _ => Untouched environment) ?_ fun _ => ?_
    · exact satisfies_writeMarker
    refine satisfies_bind (fun _ => Untouched environment) ?_ fun _ => ?_
    · exact satisfies_look (fun _ start => .inl start) fun _ _ start _ => start
    refine satisfies_bind (fun _ => Untouched environment) ?_ fun _ => ?_
    · exact satisfies_call_untouched fun _ _ => ⟨rfl, rfl⟩
    refine satisfies_bind (fun _ => Swapped environment replacement) ?_ fun status => ?_
    · apply satisfies_removingTemporary (satisfies_swap known)
      intro disk sound
      rcases sound with untouched | swapped
      · exact .inl ⟨untouched.kept, untouched.notRenamed⟩
      · exact .inr ⟨swapped.renamed, swapped.isNew⟩
    refine satisfies_bind (fun _ => Swapped environment replacement) ?_ fun _ => ?_
    · exact satisfies_call_swapped fun _ _ => ⟨rfl, rfl⟩
    refine satisfies_bind (fun _ => Swapped environment replacement) ?_ fun _ => ?_
    · exact satisfies_look (fun _ start => .inr start) fun _ _ start _ => start
    refine satisfies_bind (fun _ => Swapped environment replacement) ?_ fun _ => ?_
    · exact satisfies_look (fun _ start => .inr start) fun _ _ start _ => start
    · exact satisfies_call_swapped fun _ _ => ⟨rfl, rfl⟩
  · intro disk choices start
    exact absurd start.2 known

/-- A replacement that returns has taken place. -/
theorem swapped_of_returned {choices : List Choice} {value : Unit}
    (start : Untouched environment disk)
    (returned : (replaceEnvironment replacement disk choices).1 = .returned value) :
    Swapped environment replacement ((replaceEnvironment replacement).leaves disk choices) := by
  have satisfied : Satisfies (Untouched environment) (replaceEnvironment replacement) _ :=
    satisfies_replaceEnvironment
  have kept := satisfied disk choices start
  rw [returned] at kept
  exact kept

end Steps

end Finrec.AtomicHelper
