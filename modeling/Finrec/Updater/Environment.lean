import Mathlib.Data.List.AList
import Mathlib.Data.List.TakeWhile
import Finrec.Lib.Lines
import Finrec.Updater.Types

/-!
# The environment file

The version of the web image is a line of the environment file of the
installation.  `persist_version` cuts the file into lines, replaces the one line
that sets the version, and writes the lines back through a private temporary
file.
-/

namespace Finrec.Updater

open Lines

def webTagKey : String := "FINREC_WEB_IMAGE_TAG"

def maxEnvironmentBytes : ℕ := 1024 * 1024

/-- What `lstat` says of the file, and its bytes. -/
structure EnvironmentFile where
  isRegular : Bool
  mode : ℕ
  bytes : ByteArray

abbrev Settings : Type := AList fun _ : String => String

def isNameStart (character : Char) : Bool := character.isAlpha || character = '_'

def isNameCharacter (character : Char) : Bool := character.isAlphanum || character = '_'

/-- `^([A-Za-z_][A-Za-z0-9_]*)=(.*)$`; the point stands for any character but a line feed. -/
def matchEnvironmentLine (line : List Char) : Option (String × String) :=
  match line.dropWhile isNameCharacter with
  | '=' :: value =>
      if (line.takeWhile isNameCharacter).head?.any isNameStart && !value.contains '\n' then
        some (String.ofList (line.takeWhile isNameCharacter), String.ofList value)
      else none
  | _ => none

def readLine (values : Settings) (line : List Char) : Option Settings :=
  if line = [] ∨ line.head? = some '#' then some values
  else
    match matchEnvironmentLine line with
    | some (name, value) => if name ∈ values then none else some (values.insert name value)
    | none => none

def encodeUtf8 (content : List Char) : ByteArray := (String.ofList content).toUTF8

def decodeUtf8 (bytes : ByteArray) : Option (List Char) := bytes.utf8Decode?.map Array.toList

def readEnvironmentAt (file : EnvironmentFile) : Option (List Char × Settings) := do
  guard (file.isRegular = true ∧ file.mode = 0o600 ∧ file.bytes.size ≤ maxEnvironmentBytes)
  let content ← decodeUtf8 file.bytes
  let values ← (splitlines content).foldlM readLine ∅
  some (content, values)

/-- A kept line without the ending that `persist_version` knows, and that ending. -/
def splitEnding (line : List Char) : List Char × List Char :=
  let ending := if line.getLast? = some '\n' then ['\n'] else []
  let rawLine := if ending = [] then line else line.dropLast
  if rawLine.getLast? = some '\r' then
    (rawLine.dropLast, if ending = [] then ['\r'] else ['\r', '\n'])
  else (rawLine, ending)

def webTagLine (version : String) : List Char := (webTagKey ++ "=" ++ version).toList

/-- The line to write for a line of the file, and whether it is the line of the version. -/
def updatedLine (version : String) (line : List Char) : List Char × Bool :=
  let (rawLine, ending) := splitEnding line
  if (matchEnvironmentLine rawLine).map Prod.fst = some webTagKey then
    (webTagLine version ++ ending, true)
  else (line, false)

/-- Everything that `persist_version` does before it writes. -/
def updatedContent (file : EnvironmentFile) (version : String) : Option (List Char) := do
  guard (validateVersion version = true)
  let (content, values) ← readEnvironmentAt file
  let current ← values.lookup webTagKey
  guard (validateVersion current = true)
  let updatedLines := (splitlinesKeepends content).map (updatedLine version)
  guard (updatedLines.countP Prod.snd = 1)
  some (updatedLines.map Prod.fst).flatten

/-- The temporary file may fail to be written, and the directory may fail to be synchronised
after the file has taken its place. -/
inductive Replacement
  | failed
  | unsynced
  | done
deriving DecidableEq, Repr

def replaceEnvironmentFile (outcome : Replacement) (file : EnvironmentFile) (payload : ByteArray) :
    Except String Unit × EnvironmentFile :=
  match outcome with
  | .failed => (.error "persist_failed", file)
  | .unsynced => (.error "persist_failed", ⟨true, 0o600, payload⟩)
  | .done => (.ok (), ⟨true, 0o600, payload⟩)

def persistVersion (outcome : Replacement) (file : EnvironmentFile) (version : String) :
    Except String Unit × EnvironmentFile :=
  match updatedContent file version with
  | some content => replaceEnvironmentFile outcome file (encodeUtf8 content)
  | none => (.error "persist_failed", file)

/-! ## What the file says -/

theorem encodeUtf8_append (first second : List Char) :
    encodeUtf8 (first ++ second) = encodeUtf8 first ++ encodeUtf8 second := by
  simp [encodeUtf8]

theorem decodeUtf8_encodeUtf8 (content : List Char) :
    decodeUtf8 (encodeUtf8 content) = some content := by
  simp [decodeUtf8, encodeUtf8]

theorem decodeUtf8_eq_some {bytes : ByteArray} {content : List Char} :
    decodeUtf8 bytes = some content ↔ bytes = encodeUtf8 content := by
  constructor
  · intro decoded
    obtain ⟨characters, found, rfl⟩ := Option.map_eq_some_iff.mp decoded
    have isSome : bytes.utf8Decode?.isSome = true := by rw [found]; rfl
    have encoded := ByteArray.utf8Encode_get_utf8Decode? (b := bytes) (h := isSome)
    simpa [encodeUtf8, found] using encoded.symm
  · rintro rfl
    exact decodeUtf8_encodeUtf8 content

theorem readEnvironmentAt_eq_some {file : EnvironmentFile} {content : List Char}
    {values : Settings} :
    readEnvironmentAt file = some (content, values) ↔
      (file.isRegular = true ∧ file.mode = 0o600 ∧ file.bytes.size ≤ maxEnvironmentBytes) ∧
        file.bytes = encodeUtf8 content ∧
        (splitlines content).foldlM readLine ∅ = some values := by
  simp only [readEnvironmentAt, Option.bind_eq_bind, Option.bind_eq_some_iff,
    Option.guard_eq_some', decodeUtf8_eq_some, Option.some.injEq, Prod.mk.injEq, exists_const]
  constructor
  · rintro ⟨safe, content, encoded, values, read, rfl, rfl⟩
    exact ⟨safe, encoded, read⟩
  · rintro ⟨safe, encoded, read⟩
    exact ⟨safe, content, encoded, values, read, rfl, rfl⟩

theorem matchEnvironmentLine_eq_some {line : List Char} {name value : String} :
    matchEnvironmentLine line = some (name, value) ↔
      line = name.toList ++ '=' :: value.toList ∧ (∀ c ∈ name.toList, isNameCharacter c = true) ∧
        name.toList.head?.any isNameStart = true ∧ '\n' ∉ value.toList := by
  constructor
  · intro found
    unfold matchEnvironmentLine at found
    split at found
    · rename_i rest shape
      split at found
      · rename_i admitted
        simp only [Option.some.injEq, Prod.mk.injEq] at found
        obtain ⟨rfl, rfl⟩ := found
        simp only [Bool.and_eq_true, Bool.not_eq_true', List.contains_eq_mem,
          decide_eq_false_iff_not] at admitted
        simp only [String.toList_ofList]
        refine ⟨?_, ?_, admitted.1, admitted.2⟩
        · rw [← shape, List.takeWhile_append_dropWhile]
        · intro c member
          exact List.mem_takeWhile_imp member
      · cases found
    · cases found
  · rintro ⟨rfl, inside, start, free⟩
    have taken : (name.toList ++ '=' :: value.toList).takeWhile isNameCharacter = name.toList := by
      rw [List.takeWhile_append_of_pos inside]
      simp [isNameCharacter]
    have dropped : (name.toList ++ '=' :: value.toList).dropWhile isNameCharacter =
        '=' :: value.toList := by
      rw [List.dropWhile_append_of_pos inside]
      simp [isNameCharacter]
    simp [matchEnvironmentLine, taken, dropped, start, free]

/-- The line sets the name. -/
def Sets (name : String) (line : List Char) : Prop :=
  (matchEnvironmentLine line).map Prod.fst = some name

instance (name : String) (line : List Char) : Decidable (Sets name line) :=
  inferInstanceAs (Decidable (_ = _))

theorem sets_iff {name : String} {line : List Char} :
    Sets name line ↔ ∃ value, matchEnvironmentLine line = some (name, value) := by
  simp only [Sets, Option.map_eq_some_iff, Prod.exists, exists_and_right]
  constructor
  · rintro ⟨_, ⟨value, found⟩, rfl⟩
    exact ⟨value, found⟩
  · rintro ⟨value, found⟩
    exact ⟨name, ⟨value, found⟩, rfl⟩

/-- A character after the line that belongs to no name changes nothing of the name. -/
theorem sets_concat_iff {name : String} {line : List Char} {character : Char}
    (notSign : character ≠ '=') (notFeed : character ≠ '\n') :
    Sets name (line ++ [character]) ↔ Sets name line := by
  simp only [sets_iff, matchEnvironmentLine_eq_some]
  constructor
  · rintro ⟨value, shape, inside, start, free⟩
    rcases List.eq_nil_or_concat value.toList with empty | ⟨rest, last, shape'⟩
    · rw [empty] at shape
      exact absurd (List.append_inj_right' shape rfl) (by simpa using notSign)
    · rw [shape', List.concat_eq_append, ← List.cons_append, ← List.append_assoc] at shape
      refine ⟨String.ofList rest, ?_, inside, start, ?_⟩
      · rw [String.toList_ofList]
        exact List.append_inj_left' shape rfl
      · rw [String.toList_ofList]
        intro member
        exact free (by simp [shape', member])
  · rintro ⟨value, shape, inside, start, free⟩
    refine ⟨String.ofList (value.toList ++ [character]), ?_, inside, start, ?_⟩
    · rw [shape, String.toList_ofList, List.append_assoc, List.cons_append]
    · rw [String.toList_ofList, List.mem_append, List.mem_singleton]
      exact not_or.mpr ⟨free, notFeed.symm⟩

theorem matchEnvironmentLine_of_skipped {line : List Char}
    (skipped : line = [] ∨ line.head? = some '#') : matchEnvironmentLine line = none := by
  rcases skipped with rfl | hash
  · rfl
  · obtain ⟨rest, rfl⟩ := List.head?_eq_some_iff.mp hash
    rfl

theorem readLine_eq_some {values values' : Settings} {line : List Char} :
    readLine values line = some values' ↔
      ((line = [] ∨ line.head? = some '#') ∧ values' = values) ∨
        ∃ name value, matchEnvironmentLine line = some (name, value) ∧ name ∉ values ∧
          values' = values.insert name value := by
  unfold readLine
  split
  · rename_i skipped
    simp [skipped, matchEnvironmentLine_of_skipped skipped, eq_comm]
  · rename_i read
    split
    · rename_i name value found
      split
      · rename_i present
        simp only [reduceCtorEq, read, false_and, found, Option.some.injEq, Prod.mk.injEq, false_or,
          false_iff]
        rintro ⟨_, _, ⟨rfl, rfl⟩, absent, -⟩
        exact absent present
      · rename_i absent
        simp only [read, false_and, found, Option.some.injEq, Prod.mk.injEq, false_or]
        constructor
        · rintro rfl
          exact ⟨name, value, ⟨rfl, rfl⟩, absent, rfl⟩
        · rintro ⟨_, _, ⟨rfl, rfl⟩, -, rfl⟩
          rfl
    · rename_i found
      simp [read, found]

/-- A line that sets a name is read only where the name is new. -/
theorem readLine_of_match {values values' : Settings} {line : List Char} {name value : String}
    (shape : matchEnvironmentLine line = some (name, value)) :
    readLine values line = some values' ↔ name ∉ values ∧ values' = values.insert name value := by
  rw [readLine_eq_some]
  constructor
  · rintro (⟨skipped, -⟩ | ⟨found, value', shape', absent, same⟩)
    · rw [matchEnvironmentLine_of_skipped skipped] at shape
      cases shape
    · rw [shape, Option.some.injEq, Prod.mk.injEq] at shape'
      obtain ⟨rfl, rfl⟩ := shape'
      exact ⟨absent, same⟩
  · rintro ⟨absent, same⟩
    exact .inr ⟨name, value, shape, absent, same⟩

/-- A line that does not set the name leaves it as it is. -/
theorem readLine_kept {values values' : Settings} {line : List Char} {name : String}
    (read : readLine values line = some values') (other : ¬ Sets name line) :
    values'.lookup name = values.lookup name := by
  rcases readLine_eq_some.mp read with ⟨-, rfl⟩ | ⟨found, value, shape, -, rfl⟩
  · rfl
  · refine AList.lookup_insert_ne ?_
    rintro rfl
    exact other (sets_iff.mpr ⟨value, shape⟩)

theorem readLines_kept {lines : List (List Char)} {values values' : Settings} {name : String}
    (read : lines.foldlM readLine values = some values') (present : name ∈ values) :
    values'.lookup name = values.lookup name ∧ ∀ line ∈ lines, ¬ Sets name line := by
  induction lines generalizing values with
  | nil =>
      simp only [List.foldlM_nil, Option.pure_def, Option.some.injEq] at read
      subst read
      simp
  | cons line lines ih =>
      rw [List.foldlM_cons, Option.bind_eq_bind, Option.bind_eq_some_iff] at read
      obtain ⟨middle, first, rest⟩ := read
      have other : ¬ Sets name line := by
        intro named
        obtain ⟨value, shape⟩ := sets_iff.mp named
        exact ((readLine_of_match shape).mp first).1 present
      have kept := readLine_kept first other
      have still : name ∈ middle := by
        rw [← AList.lookup_isSome, kept, AList.lookup_isSome]
        exact present
      obtain ⟨same, others⟩ := ih rest still
      exact ⟨same.trans kept, by simpa using ⟨other, others⟩⟩

/-- Where a setting comes from: the only line that sets it. -/
theorem exists_line_of_lookup {lines : List (List Char)} {values values' : Settings}
    {name value : String} (read : lines.foldlM readLine values = some values')
    (absent : name ∉ values) (found : values'.lookup name = some value) :
    ∃ earlier line later, lines = earlier ++ line :: later ∧
      matchEnvironmentLine line = some (name, value) ∧
      (∀ other ∈ earlier, ¬ Sets name other) ∧ ∀ other ∈ later, ¬ Sets name other := by
  induction lines generalizing values with
  | nil =>
      simp only [List.foldlM_nil, Option.pure_def, Option.some.injEq] at read
      rw [← read, AList.lookup_eq_none.mpr absent] at found
      cases found
  | cons line lines ih =>
      rw [List.foldlM_cons, Option.bind_eq_bind, Option.bind_eq_some_iff] at read
      obtain ⟨middle, first, rest⟩ := read
      by_cases named : Sets name line
      · obtain ⟨value', shape⟩ := sets_iff.mp named
        obtain ⟨-, rfl⟩ := (readLine_of_match shape).mp first
        obtain ⟨same, others⟩ := readLines_kept rest ((AList.mem_insert _).mpr (.inl rfl))
        rw [AList.lookup_insert, found, Option.some.injEq] at same
        subst same
        exact ⟨[], line, lines, rfl, shape, by simp, others⟩
      · have kept := readLine_kept first named
        have still : name ∉ middle := by
          rw [← AList.lookup_eq_none, kept, AList.lookup_eq_none]
          exact absent
        obtain ⟨earlier, source, later, rfl, shape, before, after⟩ := ih rest still
        exact ⟨line :: earlier, source, later, rfl, shape, by simpa using ⟨named, before⟩, after⟩

/-- The settings agree on every other name. -/
def AgreeExcept (name : String) (left right : Settings) : Prop :=
  ∀ other, other ≠ name → left.lookup other = right.lookup other

theorem readLines_agree {lines : List (List Char)} {name : String} {left right left' : Settings}
    (agree : AgreeExcept name left right) (others : ∀ line ∈ lines, ¬ Sets name line)
    (read : lines.foldlM readLine left = some left') :
    ∃ right', lines.foldlM readLine right = some right' ∧ AgreeExcept name left' right' ∧
      right'.lookup name = right.lookup name := by
  induction lines generalizing left right with
  | nil =>
      simp only [List.foldlM_nil, Option.pure_def, Option.some.injEq] at read
      subst read
      exact ⟨right, rfl, agree, rfl⟩
  | cons line lines ih =>
      rw [List.foldlM_cons, Option.bind_eq_bind, Option.bind_eq_some_iff] at read
      obtain ⟨middle, first, rest⟩ := read
      have step : ∃ middle', readLine right line = some middle' ∧ AgreeExcept name middle middle' ∧
          middle'.lookup name = right.lookup name := by
        rcases readLine_eq_some.mp first with ⟨skipped, rfl⟩ | ⟨found, value, shape, absent, rfl⟩
        · exact ⟨right, readLine_eq_some.mpr (.inl ⟨skipped, rfl⟩), agree, rfl⟩
        · have differ : found ≠ name := by
            rintro rfl
            exact others line (by simp) (sets_iff.mpr ⟨value, shape⟩)
          have absent' : found ∉ right := by
            rw [← AList.lookup_eq_none, ← agree found differ, AList.lookup_eq_none]
            exact absent
          refine ⟨right.insert found value, readLine_eq_some.mpr
            (.inr ⟨found, value, shape, absent', rfl⟩), ?_, AList.lookup_insert_ne differ.symm⟩
          intro other apart
          by_cases same : other = found
          · rw [same, AList.lookup_insert, AList.lookup_insert]
          · rw [AList.lookup_insert_ne same, AList.lookup_insert_ne same]
            exact agree other apart
      obtain ⟨middle', first', agree', same⟩ := step
      obtain ⟨right', rest', agree'', same'⟩ :=
        ih agree' (fun other member => others other (by simp [member])) rest
      refine ⟨right', ?_, agree'', same'.trans same⟩
      rw [List.foldlM_cons, Option.bind_eq_bind, Option.bind_eq_some_iff]
      exact ⟨middle', first', rest'⟩

/-- The line of a setting may give it another value. -/
theorem readLines_replace {earlier later : List (List Char)} {line line' : List Char}
    {name value value' : String} {values : Settings}
    (read : (earlier ++ line :: later).foldlM readLine ∅ = some values)
    (shape : matchEnvironmentLine line = some (name, value))
    (shape' : matchEnvironmentLine line' = some (name, value'))
    (others : ∀ other ∈ later, ¬ Sets name other) :
    ∃ values', (earlier ++ line' :: later).foldlM readLine ∅ = some values' ∧
      ∀ other, values'.lookup other = (values.insert name value').lookup other := by
  rw [List.foldlM_append, Option.bind_eq_bind, Option.bind_eq_some_iff] at read
  obtain ⟨before, first, rest⟩ := read
  rw [List.foldlM_cons, Option.bind_eq_bind, Option.bind_eq_some_iff] at rest
  obtain ⟨middle, second, rest⟩ := rest
  obtain ⟨absent, rfl⟩ := (readLine_of_match shape).mp second
  have agree : AgreeExcept name (before.insert name value) (before.insert name value') := by
    intro other differ
    rw [AList.lookup_insert_ne differ, AList.lookup_insert_ne differ]
  obtain ⟨values', rest', agree', same⟩ := readLines_agree agree others rest
  refine ⟨values', ?_, ?_⟩
  · rw [List.foldlM_append, Option.bind_eq_bind, Option.bind_eq_some_iff]
    refine ⟨before, first, ?_⟩
    rw [List.foldlM_cons, Option.bind_eq_bind, Option.bind_eq_some_iff]
    exact ⟨_, (readLine_of_match shape').mpr ⟨absent, rfl⟩, rest'⟩
  · intro other
    by_cases differ : other = name
    · rw [differ, same, AList.lookup_insert, AList.lookup_insert]
    · rw [AList.lookup_insert_ne differ, agree' other differ]

end Finrec.Updater
