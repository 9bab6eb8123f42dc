import Finrec.Updater.Environment

/-!
# Changing the version

`persist_version` knows a line feed, a carriage return and the two together as
the end of a line, while the file is cut at every line boundary of Unicode.  The
other boundaries are taken for the last character of the value, and go with it.
-/

namespace Finrec.Updater

open Lines

/-- The endings that `persist_version` puts back. -/
def plainEndings : List (List Char) := [[], ['\n'], ['\r'], ['\r', '\n']]

def keptEnding (ending : List Char) : List Char := if ending ∈ plainEndings then ending else []

/-- The line of the version ends in a way that `persist_version` knows. -/
def EndsPlainly (content : List Char) : Prop :=
  ∀ line ∈ lines content, Sets webTagKey line.body → line.ending ∈ plainEndings

/-- A file with a valid version of the web image, and the version to put there. -/
structure Replaceable (file : EnvironmentFile) (version : String) (content : List Char)
    (values : Settings) (current : String) : Prop where
  read : readEnvironmentAt file = some (content, values)
  found : values.lookup webTagKey = some current
  currentValid : validateVersion current = true
  versionValid : validateVersion version = true

/-- The two files differ in the version alone, as bytes and as settings. -/
structure DiffersInVersion (file file' : EnvironmentFile) (values : Settings)
    (current version : String) : Prop where
  bytes : ∃ before after : ByteArray,
    file.bytes = before ++ encodeUtf8 (webTagLine current) ++ after ∧
      file'.bytes = before ++ encodeUtf8 (webTagLine version) ++ after
  parses : ∃ content' values', readEnvironmentAt file' = some (content', values') ∧
    ∀ name, values'.lookup name = (values.insert webTagKey version).lookup name

/-- A change of the version changes nothing else, and a failure before the replacement changes
nothing. -/
def ChangesOnlyVersion (file : EnvironmentFile) (version : String) : Prop :=
  (∀ content values current, Replaceable file version content values current →
    ∃ file', persistVersion .done file version = (.ok (), file') ∧
      DiffersInVersion file file' values current version) ∧
  ∀ outcome, updatedContent file version = none ∨ outcome = .failed →
    persistVersion outcome file version = (.error "persist_failed", file)

/-! ## One line -/

theorem getLast?_ne_boundary {body : List Char} (inside : ∀ c ∈ body, isBoundary c = false)
    {character : Char} (boundary : isBoundary character = true) :
    body.getLast? ≠ some character := by
  intro last
  have := inside character (List.mem_of_getLast? last)
  simp [this] at boundary

theorem splitEnding_plain {body ending : List Char} (inside : ∀ c ∈ body, isBoundary c = false)
    (plain : ending ∈ plainEndings) : splitEnding (body ++ ending) = (body, ending) := by
  have noFeed : body.getLast? ≠ some '\n' := getLast?_ne_boundary inside rfl
  have noReturn : body.getLast? ≠ some '\r' := getLast?_ne_boundary inside rfl
  simp only [plainEndings, List.mem_cons, List.not_mem_nil, or_false] at plain
  rcases plain with rfl | rfl | rfl | rfl
  · simp [splitEnding, noFeed, noReturn]
  · simp [splitEnding, noReturn]
  · simp [splitEnding]
  · simp [splitEnding, List.getLast?_append]

theorem splitEnding_other {body : List Char} {character : Char} (notFeed : character ≠ '\n')
    (notReturn : character ≠ '\r') :
    splitEnding (body ++ [character]) = (body ++ [character], []) := by
  simp [splitEnding, notFeed, notReturn]

/-- How a line of a text ends. -/
theorem plain_or_of_ends {body ending : List Char} {rest : List Line} (ends : Ends body ending rest) :
    ending ∈ plainEndings ∨
      ∃ character, ending = [character] ∧ isBoundary character = true ∧ character ≠ '\n' ∧
        character ≠ '\r' := by
  cases ends with
  | pair => exact .inl (by simp [plainEndings])
  | @boundary character _ ends alone =>
      by_cases isFeed : character = '\n'
      · exact .inl (by simp [plainEndings, isFeed])
      · by_cases isReturn : character = '\r'
        · exact .inl (by simp [plainEndings, isReturn])
        · exact .inr ⟨character, rfl, ends, isFeed, isReturn⟩
  | «open» _ => exact .inl (by simp [plainEndings])

/-- What becomes of a line of the file. -/
def rewritten (version : String) (line : Line) : List Char × Bool :=
  if Sets webTagKey line.body then (webTagLine version ++ keptEnding line.ending, true)
  else (line.text, false)

theorem updatedLine_text {line : Line} {rest : List Line} (version : String)
    (inside : ∀ c ∈ line.body, isBoundary c = false) (ends : Ends line.body line.ending rest) :
    updatedLine version line.text = rewritten version line := by
  obtain ⟨body, ending⟩ := line
  rcases plain_or_of_ends ends with plain | ⟨character, rfl, boundary, notFeed, notReturn⟩
  · simp only [updatedLine, Line.text, splitEnding_plain inside plain, rewritten, keptEnding, plain,
      if_true, Sets]
  · have notPlain : [character] ∉ plainEndings := by simp [plainEndings, notFeed, notReturn]
    have notSign : character ≠ '=' := by
      rintro rfl
      simp [isBoundary] at boundary
    have same : Sets webTagKey (body ++ [character]) ↔ Sets webTagKey body :=
      sets_concat_iff notSign notFeed
    simp only [updatedLine, Line.text, splitEnding_other notFeed notReturn, rewritten, keptEnding,
      notPlain, if_false]
    by_cases named : Sets webTagKey body
    · rw [if_pos named]
      exact (if_pos (same.mpr named)).trans (by rw [List.append_nil])
    · rw [if_neg named]
      exact if_neg (mt same.mp named)

theorem map_updatedLine (version : String) {cut : List Line} (wellCut : WellCut cut) :
    (cut.map Line.text).map (updatedLine version) = cut.map (rewritten version) := by
  induction wellCut with
  | nil => rfl
  | cons inside ends _ ih => simp only [List.map_cons, updatedLine_text version inside ends, ih]

theorem map_rewritten (version : String) {cut : List Line}
    (others : ∀ line ∈ cut, ¬ Sets webTagKey line.body) :
    cut.map (rewritten version) = cut.map fun line => (line.text, false) := by
  apply List.map_congr_left
  intro line member
  exact if_neg (others line member)

/-! ## The line of a version -/

theorem isVersionPart_digits {part : List Char} (valid : isVersionPart part = true) :
    ∀ c ∈ part, '0' ≤ c ∧ c ≤ '9' := by
  intro c member
  cases part with
  | nil => cases member
  | cons first rest =>
      unfold isVersionPart at valid
      split at valid
      · cases valid
      · rename_i zero
        rw [zero, List.mem_singleton] at member
        rw [member]
        decide
      · rename_i first' rest' _ shape
        simp only [Bool.and_eq_true, decide_eq_true_eq, List.all_eq_true] at valid
        rw [shape] at member
        rcases List.mem_cons.mp member with rfl | inRest
        · exact ⟨Char.le_trans (b := '1') (by decide) valid.1.1, valid.1.2⟩
        · exact valid.2 c inRest

theorem version_characters {version : String} (valid : validateVersion version = true) :
    ∀ c ∈ version.toList, c = 'v' ∨ c = '.' ∨ '0' ≤ c ∧ c ≤ '9' := by
  intro c member
  unfold validateVersion at valid
  split at valid
  · rename_i numbers shape
    rw [shape] at member
    split at valid
    · rename_i major minor patch parts
      simp only [Bool.and_eq_true] at valid
      have joined : ['.'].intercalate (numbers.splitOn '.') = numbers := List.intercalate_splitOn '.'
      rw [parts] at joined
      rw [← joined] at member
      simp only [List.intercalate_cons_cons, List.intercalate_singleton, List.mem_cons,
        List.mem_append, List.not_mem_nil, or_false] at member
      rcases member with rfl | (inMajor | rfl) | (inMinor | rfl) | inPatch
      · exact .inl rfl
      · exact .inr (.inr (isVersionPart_digits valid.1.1 c inMajor))
      · exact .inr (.inl rfl)
      · exact .inr (.inr (isVersionPart_digits valid.1.2 c inMinor))
      · exact .inr (.inl rfl)
      · exact .inr (.inr (isVersionPart_digits valid.2 c inPatch))
    · cases valid
  · cases valid

theorem not_boundary_of_digit {c : Char} (lower : '0' ≤ c) (upper : c ≤ '9') :
    isBoundary c = false := by
  rw [← Bool.not_eq_true]
  intro boundary
  simp only [isBoundary, Bool.or_eq_true, decide_eq_true_eq] at boundary
  rcases boundary with (((((((((rfl | rfl) | rfl) | rfl) | rfl) | rfl) | rfl) | rfl) | rfl) | rfl)
  all_goals first | exact absurd lower (by decide) | exact absurd upper (by decide)

theorem webTagLine_toList (version : String) :
    webTagLine version = webTagKey.toList ++ '=' :: version.toList := by
  simp [webTagLine]

theorem webTagLine_ne_nil (version : String) : webTagLine version ≠ [] := by
  simp [webTagLine_toList]

theorem webTagLine_inside {version : String} (valid : validateVersion version = true) :
    ∀ c ∈ webTagLine version, isBoundary c = false := by
  have key : ∀ c ∈ webTagKey.toList, isBoundary c = false := by simp [webTagKey, isBoundary]
  intro c member
  rw [webTagLine_toList, List.mem_append, List.mem_cons] at member
  rcases member with inKey | rfl | inVersion
  · exact key c inKey
  · rfl
  · rcases version_characters valid c inVersion with rfl | rfl | digit
    · rfl
    · rfl
    · exact not_boundary_of_digit digit.1 digit.2

theorem matchEnvironmentLine_webTagLine {version : String} (valid : validateVersion version = true) :
    matchEnvironmentLine (webTagLine version) = some (webTagKey, version) := by
  apply matchEnvironmentLine_eq_some.mpr
  refine ⟨webTagLine_toList version, ?_, rfl, ?_⟩
  · simp [webTagKey, isNameCharacter]
  · intro feed
    have := webTagLine_inside valid '\n' (by simp [webTagLine_toList, feed])
    simp [isBoundary] at this

/-! ## The whole file -/

theorem exists_webTagLine {content : List Char} {values : Settings} {current : String}
    (read : (splitlines content).foldlM readLine ∅ = some values)
    (found : values.lookup webTagKey = some current) :
    ∃ earlier ending later, lines content = earlier ++ ⟨webTagLine current, ending⟩ :: later ∧
      (∀ line ∈ earlier, ¬ Sets webTagKey line.body) ∧
      ∀ line ∈ later, ¬ Sets webTagKey line.body := by
  obtain ⟨_, _, _, cut, shape, before, after⟩ :=
    exists_line_of_lookup read (AList.notMem_empty webTagKey) found
  obtain ⟨earlier, rest, split, rfl, tail⟩ := List.map_eq_append_iff.mp cut
  obtain ⟨⟨body, ending⟩, later, rfl, rfl, rfl⟩ := List.map_eq_cons_iff.mp tail
  have isTag : body = webTagLine current := by
    rw [webTagLine_toList]
    exact (matchEnvironmentLine_eq_some.mp shape).1
  subst isTag
  refine ⟨earlier, ending, later, split, ?_, ?_⟩
  · intro line member
    exact before _ (List.mem_map_of_mem member)
  · intro line member
    exact after _ (List.mem_map_of_mem member)

section Replacement

variable {file : EnvironmentFile} {version current : String} {content ending : List Char}
  {values : Settings} {earlier later : List Line}

theorem sets_webTagLine (valid : validateVersion current = true) :
    Sets webTagKey (webTagLine current) :=
  sets_iff.mpr ⟨current, matchEnvironmentLine_webTagLine valid⟩

theorem updatedContent_of_cut (replaceable : Replaceable file version content values current)
    (cut : lines content = earlier ++ ⟨webTagLine current, ending⟩ :: later)
    (before : ∀ line ∈ earlier, ¬ Sets webTagKey line.body)
    (after : ∀ line ∈ later, ¬ Sets webTagKey line.body) :
    updatedContent file version =
      some (text earlier ++ (webTagLine version ++ keptEnding ending ++ text later)) := by
  have updated : (splitlinesKeepends content).map (updatedLine version) =
      earlier.map (fun line => (line.text, false)) ++
        (webTagLine version ++ keptEnding ending, true) ::
          later.map fun line => (line.text, false) := by
    rw [splitlinesKeepends, map_updatedLine version (wellCut_lines content), cut, List.map_append,
      List.map_cons, map_rewritten version before, map_rewritten version after]
    simp [rewritten, sets_webTagLine replaceable.currentValid]
  have once : ((splitlinesKeepends content).map (updatedLine version)).countP Prod.snd = 1 := by
    simp [updated, List.countP_append, List.countP_map, Function.comp_def]
  simp only [updatedContent, replaceable.versionValid, guard_true, Option.pure_def,
    Option.bind_eq_bind, Option.bind_some, replaceable.read, replaceable.found,
    replaceable.currentValid, once]
  simp [updated, text, Function.comp_def]

theorem content_of_cut (cut : lines content = earlier ++ ⟨webTagLine current, ending⟩ :: later) :
    content = text earlier ++ (webTagLine current ++ (ending ++ text later)) := by
  have joined := text_lines content
  rw [cut, text_append, text_cons] at joined
  exact joined.symm

theorem endsPlainly_iff (valid : validateVersion current = true)
    (cut : lines content = earlier ++ ⟨webTagLine current, ending⟩ :: later)
    (before : ∀ line ∈ earlier, ¬ Sets webTagKey line.body)
    (after : ∀ line ∈ later, ¬ Sets webTagKey line.body) :
    EndsPlainly content ↔ ending ∈ plainEndings := by
  unfold EndsPlainly
  rw [cut]
  constructor
  · intro plain
    exact plain ⟨webTagLine current, ending⟩ (by simp) (sets_webTagLine valid)
  · intro plain line member named
    rcases List.mem_append.mp member with inEarlier | rest
    · exact absurd named (before line inEarlier)
    · rcases List.mem_cons.mp rest with rfl | inLater
      · exact plain
      · exact absurd named (after line inLater)

/-! Sizes in bytes -/

theorem size_append (first second : List Char) :
    (encodeUtf8 (first ++ second)).size = (encodeUtf8 first).size + (encodeUtf8 second).size := by
  rw [encodeUtf8_append, ByteArray.size_append]

theorem size_toList (value : String) : (encodeUtf8 value.toList).size = value.utf8ByteSize := by
  simp [encodeUtf8]

theorem size_webTagLine (version : String) :
    (encodeUtf8 (webTagLine version)).size =
      (encodeUtf8 (webTagKey.toList ++ ['='])).size + version.utf8ByteSize := by
  rw [webTagLine_toList, ← size_toList, ← size_append, List.append_assoc]
  rfl

/-- A lost ending shows in the size. -/
theorem size_keptEnding (ending : List Char) :
    (encodeUtf8 (keptEnding ending)).size = (encodeUtf8 ending).size ↔ ending ∈ plainEndings := by
  by_cases plain : ending ∈ plainEndings
  · simp [keptEnding, plain]
  · have nonempty : ending ≠ [] := by
      rintro rfl
      exact plain (by simp [plainEndings])
    have positive : (encodeUtf8 ending).size ≠ 0 := by
      simpa [encodeUtf8, ByteArray.size_eq_zero_iff] using nonempty
    have empty : (encodeUtf8 (keptEnding ending)).size = 0 := by
      simp [keptEnding, plain, encodeUtf8]
    constructor
    · intro same
      omega
    · intro isPlain
      exact absurd isPlain plain

/-- The new file, by its size. -/
theorem size_updated (cut : lines content = earlier ++ ⟨webTagLine current, ending⟩ :: later) :
    (encodeUtf8 (text earlier ++ (webTagLine version ++ keptEnding ending ++ text later))).size +
        current.utf8ByteSize + (encodeUtf8 ending).size =
      (encodeUtf8 content).size + version.utf8ByteSize + (encodeUtf8 (keptEnding ending)).size := by
  rw [content_of_cut cut]
  simp only [size_append, size_webTagLine]
  omega

theorem persistVersion_of_cut (replaceable : Replaceable file version content values current)
    (cut : lines content = earlier ++ ⟨webTagLine current, ending⟩ :: later)
    (before : ∀ line ∈ earlier, ¬ Sets webTagKey line.body)
    (after : ∀ line ∈ later, ¬ Sets webTagKey line.body) :
    persistVersion .done file version = (.ok (), ⟨true, 0o600,
      encodeUtf8 (text earlier ++ (webTagLine version ++ keptEnding ending ++ text later))⟩) := by
  simp only [persistVersion, updatedContent_of_cut replaceable cut before after,
    replaceEnvironmentFile]

/-- Only the tag is replaced where the ending of its line is kept and the file stays in bounds. -/
theorem differsInVersion_of_plain (replaceable : Replaceable file version content values current)
    (cut : lines content = earlier ++ ⟨webTagLine current, ending⟩ :: later)
    (after : ∀ line ∈ later, ¬ Sets webTagKey line.body) (plain : ending ∈ plainEndings)
    (fits : file.bytes.size + version.utf8ByteSize ≤ maxEnvironmentBytes + current.utf8ByteSize) :
    DiffersInVersion file ⟨true, 0o600, encodeUtf8
      (text earlier ++ (webTagLine version ++ keptEnding ending ++ text later))⟩
      values current version := by
  obtain ⟨-, encoded, read⟩ := readEnvironmentAt_eq_some.mp replaceable.read
  have kept : keptEnding ending = ending := if_pos plain
  refine ⟨⟨encodeUtf8 (text earlier), encodeUtf8 (ending ++ text later), ?_, ?_⟩, ?_⟩
  · rw [encoded, content_of_cut cut, encodeUtf8_append, encodeUtf8_append, ByteArray.append_assoc]
  · rw [kept, List.append_assoc, encodeUtf8_append, encodeUtf8_append, ByteArray.append_assoc]
  · have recut : lines (text earlier ++ (webTagLine version ++ keptEnding ending ++ text later)) =
        earlier ++ ⟨webTagLine version, ending⟩ :: later := by
      have wellCut : WellCut (earlier ++ ⟨webTagLine current, ending⟩ :: later) := by
        rw [← cut]
        exact wellCut_lines content
      have found := lines_text (wellCut.replace (webTagLine_inside replaceable.versionValid)
        (webTagLine_ne_nil version))
      rw [kept, ← found]
      simp
    rw [splitlines, cut, List.map_append, List.map_cons] at read
    obtain ⟨values', read', same⟩ := readLines_replace read
      (matchEnvironmentLine_webTagLine replaceable.currentValid)
      (matchEnvironmentLine_webTagLine replaceable.versionValid)
      (List.forall_mem_map.mpr after)
    refine ⟨_, values', readEnvironmentAt_eq_some.mpr ⟨⟨rfl, rfl, ?_⟩, rfl, ?_⟩, same⟩
    · have sizes := @size_updated version _ _ _ _ _ cut
      rw [(size_keptEnding ending).mpr plain, ← encoded] at sizes
      change (encodeUtf8 _).size ≤ _
      omega
    · rw [splitlines, recut, List.map_append, List.map_cons]
      exact read'

/-- A change of the version keeps the rest if and only if its line ends plainly and the file does
not outgrow the limit. -/
theorem differsInVersion_iff (replaceable : Replaceable file version content values current) :
    (∃ file', persistVersion .done file version = (.ok (), file') ∧
      DiffersInVersion file file' values current version) ↔
    EndsPlainly content ∧
      file.bytes.size + version.utf8ByteSize ≤ maxEnvironmentBytes + current.utf8ByteSize := by
  obtain ⟨-, encoded, read⟩ := readEnvironmentAt_eq_some.mp replaceable.read
  obtain ⟨earlier, ending, later, cut, before, after⟩ := exists_webTagLine read replaceable.found
  rw [persistVersion_of_cut replaceable cut before after,
    endsPlainly_iff replaceable.currentValid cut before after]
  have sizes := @size_updated version _ _ _ _ _ cut
  rw [← encoded] at sizes
  constructor
  · rintro ⟨file', shown, ⟨first, last, bytes, bytes'⟩, content', values', reads, -⟩
    simp only [Prod.mk.injEq, true_and] at shown
    subst shown
    obtain ⟨⟨-, -, small⟩, -, -⟩ := readEnvironmentAt_eq_some.mp reads
    have size := congrArg ByteArray.size bytes
    have size' := congrArg ByteArray.size bytes'
    simp only [ByteArray.size_append, size_webTagLine] at size size' small sizes
    have plain : ending ∈ plainEndings := by
      apply (size_keptEnding ending).mp
      omega
    have same := (size_keptEnding ending).mpr plain
    exact ⟨plain, by omega⟩
  · rintro ⟨plain, fits⟩
    exact ⟨_, rfl, differsInVersion_of_plain replaceable cut after plain fits⟩

end Replacement

/-- The condition under which a change of the version keeps everything else. -/
theorem version_change_keeps_rest_iff (file : EnvironmentFile) (version : String) :
    ChangesOnlyVersion file version ↔
      ∀ content values current, Replaceable file version content values current →
        EndsPlainly content ∧
          file.bytes.size + version.utf8ByteSize ≤
            maxEnvironmentBytes + current.utf8ByteSize := by
  constructor
  · rintro ⟨changes, -⟩ content values current replaceable
    exact (differsInVersion_iff replaceable).mp (changes content values current replaceable)
  · intro condition
    refine ⟨?_, ?_⟩
    · intro content values current replaceable
      exact (differsInVersion_iff replaceable).mpr (condition content values current replaceable)
    · intro outcome early
      rcases early with refused | rfl
      · simp only [persistVersion, refused]
      · unfold persistVersion
        cases updatedContent file version <;> rfl

namespace Sample

/-- The version and another setting, with a line separator of Unicode between them. -/
def separatedContent : List Char := "FINREC_WEB_IMAGE_TAG=v1.2.3\u2028OTHER=value\n".toList

def separatedFile : EnvironmentFile := ⟨true, 0o600, encodeUtf8 separatedContent⟩

def separatedSettings : Settings :=
  ((∅ : Settings).insert webTagKey "v1.2.3").insert "OTHER" "value"

end Sample

open Finrec.Updater.Sample in
/-- The setting after the separator becomes part of the version. -/
theorem version_change_keeps_rest_separator :
    (∃ file, persistVersion .done separatedFile "v1.3.0" = (.ok (), file) ∧
      file.bytes = encodeUtf8 "FINREC_WEB_IMAGE_TAG=v1.3.0OTHER=value\n".toList) ∧
    ¬ChangesOnlyVersion separatedFile "v1.3.0" := by
  refine ⟨⟨_, rfl, by decide +kernel⟩, fun changes => ?_⟩
  have cut : lines separatedContent =
      [⟨webTagLine "v1.2.3", ['\u2028']⟩, ⟨"OTHER=value".toList, ['\n']⟩] := by decide +kernel
  have read : (splitlines separatedContent).foldlM readLine ∅ = some separatedSettings := by
    rw [splitlines, cut]
    rfl
  have replaceable : Replaceable separatedFile "v1.3.0" separatedContent separatedSettings
      "v1.2.3" := by
    refine ⟨readEnvironmentAt_eq_some.mpr ⟨⟨rfl, rfl, ?_⟩, rfl, read⟩, rfl, ?_, ?_⟩
    · change (String.ofList separatedContent).utf8ByteSize ≤ maxEnvironmentBytes
      decide +kernel
    · decide +kernel
    · decide +kernel
  have kept := (differsInVersion_iff replaceable).mp
    (changes.1 _ _ _ replaceable)
  have plain := kept.1 ⟨webTagLine "v1.2.3", ['\u2028']⟩ (by rw [cut]; simp)
    (sets_webTagLine replaceable.currentValid)
  exact absurd plain (by decide)

end Finrec.Updater
