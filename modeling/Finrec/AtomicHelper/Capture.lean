import Finrec.AtomicHelper.Helper
import Finrec.Updater.PersistVersion

/-!
# What a capture makes of the file

Only the line endings that the helper knows can follow a valid tag, so the line
of the tag gets its ending back, and all other lines stay as they are.
-/

namespace Finrec.AtomicHelper

open Lines Updater

/-- The two files have the same lines but for the value of the only line that sets the tag. -/
def DiffersInTag (bytes target : ByteArray) (old new : String) : Prop :=
  ∃ content content' earlier ending later,
    bytes = encodeUtf8 content ∧ target = encodeUtf8 content' ∧
      lines content = earlier ++ ⟨updaterTagLine old, ending⟩ :: later ∧
      lines content' = earlier ++ ⟨updaterTagLine new, ending⟩ :: later ∧
      ∀ line ∈ earlier ++ later, ¬ Sets updaterTagKey line.body

/-! ## One line -/

section Line

variable {body ending : List Char} {character : Char} {rest : List Line}

theorem rstripNewlines_body (inside : ∀ c ∈ body, isBoundary c = false) :
    rstripNewlines body = body := by
  apply List.rdropWhile_eq_self_iff.mpr
  intro nonempty newline
  have last := inside _ (List.getLast_mem nonempty)
  simp only [Bool.or_eq_true, decide_eq_true_eq] at newline
  rcases newline with isReturn | isFeed
  · simp [isReturn, isBoundary] at last
  · simp [isFeed, isBoundary] at last

theorem rstripNewlines_plain (inside : ∀ c ∈ body, isBoundary c = false)
    (plain : ending ∈ plainEndings) : rstripNewlines (body ++ ending) = body := by
  have kept := rstripNewlines_body inside
  simp only [rstripNewlines] at kept ⊢
  simp only [plainEndings, List.mem_cons, List.not_mem_nil, or_false] at plain
  rcases plain with rfl | rfl | rfl | rfl
  · rw [List.append_nil, kept]
  · rw [List.rdropWhile_concat_pos _ _ _ (by decide), kept]
  · rw [List.rdropWhile_concat_pos _ _ _ (by decide), kept]
  · rw [List.append_cons, List.rdropWhile_concat_pos _ _ _ (by decide),
      List.rdropWhile_concat_pos _ _ _ (by decide), kept]

theorem rstripNewlines_other (notFeed : character ≠ '\n') (notReturn : character ≠ '\r') :
    rstripNewlines (body ++ [character]) = body ++ [character] :=
  List.rdropWhile_concat_neg _ _ _ (by simp [notFeed, notReturn])

/-- A line sets the same names with and without what the helper leaves of its ending. -/
theorem sets_rstripNewlines_iff {name : String} (inside : ∀ c ∈ body, isBoundary c = false)
    (ends : Ends body ending rest) :
    Sets name (rstripNewlines (body ++ ending)) ↔ Sets name body := by
  rcases plain_or_of_ends ends with plain | ⟨character, rfl, boundary, notFeed, notReturn⟩
  · rw [rstripNewlines_plain inside plain]
  · rw [rstripNewlines_other notFeed notReturn]
    apply sets_concat_iff _ notFeed
    rintro rfl
    simp [isBoundary] at boundary

theorem version_not_boundary {version : String} (valid : validateVersion version = true) :
    ∀ c ∈ version.toList, isBoundary c = false := by
  intro c member
  rcases version_characters valid c member with rfl | rfl | digit
  · rfl
  · rfl
  · exact not_boundary_of_digit digit.1 digit.2

theorem updaterTagLine_inside {tag : String} (valid : validateVersion tag = true) :
    ∀ c ∈ updaterTagLine tag, isBoundary c = false := by
  have key : (updaterTagKey.toList.all fun c => isBoundary c = false) = true := by decide +kernel
  intro c member
  rcases List.mem_append.mp member with inKey | rest
  · exact of_decide_eq_true (List.all_eq_true.mp key c inKey)
  · rcases List.mem_cons.mp rest with rfl | inTag
    · rfl
    · exact version_not_boundary valid c inTag

theorem matchEnvironmentLine_updaterTagLine {tag : String}
    (inside : ∀ c ∈ updaterTagLine tag, isBoundary c = false) :
    matchEnvironmentLine (updaterTagLine tag) = some (updaterTagKey, tag) := by
  have key : (updaterTagKey.toList.all fun c => isNameCharacter c) = true := by decide +kernel
  refine matchEnvironmentLine_eq_some.mpr ⟨rfl, ?_, rfl, ?_⟩
  · exact fun c member => List.all_eq_true.mp key c member
  · intro feed
    have isInside := inside '\n' (by simp [updaterTagLine, feed])
    cases isInside

theorem updaterTagLine_injective {tag other : String}
    (same : updaterTagLine tag = updaterTagLine other) : tag = other := by
  simp only [updaterTagLine, List.append_cancel_left_eq, List.cons.injEq, true_and] at same
  exact String.toList_inj.mp same

theorem updaterTagLine_ne_nil (tag : String) : updaterTagLine tag ≠ [] := by
  simp [updaterTagLine]

/-- A valid tag is followed by an ending that the helper knows. -/
theorem plain_of_updaterTagLine {old : String} (inside : ∀ c ∈ body, isBoundary c = false)
    (ends : Ends body ending rest) (valid : validateVersion old = true)
    (found : rstripNewlines (body ++ ending) = updaterTagLine old) :
    body = updaterTagLine old ∧ ending ∈ plainEndings := by
  rcases plain_or_of_ends ends with plain | ⟨character, rfl, boundary, notFeed, notReturn⟩
  · rw [rstripNewlines_plain inside plain] at found
    exact ⟨found, plain⟩
  · rw [rstripNewlines_other notFeed notReturn] at found
    have member : character ∈ updaterTagLine old := by simp [← found]
    have inner := updaterTagLine_inside valid character member
    rw [boundary] at inner
    cases inner

end Line

/-! ## The scan -/

section Scan

variable {scan after : LineScan} {numbered : List Char × ℕ}

/-- What one line adds to a scan. -/
theorem scanLine_eq_some : scanLine scan numbered = some after ↔
    (after = scan ∧ (rstripNewlines numbered.1 = [] ∨
      (rstripNewlines numbered.1).head? = some '#')) ∨
    ∃ key value, matchEnvironmentLine (rstripNewlines numbered.1) = some (key, value) ∧
      key ∉ scan.seen ∧ after = ⟨key :: scan.seen,
        if key = updaterTagKey then some (numbered.2, value) else scan.updater⟩ := by
  unfold scanLine
  by_cases skipped : rstripNewlines numbered.1 = [] ∨
      (rstripNewlines numbered.1).head? = some '#'
  · simp only [skipped, if_true, matchEnvironmentLine_of_skipped skipped, Option.some.injEq,
      and_true, reduceCtorEq, false_and, exists_false, or_false]
    exact eq_comm
  · cases found : matchEnvironmentLine (rstripNewlines numbered.1) with
    | none => simp [skipped, found]
    | some pair =>
        obtain ⟨key, value⟩ := pair
        by_cases seen : key ∈ scan.seen
        · simp only [skipped, if_false, found, seen, if_true, reduceCtorEq, and_false, false_or,
            false_iff]
          rintro ⟨_, _, same, fresh, -⟩
          cases same
          exact fresh seen
        · simp only [skipped, if_false, found, seen, Option.some.injEq, and_false, false_or,
            Prod.mk.injEq]
          constructor
          · rintro rfl
            exact ⟨key, value, ⟨rfl, rfl⟩, seen, rfl⟩
          · rintro ⟨_, _, ⟨rfl, rfl⟩, -, rfl⟩
            rfl

/-- A line that does not set the tag leaves what the scan knows of it. -/
theorem scanLine_other (scanned : scanLine scan numbered = some after)
    (other : ¬ Sets updaterTagKey (rstripNewlines numbered.1)) :
    after.updater = scan.updater ∧ (updaterTagKey ∈ after.seen ↔ updaterTagKey ∈ scan.seen) := by
  rcases scanLine_eq_some.mp scanned with ⟨rfl, -⟩ | ⟨key, value, found, -, rfl⟩
  · exact ⟨rfl, Iff.rfl⟩
  · have differs : key ≠ updaterTagKey := by
      rintro rfl
      exact other (sets_iff.mpr ⟨value, found⟩)
    simp [differs, differs.symm]

theorem scanLine_tag (scanned : scanLine scan numbered = some after)
    (names : Sets updaterTagKey (rstripNewlines numbered.1)) :
    ∃ value, matchEnvironmentLine (rstripNewlines numbered.1) = some (updaterTagKey, value) ∧
      updaterTagKey ∉ scan.seen ∧ updaterTagKey ∈ after.seen ∧
        after.updater = some (numbered.2, value) := by
  obtain ⟨value, found⟩ := sets_iff.mp names
  rcases scanLine_eq_some.mp scanned with ⟨-, skipped⟩ | ⟨key, value', found', fresh, rfl⟩
  · rw [matchEnvironmentLine_of_skipped skipped] at found
    cases found
  · rw [found] at found'
    cases found'
    exact ⟨value, found, fresh, by simp, by simp⟩

/-- After the line of the tag no other line sets it. -/
theorem scan_seen {complete : List (List Char)} {index : ℕ}
    (scanned : (complete.zipIdx index).foldlM scanLine scan = some after)
    (seen : updaterTagKey ∈ scan.seen) :
    after.updater = scan.updater ∧
      ∀ line ∈ complete, ¬ Sets updaterTagKey (rstripNewlines line) := by
  induction complete generalizing scan index with
  | nil =>
      simp only [List.zipIdx_nil, List.foldlM_nil, Option.pure_def, Option.some.injEq] at scanned
      subst scanned
      simp
  | cons line complete ih =>
      rw [List.zipIdx_cons, List.foldlM_cons, Option.bind_eq_bind, Option.bind_eq_some_iff]
        at scanned
      obtain ⟨middle, first, rest⟩ := scanned
      have other : ¬ Sets updaterTagKey (rstripNewlines line) := by
        intro names
        obtain ⟨-, -, fresh, -⟩ := scanLine_tag first names
        exact fresh seen
      obtain ⟨kept, still⟩ := scanLine_other first other
      obtain ⟨same, others⟩ := ih rest (still.mpr seen)
      exact ⟨same.trans kept, by simpa using ⟨other, others⟩⟩

/-- The number that the scan has for the tag is that of the only line that sets it. -/
theorem exists_tag_line {complete : List (List Char)} {index number : ℕ} {value : String}
    (scanned : (complete.zipIdx index).foldlM scanLine scan = some after)
    (unknown : scan.updater = none) (found : after.updater = some (number, value)) :
    ∃ earlier line later, complete = earlier ++ line :: later ∧
      number = index + earlier.length ∧
      matchEnvironmentLine (rstripNewlines line) = some (updaterTagKey, value) ∧
      ∀ other ∈ earlier ++ later, ¬ Sets updaterTagKey (rstripNewlines other) := by
  induction complete generalizing scan index with
  | nil =>
      simp only [List.zipIdx_nil, List.foldlM_nil, Option.pure_def, Option.some.injEq] at scanned
      rw [← scanned, unknown] at found
      cases found
  | cons line complete ih =>
      rw [List.zipIdx_cons, List.foldlM_cons, Option.bind_eq_bind, Option.bind_eq_some_iff]
        at scanned
      obtain ⟨middle, first, rest⟩ := scanned
      by_cases names : Sets updaterTagKey (rstripNewlines line)
      · obtain ⟨value', shape, -, seen, known⟩ := scanLine_tag first names
        obtain ⟨same, others⟩ := scan_seen rest seen
        rw [found, known, Option.some.injEq, Prod.mk.injEq] at same
        obtain ⟨rfl, rfl⟩ := same
        exact ⟨[], line, complete, rfl, rfl, shape, others⟩
      · obtain ⟨kept, -⟩ := scanLine_other first names
        obtain ⟨earlier, source, later, rfl, rfl, shape, others⟩ :=
          ih rest (kept.trans unknown)
        refine ⟨line :: earlier, source, later, rfl, ?_, shape, ?_⟩
        · simp only [List.length_cons]
          omega
        · intro other member
          rcases List.mem_cons.mp member with rfl | member
          · exact names
          · exact others other member

end Scan

/-! ## The whole file -/

section Capture

variable {site : Site} {file : HostFile} {targetTag : String} {captured : Captured}

/-- The lines of the captured file, around the one of the tag. -/
structure Cuts (file : HostFile) (captured : Captured) (content : List Char)
    (earlier : List Line) (ending : List Char) (later : List Line) : Prop where
  encoded : file.bytes = encodeUtf8 content
  cut : lines content = earlier ++ ⟨updaterTagLine captured.oldTag, ending⟩ :: later
  others : ∀ line ∈ earlier ++ later, ¬ Sets updaterTagKey line.body

structure Accepted (file : HostFile) (targetTag : String) (captured : Captured) : Prop where
  isPrivate : file.status.IsPrivate
  small : file.bytes.size ≤ maxEnvBytes
  original : captured.original = file.bytes
  stat : captured.stat = statPayload file.status
  differs : captured.target ≠ file.bytes
  oldValid : validateVersion captured.oldTag = true
  target : ∃ content earlier ending later, Cuts file captured content earlier ending later ∧
    captured.target = encodeUtf8 (text (earlier ++ ⟨updaterTagLine targetTag, ending⟩ :: later))

theorem accepted_of_capture (ran : captureEnvironment site (some file) targetTag = some captured) :
    Accepted file targetTag captured := by
  simp only [captureEnvironment, Option.bind_eq_bind, Option.bind_eq_some_iff,
    Option.guard_eq_some', exists_const, Prod.exists] at ran
  obtain ⟨-, -, payload, status, reads, content, decoded, scan, scanned, index, old, found, valid,
    -, complete, listed, differs, made⟩ := ran
  obtain ⟨other, same, isPrivate, small, rfl, rfl⟩ := readEnvironment_eq_some.mp reads
  cases same
  cases made
  obtain ⟨before, source, after, split, number, shape, others⟩ :=
    exists_tag_line scanned rfl found
  rw [Nat.zero_add] at number
  obtain ⟨earlier, rest, cut, rfl, tail⟩ := List.map_eq_append_iff.mp split
  obtain ⟨⟨body, ending⟩, later, rfl, rfl, rfl⟩ := List.map_eq_cons_iff.mp tail
  have wellCut := wellCut_lines content
  rw [cut] at wellCut
  obtain ⟨inside, ends⟩ := wellCut.line
  obtain ⟨rfl, plain⟩ := plain_of_updaterTagLine inside ends valid
    (matchEnvironmentLine_eq_some.mp shape).1
  rw [List.length_map] at number
  subst number
  have complete_eq : complete = updaterTagLine old ++ ending := by
    simpa [splitlinesKeepends, cut, Line.text] using listed.symm
  subst complete_eq
  refine ⟨isPrivate, small, rfl, rfl, differs, valid, content, earlier, ending, later,
    ⟨decodeUtf8_eq_some.mp decoded, cut, ?_⟩, ?_⟩
  · intro line member
    rcases List.mem_append.mp member with inEarlier | inLater
    · obtain ⟨front, back, rfl⟩ := List.append_of_mem inEarlier
      rw [List.append_assoc, List.cons_append] at wellCut
      rw [← sets_rstripNewlines_iff wellCut.line.1 wellCut.line.2]
      exact others line.text (by simp)
    · obtain ⟨front, back, rfl⟩ := List.append_of_mem inLater
      rw [List.append_cons, ← List.append_assoc] at wellCut
      rw [← sets_rstripNewlines_iff wellCut.line.1 wellCut.line.2]
      exact others line.text (by simp)
  · rw [rstripNewlines_plain inside plain, List.drop_left]
    simp [splitlinesKeepends, cut, text, Line.text]

/-- What is captured differs from the file in the value of the tag alone. -/
theorem Accepted.differsInTag (accepted : Accepted file targetTag captured)
    (valid : validateVersion targetTag = true) :
    DiffersInTag captured.original captured.target captured.oldTag targetTag := by
  obtain ⟨content, earlier, ending, later, cuts, target⟩ := accepted.target
  refine ⟨content, _, earlier, ending, later, ?_, target, cuts.cut, ?_, cuts.others⟩
  · rw [accepted.original]
    exact cuts.encoded
  · apply lines_text
    have wellCut := wellCut_lines content
    rw [cuts.cut] at wellCut
    exact wellCut.replace (updaterTagLine_inside valid) (updaterTagLine_ne_nil targetTag)

theorem size_updaterTagLine (tag : String) :
    (encodeUtf8 (updaterTagLine tag)).size =
      (encodeUtf8 (updaterTagKey.toList ++ ['='])).size + tag.utf8ByteSize := by
  rw [← size_toList, ← size_append, List.append_assoc]
  rfl

/-- The size of the target, by the sizes of the tags. -/
theorem Accepted.size_target (accepted : Accepted file targetTag captured) :
    captured.target.size + captured.oldTag.utf8ByteSize =
      file.bytes.size + targetTag.utf8ByteSize := by
  obtain ⟨content, earlier, ending, later, cuts, target⟩ := accepted.target
  have joined := text_lines content
  rw [cuts.cut] at joined
  rw [target, cuts.encoded, ← joined]
  simp only [text_append, text_cons, size_append, size_updaterTagLine]
  omega

end Capture

end Finrec.AtomicHelper
