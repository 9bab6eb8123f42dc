import Mathlib.Data.List.Basic

/-!
# Lines of a text

`str.splitlines` cuts a text at ten kinds of line boundary, with a carriage
return and the line feed after it taken together.  A line is kept here with the
boundary that ended it, so that the text can be put together again.
-/

namespace Lines

/-- The characters at which a line ends. -/
def isBoundary (character : Char) : Bool :=
  character = '\n' || character = '\r' || character = '\x0b' || character = '\x0c' ||
    character = '\x1c' || character = '\x1d' || character = '\x1e' || character = '\x85' ||
    character = '\u2028' || character = '\u2029'

/-- A line and the boundary after it, which only the last line may lack. -/
structure Line where
  body : List Char
  ending : List Char
deriving DecidableEq, Repr

namespace Line

def text (line : Line) : List Char := line.body ++ line.ending

end Line

/-- Puts a character that ends no line in front of the first line. -/
def push (character : Char) : List Line → List Line
  | [] => [⟨[character], []⟩]
  | line :: rest => ⟨character :: line.body, line.ending⟩ :: rest

/-- The lines of a text with their endings. -/
def lines : List Char → List Line
  | [] => []
  | '\r' :: '\n' :: rest => ⟨[], ['\r', '\n']⟩ :: lines rest
  | character :: rest =>
      if isBoundary character then ⟨[], [character]⟩ :: lines rest else push character (lines rest)

/-- `str.splitlines()`. -/
def splitlines (content : List Char) : List (List Char) := (lines content).map Line.body

/-- `str.splitlines(keepends=True)`. -/
def splitlinesKeepends (content : List Char) : List (List Char) := (lines content).map Line.text

/-- `"".join(...)` of lines with their endings. -/
def text (cut : List Line) : List Char := (cut.map Line.text).flatten

@[simp] theorem text_nil : text [] = [] := rfl

@[simp] theorem text_cons (line : Line) (rest : List Line) :
    text (line :: rest) = line.body ++ (line.ending ++ text rest) := by
  simp [text, Line.text]

@[simp] theorem text_append (earlier later : List Line) :
    text (earlier ++ later) = text earlier ++ text later := by
  simp [text]

theorem text_push (character : Char) (cut : List Line) :
    text (push character cut) = character :: text cut := by
  cases cut with
  | nil => rfl
  | cons line rest => simp [push]

theorem text_lines (content : List Char) : text (lines content) = content := by
  induction content using lines.induct with
  | case1 => rfl
  | case2 rest ih => simp [lines, ih]
  | case3 character rest notPair ends ih =>
      rw [lines.eq_3 _ _ notPair, if_pos ends, text_cons, ih]
      rfl
  | case4 character rest notPair inside ih =>
      rw [lines.eq_3 _ _ notPair, if_neg inside, text_push, ih]

/-- How a line may end before the lines that follow it. -/
inductive Ends (body : List Char) : List Char → List Line → Prop where
  | pair (rest : List Line) : Ends body ['\r', '\n'] rest
  | boundary {character : Char} {rest : List Line} (ends : isBoundary character = true)
      (alone : character = '\r' → (text rest).head? ≠ some '\n') : Ends body [character] rest
  | open (nonempty : body ≠ []) : Ends body [] []

/-- Lines that are cut where a text of them is cut. -/
inductive WellCut : List Line → Prop where
  | nil : WellCut []
  | cons {line : Line} {rest : List Line} (inside : ∀ c ∈ line.body, isBoundary c = false)
      (ends : Ends line.body line.ending rest) (wellCut : WellCut rest) : WellCut (line :: rest)

theorem wellCut_push {character : Char} (inside : isBoundary character = false) {cut : List Line}
    (wellCut : WellCut cut) : WellCut (push character cut) := by
  cases wellCut with
  | nil =>
      refine .cons ?_ (.open (by simp)) .nil
      intro c member
      rw [List.mem_singleton.mp member]
      exact inside
  | @cons line rest inner ends wellCut =>
      refine .cons ?_ ?_ wellCut
      · intro c member
        rcases List.mem_cons.mp member with rfl | member
        · exact inside
        · exact inner c member
      · obtain ⟨body, ending⟩ := line
        cases ends with
        | pair => exact .pair rest
        | boundary ends alone => exact .boundary ends alone
        | «open» nonempty => exact .open (by simp)

theorem wellCut_lines (content : List Char) : WellCut (lines content) := by
  induction content using lines.induct with
  | case1 => exact .nil
  | case2 rest ih => exact .cons (by simp) (.pair _) ih
  | case3 character rest notPair ends ih =>
      rw [lines.eq_3 _ _ notPair, if_pos ends]
      refine .cons (by simp) (.boundary ends ?_) ih
      intro isReturn
      rw [text_lines]
      cases rest with
      | nil => simp
      | cons next rest =>
          intro feed
          exact notPair rest isReturn (by simpa using feed)
  | case4 character rest notPair inside ih =>
      rw [lines.eq_3 _ _ notPair, if_neg inside]
      exact wellCut_push (by simpa using inside) ih

theorem lines_cons_inside {character : Char} (inside : isBoundary character = false)
    (content : List Char) : lines (character :: content) = push character (lines content) := by
  have notReturn : character ≠ '\r' := by
    rintro rfl
    simp [isBoundary] at inside
  rw [lines.eq_3 _ _ (by intro _ isReturn; exact absurd isReturn notReturn), if_neg (by simp [inside])]

theorem lines_append_inside {body : List Char} (inside : ∀ c ∈ body, isBoundary c = false)
    {content ending : List Char} {rest : List Line}
    (found : lines content = ⟨[], ending⟩ :: rest) :
    lines (body ++ content) = ⟨body, ending⟩ :: rest := by
  induction body with
  | nil => exact found
  | cons character body ih =>
      rw [List.cons_append, lines_cons_inside (inside character (by simp)),
        ih (fun c member => inside c (by simp [member]))]
      rfl

theorem lines_open {body : List Char} (inside : ∀ c ∈ body, isBoundary c = false)
    (nonempty : body ≠ []) : lines body = [⟨body, []⟩] := by
  induction body with
  | nil => exact absurd rfl nonempty
  | cons character body ih =>
      rw [lines_cons_inside (inside character (by simp))]
      by_cases last : body = []
      · rw [last]
        rfl
      · rw [ih (fun c member => inside c (by simp [member])) last]
        rfl

/-- Lines are found again in the text they make. -/
theorem lines_text {cut : List Line} (wellCut : WellCut cut) : lines (text cut) = cut := by
  induction wellCut with
  | nil => rfl
  | @cons line rest inside ends wellCut ih =>
      obtain ⟨body, ending⟩ := line
      rw [text_cons]
      cases ends with
      | pair => exact lines_append_inside inside (by simp [lines, ih])
      | @boundary character _ ends alone =>
          refine lines_append_inside inside ?_
          rw [List.singleton_append, lines.eq_3, if_pos ends, ih]
          intro next isReturn feed
          exact alone isReturn (by rw [feed]; rfl)
      | «open» nonempty =>
          simp only [text_nil, List.append_nil]
          exact lines_open inside nonempty

/-- Every line is cut from the text after it. -/
theorem WellCut.line {earlier later : List Line} {line : Line}
    (wellCut : WellCut (earlier ++ line :: later)) :
    (∀ c ∈ line.body, isBoundary c = false) ∧ Ends line.body line.ending later := by
  induction earlier with
  | nil =>
      cases wellCut with
      | cons inside ends _ => exact ⟨inside, ends⟩
  | cons other earlier ih =>
      cases wellCut with
      | cons _ _ wellCut => exact ih wellCut

theorem Ends.text_ne_nil {body ending : List Char} {rest : List Line}
    (ends : Ends body ending rest) : body ++ ending ≠ [] := by
  cases ends with
  | pair => simp
  | boundary => simp
  | «open» nonempty => simpa using nonempty

/-- An ending stays one when the text after it changes but for a line feed at its start. -/
theorem Ends.transfer {body ending : List Char} {rest rest' : List Line}
    (ends : Ends body ending rest) (nonempty : rest ≠ [])
    (heads : (text rest').head? = some '\n' → (text rest).head? = some '\n') :
    Ends body ending rest' := by
  cases ends with
  | pair => exact .pair rest'
  | boundary ends alone => exact .boundary ends fun isReturn => mt heads (alone isReturn)
  | «open» _ => exact absurd rfl nonempty

/-- A line may be given another body: the cuts stay where they are. -/
theorem WellCut.replace {earlier later : List Line} {body body' ending : List Char}
    (wellCut : WellCut (earlier ++ ⟨body, ending⟩ :: later))
    (inside : ∀ c ∈ body', isBoundary c = false) (nonempty : body' ≠ []) :
    WellCut (earlier ++ ⟨body', ending⟩ :: later) := by
  induction earlier with
  | nil =>
      cases wellCut with
      | cons _ ends wellCut =>
          refine .cons inside ?_ wellCut
          cases ends with
          | pair => exact .pair later
          | boundary ends alone => exact .boundary ends alone
          | «open» _ => exact .open nonempty
  | cons line earlier ih =>
      cases wellCut with
      | cons inner ends wellCut =>
          refine .cons inner ?_ (ih wellCut)
          have heads : (text (earlier ++ ⟨body', ending⟩ :: later)).head? = some '\n' →
              (text (earlier ++ ⟨body, ending⟩ :: later)).head? = some '\n' := by
            intro feed
            cases earlier with
            | nil =>
                -- the new body begins with no line feed
                obtain ⟨first, more, rfl⟩ := List.exists_cons_of_ne_nil nonempty
                have isFeed : first = '\n' := by simpa using feed
                have notBoundary := inside first (by simp)
                simp [isFeed, isBoundary] at notBoundary
            | cons next earlier =>
                cases wellCut with
                | cons _ nextEnds _ =>
                    obtain ⟨first, more, shown⟩ :=
                      List.exists_cons_of_ne_nil nextEnds.text_ne_nil
                    rw [List.cons_append, text_cons, ← List.append_assoc, shown] at feed ⊢
                    exact feed
          exact ends.transfer (by simp) heads

end Lines
