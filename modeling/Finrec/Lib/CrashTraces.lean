import Finrec.Lib.CrashLogic

/-!
# Runs that are cut

A trace lists the steps of a run: what the program hears at each of them, and
what there is after it.  The state of the program is a view of what there is,
which may hold more than the program sees.  Where a program dies at a step, the
step has taken effect or it has not.
-/

namespace CrashLogic

variable {κ σ ε δ γ α β : Type}

/-- The steps of a run with choices `κ`, and what there is after each of them. -/
abbrev Trace (κ γ : Type) := List (κ × γ)

namespace Trace

def choices (trace : Trace κ γ) : List κ := trace.map (·.1)

/-- What there is after the last step. -/
def final (start : γ) : Trace κ γ → γ
  | [] => start
  | step :: rest => final step.2 rest

/-- What a program hears that dies at a step of the trace, and what it leaves. -/
inductive Cut (dying : Bool → κ) : γ → Trace κ γ → List κ → γ → Prop where
  | before (start : γ) (step : κ × γ) (rest : Trace κ γ) :
      Cut dying start (step :: rest) [dying false] start
  | after (start : γ) (step : κ × γ) (rest : Trace κ γ) :
      Cut dying start (step :: rest) [dying true] step.2
  | later {start : γ} {step : κ × γ} {rest : Trace κ γ} {heard : List κ} {left : γ}
      (cut : Cut dying step.2 rest heard left) :
      Cut dying start (step :: rest) (step.1 :: heard) left

variable {dying : Bool → κ} {start left : γ} {first second : Trace κ γ} {heard : List κ}

theorem choices_append (first second : Trace κ γ) :
    (first ++ second).choices = first.choices ++ second.choices := List.map_append

theorem final_append (start : γ) (first second : Trace κ γ) :
    final start (first ++ second) = final (final start first) second := by
  induction first generalizing start with
  | nil => rfl
  | cons step rest ih => exact ih step.2

/-- A cut of two runs in sequence is a cut of one of them. -/
theorem Cut.append (cut : Cut dying start (first ++ second) heard left) :
    Cut dying start first heard left ∨
      ∃ more, heard = first.choices ++ more ∧ Cut dying (final start first) second more left := by
  induction first generalizing start heard with
  | nil => exact .inr ⟨heard, rfl, cut⟩
  | cons step rest ih =>
      cases cut with
      | before => exact .inl (.before _ step rest)
      | after => exact .inl (.after _ step rest)
      | later cut =>
          rcases ih cut with inFirst | ⟨more, rfl, inSecond⟩
          · exact .inl inFirst.later
          · exact .inr ⟨more, rfl, inSecond⟩

/-- What holds before a run and after each of its steps holds wherever it is cut. -/
theorem Cut.invariant {holds : γ → Prop} (cut : Cut dying start first heard left)
    (begins : holds start) (keeps : ∀ step ∈ first, holds step.2) : holds left := by
  induction cut with
  | before => exact begins
  | after start step rest => exact keeps step List.mem_cons_self
  | later cut ih =>
      apply ih
      · exact keeps _ List.mem_cons_self
      · intro step member
        exact keeps step (List.mem_cons_of_mem _ member)

end Trace

/-- A program that dies at a step of the trace leaves what the trace says, and every step keeps the
invariant. -/
structure Walks (dying : Bool → κ) (view : γ → σ) (holds : γ → Prop) (trace : Trace κ γ)
    (program : Program κ σ ε α) (start : γ) : Prop where
  dies : ∀ heard left, Trace.Cut dying start trace heard left →
    ∀ rest, program (view start) (heard ++ rest) = (.crashed, view left, rest)
  keeps : ∀ step ∈ trace, holds step.2

/-- A program that walks the trace and returns if it hears all of it. -/
structure Follows (dying : Bool → κ) (view : γ → σ) (holds : γ → Prop) (trace : Trace κ γ)
    (program : Program κ σ ε α) (start : γ) (value : α) : Prop
    extends Walks dying view holds trace program start where
  runs : Runs trace.choices program (view start) value (view (trace.final start))

section Walks

variable {dying : Bool → κ} {view : γ → σ} {holds : γ → Prop} {trace more : Trace κ γ}
  {program : Program κ σ ε α} {start middle after left : γ} {value : α} {heard : List κ}

theorem Trace.final_invariant (begins : holds start) (keeps : ∀ step ∈ trace, holds step.2) :
    holds (trace.final start) := by
  induction trace generalizing start with
  | nil => exact begins
  | cons step rest ih =>
      apply ih
      · exact keeps step List.mem_cons_self
      · intro other member
        exact keeps other (List.mem_cons_of_mem _ member)

theorem Walks.nil : Walks dying view holds [] program start := by
  refine ⟨?_, ?_⟩
  · intro heard left cut
    cases cut
  · intro step member
    cases member

/-- What a program leaves that dies at a step. -/
theorem Walks.leaves (walks : Walks dying view holds trace program start)
    (cut : Trace.Cut dying start trace heard left) (begins : holds start) :
    program.leaves (view start) heard = view left ∧ holds left := by
  have ran := walks.dies heard left cut []
  rw [List.append_nil] at ran
  exact ⟨Program.leaves_of_eq ran, cut.invariant begins walks.keeps⟩

/-- The first of two programs dies, or it returns and the second one dies. -/
theorem Follows.bind_walks {next : α → Program κ σ ε β}
    (first : Follows dying view holds trace program start value)
    (ends : trace.final start = middle)
    (rest : Walks dying view holds more (next value) middle) :
    Walks dying view holds (trace ++ more) (program >>= next) start := by
  subst ends
  refine ⟨?_, ?_⟩
  · intro heard left cut others
    rcases cut.append with inFirst | ⟨later, rfl, inSecond⟩
    · exact Program.bind_crashed (first.dies heard left inFirst others)
    · rw [List.append_assoc, Program.bind_returned (first.runs _)]
      exact rest.dies later left inSecond others
  · intro step member
    rcases List.mem_append.mp member with inFirst | inSecond
    · exact first.keeps step inFirst
    · exact rest.keeps step inSecond

/-- A sequence whose first part reads no choice. -/
theorem Walks.bind_free {next : α → Program κ σ ε β}
    (first : Runs [] program (view start) value (view start))
    (rest : Walks dying view holds trace (next value) start) :
    Walks dying view holds trace (program >>= next) start := by
  refine ⟨?_, rest.keeps⟩
  intro heard left cut others
  have ran := first (heard ++ others)
  rw [List.nil_append] at ran
  rw [Program.bind_returned ran]
  exact rest.dies heard left cut others

end Walks

namespace Follows

variable {dying : Bool → κ} {view : γ → σ} {holds : γ → Prop} {trace more : Trace κ γ}
  {program : Program κ σ ε α} {start middle after : γ} {value : α}

theorem pure : Follows dying view holds [] (Pure.pure value : Program κ σ ε α) start value :=
  ⟨Walks.nil, Runs.pure⟩

/-- A program of one step, when it lives and when it dies. -/
theorem of_step {choice : κ} (lives : Runs [choice] program (view start) value (view after))
    (before : ∀ rest, program (view start) (dying false :: rest) = (.crashed, view start, rest))
    (dies : ∀ rest, program (view start) (dying true :: rest) = (.crashed, view after, rest))
    (kept : holds after) :
    Follows dying view holds [(choice, after)] program start value := by
  refine ⟨⟨?_, ?_⟩, lives⟩
  · intro heard left cut
    cases cut with
    | before => exact before
    | after => exact dies
    | later cut => cases cut
  · intro step member
    rw [List.mem_singleton.mp member]
    exact kept

/-- A sequence whose first part ends in a known place. -/
theorem bind {next : α → Program κ σ ε β} {result : β}
    (first : Follows dying view holds trace program start value)
    (ends : trace.final start = middle)
    (rest : Follows dying view holds more (next value) middle result) :
    Follows dying view holds (trace ++ more) (program >>= next) start result := by
  refine ⟨first.bind_walks ends rest.toWalks, ?_⟩
  rw [Trace.choices_append, Trace.final_append, ends]
  exact Runs.bind (ends ▸ first.runs) rest.runs

/-- A sequence whose first part reads no choice. -/
theorem bind_free {next : α → Program κ σ ε β} {result : β}
    (first : Runs [] program (view start) value (view start))
    (rest : Follows dying view holds trace (next value) start result) :
    Follows dying view holds trace (program >>= next) start result :=
  ⟨rest.toWalks.bind_free first, Runs.bind_free first rest.runs⟩

theorem attempt {catches : ε → Option δ}
    (follows : Follows dying view holds trace program start value) :
    Follows dying view holds trace (Program.attempt catches program) start (.ok value) := by
  refine ⟨⟨?_, follows.keeps⟩, follows.runs.attempt⟩
  intro heard left cut rest
  exact Program.attempt_crashed (follows.dies heard left cut rest)

end Follows

end CrashLogic
