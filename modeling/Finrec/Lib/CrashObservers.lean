import Finrec.Lib.CrashLogic

/-!
# Observed programs

An observer takes notes of a program: what it notes of a part of the program
depends on the states that the part starts in and leaves.  The notes change
nothing about the program.
-/

namespace CrashLogic

variable {κ σ ω ε δ α β : Type}

structure Observed (σ ω : Type) where
  state : σ
  log : List ω

namespace Program

def noting (note : σ → σ → List ω) (program : Program κ σ ε α) :
    Program κ (Observed σ ω) ε α :=
  fun here choices =>
    let ran := program here.state choices
    (ran.1, ⟨ran.2.1, here.log ++ note here.state ran.2.1⟩, ran.2.2)

/-- The observed program without its notes. -/
def Erases (observed : Program κ (Observed σ ω) ε α) (program : Program κ σ ε α) : Prop :=
  ∀ here choices, program here.state choices =
    ((observed here choices).1, (observed here choices).2.1.state, (observed here choices).2.2)

namespace Erases

variable {observed : Program κ (Observed σ ω) ε α} {program : Program κ σ ε α}

theorem noting (note : σ → σ → List ω) (program : Program κ σ ε α) :
    Erases (Program.noting note program) program := fun _ _ => rfl

theorem pure (value : α) :
    Erases (Pure.pure value : Program κ (Observed σ ω) ε α) (Pure.pure value) := fun _ _ => rfl

theorem raise (error : ε) :
    Erases (Program.raise error : Program κ (Observed σ ω) ε α) (Program.raise error) :=
  fun _ _ => rfl

theorem bind {next : α → Program κ (Observed σ ω) ε β} {erased : α → Program κ σ ε β}
    (first : Erases observed program) (rest : ∀ value, Erases (next value) (erased value)) :
    Erases (observed >>= next) (program >>= erased) := by
  intro here choices
  have ran := first here choices
  simp only [Bind.bind, Program.bind, ran]
  rcases observed here choices with ⟨outcome, after, others⟩
  cases outcome with
  | returned value => exact rest value after others
  | raised error => rfl
  | crashed => rfl

theorem attempt {catches : ε → Option δ} (erases : Erases observed program) :
    Erases (Program.attempt catches observed) (Program.attempt catches program) := by
  intro here choices
  have ran := erases here choices
  simp only [Program.attempt, ran]
  rcases observed here choices with ⟨outcome, after, others⟩
  cases outcome with
  | returned value => rfl
  | crashed => rfl
  | raised error =>
      simp only
      cases catches error with
      | some caught => rfl
      | none => rfl

theorem leaves (erases : Erases observed program) (here : Observed σ ω) (choices : List κ) :
    (observed.leaves here choices).state = program.leaves here.state choices := by
  rw [Program.leaves, Program.leaves, erases here choices]

end Erases

end Program

theorem Guarded.widen {catches : ε → Option δ} {invariant wider start fails : σ → Prop}
    {program : Program κ σ ε α} {returns : α → σ → Prop}
    (guarded : Guarded catches invariant start program returns fails)
    (implies : ∀ state, invariant state → wider state) :
    Guarded catches wider start program returns fails := by
  refine Satisfies.conseq guarded (fun _ started => started) (fun _ _ returned => returned) ?_
    implies
  intro error state raised
  cases caught : catches error with
  | some code =>
      simp only [caught] at raised ⊢
      exact raised
  | none =>
      simp only [caught] at raised ⊢
      exact implies state raised

/-- What a part of a program keeps, its observer keeps with the notes of it. -/
theorem Guarded.noting {catches : ε → Option δ} {invariant start fails : σ → Prop}
    {program : Program κ σ ε α} {returns : α → σ → Prop}
    (guarded : Guarded catches invariant start program returns fails)
    {note : σ → σ → List ω} {begins within failing : Observed σ ω → Prop}
    {ends : α → Observed σ ω → Prop} (starts : ∀ here, begins here → start here.state)
    (crashes : ∀ here after, begins here → invariant after →
      within ⟨after, here.log ++ note here.state after⟩)
    (succeeds : ∀ here value after, begins here → returns value after →
      ends value ⟨after, here.log ++ note here.state after⟩)
    (raises : ∀ here after, begins here → fails after →
      failing ⟨after, here.log ++ note here.state after⟩) :
    Guarded catches within begins (Program.noting note program) ends failing := by
  intro here choices began
  have kept := guarded here.state choices (starts here began)
  rcases ran : program here.state choices with ⟨outcome, after, others⟩
  simp only [Program.leaves, ran] at kept
  simp only [Program.leaves, Program.noting, ran]
  cases outcome with
  | returned value => exact succeeds here value after began kept
  | crashed => exact crashes here after began kept
  | raised error =>
      simp only [Contract.Holds] at kept ⊢
      cases caught : catches error with
      | some code =>
          simp only [caught] at kept ⊢
          exact raises here after began kept
      | none =>
          simp only [caught] at kept ⊢
          exact crashes here after began kept

end CrashLogic
