import Mathlib.Data.List.Basic

/-!
# Programs that can crash

A program acts on a durable state.  Everything it does not decide itself, also
whether it dies at a step, is read from a list of choices, one for each step;
a program whose choices are used up dies too.  A contract says what holds when
a program returns, when it raises an error and when it dies.  A state in which
a program can die is a state that its user can meet, so the crash clause of a
contract speaks about every state between two steps.
-/

namespace CrashLogic

variable {κ σ ε δ α β : Type}

inductive Outcome (ε α : Type) where
  | returned (value : α)
  | raised (error : ε)
  | crashed

/-- A program with choices `κ`, durable state `σ`, errors `ε` and result `α`. -/
def Program (κ σ ε α : Type) := σ → List κ → Outcome ε α × σ × List κ

namespace Program

protected def pure (value : α) : Program κ σ ε α :=
  fun state choices => (.returned value, state, choices)

protected def bind (first : Program κ σ ε α) (next : α → Program κ σ ε β) : Program κ σ ε β :=
  fun state choices =>
    match first state choices with
    | (.returned value, after, rest) => next value after rest
    | (.raised error, after, rest) => (.raised error, after, rest)
    | (.crashed, after, rest) => (.crashed, after, rest)

instance : Monad (Program κ σ ε) where
  pure := Program.pure
  bind := Program.bind

def raise (error : ε) : Program κ σ ε α :=
  fun state choices => (.raised error, state, choices)

/-- Read the durable state. -/
def read : Program κ σ ε σ :=
  fun state choices => (.returned state, state, choices)

/-- One step, whose reaction depends on the next choice. -/
def act (react : κ → σ → Outcome ε α × σ) : Program κ σ ε α :=
  fun state choices =>
    match choices with
    | [] => (.crashed, state, [])
    | choice :: rest =>
        match react choice state with
        | (outcome, after) => (outcome, after, rest)

/-- Run a program and turn the errors that `catches` selects into results. -/
def attempt (catches : ε → Option δ) (program : Program κ σ ε α) :
    Program κ σ ε (Except δ α) :=
  fun state choices =>
    match program state choices with
    | (.returned value, after, rest) => (.returned (.ok value), after, rest)
    | (.raised error, after, rest) =>
        match catches error with
        | some caught => (.returned (.error caught), after, rest)
        | none => (.raised error, after, rest)
    | (.crashed, after, rest) => (.crashed, after, rest)

/-- The state that a program leaves behind, however it ended. -/
def leaves (program : Program κ σ ε α) (state : σ) (choices : List κ) : σ :=
  (program state choices).2.1

section Runs

variable {first : Program κ σ ε α} {next : α → Program κ σ ε β} {state after : σ}
  {choices rest : List κ}

theorem leaves_of_eq {outcome : Outcome ε α} (ran : first state choices = (outcome, after, rest)) :
    first.leaves state choices = after := by
  simp only [leaves, ran]

theorem bind_returned {value : α} (ran : first state choices = (.returned value, after, rest)) :
    (first >>= next) state choices = next value after rest := by
  simp only [Bind.bind, Program.bind, ran]

theorem bind_raised {error : ε} (ran : first state choices = (.raised error, after, rest)) :
    (first >>= next) state choices = (.raised error, after, rest) := by
  simp only [Bind.bind, Program.bind, ran]

theorem bind_crashed (ran : first state choices = (.crashed, after, rest)) :
    (first >>= next) state choices = (.crashed, after, rest) := by
  simp only [Bind.bind, Program.bind, ran]

theorem attempt_returned {catches : ε → Option δ} {value : α}
    (ran : first state choices = (.returned value, after, rest)) :
    attempt catches first state choices = (.returned (.ok value), after, rest) := by
  simp only [attempt, ran]

theorem attempt_caught {catches : ε → Option δ} {error : ε} {caught : δ}
    (ran : first state choices = (.raised error, after, rest)) (code : catches error = some caught) :
    attempt catches first state choices = (.returned (.error caught), after, rest) := by
  simp only [attempt, ran, code]

theorem attempt_uncaught {catches : ε → Option δ} {error : ε}
    (ran : first state choices = (.raised error, after, rest)) (code : catches error = none) :
    attempt catches first state choices = (.raised error, after, rest) := by
  simp only [attempt, ran, code]

theorem attempt_crashed {catches : ε → Option δ}
    (ran : first state choices = (.crashed, after, rest)) :
    attempt catches first state choices = (.crashed, after, rest) := by
  simp only [attempt, ran]

end Runs

end Program

/-- What holds of the state a program leaves, for each way it can end. -/
structure Contract (σ ε α : Type) where
  returns : α → σ → Prop
  raises : ε → σ → Prop
  crashes : σ → Prop

namespace Contract

def Holds (contract : Contract σ ε α) : Outcome ε α → σ → Prop
  | .returned value, state => contract.returns value state
  | .raised error, state => contract.raises error state
  | .crashed, state => contract.crashes state

end Contract

/-- Started in a state with the precondition, the program keeps the contract. -/
def Satisfies (before : σ → Prop) (program : Program κ σ ε α) (contract : Contract σ ε α) : Prop :=
  ∀ state choices, before state →
    contract.Holds (program state choices).1 (program.leaves state choices)

namespace Satisfies

variable {before weaker : σ → Prop} {contract : Contract σ ε α}
  {program : Program κ σ ε α}

theorem conseq {stronger : Contract σ ε α} (satisfied : Satisfies weaker program stronger)
    (preHolds : ∀ state, before state → weaker state)
    (returnsHold : ∀ value state, stronger.returns value state → contract.returns value state)
    (raisesHold : ∀ error state, stronger.raises error state → contract.raises error state)
    (crashesHold : ∀ state, stronger.crashes state → contract.crashes state) :
    Satisfies before program contract := by
  intro state choices start
  have kept := satisfied state choices (preHolds state start)
  generalize (program state choices).1 = outcome at kept ⊢
  cases outcome with
  | returned value => exact returnsHold value _ kept
  | raised error => exact raisesHold error _ kept
  | crashed => exact crashesHold _ kept

theorem weaken (satisfied : Satisfies weaker program contract)
    (preHolds : ∀ state, before state → weaker state) : Satisfies before program contract :=
  fun state choices start => satisfied state choices (preHolds state start)

theorem pure {value : α} (result : ∀ state, before state → contract.returns value state) :
    Satisfies before (Pure.pure value : Program κ σ ε α) contract :=
  fun state _ start => result state start

theorem raise {error : ε} (result : ∀ state, before state → contract.raises error state) :
    Satisfies before (Program.raise error : Program κ σ ε α) contract :=
  fun state _ start => result state start

theorem read {contract : Contract σ ε σ}
    (result : ∀ state, before state → contract.returns state state) :
    Satisfies before (Program.read : Program κ σ ε σ) contract :=
  fun state _ start => result state start

/-- The middle condition of a sequence is what the first program returns with. -/
theorem bind {first : Program κ σ ε α} {next : α → Program κ σ ε β} {contract : Contract σ ε β}
    {middle : α → σ → Prop}
    (firstKeeps : Satisfies before first ⟨middle, contract.raises, contract.crashes⟩)
    (nextKeeps : ∀ value, Satisfies (middle value) (next value) contract) :
    Satisfies before (first >>= next) contract := by
  intro state choices start
  have kept := firstKeeps state choices start
  rcases ran : first state choices with ⟨outcome, after, rest⟩
  simp only [Program.leaves, ran] at kept
  simp only [Program.leaves, Bind.bind, Program.bind, ran]
  cases outcome with
  | returned value => exact nextKeeps value after rest kept
  | raised error => exact kept
  | crashed => exact kept

/-- A step has to keep the contract for every choice, and can always be cut off before it. -/
theorem act {react : κ → σ → Outcome ε α × σ}
    (cutOff : ∀ state, before state → contract.crashes state)
    (reacts : ∀ choice state, before state →
      contract.Holds (react choice state).1 (react choice state).2) :
    Satisfies before (Program.act react) contract := by
  intro state choices start
  cases choices with
  | nil => exact cutOff state start
  | cons choice rest => exact reacts choice state start

theorem attempt {catches : ε → Option δ} {contract : Contract σ ε (Except δ α)}
    (satisfied : Satisfies before program
      ⟨fun value => contract.returns (.ok value),
        fun error state => match catches error with
          | some caught => contract.returns (.error caught) state
          | none => contract.raises error state,
        contract.crashes⟩) :
    Satisfies before (Program.attempt catches program) contract := by
  intro state choices start
  have kept := satisfied state choices start
  rcases ran : program state choices with ⟨outcome, after, rest⟩
  simp only [Program.leaves, ran] at kept
  simp only [Program.leaves, Program.attempt, ran]
  cases outcome with
  | returned value => exact kept
  | crashed => exact kept
  | raised error =>
      simp only [Contract.Holds] at kept
      split at kept <;> rename_i caught
      · simp only [caught]
        exact kept
      · simp only [caught]
        exact kept

/-- The clauses of a contract cover every way a program can end. -/
theorem leaves_of (satisfied : Satisfies before program contract) {common : σ → Prop}
    (returned : ∀ value state, contract.returns value state → common state)
    (raised : ∀ error state, contract.raises error state → common state)
    (crashed : ∀ state, contract.crashes state → common state)
    {state : σ} (start : before state) (choices : List κ) :
    common (program.leaves state choices) := by
  have kept := satisfied state choices start
  generalize (program state choices).1 = outcome at kept
  cases outcome with
  | returned value => exact returned value _ kept
  | raised error => exact raised error _ kept
  | crashed => exact crashed _ kept

end Satisfies

/-- A contract under which every state between two steps has an invariant.  Errors that are
caught may leave less than the invariant says about a result. -/
def Guarded (catches : ε → Option δ) (invariant : σ → Prop) (start : σ → Prop)
    (program : Program κ σ ε α) (returns : α → σ → Prop) (fails : σ → Prop) : Prop :=
  Satisfies start program ⟨returns,
    fun error state => match catches error with
      | some _ => fails state
      | none => invariant state,
    invariant⟩

namespace Guarded

variable {catches : ε → Option δ} {invariant start start' : σ → Prop} {program : Program κ σ ε α}
  {returns returns' : α → σ → Prop} {fails fails' : σ → Prop}

theorem conseq (guarded : Guarded catches invariant start' program returns' fails')
    (startHolds : ∀ state, start state → start' state)
    (returnsHold : ∀ value state, returns' value state → returns value state)
    (failsHold : ∀ state, fails' state → fails state) :
    Guarded catches invariant start program returns fails := by
  refine Satisfies.conseq guarded startHolds returnsHold ?_ fun _ crashed => crashed
  intro error state raised
  cases caught : catches error with
  | some code =>
      simp only [caught] at raised ⊢
      exact failsHold state raised
  | none =>
      simp only [caught] at raised ⊢
      exact raised

theorem bind {next : α → Program κ σ ε β} {returns : β → σ → Prop} {middle : α → σ → Prop}
    (first : Guarded catches invariant start program middle fails)
    (rest : ∀ value, Guarded catches invariant (middle value) (next value) returns fails) :
    Guarded catches invariant start (program >>= next) returns fails :=
  Satisfies.bind first rest

/-- A caught failure goes on like a result. -/
theorem attempt {returns : Except δ α → σ → Prop}
    (guarded : Guarded catches invariant start program (fun value => returns (.ok value))
      fun state => ∀ code, returns (.error code) state) :
    Guarded catches invariant start (Program.attempt catches program) returns fails := by
  refine Satisfies.attempt (Satisfies.conseq guarded (fun _ started => started)
    (fun _ _ returned => returned) ?_ fun _ crashed => crashed)
  intro error state raised
  cases caught : catches error with
  | some code =>
      simp only [caught] at raised ⊢
      exact raised code
  | none =>
      simp only [caught] at raised ⊢
      exact raised

theorem raiseOther {error : ε} (uncaught : catches error = none)
    (holds : ∀ state, start state → invariant state) :
    Guarded catches invariant start (Program.raise error : Program κ σ ε α) returns fails := by
  refine Satisfies.raise ?_
  intro state started
  simp only [uncaught]
  exact holds state started

/-- The invariant holds of what a program leaves, whatever its surroundings do. -/
theorem leaves_of {returns : α → σ → Prop}
    (guarded : Guarded catches invariant start program returns invariant)
    (returned : ∀ value state, returns value state → invariant state)
    {state : σ} (started : start state) (choices : List κ) :
    invariant (program.leaves state choices) := by
  refine Satisfies.leaves_of guarded returned ?_ (fun _ holds => holds) started choices
  intro error state raised
  dsimp only at raised
  split at raised
  · exact raised
  · exact raised

end Guarded

/-- What a program that ended did does not depend on choices that it has not read. -/
def Settled (program : Program κ σ ε α) : Prop :=
  ∀ state choices more outcome after rest, program state choices = (outcome, after, rest) →
    outcome ≠ .crashed → program state (choices ++ more) = (outcome, after, rest ++ more)

namespace Settled

theorem pure {value : α} : Settled (Pure.pure value : Program κ σ ε α) := by
  rintro state choices more outcome after rest ran -
  cases ran
  rfl

theorem raise {error : ε} : Settled (Program.raise error : Program κ σ ε α) := by
  rintro state choices more outcome after rest ran -
  cases ran
  rfl

theorem read : Settled (Program.read : Program κ σ ε σ) := by
  rintro state choices more outcome after rest ran -
  cases ran
  rfl

theorem act {react : κ → σ → Outcome ε α × σ} : Settled (Program.act react) := by
  intro state choices more outcome after rest ran ended
  cases choices with
  | nil => exact absurd (congrArg Prod.fst ran).symm ended
  | cons choice others =>
      cases ran
      rfl

theorem bind {first : Program κ σ ε α} {next : α → Program κ σ ε β} (firstSettled : Settled first)
    (nextSettled : ∀ value, Settled (next value)) : Settled (first >>= next) := by
  intro state choices more outcome after rest ran ended
  rcases firstRan : first state choices with ⟨result, middle, left⟩
  cases result with
  | returned value =>
      rw [Program.bind_returned firstRan] at ran
      rw [Program.bind_returned (firstSettled _ _ more _ _ _ firstRan nofun)]
      exact nextSettled value _ _ more _ _ _ ran ended
  | raised error =>
      rw [Program.bind_raised firstRan] at ran
      cases ran
      exact Program.bind_raised (firstSettled _ _ more _ _ _ firstRan nofun)
  | crashed =>
      rw [Program.bind_crashed firstRan] at ran
      exact absurd (congrArg Prod.fst ran).symm ended

end Settled

/-- Until it ran to an end that further choices do not change, the program changed nothing. -/
def Atomic (program : Program κ σ ε α) : Prop :=
  ∀ state choices more, program state choices = (.crashed, state, []) ∨
    ∃ outcome after rest, program state choices = (outcome, after, rest) ∧
      program state (choices ++ more) = (outcome, after, rest ++ more)

/-- An atomic program that never changes anything. -/
structure Looks (program : Program κ σ ε α) : Prop where
  atomic : Atomic program
  unchanged : ∀ state choices, program.leaves state choices = state

namespace Atomic

variable {first : Program κ σ ε α} {next : α → Program κ σ ε β}

theorem pure {value : α} : Atomic (Pure.pure value : Program κ σ ε α) :=
  fun state choices _ => .inr ⟨.returned value, state, choices, rfl, rfl⟩

theorem raise {error : ε} : Atomic (Program.raise error : Program κ σ ε α) :=
  fun state choices _ => .inr ⟨.raised error, state, choices, rfl, rfl⟩

theorem read : Atomic (Program.read : Program κ σ ε σ) :=
  fun state choices _ => .inr ⟨.returned state, state, choices, rfl, rfl⟩

theorem act {react : κ → σ → Outcome ε α × σ} : Atomic (Program.act react) := by
  intro state choices more
  cases choices with
  | nil => exact .inl rfl
  | cons choice rest =>
      exact .inr ⟨(react choice state).1, (react choice state).2, rest, rfl, rfl⟩

theorem bind (looks : Looks first) (nextAtomic : ∀ value, Atomic (next value)) :
    Atomic (first >>= next) := by
  intro state choices more
  rcases looks.atomic state choices more with cutOff | ⟨outcome, after, rest, ran, ranOn⟩
  · exact .inl (Program.bind_crashed cutOff)
  · obtain rfl : after = state := (Program.leaves_of_eq ran).symm.trans (looks.unchanged _ _)
    cases outcome with
    | returned value =>
        rw [Program.bind_returned ran, Program.bind_returned ranOn]
        exact nextAtomic value after rest more
    | raised error =>
        exact .inr ⟨_, _, _, Program.bind_raised ran, Program.bind_raised ranOn⟩
    | crashed =>
        exact .inr ⟨_, _, _, Program.bind_crashed ran, Program.bind_crashed ranOn⟩

/-- Returning a value after the last step. -/
theorem map {result : α → β} (atomic : Atomic first) :
    Atomic (first >>= fun value => Pure.pure (result value)) := by
  intro state choices more
  rcases atomic state choices more with cutOff | ⟨outcome, after, rest, ran, ranOn⟩
  · exact .inl (Program.bind_crashed cutOff)
  · cases outcome with
    | returned value =>
        exact .inr ⟨_, _, _, Program.bind_returned ran, Program.bind_returned ranOn⟩
    | raised error =>
        exact .inr ⟨_, _, _, Program.bind_raised ran, Program.bind_raised ranOn⟩
    | crashed =>
        exact .inr ⟨_, _, _, Program.bind_crashed ran, Program.bind_crashed ranOn⟩

/-- What an atomic program changed, it does not change again. -/
theorem leaves_append (atomic : Atomic first) (state : σ) (choices more : List κ) :
    first.leaves state choices = state ∨
      first.leaves state (choices ++ more) = first.leaves state choices := by
  rcases atomic state choices more with cutOff | ⟨outcome, after, rest, ran, ranOn⟩
  · exact .inl (Program.leaves_of_eq cutOff)
  · right
    rw [Program.leaves_of_eq ran, Program.leaves_of_eq ranOn]

end Atomic

namespace Looks

theorem pure {value : α} : Looks (Pure.pure value : Program κ σ ε α) :=
  ⟨Atomic.pure, fun _ _ => rfl⟩

theorem raise {error : ε} : Looks (Program.raise error : Program κ σ ε α) :=
  ⟨Atomic.raise, fun _ _ => rfl⟩

theorem read : Looks (Program.read : Program κ σ ε σ) :=
  ⟨Atomic.read, fun _ _ => rfl⟩

theorem act {react : κ → σ → Outcome ε α × σ}
    (unchanged : ∀ choice state, (react choice state).2 = state) : Looks (Program.act react) := by
  refine ⟨Atomic.act, fun state choices => ?_⟩
  cases choices with
  | nil => rfl
  | cons choice rest => exact unchanged choice state

theorem bind {first : Program κ σ ε α} {next : α → Program κ σ ε β} (looks : Looks first)
    (nextLooks : ∀ value, Looks (next value)) : Looks (first >>= next) := by
  refine ⟨Atomic.bind looks fun value => (nextLooks value).atomic, fun state choices => ?_⟩
  have same := looks.unchanged state choices
  rcases ran : first state choices with ⟨outcome, after, rest⟩
  rw [Program.leaves_of_eq ran] at same
  subst same
  cases outcome with
  | returned value =>
      rw [Program.leaves, Program.bind_returned ran]
      exact (nextLooks value).unchanged after rest
  | raised error => rw [Program.leaves_of_eq (Program.bind_raised ran)]
  | crashed => rw [Program.leaves_of_eq (Program.bind_crashed ran)]

end Looks

/-- With enough choices of a kind, the program uses up this many of them and returns. -/
def Succeeds (calm : κ → Prop) (steps : ℕ) (program : Program κ σ ε α) (state : σ) (value : α)
    (after : σ) : Prop :=
  ∀ choices, (∀ choice ∈ choices, calm choice) → steps ≤ choices.length →
    program state choices = (.returned value, after, choices.drop steps)

namespace Succeeds

variable {calm : κ → Prop} {steps more : ℕ} {program : Program κ σ ε α} {state middle after : σ}
  {value : α}

theorem pure : Succeeds calm 0 (Pure.pure value : Program κ σ ε α) state value state :=
  fun _ _ _ => rfl

theorem read : Succeeds calm 0 (Program.read : Program κ σ ε σ) state state state :=
  fun _ _ _ => rfl

theorem act {react : κ → σ → Outcome ε α × σ}
    (reacts : ∀ choice, calm choice → react choice state = (.returned value, after)) :
    Succeeds calm 1 (Program.act react) state value after := by
  intro choices allCalm enough
  cases choices with
  | nil => simp at enough
  | cons choice rest =>
      have calmNow := allCalm choice List.mem_cons_self
      simp only [Program.act, reacts choice calmNow, List.drop_succ_cons, List.drop_zero]

theorem bind {next : α → Program κ σ ε β} {result : β}
    (first : Succeeds calm steps program state value middle)
    (rest : Succeeds calm more (next value) middle result after) :
    Succeeds calm (steps + more) (program >>= next) state result after := by
  intro choices allCalm enough
  have ran := first choices allCalm (by omega)
  have calmLeft : ∀ choice ∈ choices.drop steps, calm choice :=
    fun choice member => allCalm choice (List.mem_of_mem_drop member)
  rw [Program.bind_returned ran, rest _ calmLeft (by rw [List.length_drop]; omega),
    List.drop_drop]

/-- A sequence whose first part needs no choice. -/
theorem after_free {next : α → Program κ σ ε β} {result : β}
    (first : Succeeds calm 0 program state value middle)
    (rest : Succeeds calm more (next value) middle result after) :
    Succeeds calm more (program >>= next) state result after := by
  have both := first.bind rest
  rwa [Nat.zero_add] at both

theorem attempt {catches : ε → Option δ}
    (succeeds : Succeeds calm steps program state value after) :
    Succeeds calm steps (Program.attempt catches program) state (.ok value) after :=
  fun choices allCalm enough => Program.attempt_returned (succeeds choices allCalm enough)

theorem leaves (succeeds : Succeeds calm steps program state value after) {choices : List κ}
    (allCalm : ∀ choice ∈ choices, calm choice) (enough : steps ≤ choices.length) :
    program.leaves state choices = after :=
  Program.leaves_of_eq (succeeds choices allCalm enough)

theorem mono {stricter : κ → Prop} (succeeds : Succeeds calm steps program state value after)
    (implies : ∀ choice, stricter choice → calm choice) :
    Succeeds stricter steps program state value after :=
  fun choices allStrict enough =>
    succeeds choices (fun choice member => implies choice (allStrict choice member)) enough

end Succeeds

/-- Given exactly these choices, the program returns; it reads no choices after them. -/
def Runs (choices : List κ) (program : Program κ σ ε α) (state : σ) (value : α) (after : σ) :
    Prop :=
  ∀ rest, program state (choices ++ rest) = (.returned value, after, rest)

namespace Runs

variable {choices more : List κ} {program : Program κ σ ε α} {state middle after : σ} {value : α}

theorem pure : Runs [] (Pure.pure value : Program κ σ ε α) state value state :=
  fun _ => rfl

theorem act {choice : κ} {react : κ → σ → Outcome ε α × σ}
    (reacts : react choice state = (.returned value, after)) :
    Runs [choice] (Program.act react) state value after := by
  intro rest
  simp only [List.cons_append, List.nil_append, Program.act, reacts]

theorem bind {next : α → Program κ σ ε β} {result : β}
    (first : Runs choices program state value middle)
    (rest : Runs more (next value) middle result after) :
    Runs (choices ++ more) (program >>= next) state result after := by
  intro others
  rw [List.append_assoc, Program.bind_returned (first _)]
  exact rest others

/-- A sequence whose first part reads no choice. -/
theorem bind_free {next : α → Program κ σ ε β} {result : β}
    (first : Runs [] program state value middle)
    (rest : Runs choices (next value) middle result after) :
    Runs choices (program >>= next) state result after :=
  Runs.bind first rest

theorem attempt {catches : ε → Option δ} (runs : Runs choices program state value after) :
    Runs choices (Program.attempt catches program) state (.ok value) after :=
  fun rest => Program.attempt_returned (runs rest)

/-- A run on equal choices, read off any list that begins with enough of them. -/
theorem succeeds {steps : ℕ} {choice : κ}
    (runs : Runs (List.replicate steps choice) program state value after) :
    Succeeds (· = choice) steps program state value after := by
  intro choices same enough
  have begins : choices.take steps = List.replicate steps choice := by
    rw [List.eq_replicate_iff]
    refine ⟨by rw [List.length_take]; omega, ?_⟩
    intro other member
    exact same other (List.mem_of_mem_take member)
  have split : choices = List.replicate steps choice ++ choices.drop steps := by
    rw [← begins, List.take_append_drop]
  have ran := runs (choices.drop steps)
  rwa [← split] at ran

theorem leaves (runs : Runs choices program state value after) :
    program.leaves state choices = after := by
  have ran := runs []
  rw [List.append_nil] at ran
  exact Program.leaves_of_eq ran

end Runs

end CrashLogic
