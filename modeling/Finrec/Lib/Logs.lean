import Finrec.Lib.CrashLogic

/-!
# Programs that keep a log

The state of a program can be a log to which the program only adds.  A
specification of such a program speaks of the entries that it adds, so that it
holds after any earlier log, and two specifications in sequence give one of the
joined entries.
-/

namespace CrashLogic

variable {κ τ ε δ α β : Type}

/-- What holds of the entries that were added before a program ended. -/
def Outcome.Logged (returned : α → List τ → Prop) (stopped : List τ → Prop) (added : List τ) :
    Outcome ε α → Prop
  | .returned value => returned value added
  | .raised _ => stopped added
  | .crashed => stopped added

/-- The program only adds to its log, and `returned` holds of what it adds before it returns,
`stopped` of what it adds before it raises an error or dies. -/
def Logs (program : Program κ (List τ) ε α) (returned : α → List τ → Prop)
    (stopped : List τ → Prop) : Prop :=
  ∀ log choices, ∃ added, program.leaves log choices = log ++ added ∧
    (program log choices).1.Logged returned stopped added

/-- What holds of the entries when the errors of a program are caught. -/
def Caught (returned : α → List τ → Prop) (stopped : List τ → Prop) : Except δ α → List τ → Prop
  | .ok value => returned value
  | .error _ => stopped

namespace Logs

variable {program : Program κ (List τ) ε α} {returned returned' : α → List τ → Prop}
  {stopped stopped' : List τ → Prop}

theorem conseq (logs : Logs program returned' stopped')
    (returnedHolds : ∀ value added, returned' value added → returned value added)
    (stoppedHolds : ∀ added, stopped' added → stopped added) :
    Logs program returned stopped := by
  intro log choices
  obtain ⟨added, left, ended⟩ := logs log choices
  refine ⟨added, left, ?_⟩
  cases outcome : (program log choices).1 with
  | returned value =>
      rw [outcome] at ended
      exact returnedHolds value added ended
  | raised error =>
      rw [outcome] at ended
      exact stoppedHolds added ended
  | crashed =>
      rw [outcome] at ended
      exact stoppedHolds added ended

theorem pure {value : α} (holds : returned value []) :
    Logs (Pure.pure value : Program κ (List τ) ε α) returned stopped :=
  fun log _ => ⟨[], (List.append_nil log).symm, holds⟩

theorem raise {error : ε} (holds : stopped []) :
    Logs (Program.raise error : Program κ (List τ) ε α) returned stopped :=
  fun log _ => ⟨[], (List.append_nil log).symm, holds⟩

/-- A step adds one entry, and the program can be cut off before it. -/
theorem act {react : κ → List τ → Outcome ε α × List τ} (entry : κ → τ) (cutOff : stopped [])
    (adds : ∀ choice log, (react choice log).2 = log ++ [entry choice])
    (ends : ∀ choice log, (react choice log).1.Logged returned stopped [entry choice]) :
    Logs (Program.act react) returned stopped := by
  intro log choices
  cases choices with
  | nil => exact ⟨[], (List.append_nil log).symm, cutOff⟩
  | cons choice rest => exact ⟨[entry choice], adds choice log, ends choice log⟩

/-- The second program goes on from what the first one added. -/
theorem bind {next : α → Program κ (List τ) ε β} {returned : β → List τ → Prop}
    {middle : α → List τ → Prop} (first : Logs program middle stopped)
    (rest : ∀ value added, middle value added →
      Logs (next value) (fun result more => returned result (added ++ more))
        fun more => stopped (added ++ more)) :
    Logs (program >>= next) returned stopped := by
  intro log choices
  obtain ⟨added, left, ended⟩ := first log choices
  rcases ran : program log choices with ⟨outcome, after, others⟩
  rw [Program.leaves_of_eq ran] at left
  rw [ran] at ended
  subst left
  cases outcome with
  | returned value =>
      obtain ⟨more, leftMore, endedMore⟩ := rest value added ended (log ++ added) others
      refine ⟨added ++ more, ?_, ?_⟩
      · rw [Program.leaves, Program.bind_returned ran, ← List.append_assoc]
        exact leftMore
      · rw [Program.bind_returned ran]
        cases result : (next value (log ++ added) others).1 with
        | returned value =>
            rw [result] at endedMore
            exact endedMore
        | raised error =>
            rw [result] at endedMore
            exact endedMore
        | crashed =>
            rw [result] at endedMore
            exact endedMore
  | raised error =>
      refine ⟨added, Program.leaves_of_eq (Program.bind_raised ran), ?_⟩
      rw [Program.bind_raised ran]
      exact ended
  | crashed =>
      refine ⟨added, Program.leaves_of_eq (Program.bind_crashed ran), ?_⟩
      rw [Program.bind_crashed ran]
      exact ended

theorem pure_bind {value : α} {next : α → Program κ (List τ) ε β} {returned : β → List τ → Prop}
    (rest : Logs (next value) returned stopped) :
    Logs ((Pure.pure value : Program κ (List τ) ε α) >>= next) returned stopped :=
  rest

theorem raise_bind {error : ε} {next : α → Program κ (List τ) ε β}
    {returned : β → List τ → Prop} (holds : stopped []) :
    Logs ((Program.raise error : Program κ (List τ) ε α) >>= next) returned stopped :=
  fun log _ => ⟨[], (List.append_nil log).symm, holds⟩

/-- A caught error leaves what was added before it. -/
theorem attempt {catches : ε → Option δ} (logs : Logs program returned stopped) :
    Logs (Program.attempt catches program) (Caught returned stopped) stopped := by
  intro log choices
  obtain ⟨added, left, ended⟩ := logs log choices
  rcases ran : program log choices with ⟨outcome, after, others⟩
  rw [Program.leaves_of_eq ran] at left
  rw [ran] at ended
  subst left
  cases outcome with
  | returned value =>
      refine ⟨added, Program.leaves_of_eq (Program.attempt_returned ran), ?_⟩
      rw [Program.attempt_returned ran]
      exact ended
  | raised error =>
      cases code : catches error with
      | some code' =>
          refine ⟨added, Program.leaves_of_eq (Program.attempt_caught ran code), ?_⟩
          rw [Program.attempt_caught ran code]
          exact ended
      | none =>
          refine ⟨added, Program.leaves_of_eq (Program.attempt_uncaught ran code), ?_⟩
          rw [Program.attempt_uncaught ran code]
          exact ended
  | crashed =>
      refine ⟨added, Program.leaves_of_eq (Program.attempt_crashed ran), ?_⟩
      rw [Program.attempt_crashed ran]
      exact ended

/-- What a run that returned has added. -/
theorem of_returned (logs : Logs program returned stopped) {log after : List τ}
    {choices rest : List κ} {value : α}
    (ran : program log choices = (.returned value, after, rest)) :
    ∃ added, after = log ++ added ∧ returned value added := by
  obtain ⟨added, left, ended⟩ := logs log choices
  rw [Program.leaves_of_eq ran] at left
  rw [ran] at ended
  exact ⟨added, left, ended⟩

end Logs

end CrashLogic
