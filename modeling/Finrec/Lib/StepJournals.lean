import Mathlib.Data.List.Basic
import Mathlib.Logic.Function.Basic
import Mathlib.Order.Lattice

/-!
# Journals of steps

Steps with an order are done one after the other, and a journal says of each of
them whether it is begun or completed.  The journal is written ahead: a step is
begun there before it is called, and completed there before the next one is
begun.  A log of what happened is accepted by the journal that it leaves.
-/

namespace StepJournals

inductive Status where
  | notStarted
  | started
  | completed
deriving DecidableEq

/-- A later status has a greater rank. -/
def Status.rank : Status → ℕ
  | .notStarted => 0
  | .started => 1
  | .completed => 2

variable {ι : Type}

/-- What happens around a journal.  A call and an end carry the journal that was saved then. -/
inductive Event (ι : Type) where
  | opened
  | started (step : ι)
  | called (step : ι) (saved : ι → Status)
  | completed (step : ι)
  | finished (saved : ι → Status)
  | rejected

variable [LinearOrder ι] [DecidableEq ι]

/-- The journal has begun a step, and has completed the steps before it. -/
def Marked (journal : ι → Status) (step : ι) : Prop :=
  journal step = .started ∧ ∀ earlier < step, journal earlier = .completed

inductive Advances : (ι → Status) → Event ι → (ι → Status) → Prop where
  | opened (journal : ι → Status) : Advances journal .opened fun _ => .notStarted
  | started {journal : ι → Status} {step : ι} (fresh : journal step = .notStarted)
      (turn : ∀ earlier < step, journal earlier = .completed) :
      Advances journal (.started step) (Function.update journal step .started)
  | called {journal : ι → Status} {step : ι} (marked : Marked journal step) :
      Advances journal (.called step journal) journal
  | completed {journal : ι → Status} {step : ι} (marked : Marked journal step) :
      Advances journal (.completed step) (Function.update journal step .completed)
  | finished {journal : ι → Status} (all : ∀ step, journal step = .completed) :
      Advances journal (.finished journal) journal

/-- The log leads from one journal to another. -/
inductive Accepts : (ι → Status) → List (Event ι) → (ι → Status) → Prop where
  | nil (journal : ι → Status) : Accepts journal [] journal
  | cons {journal next last : ι → Status} {event : Event ι} {log : List (Event ι)}
      (advances : Advances journal event next) (accepts : Accepts next log last) :
      Accepts journal (event :: log) last

variable {first middle last saved other : ι → Status} {event : Event ι}
  {log before between after : List (Event ι)} {step next : ι}

theorem Accepts.single (advances : Advances first event last) : Accepts first [event] last :=
  .cons advances (.nil last)

theorem Accepts.append (left : Accepts first before middle) (right : Accepts middle after last) :
    Accepts first (before ++ after) last := by
  induction left with
  | nil => exact right
  | cons advances _ ih => exact .cons advances (ih right)

theorem Accepts.split (accepts : Accepts first (before ++ after) last) :
    ∃ middle, Accepts first before middle ∧ Accepts middle after last := by
  induction before generalizing first with
  | nil => exact ⟨first, .nil first, accepts⟩
  | cons event before ih =>
      cases accepts with
      | cons advances accepts =>
          obtain ⟨middle, left, right⟩ := ih accepts
          exact ⟨middle, .cons advances left, right⟩

/-- Only a new journal takes a status back. -/
theorem Advances.rank_le (advances : Advances first event last) (same : event ≠ .opened)
    (step : ι) : (first step).rank ≤ (last step).rank := by
  cases advances with
  | opened => exact absurd rfl same
  | @started begun fresh turn =>
      by_cases here : step = begun
      · subst here
        rw [fresh]
        exact Nat.zero_le _
      · apply Nat.le_of_eq
        rw [Function.update_of_ne here]
  | called | finished => exact Nat.le_refl _
  | @completed done marked =>
      by_cases here : step = done
      · subst here
        rw [Function.update_self, marked.1]
        decide
      · apply Nat.le_of_eq
        rw [Function.update_of_ne here]

theorem Accepts.rank_le (accepts : Accepts first log last) (same : Event.opened ∉ log)
    (step : ι) : (first step).rank ≤ (last step).rank := by
  induction accepts with
  | nil => exact Nat.le_refl _
  | cons advances _ ih =>
      rw [List.mem_cons, not_or] at same
      exact Nat.le_trans (advances.rank_le (Ne.symm same.1) step) (ih same.2)

theorem Accepts.of_mem (accepts : Accepts first log last) (member : event ∈ log) :
    ∃ before after, Advances before event after := by
  induction accepts with
  | nil => cases member
  | cons advances _ ih =>
      rcases List.mem_cons.mp member with rfl | later
      · exact ⟨_, _, advances⟩
      · exact ih later

/-- A step is called where the saved journal has begun it and completed those before it. -/
theorem Accepts.marked (accepts : Accepts first log last) (called : .called step saved ∈ log) :
    Marked saved step := by
  obtain ⟨_, _, advances⟩ := accepts.of_mem called
  cases advances with
  | called marked => exact marked

/-- The end is saved where every step is completed. -/
theorem Accepts.all_completed (accepts : Accepts first log last)
    (finished : .finished saved ∈ log) (step : ι) : saved step = .completed := by
  obtain ⟨_, _, advances⟩ := accepts.of_mem finished
  cases advances with
  | finished all => exact all step

theorem Accepts.not_rejected (accepts : Accepts first log last) : .rejected ∉ log := by
  intro rejected
  obtain ⟨_, _, advances⟩ := accepts.of_mem rejected
  cases advances

/-- A step that the journal completed is not called again. -/
theorem Accepts.not_called (accepts : Accepts first (before ++ .called step saved :: after) last)
    (same : Event.opened ∉ before) : first step ≠ .completed := by
  intro done
  obtain ⟨middle, left, right⟩ := accepts.split
  cases right with
  | cons advances _ =>
      cases advances with
      | called marked =>
          have grows := left.rank_le same step
          rw [done, marked.1] at grows
          exact absurd grows (by decide)

theorem Accepts.not_called_again
    (accepts : Accepts first (before ++ .completed step :: (between ++ .called next saved :: after))
      last) (same : Event.opened ∉ between) : next ≠ step := by
  rintro rfl
  obtain ⟨middle, -, right⟩ := accepts.split
  cases right with
  | cons advances rest =>
      cases advances with
      | completed marked =>
          apply rest.not_called same
          exact Function.update_self _ _ _

/-- The calls for one journal come in the order of the steps. -/
theorem Accepts.calls_in_order
    (accepts : Accepts first
      (before ++ .called step saved :: (between ++ .called next other :: after)) last)
    (same : Event.opened ∉ between) : step ≤ next := by
  by_contra earlier
  obtain ⟨middle, -, right⟩ := accepts.split
  cases right with
  | cons advances rest =>
      cases advances with
      | called marked =>
          apply rest.not_called same
          exact marked.2 next (not_le.mp earlier)

end StepJournals
