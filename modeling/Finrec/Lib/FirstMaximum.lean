import Mathlib.Data.List.Basic

/-!
# The first item of the highest score

A fold that keeps its item until a later one scores more ends with the first
item of the highest score.
-/

namespace FirstMaximum

variable {α : Type}

/-- Keeps the better of two items, and the earlier one of equals. -/
def better (score : α → ℕ) (best item : α) : α := if score best < score item then item else best

/-- No item before it scores as much, and no item after it scores more. -/
def IsFirst (score : α → ℕ) (items : List α) (best : α) : Prop :=
  ∃ earlier later, items = earlier ++ best :: later ∧
    (∀ item ∈ earlier, score item < score best) ∧ ∀ item ∈ later, score item ≤ score best

variable {score : α → ℕ} {items : List α} {best start : α}

theorem foldl_better_of_le (least : ∀ item ∈ items, score item ≤ score start) :
    items.foldl (better score) start = start := by
  induction items with
  | nil => rfl
  | cons item items ih =>
      have kept : better score start item = start := if_neg (by simpa using least item (by simp))
      rw [List.foldl_cons, kept]
      exact ih fun other member => least other (by simp [member])

theorem score_foldl_better_lt (below : ∀ item ∈ items, score item < score best)
    (startBelow : score start < score best) :
    score (items.foldl (better score) start) < score best := by
  induction items generalizing start with
  | nil => exact startBelow
  | cons item items ih =>
      refine ih (fun other member => below other (by simp [member])) ?_
      unfold better
      split_ifs
      · exact below item (by simp)
      · exact startBelow

theorem foldl_better_of_isFirst (first : IsFirst score (start :: items) best) :
    items.foldl (better score) start = best := by
  obtain ⟨earlier, later, cut, before, after⟩ := first
  cases earlier with
  | nil =>
      obtain ⟨rfl, rfl⟩ := List.cons_eq_cons.mp cut
      exact foldl_better_of_le after
  | cons _ earlier =>
      simp only [List.cons_append, List.cons.injEq] at cut
      obtain ⟨rfl, rfl⟩ := cut
      have below : score (earlier.foldl (better score) start) < score best :=
        score_foldl_better_lt (fun item member => before item (by simp [member]))
          (before start (by simp))
      rw [List.foldl_append, List.foldl_cons, better, if_pos below]
      exact foldl_better_of_le after

theorem exists_isFirst (nonempty : items ≠ []) : ∃ best, IsFirst score items best := by
  induction items with
  | nil => exact absurd rfl nonempty
  | cons item items ih =>
      by_cases last : items = []
      · subst last
        exact ⟨item, [], [], rfl, by simp, by simp⟩
      · obtain ⟨best, earlier, later, cut, before, after⟩ := ih last
        rcases Nat.lt_or_ge (score item) (score best) with less | more
        · refine ⟨best, item :: earlier, later, by rw [cut, List.cons_append], ?_, after⟩
          simpa using ⟨less, before⟩
        · refine ⟨item, [], items, rfl, by simp, ?_⟩
          intro other member
          rw [cut, List.mem_append, List.mem_cons] at member
          rcases member with inEarlier | rfl | inLater
          · exact Nat.le_trans (Nat.le_of_lt (before other inEarlier)) more
          · exact more
          · exact Nat.le_trans (after other inLater) more

end FirstMaximum
