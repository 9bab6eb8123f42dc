import Mathlib.Algebra.BigOperators.Group.List.Basic
import Mathlib.Algebra.Ring.Int.Defs
import Mathlib.Data.List.Infix

/-!
# Contiguous windows with a given sum

For every start the search extends a window item by item, reports it when its
amounts add up to the target, and stops once they exceed it.
-/

namespace Windows

variable {α : Type}

/-- The windows that extend a given one, whose amounts add up to `total`, by the next items. -/
def extending (amount : α → ℤ) (target : ℤ) (total : ℤ) (window : List α) :
    List α → List (List α × ℤ)
  | [] => []
  | item :: rest =>
      let total := total + amount item
      (if total = target then [(window ++ [item], total)] else []) ++
        if target < total then [] else extending amount target total (window ++ [item]) rest

/-- All windows whose amounts add up to the target. -/
def contiguous (amount : α → ℤ) (target : ℤ) : List α → List (List α × ℤ)
  | [] => []
  | item :: rest =>
      extending amount target 0 [] (item :: rest) ++ contiguous amount target rest

theorem of_mem_extending {amount : α → ℤ} {target total : ℤ} {window items : List α}
    (totalEq : total = (window.map amount).sum) {found : List α × ℤ}
    (member : found ∈ extending amount target total window items) :
    found.2 = target ∧ (found.1.map amount).sum = target ∧
      ∃ taken, taken ≠ [] ∧ taken <+: items ∧ found.1 = window ++ taken := by
  induction items generalizing total window with
  | nil => simp [extending] at member
  | cons item rest ih =>
      have extended : total + amount item = ((window ++ [item]).map amount).sum := by
        simp [totalEq]
      simp only [extending, List.mem_append] at member
      rcases member with reported | later
      · split_ifs at reported with exact
        · rw [List.mem_singleton] at reported
          subst reported
          exact ⟨exact, extended.symm.trans exact, [item], by simp,
            List.prefix_append [item] rest, rfl⟩
        · simp at reported
      · split_ifs at later with exceeded
        · simp at later
        · rcases ih extended later with ⟨reached, sumEq, taken, -, isPrefix, same⟩
          refine ⟨reached, sumEq, item :: taken, by simp, ?_, by simp [same]⟩
          exact (List.prefix_cons_inj item).mpr isPrefix

/-- A window is a nonempty contiguous part of the items, with the target as its sum. -/
theorem of_mem_contiguous {amount : α → ℤ} {target : ℤ} {items : List α} {found : List α × ℤ}
    (member : found ∈ contiguous amount target items) :
    found.2 = target ∧ (found.1.map amount).sum = target ∧ found.1 ≠ [] ∧ found.1 <:+: items := by
  induction items with
  | nil => simp [contiguous] at member
  | cons item rest ih =>
      rcases List.mem_append.mp member with here | later
      · have start : (0 : ℤ) = (([] : List α).map amount).sum := rfl
        rcases of_mem_extending start here with ⟨reached, sumEq, taken, nonempty, isPrefix, same⟩
        rw [List.nil_append] at same
        rw [same] at sumEq ⊢
        exact ⟨reached, sumEq, nonempty, isPrefix.isInfix⟩
      · rcases ih later with ⟨reached, sumEq, nonempty, isInfix⟩
        exact ⟨reached, sumEq, nonempty, isInfix.trans (List.suffix_cons item rest).isInfix⟩

theorem extending_map {β : Type} (value : α → β) (amount : β → ℤ) (target total : ℤ)
    (window items : List α) :
    extending amount target total (window.map value) (items.map value) =
      (extending (amount ∘ value) target total window items).map fun found =>
        (found.1.map value, found.2) := by
  induction items generalizing total window with
  | nil => rfl
  | cons item rest ih =>
      have later := ih (total + amount (value item)) (window ++ [item])
      rw [List.map_append] at later
      simp only [List.map_cons, List.map_nil] at later
      simp only [List.map_cons, extending, later, List.map_append, Function.comp_apply]
      congr 1
      · split_ifs <;> simp
      · split_ifs <;> rfl

/-- The search looks at the amounts alone. -/
theorem contiguous_map {β : Type} (value : α → β) (amount : β → ℤ) (target : ℤ)
    (items : List α) :
    contiguous amount target (items.map value) =
      (contiguous (amount ∘ value) target items).map fun found =>
        (found.1.map value, found.2) := by
  induction items with
  | nil => rfl
  | cons item rest ih =>
      have here := extending_map value amount target 0 [] (item :: rest)
      rw [List.map_nil] at here
      rw [List.map_cons, contiguous, contiguous, ih, List.map_append, ← here, List.map_cons]

/-! ## The search is exact where the amounts are positive -/

/-- The lengths, less one, at which the running total meets the target. -/
def ends (amount : α → ℤ) (target total : ℤ) (items : List α) : List ℕ :=
  (List.range items.length).filter fun last =>
    total + ((items.take (last + 1)).map amount).sum = target

theorem ends_cons (amount : α → ℤ) (target total : ℤ) (item : α) (rest : List α) :
    ends amount target total (item :: rest) =
      (if total + amount item = target then [0] else []) ++
        (ends amount target (total + amount item) rest).map Nat.succ := by
  have later : (fun last => decide
      (total + (((item :: rest).take (last + 1)).map amount).sum = target)) ∘ Nat.succ =
      fun last => decide
        (total + amount item + ((rest.take (last + 1)).map amount).sum = target) := by
    funext last
    simp [add_assoc]
  simp only [ends, List.length_cons, List.range_succ_eq_map, List.filter_cons, List.filter_map,
    later]
  by_cases met : total + amount item = target <;> simp [met]

/-- Past the target no total meets it again. -/
theorem ends_of_le {amount : α → ℤ} {target total : ℤ} {items : List α}
    (positive : ∀ item ∈ items, 0 < amount item) (reached : target ≤ total) :
    ends amount target total items = [] := by
  induction items generalizing total with
  | nil => rfl
  | cons item rest ih =>
      have more := positive item (by simp)
      have passed : total + amount item ≠ target := by omega
      rw [ends_cons, if_neg passed,
        ih (fun other member => positive other (by simp [member])) (by omega)]
      rfl

theorem length_ends_le_one {amount : α → ℤ} {target total : ℤ} {items : List α}
    (positive : ∀ item ∈ items, 0 < amount item) :
    (ends amount target total items).length ≤ 1 := by
  induction items generalizing total with
  | nil => simp [ends]
  | cons item rest ih =>
      have positive' : ∀ other ∈ rest, 0 < amount other := by
        intro other member
        exact positive other (by simp [member])
      rw [ends_cons]
      by_cases met : total + amount item = target
      · simp [met, ends_of_le positive' (Int.le_refl target)]
      · simpa [met] using ih positive'

/-- The early stop loses no window. -/
theorem extending_eq {amount : α → ℤ} {target total : ℤ} {window items : List α}
    (positive : ∀ item ∈ items, 0 < amount item) :
    extending amount target total window items =
      (ends amount target total items).map fun last => (window ++ items.take (last + 1), target) := by
  induction items generalizing total window with
  | nil => rfl
  | cons item rest ih =>
      have positive' : ∀ other ∈ rest, 0 < amount other := by
        intro other member
        exact positive other (by simp [member])
      have later : (if target < total + amount item then []
          else extending amount target (total + amount item) (window ++ [item]) rest) =
          (ends amount target (total + amount item) rest).map fun last =>
            (window ++ [item] ++ rest.take (last + 1), target) := by
        by_cases exceeded : target < total + amount item
        · rw [if_pos exceeded, ends_of_le positive' (by omega)]
          rfl
        · rw [if_neg exceeded, ih positive']
      simp only [extending, later, ends_cons, List.map_append, List.map_map]
      by_cases met : total + amount item = target
      · simp [met, Function.comp_def]
      · simp [met, Function.comp_def]

/-- The first and the last position of every window with the sum. -/
def spans (amount : α → ℤ) (target : ℤ) (items : List α) : List (ℕ × ℕ) :=
  (List.range items.length).flatMap fun first =>
    (ends amount target 0 (items.drop first)).map fun count => (first, first + count)

/-- The slice from the first to the last position. -/
def segment (items : List α) (span : ℕ × ℕ) : List α :=
  (items.drop span.1).take (span.2 + 1 - span.1)

theorem spans_cons (amount : α → ℤ) (target : ℤ) (item : α) (rest : List α) :
    spans amount target (item :: rest) =
      (ends amount target 0 (item :: rest)).map (fun last => (0, last)) ++
        (spans amount target rest).map fun span => (span.1 + 1, span.2 + 1) := by
  have shifted (first count : ℕ) : first + 1 + count = first + count + 1 := by omega
  simp [spans, List.range_succ_eq_map, List.flatMap_map, List.map_flatMap, Function.comp_def,
    shifted]

theorem contiguous_eq_spans {amount : α → ℤ} {target : ℤ} {items : List α}
    (positive : ∀ item ∈ items, 0 < amount item) :
    contiguous amount target items =
      (spans amount target items).map fun span => (segment items span, target) := by
  induction items with
  | nil => rfl
  | cons item rest ih =>
      have positive' : ∀ other ∈ rest, 0 < amount other := by
        intro other member
        exact positive other (by simp [member])
      rw [contiguous, extending_eq positive, ih positive', spans_cons, List.map_append]
      simp [segment, Function.comp_def]

/-- One window for a start at most, in the order of the starts. -/
theorem pairwise_spans {amount : α → ℤ} {target : ℤ} {items : List α}
    (positive : ∀ item ∈ items, 0 < amount item) :
    (spans amount target items).Pairwise fun left right => left.1 < right.1 := by
  apply List.pairwise_flatMap.mpr
  refine ⟨?_, ?_⟩
  · intro first _
    have single : (ends amount target 0 (items.drop first)).length ≤ 1 :=
      length_ends_le_one fun item member => positive item (List.mem_of_mem_drop member)
    cases found : ends amount target 0 (items.drop first) with
    | nil => exact .nil
    | cons count more =>
        rw [found, List.length_cons] at single
        have alone : more = [] := List.length_eq_zero_iff.mp (by omega)
        simp [alone]
  · apply List.pairwise_lt_range.imp
    intro first second before left leftMem right rightMem
    obtain ⟨_, -, rfl⟩ := List.mem_map.mp leftMem
    obtain ⟨_, -, rfl⟩ := List.mem_map.mp rightMem
    exact before

theorem mem_spans_iff {amount : α → ℤ} {target : ℤ} {items : List α} {first last : ℕ} :
    (first, last) ∈ spans amount target items ↔
      first ≤ last ∧ last < items.length ∧
        ((segment items (first, last)).map amount).sum = target := by
  simp only [spans, ends, segment, List.mem_flatMap, List.mem_range, List.mem_map, List.mem_filter,
    List.length_drop, decide_eq_true_eq, Prod.mk.injEq, zero_add]
  constructor
  · rintro ⟨_, inside, count, ⟨fits, sumEq⟩, rfl, rfl⟩
    refine ⟨by omega, by omega, ?_⟩
    rw [show _ + count + 1 - _ = count + 1 by omega]
    exact sumEq
  · rintro ⟨ordered, inside, sumEq⟩
    refine ⟨first, by omega, last - first, ⟨by omega, ?_⟩, rfl, by omega⟩
    rw [show last - first + 1 = last + 1 - first by omega]
    exact sumEq

end Windows
