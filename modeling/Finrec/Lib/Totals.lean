import Mathlib.Algebra.BigOperators.Group.List.Basic
import Mathlib.Algebra.Order.BigOperators.Group.List
import Mathlib.Algebra.Order.Group.Int
import Mathlib.Algebra.Ring.Int.Defs
import Mathlib.Data.List.Nodup

/-!
# Totals over the selected rows of a table

`total select amount rows` is what `SELECT SUM(amount) FROM rows WHERE select`
computes, with zero for no row.  The facts below say how a total changes when
rows are added or when the selection changes, and that summing the totals of
distinct keys counts each row with one of those keys exactly once.
-/

namespace Totals

variable {α κ : Type}

/-- The sum of the amounts of the selected rows. -/
def total (select : α → Bool) (amount : α → ℤ) (rows : List α) : ℤ :=
  ((rows.filter select).map amount).sum

@[simp]
theorem total_nil (select : α → Bool) (amount : α → ℤ) : total select amount [] = 0 := rfl

theorem total_cons (select : α → Bool) (amount : α → ℤ) (row : α) (rows : List α) :
    total select amount (row :: rows) =
      (if select row then amount row else 0) + total select amount rows := by
  by_cases selected : select row
  · simp [total, selected]
  · simp [total, selected]

@[simp]
theorem total_append (select : α → Bool) (amount : α → ℤ) (left right : List α) :
    total select amount (left ++ right) =
      total select amount left + total select amount right := by
  simp [total]

theorem total_congr {select select' : α → Bool} {amount : α → ℤ} {rows : List α}
    (agree : ∀ row ∈ rows, select row = select' row) :
    total select amount rows = total select' amount rows := by
  simp only [total, List.filter_congr agree]

/-- Rows that are not selected do not count. -/
theorem total_eq_zero {select : α → Bool} {amount : α → ℤ} {rows : List α}
    (none : ∀ row ∈ rows, select row = false) : total select amount rows = 0 := by
  have empty : rows.filter select = [] := by
    rw [List.filter_eq_nil_iff]
    intro row member
    simp [none row member]
  simp [total, empty]

theorem total_nonneg {select : α → Bool} {amount : α → ℤ} {rows : List α}
    (nonneg : ∀ row ∈ rows, 0 ≤ amount row) : 0 ≤ total select amount rows := by
  apply List.sum_nonneg
  intro value member
  rcases List.mem_map.mp member with ⟨row, rowMem, rfl⟩
  exact nonneg row (List.mem_filter.mp rowMem).1

/-- A selected row of nonnegative amounts is part of the total. -/
theorem le_total_of_mem {select : α → Bool} {amount : α → ℤ} {rows : List α} {row : α}
    (nonneg : ∀ other ∈ rows, 0 ≤ amount other) (member : row ∈ rows)
    (selected : select row = true) : amount row ≤ total select amount rows := by
  apply List.single_le_sum
  · intro value valueMem
    rcases List.mem_map.mp valueMem with ⟨other, otherMem, rfl⟩
    exact nonneg other (List.mem_filter.mp otherMem).1
  · exact List.mem_map_of_mem (List.mem_filter.mpr ⟨member, selected⟩)

/-- Selecting fewer rows of nonnegative amounts cannot raise the total. -/
theorem total_le_total {select select' : α → Bool} {amount : α → ℤ} {rows : List α}
    (nonneg : ∀ row ∈ rows, 0 ≤ amount row)
    (implies : ∀ row ∈ rows, select row = true → select' row = true) :
    total select amount rows ≤ total select' amount rows := by
  induction rows with
  | nil => simp
  | cons row rows ih =>
      have tail := ih (fun row member => nonneg row (by simp [member]))
        (fun row member => implies row (by simp [member]))
      have head := nonneg row (by simp)
      have headImplies := implies row (by simp)
      rw [total_cons, total_cons]
      by_cases selected : select row = true
      · simp [selected, headImplies selected, tail]
      · by_cases selected' : select' row = true
        · simp only [selected, selected', ↓reduceIte, Bool.false_eq_true]
          omega
        · simp [selected, selected', tail]

theorem total_filter (select keep : α → Bool) (amount : α → ℤ) (rows : List α) :
    total select amount (rows.filter keep) =
      total (fun row => keep row && select row) amount rows := by
  simp [total, List.filter_filter, Bool.and_comm]

/-- A total splits along any condition. -/
theorem total_split (select condition : α → Bool) (amount : α → ℤ) (rows : List α) :
    total select amount rows =
      total (fun row => select row && condition row) amount rows +
        total (fun row => select row && !condition row) amount rows := by
  induction rows with
  | nil => simp
  | cons row rows ih =>
      rw [total_cons, total_cons, total_cons, ih]
      cases select row <;> cases condition row <;> simp <;> omega

theorem total_map {β : Type} (select : β → Bool) (amount : β → ℤ) (transform : α → β)
    (rows : List α) :
    total select amount (rows.map transform) =
      total (fun row => select (transform row)) (fun row => amount (transform row)) rows := by
  simp [total, List.filter_map, Function.comp_def]

/--
Adding up the totals of distinct keys counts every row with one of the keys exactly once.
-/
theorem sum_totals_eq_total [DecidableEq κ] (key : α → κ) (select : α → Bool) (amount : α → ℤ)
    (rows : List α) {keys : List κ} (distinct : keys.Nodup) :
    (keys.map fun wanted =>
        total (fun row => decide (key row = wanted) && select row) amount rows).sum =
      total (fun row => decide (key row ∈ keys) && select row) amount rows := by
  induction keys with
  | nil => simp [total]
  | cons wanted keys ih =>
      rcases List.nodup_cons.mp distinct with ⟨fresh, rest⟩
      rw [List.map_cons, List.sum_cons, ih rest]
      rw [total_split (fun row => decide (key row ∈ wanted :: keys) && select row)
        (fun row => decide (key row = wanted))]
      congr 1
      · apply total_congr
        intro row _
        by_cases same : key row = wanted
        · simp [same]
        · simp [same]
      · apply total_congr
        intro row _
        by_cases same : key row = wanted
        · simp [same, fresh]
        · simp [same]

/-- In a table with distinct keys, looking up a key finds exactly the row with that key. -/
theorem find?_eq_some_iff [DecidableEq κ] {key : α → κ} {rows : List α}
    (distinct : (rows.map key).Nodup) {wanted : κ} {row : α} :
    rows.find? (fun other => decide (key other = wanted)) = some row ↔
      row ∈ rows ∧ key row = wanted := by
  constructor
  · intro found
    exact ⟨List.mem_of_find?_eq_some found, by simpa using List.find?_some found⟩
  · rintro ⟨member, rfl⟩
    cases found : rows.find? fun other => decide (key other = key row) with
    | none => simpa using List.find?_eq_none.mp found row member
    | some other =>
        have sameKey : key other = key row := by simpa using List.find?_some found
        rw [List.inj_on_of_nodup_map distinct (List.mem_of_find?_eq_some found) member sameKey]

end Totals
