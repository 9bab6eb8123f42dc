import Mathlib.Data.List.Nodup

/-!
# Updating a row of a table

A table is a list of rows with distinct keys.  An update replaces the row with
one key; it changes the number of rows with a property by what the change does
to that one row.
-/

namespace Tables

variable {α κ β : Type} [DecidableEq κ]

/-- Change the rows with a key. -/
def update (key : α → κ) (id : κ) (change : α → α) (rows : List α) : List α :=
  rows.map fun row => if key row = id then change row else row

section

variable {key : α → κ} {id : κ} {change : α → α} {rows : List α} {row : α}

/-- A column that the change leaves alone is the same after the update. -/
theorem map_update {column : α → β} (kept : ∀ row, column (change row) = column row) :
    (update key id change rows).map column = rows.map column := by
  rw [update, List.map_map]
  refine List.map_congr_left fun row _ => ?_
  by_cases same : key row = id
  · simp [same, kept]
  · simp [same]

theorem mem_update_of_ne (member : row ∈ rows) (other : key row ≠ id) :
    row ∈ update key id change rows := by
  refine List.mem_map.mpr ⟨row, member, ?_⟩
  rw [if_neg other]

theorem change_mem_update (change : α → α) (member : row ∈ rows) :
    change row ∈ update key (key row) change rows := by
  refine List.mem_map.mpr ⟨row, member, ?_⟩
  rw [if_pos rfl]

/-- A row after an update is an old one or the change of the one with the key. -/
theorem mem_update {updated : α} (member : updated ∈ update key id change rows) :
    (updated ∈ rows ∧ key updated ≠ id) ∨ ∃ row ∈ rows, key row = id ∧ updated = change row := by
  rcases List.mem_map.mp member with ⟨row, rowMem, rfl⟩
  by_cases same : key row = id
  · exact .inr ⟨row, rowMem, same, if_pos same⟩
  · rw [if_neg same]
    exact .inl ⟨rowMem, same⟩

theorem update_of_not_mem (absent : id ∉ rows.map key) : update key id change rows = rows := by
  have kept : ∀ row ∈ rows, (if key row = id then change row else row) = row := by
    intro row member
    rw [if_neg]
    rintro rfl
    exact absent (List.mem_map_of_mem member)
  rw [update, List.map_congr_left kept, List.map_id']

/-- Only what the change does to the row with the key counts. -/
theorem update_congr {other : α → α} (agree : ∀ row ∈ rows, key row = id → change row = other row) :
    update key id change rows = update key id other rows := by
  refine List.map_congr_left fun row member => ?_
  by_cases same : key row = id
  · rw [if_pos same, if_pos same, agree row member same]
  · rw [if_neg same, if_neg same]

/-- An update counts the changed row instead of the old one. -/
theorem countP_update (change : α → α) (distinct : (rows.map key).Nodup) (member : row ∈ rows)
    (select : α → Bool) :
    (update key (key row) change rows).countP select + (if select row then 1 else 0) =
      rows.countP select + if select (change row) then 1 else 0 := by
  induction rows with
  | nil => simp at member
  | cons first rest ih =>
      rw [List.map_cons, List.nodup_cons] at distinct
      rcases List.mem_cons.mp member with rfl | later
      · have untouched : update key (key row) change rest = rest := update_of_not_mem distinct.1
        have split : update key (key row) change (row :: rest) =
            change row :: update key (key row) change rest := by
          simp [update]
        rw [split, untouched, List.countP_cons, List.countP_cons]
        omega
      · have other : key first ≠ key row := by
          intro same
          exact distinct.1 (same ▸ List.mem_map_of_mem later)
        have split : update key (key row) change (first :: rest) =
            first :: update key (key row) change rest := by
          simp [update, other]
        have counted := ih distinct.2 later
        rw [split, List.countP_cons, List.countP_cons]
        omega

/-- An update of a row that is not selected, before and after it, leaves the selected rows alone. -/
theorem filter_update {select : α → Bool} (distinct : (rows.map key).Nodup) (member : row ∈ rows)
    (before : select row = false) (after : select (change row) = false) :
    (update key (key row) change rows).filter select = rows.filter select := by
  induction rows with
  | nil => rfl
  | cons first rest ih =>
      rw [List.map_cons, List.nodup_cons] at distinct
      rcases List.mem_cons.mp member with rfl | later
      · have untouched : update key (key row) change rest = rest := update_of_not_mem distinct.1
        have split : update key (key row) change (row :: rest) =
            change row :: update key (key row) change rest := by
          simp [update]
        simp [split, untouched, before, after]
      · have other : key first ≠ key row := by
          intro same
          exact distinct.1 (same ▸ List.mem_map_of_mem later)
        have split : update key (key row) change (first :: rest) =
            first :: update key (key row) change rest := by
          simp [update, other]
        rw [split, List.filter_cons, List.filter_cons, ih distinct.2 later]

/-- Updates of distinct rows, one after another. -/
theorem foldl_update {ids : List κ} (kept : ∀ row, key (change row) = key row)
    (distinct : ids.Nodup) : ids.foldl (fun table id => update key id change table) rows =
      rows.map fun row => if key row ∈ ids then change row else row := by
  induction ids generalizing rows with
  | nil => simp
  | cons id ids ih =>
      rw [List.nodup_cons] at distinct
      rw [List.foldl_cons, ih distinct.2, update, List.map_map]
      refine List.map_congr_left fun row _ => ?_
      by_cases first : key row = id
      · simp [first, kept, distinct.1]
      · simp [first]

/-- An update does not change how many rows have a property that the change keeps. -/
theorem countP_update_of_kept {select : α → Bool} (kept : ∀ row, select (change row) = select row) :
    (update key id change rows).countP select = rows.countP select := by
  rw [update, List.countP_map]
  refine List.countP_congr fun row _ => ?_
  by_cases same : key row = id
  · simp [same, kept]
  · simp [same]

end

end Tables
