import Finrec.Lib.Totals

/-!
# Links between two tables

A link joins a row of one table with a row of another and carries an amount.
What the links of the selected rows add up to can be counted from either side;
the two counts differ by the links that only one side selects.
-/

namespace Totals

variable {α β : Type}

/-- Records that a query makes of rows and keeps if they pass a filter. -/
theorem sum_filterMap_filter {read : α → Option β} {keep : β → Bool} {figure : β → ℤ}
    {amount : α → ℤ} (figures : ∀ row record, read row = some record → figure record = amount row)
    (rows : List α) : (((rows.filterMap read).filter keep).map figure).sum =
      total (fun row => (read row).any keep) amount rows := by
  induction rows with
  | nil => rfl
  | cons row rest ih =>
      rw [total_cons, ← ih]
      cases found : read row with
      | none => simp [found]
      | some record =>
          rw [List.filterMap_cons_some found, List.filter_cons, Option.any_some]
          split_ifs with kept
          · rw [List.map_cons, List.sum_cons, figures row record found]
          · rw [zero_add]

/-- Amounts that are not negative add up to zero where each is zero. -/
theorem total_eq_zero_iff_of_nonneg {select : α → Bool} {amount : α → ℤ} {rows : List α}
    (nonneg : ∀ row ∈ rows, 0 ≤ amount row) :
    total select amount rows = 0 ↔ ∀ row ∈ rows, select row = true → amount row = 0 := by
  constructor
  · intro zero row member selected
    have le := le_total_of_mem nonneg member selected
    have ge := nonneg row member
    omega
  · intro each
    apply le_antisymm
    · have bounded : total select amount rows ≤ total select (fun _ => 0) rows := by
        rw [total, total]
        apply List.sum_le_sum
        intro row member
        have listed := List.mem_filter.mp member
        exact (each row listed.1 listed.2).le
      simpa [total] using bounded
    · exact total_nonneg nonneg

theorem total_sub_right (select : α → Bool) (amount part : α → ℤ) (rows : List α) :
    total select (fun row => amount row - part row) rows =
      total select amount rows - total select part rows := by
  induction rows with
  | nil => rfl
  | cons row rest ih =>
      rw [total_cons, total_cons, total_cons, ih]
      split_ifs <;> omega

end Totals

namespace Links

open Totals

variable {α γ κ : Type} [DecidableEq κ]

/-- The link names a selected row. -/
def names (key : γ → κ) (keyOf : α → κ) (select : α → Bool) (rows : List α) (link : γ) : Bool :=
  decide (key link ∈ (rows.filter select).map keyOf)

theorem names_eq_true {key : γ → κ} {keyOf : α → κ} {select : α → Bool} {rows : List α} {link : γ} :
    names key keyOf select rows link = true ↔
      ∃ row ∈ rows, select row = true ∧ keyOf row = key link := by
  simp only [names, decide_eq_true_eq, List.mem_map, List.mem_filter, and_assoc]

/-- With distinct keys a link names a selected row if the row with its key is selected. -/
theorem names_of_key {key : γ → κ} {keyOf : α → κ} {select : α → Bool} {rows : List α} {link : γ}
    (distinct : (rows.map keyOf).Nodup) {row : α} (member : row ∈ rows)
    (same : keyOf row = key link) : names key keyOf select rows link = select row := by
  rw [Bool.eq_iff_iff, names_eq_true]
  constructor
  · rintro ⟨other, otherMem, selected, otherKey⟩
    have sameRow : other = row :=
      List.inj_on_of_nodup_map distinct otherMem member (otherKey.trans same.symm)
    exact sameRow ▸ selected
  · intro selected
    exact ⟨row, member, selected, same⟩

/-- The links of the selected rows, each counted once. -/
theorem total_linked {key : γ → κ} {keyOf : α → κ} {select : α → Bool} {rows : List α}
    (active : γ → Bool) (amount : γ → ℤ) (links : List γ) (distinct : (rows.map keyOf).Nodup) :
    total select (fun row => total (fun link => decide (key link = keyOf row) && active link)
      amount links) rows =
        total (fun link => names key keyOf select rows link && active link) amount links := by
  have selectedKeys : ((rows.filter select).map keyOf).Nodup :=
    distinct.sublist (List.filter_sublist.map keyOf)
  have counted := sum_totals_eq_total key active amount links selectedKeys
  rw [List.map_map] at counted
  exact counted

/-- Two ways to select links differ by those that only one of them selects. -/
theorem total_sub_total (left right active : γ → Bool) (amount : γ → ℤ) (links : List γ) :
    total (fun link => left link && active link) amount links -
        total (fun link => right link && active link) amount links =
      total (fun link => left link && !right link && active link) amount links -
        total (fun link => right link && !left link && active link) amount links := by
  rw [total_split (fun link => left link && active link) right,
    total_split (fun link => right link && active link) left]
  have both : total (fun link => left link && active link && right link) amount links =
      total (fun link => right link && active link && left link) amount links := by
    apply total_congr
    intro link _
    cases left link <;> cases right link <;> cases active link <;> rfl
  have onlyLeft : total (fun link => left link && active link && !right link) amount links =
      total (fun link => left link && !right link && active link) amount links := by
    apply total_congr
    intro link _
    cases left link <;> cases right link <;> cases active link <;> rfl
  have onlyRight : total (fun link => right link && active link && !left link) amount links =
      total (fun link => right link && !left link && active link) amount links := by
    apply total_congr
    intro link _
    cases left link <;> cases right link <;> cases active link <;> rfl
  rw [both, onlyLeft, onlyRight]
  omega

end Links
