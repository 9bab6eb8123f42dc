import Finrec.Lib.Totals
import Mathlib.Data.List.Perm.Basic

/-!
# Changes of a table

What others do to a table: rows that are there stay, as a relation between the
old and the new row says, and rows are added.  The order of the rows is not
part of it, so changes of two parties can be put in any order.

A row that may change has a core that stays, and a lock that keeps all of it.
-/

namespace TableChanges

open Totals

variable {Row κ : Type}

/-- Every old row stays as `stays` says, and `added` holds of the new rows. -/
def Changes (stays : Row → Row → Prop) (added : Row → Prop) (before after : List Row) : Prop :=
  ∃ kept new, List.Forall₂ stays before kept ∧ after.Perm (kept ++ new) ∧ ∀ row ∈ new, added row

/-- Old rows stay as they are. -/
abbrev Adds (added : Row → Prop) : List Row → List Row → Prop :=
  Changes Eq added

variable {stays stays' : Row → Row → Prop} {added added' : Row → Prop}
  {before middle after rows : List Row}

theorem forall₂_refl (reflexive : ∀ row, stays row row) (rows : List Row) :
    List.Forall₂ stays rows rows :=
  List.forall₂_same.mpr fun row _ => reflexive row

theorem forall₂_trans (transitive : ∀ {row next last}, stays row next → stays next last →
    stays row last) (first : List.Forall₂ stays before middle)
    (second : List.Forall₂ stays middle after) : List.Forall₂ stays before after := by
  induction first generalizing after with
  | nil =>
      cases second
      exact .nil
  | cons head _ ih =>
      cases second with
      | cons head' tail => exact .cons (transitive head head') (ih tail)

theorem exists_of_forall₂ {Next : Type} {related : Row → Next → Prop} {nexts : List Next}
    (each : List.Forall₂ related rows nexts) {row : Row} (member : row ∈ rows) :
    ∃ next ∈ nexts, related row next := by
  induction each with
  | nil => simp at member
  | cons head _ ih =>
      rcases List.mem_cons.mp member with rfl | later
      · exact ⟨_, List.mem_cons_self .., head⟩
      · rcases ih later with ⟨next, nextMem, stay⟩
        exact ⟨next, List.mem_cons_of_mem _ nextMem, stay⟩

namespace Changes

theorem refl (reflexive : ∀ row, stays row row) (rows : List Row) :
    Changes stays added rows rows :=
  ⟨rows, [], forall₂_refl reflexive rows, by simp, by simp⟩

theorem trans (transitive : ∀ {row next last}, stays row next → stays next last → stays row last)
    (closed : ∀ {row next}, added row → stays row next → added next)
    (earlier : Changes stays added before middle) (later : Changes stays added middle after) :
    Changes stays added before after := by
  rcases earlier with ⟨kept, new, keeps, order, isNew⟩
  rcases later with ⟨kept', new', keeps', order', isNew'⟩
  rcases List.perm_comp_forall₂ order.symm keeps' with ⟨moved, keepsAll, sameKept⟩
  have ofKept := (List.forall₂_take_append moved kept new keepsAll.flip).flip
  have ofNew := (List.forall₂_drop_append moved kept new keepsAll.flip).flip
  refine ⟨moved.take kept.length, moved.drop kept.length ++ new', ?_, ?_, ?_⟩
  · exact forall₂_trans transitive keeps ofKept
  · rw [← List.append_assoc, List.take_append_drop]
    exact order'.trans (sameKept.symm.append_right new')
  · intro row member
    rcases List.mem_append.mp member with fresh | fresh
    · rcases exists_of_forall₂ ofNew.flip fresh with ⟨old, oldMem, stay⟩
      exact closed (isNew old oldMem) stay
    · exact isNew' row fresh

theorem mono (weaker : ∀ {row next}, stays row next → stays' row next)
    (weakerAdded : ∀ {row}, added row → added' row) (changes : Changes stays added before after) :
    Changes stays' added' before after := by
  rcases changes with ⟨kept, new, keeps, order, isNew⟩
  exact ⟨kept, new, keeps.imp fun _ _ => weaker, order,
    fun row member => weakerAdded (isNew row member)⟩

/-- The change of one party after the addition of another. -/
theorem append (reflexive : ∀ row, stays row row) (changes : Changes stays added before after)
    (rows : List Row) : Changes stays added (before ++ rows) (after ++ rows) := by
  rcases changes with ⟨kept, new, keeps, order, isNew⟩
  refine ⟨kept ++ rows, new, List.rel_append keeps (forall₂_refl reflexive rows), ?_, isNew⟩
  have swapped : (kept ++ new ++ rows).Perm (kept ++ rows ++ new) := by
    rw [List.append_assoc, List.append_assoc]
    exact List.perm_append_comm.append_left kept
  exact (order.append_right rows).trans swapped

/-- The change of one party after the change of another. -/
theorem map {change : Row → Row}
    (commutes : ∀ {row next}, stays row next → stays (change row) (change next))
    (keepsAdded : ∀ {row}, added row → added (change row))
    (changes : Changes stays added before after) :
    Changes stays added (before.map change) (after.map change) := by
  rcases changes with ⟨kept, new, keeps, order, isNew⟩
  refine ⟨kept.map change, new.map change, ?_, ?_, ?_⟩
  · rw [List.forall₂_map_left_iff, List.forall₂_map_right_iff]
    exact keeps.imp fun _ _ => commutes
  · rw [← List.map_append]
    exact order.map change
  · intro row member
    rcases List.mem_map.mp member with ⟨old, oldMem, rfl⟩
    exact keepsAdded (isNew old oldMem)

theorem of_append (reflexive : ∀ row, stays row row) (isNew : ∀ row ∈ rows, added row) :
    Changes stays added before (before ++ rows) :=
  ⟨before, rows, forall₂_refl reflexive before, .refl _, isNew⟩

theorem of_map {change : Row → Row} (keeps : ∀ row ∈ before, stays row (change row)) :
    Changes stays added before (before.map change) := by
  refine ⟨before.map change, [], ?_, by simp, by simp⟩
  rw [List.forall₂_map_right_iff]
  exact List.forall₂_same.mpr keeps

theorem exists_of_mem (changes : Changes stays added before after) {row : Row}
    (member : row ∈ before) : ∃ next ∈ after, stays row next := by
  rcases changes with ⟨kept, new, keeps, order, -⟩
  rcases exists_of_forall₂ keeps member with ⟨next, nextMem, stay⟩
  exact ⟨next, order.mem_iff.mpr (List.mem_append_left _ nextMem), stay⟩

theorem of_mem (changes : Changes stays added before after) {next : Row} (member : next ∈ after) :
    (∃ row ∈ before, stays row next) ∨ added next := by
  rcases changes with ⟨kept, new, keeps, order, isNew⟩
  rcases List.mem_append.mp (order.mem_iff.mp member) with old | fresh
  · exact .inl (exists_of_forall₂ keeps.flip old)
  · exact .inr (isNew next fresh)

end Changes

/-! ### Locked rows -/

/-- The core of a row stays, and all of it while it is locked. -/
structure Stays {α : Type} (lock : Row → κ) (core : Row → α) (held : Set κ) (before after : Row) :
    Prop where
  core : core after = core before
  locked : lock before ∈ held → after = before

namespace Stays

variable {α : Type} {lock : Row → κ} {core : Row → α} {held held' : Set κ}
  {first second third : Row}

theorem refl (row : Row) : Stays lock core held row row :=
  ⟨rfl, fun _ => rfl⟩

theorem trans (earlier : Stays lock core held first second)
    (later : Stays lock core held second third) : Stays lock core held first third := by
  refine ⟨later.core.trans earlier.core, ?_⟩
  intro locked
  have same := earlier.locked locked
  subst same
  exact later.locked locked

theorem mono (fewer : held ⊆ held') (stays : Stays lock core held' first second) :
    Stays lock core held first second :=
  ⟨stays.core, fun locked => stays.locked (fewer locked)⟩

/-- A change that reads only the core of what it does not change. -/
theorem map {change : Row → Row} (keepsLock : ∀ row, lock (change row) = lock row)
    (keepsCore : ∀ {row next}, core next = core row → core (change next) = core (change row))
    (stays : Stays lock core held first second) :
    Stays lock core held (change first) (change second) := by
  refine ⟨keepsCore stays.core, ?_⟩
  intro locked
  rw [keepsLock] at locked
  rw [stays.locked locked]

end Stays

section Tables

variable {α : Type} {lock : Row → κ} {core : Row → α} {held held' : Set κ}

/-- Rows of which some are locked. -/
abbrev Edits (lock : Row → κ) (core : Row → α) (held : Set κ) : List Row → List Row → Prop :=
  List.Forall₂ (Stays lock core held)

theorem Edits.refl (rows : List Row) : Edits lock core held rows rows :=
  forall₂_refl (fun row => Stays.refl row) rows

theorem Edits.trans (earlier : Edits lock core held before middle)
    (later : Edits lock core held middle after) : Edits lock core held before after :=
  forall₂_trans (fun first second => first.trans second) earlier later

theorem Edits.mono (fewer : held ⊆ held') (edits : Edits lock core held' before after) :
    Edits lock core held before after :=
  edits.imp fun _ _ stays => stays.mono fewer

theorem Edits.map {change : Row → Row} (keepsLock : ∀ row, lock (change row) = lock row)
    (keepsCore : ∀ {row next}, core next = core row → core (change next) = core (change row))
    (edits : Edits lock core held before after) :
    Edits lock core held (before.map change) (after.map change) := by
  rw [Edits, List.forall₂_map_left_iff, List.forall₂_map_right_iff]
  exact edits.imp fun _ _ stays => stays.map keepsLock keepsCore

theorem Edits.of_map {change : Row → Row} (keeps : ∀ row ∈ before,
    Stays lock core held row (change row)) : Edits lock core held before (before.map change) := by
  rw [Edits, List.forall₂_map_right_iff]
  exact List.forall₂_same.mpr keeps

theorem Edits.map_core (edits : Edits lock core held before after) :
    after.map core = before.map core := by
  induction edits with
  | nil => rfl
  | cons head _ ih => rw [List.map_cons, List.map_cons, head.core, ih]

/-- Rows that are locked or not by their core are found again as they were. -/
theorem Edits.filter_eq (edits : Edits lock core held before after) {select : Row → Bool}
    (byCore : ∀ {row next}, core next = core row → select next = select row)
    (locked : ∀ row ∈ before, select row = true → lock row ∈ held) :
    after.filter select = before.filter select := by
  induction edits with
  | nil => rfl
  | @cons row next _ _ head _ ih =>
      have same := byCore head.core
      have others := ih fun other member => locked other (List.mem_cons_of_mem _ member)
      by_cases selected : select row = true
      · rw [List.filter_cons_of_pos selected, List.filter_cons_of_pos (same.trans selected), others,
          head.locked (locked row (List.mem_cons_self ..) selected)]
      · rw [List.filter_cons_of_neg selected, List.filter_cons_of_neg (by rwa [same]), others]

theorem Edits.find?_eq (edits : Edits lock core held before after) {select : Row → Bool}
    (byCore : ∀ {row next}, core next = core row → select next = select row)
    (locked : ∀ row ∈ before, select row = true → lock row ∈ held) :
    after.find? select = before.find? select := by
  rw [← List.head?_filter, ← List.head?_filter, edits.filter_eq byCore locked]

/-- Rows that are found by their core are found again with their core. -/
theorem Edits.find?_core (edits : Edits lock core held before after) {select : Row → Bool}
    (byCore : ∀ {row next}, core next = core row → select next = select row) :
    (after.find? select).map core = (before.find? select).map core := by
  induction edits with
  | nil => rfl
  | @cons row next _ _ head _ ih =>
      have same := byCore head.core
      by_cases selected : select row = true
      · rw [List.find?_cons_of_pos selected, List.find?_cons_of_pos (same.trans selected),
          Option.map_some, Option.map_some, head.core]
      · rw [List.find?_cons_of_neg selected, List.find?_cons_of_neg (by rwa [same]), ih]

end Tables

/-! ### Added rows -/

theorem Adds.trans (earlier : Adds added before middle) (later : Adds added middle after) :
    Adds added before after :=
  Changes.trans (fun first second => first.trans second) (fun fresh same => same ▸ fresh) earlier
    later

theorem Adds.mono (weaker : ∀ {row}, added row → added' row) (adds : Adds added before after) :
    Adds added' before after :=
  Changes.mono (fun same => same) weaker adds

theorem Adds.append (adds : Adds added before after) (rows : List Row) :
    Adds added (before ++ rows) (after ++ rows) :=
  Changes.append (fun _ => rfl) adds rows

theorem Adds.of_append (isNew : ∀ row ∈ rows, added row) : Adds added before (before ++ rows) :=
  Changes.of_append (fun _ => rfl) isNew

theorem Adds.perm (adds : Adds added before after) :
    ∃ new, after.Perm (before ++ new) ∧ ∀ row ∈ new, added row := by
  rcases adds with ⟨kept, new, keeps, order, isNew⟩
  rw [List.forall₂_eq_eq_eq] at keeps
  subst keeps
  exact ⟨new, order, isNew⟩

theorem Adds.subset (adds : Adds added before after) : before ⊆ after := by
  intro row member
  rcases Changes.exists_of_mem adds member with ⟨_, nextMem, rfl⟩
  exact nextMem

theorem Adds.of_mem (adds : Adds added before after) {row : Row} (member : row ∈ after) :
    row ∈ before ∨ added row := by
  rcases Changes.of_mem adds member with ⟨_, oldMem, rfl⟩ | fresh
  · exact .inl oldMem
  · exact .inr fresh

/-- A search that no added row answers finds what it found. -/
theorem Adds.any_eq (adds : Adds added before after) {select : Row → Bool}
    (unselected : ∀ row, added row → select row = false) : after.any select = before.any select := by
  rw [Bool.eq_iff_iff, List.any_eq_true, List.any_eq_true]
  constructor
  · rintro ⟨row, member, selected⟩
    rcases adds.of_mem member with old | fresh
    · exact ⟨row, old, selected⟩
    · rw [unselected row fresh] at selected
      exact Bool.noConfusion selected
  · rintro ⟨row, member, selected⟩
    exact ⟨row, adds.subset member, selected⟩

theorem total_perm {select : Row → Bool} {amount : Row → ℤ} (order : before.Perm after) :
    total select amount before = total select amount after :=
  ((order.filter select).map amount).sum_eq

/-- A total that counts no added row stays. -/
theorem Adds.total_eq (adds : Adds added before after) {select : Row → Bool} {amount : Row → ℤ}
    (unselected : ∀ row, added row → select row = false) :
    total select amount after = total select amount before := by
  rcases adds.perm with ⟨new, order, isNew⟩
  have none : total select amount new = 0 :=
    total_eq_zero fun row member => unselected row (isNew row member)
  rw [total_perm order, total_append, none, add_zero]

end TableChanges
