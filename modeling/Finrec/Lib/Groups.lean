import Mathlib.Algebra.BigOperators.Group.List.Basic
import Mathlib.Algebra.Ring.Int.Defs
import Mathlib.Data.List.Nodup

/-!
# Gathering items into groups

Items come one after another and each changes the group of its key; the first
item of a key opens the group.  A group is then what the items of its key
make of its start, in their order.
-/

namespace Groups

variable {α β κ : Type} [DecidableEq κ]

/-- Change the group of a key; a key without a group gets one that starts with a value. -/
def put (key : κ) (start : β) (change : β → β) : List (κ × β) → List (κ × β)
  | [] => [(key, change start)]
  | (other, value) :: rest =>
      if other = key then (other, change value) :: rest
      else (other, value) :: put key start change rest

/-- Put all items into their groups. -/
def gather (key : α → κ) (start : α → β) (change : α → β → β) (groups : List (κ × β))
    (items : List α) : List (κ × β) :=
  items.foldl (fun groups item => put (key item) (start item) (change item) groups) groups

/-- The group of a key. -/
def value? (groups : List (κ × β)) (wanted : κ) : Option β :=
  groups.lookup wanted

section Put

variable {key other : κ} {start : β} {change : β → β} {groups : List (κ × β)}

theorem map_fst_put : (put key start change groups).map (·.1) =
    if key ∈ groups.map (·.1) then groups.map (·.1) else groups.map (·.1) ++ [key] := by
  induction groups with
  | nil => rfl
  | cons group rest ih =>
      rcases group with ⟨first, value⟩
      by_cases same : first = key
      · simp [put, same]
      · have differs : key ≠ first := Ne.symm same
        simp only [put, same, if_false, List.map_cons, ih, List.mem_cons, differs, false_or]
        split_ifs <;> rfl

theorem nodup_put (distinct : (groups.map (·.1)).Nodup) :
    ((put key start change groups).map (·.1)).Nodup := by
  rw [map_fst_put]
  split_ifs with known
  · exact distinct
  · rw [List.nodup_append]
    refine ⟨distinct, List.nodup_singleton _, ?_⟩
    rintro value member last lastMem rfl
    rw [List.mem_singleton.mp lastMem] at member
    exact known member

theorem lookup_put_self :
    (put key start change groups).lookup key = some (change ((groups.lookup key).getD start)) := by
  induction groups with
  | nil => simp [put]
  | cons group rest ih =>
      rcases group with ⟨first, value⟩
      by_cases same : first = key
      · simp [put, same]
      · have differs : (key == first) = false := beq_eq_false_iff_ne.mpr (Ne.symm same)
        simp only [put, same, if_false, List.lookup_cons, differs, ih]

theorem lookup_put_of_ne (differs : other ≠ key) :
    (put key start change groups).lookup other = groups.lookup other := by
  induction groups with
  | nil => simp [put, List.lookup_cons, beq_eq_false_iff_ne.mpr differs]
  | cons group rest ih =>
      rcases group with ⟨first, value⟩
      by_cases same : first = key
      · have absent : (other == first) = false := by
          rw [same]
          exact beq_eq_false_iff_ne.mpr differs
        simp only [put, same, if_true, List.lookup_cons]
        rw [← same, absent]
      · simp only [put, same, if_false, List.lookup_cons, ih]

/-- What holds of every start and survives every change holds of all groups. -/
theorem forall_put {holds : κ → β → Prop} (each : ∀ group ∈ groups, holds group.1 group.2)
    (opened : holds key start) (kept : ∀ value, holds key value → holds key (change value)) :
    ∀ group ∈ put key start change groups, holds group.1 group.2 := by
  induction groups with
  | nil =>
      intro group member
      rw [put, List.mem_singleton] at member
      rw [member]
      exact kept start opened
  | cons first rest ih =>
      rcases first with ⟨firstKey, value⟩
      rw [List.forall_mem_cons] at each
      intro group member
      simp only [put] at member
      split_ifs at member with same
      · rcases List.mem_cons.mp member with rfl | later
        · subst same
          exact kept value each.1
        · exact each.2 group later
      · rcases List.mem_cons.mp member with rfl | later
        · exact each.1
        · exact ih each.2 group later

end Put

section Gather

variable {key : α → κ} {start : α → β} {change : α → β → β} {groups : List (κ × β)} {items : List α}

theorem nodup_gather (distinct : (groups.map (·.1)).Nodup) :
    ((gather key start change groups items).map (·.1)).Nodup := by
  induction items generalizing groups with
  | nil => exact distinct
  | cons item rest ih => exact ih (nodup_put distinct)

/-- A group is what the items of its key make of it. -/
theorem lookup_gather (wanted : κ) : (gather key start change groups items).lookup wanted =
    (items.filter fun item => decide (key item = wanted)).foldl
      (fun found item => some (change item (found.getD (start item)))) (groups.lookup wanted) := by
  induction items generalizing groups with
  | nil => rfl
  | cons item rest ih =>
      rw [gather, List.foldl_cons, ← gather, ih]
      by_cases mine : key item = wanted
      · rw [List.filter_cons_of_pos (by simpa using mine), List.foldl_cons, ← mine, lookup_put_self]
      · rw [List.filter_cons_of_neg (by simpa using mine), lookup_put_of_ne (Ne.symm mine)]

theorem forall_gather {holds : κ → β → Prop} (each : ∀ group ∈ groups, holds group.1 group.2)
    (opened : ∀ item ∈ items, holds (key item) (start item))
    (kept : ∀ item ∈ items, ∀ value, holds (key item) value →
      holds (key item) (change item value)) :
    ∀ group ∈ gather key start change groups items, holds group.1 group.2 := by
  induction items generalizing groups with
  | nil => exact each
  | cons item rest ih =>
      rw [List.forall_mem_cons] at opened kept
      exact ih (forall_put each opened.1 kept.1) opened.2 kept.2

/-- A group that starts in the same way for all items, from its items. -/
theorem foldl_some {opening : β} {found : Option β} (alike : ∀ item ∈ items, start item = opening)
    (nonempty : items ≠ [] ∨ found.isSome) :
    items.foldl (fun found item => some (change item (found.getD (start item)))) found =
      some (items.foldl (fun value item => change item value) (found.getD opening)) := by
  induction items generalizing found with
  | nil =>
      rcases Option.isSome_iff_exists.mp (nonempty.resolve_left (· rfl)) with ⟨value, rfl⟩
      rfl
  | cons item rest ih =>
      rw [List.forall_mem_cons] at alike
      rw [List.foldl_cons, ih alike.2 (.inr rfl), List.foldl_cons, alike.1]
      rfl

/-- A group of sums is the sum of the items of its key. -/
theorem getD_lookup_gather_add {groups : List (κ × ℤ)} (weight : α → ℤ) (wanted : κ) :
    (value? (gather key (fun _ => 0) (fun item total => total + weight item) groups items)
        wanted).getD 0 =
      (value? groups wanted).getD 0 +
        ((items.filter fun item => decide (key item = wanted)).map weight).sum := by
  rw [value?, lookup_gather, value?]
  generalize groups.lookup wanted = found
  induction items.filter fun item => decide (key item = wanted) generalizing found with
  | nil => simp
  | cons item rest ih =>
      rw [List.foldl_cons, ih, Option.getD_some, List.map_cons, List.sum_cons, add_assoc]

/-- Of groups that know their keys, the values that name a key are the group of that key. -/
theorem filter_values {name : β → κ} (distinct : (groups.map (·.1)).Nodup)
    (named : ∀ group ∈ groups, name group.2 = group.1) (wanted : κ) :
    ((groups.map (·.2)).filter fun value => decide (name value = wanted)) =
      (groups.lookup wanted).toList := by
  induction groups with
  | nil => rfl
  | cons group rest ih =>
      rcases group with ⟨first, value⟩
      rw [List.map_cons, List.nodup_cons] at distinct
      rw [List.forall_mem_cons] at named
      have known : name value = first := named.1
      rw [List.map_cons]
      by_cases same : first = wanted
      · subst same
        have absent : (rest.map (·.2)).filter (fun value => decide (name value = first)) = [] := by
          rw [List.filter_eq_nil_iff]
          intro other member
          rcases List.mem_map.mp member with ⟨group, groupMem, rfl⟩
          rw [decide_eq_true_eq, named.2 group groupMem]
          intro same
          exact distinct.1 (List.mem_map.mpr ⟨group, groupMem, same⟩)
        rw [List.filter_cons_of_pos (by simpa using known), absent, List.lookup_cons_self]
        rfl
      · have differs : (wanted == first) = false := beq_eq_false_iff_ne.mpr (Ne.symm same)
        rw [List.filter_cons_of_neg (by simpa [known] using same), ih distinct.2 named.2,
          List.lookup_cons, differs]

end Gather

end Groups
