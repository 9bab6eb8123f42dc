import Mathlib.Data.List.Nodup

/-!
# The champion of each key

Items come one after another; a table keeps one item for each key and replaces
it by a later one that beats it.  When nothing that beats a new champion failed
to beat the old one, no item beats the champion of its key in the end.
-/

namespace Champions

variable {α κ : Type} [DecidableEq κ]

/-- The table after one more item. -/
def enter (key : α → κ) (beats : α → α → Prop) [DecidableRel beats] : List α → α → List α
  | [], item => [item]
  | champion :: rest, item =>
      if key champion = key item then (if beats item champion then item else champion) :: rest
      else champion :: enter key beats rest item

section

variable {key : α → κ} {beats : α → α → Prop} [DecidableRel beats] {table items : List α}
  {item other : α}

/-- An item takes the place of the champion of its key, or comes last. -/
theorem map_key_enter :
    (enter key beats table item).map key =
      if key item ∈ table.map key then table.map key else table.map key ++ [key item] := by
  induction table with
  | nil => rfl
  | cons champion rest ih =>
      by_cases same : key champion = key item
      · by_cases wins : beats item champion
        · simp [enter, same, wins]
        · simp [enter, same, wins]
      · have differs : key item ≠ key champion := Ne.symm same
        simp only [enter, same, if_false, List.map_cons, ih, List.mem_cons, differs, false_or]
        split_ifs <;> rfl

theorem nodup_enter (distinct : (table.map key).Nodup) :
    ((enter key beats table item).map key).Nodup := by
  rw [map_key_enter]
  split_ifs with known
  · exact distinct
  · rw [List.nodup_append]
    refine ⟨distinct, List.nodup_singleton _, ?_⟩
    rintro value member last lastMem rfl
    rw [List.mem_singleton.mp lastMem] at member
    exact known member

theorem mem_key_enter {value : κ} (known : value ∈ table.map key ∨ value = key item) :
    value ∈ (enter key beats table item).map key := by
  rw [map_key_enter]
  split_ifs with present
  · rcases known with old | rfl
    · exact old
    · exact present
  · simpa using known

/-- A champion was one before, unless the new item beat it, or it is the new item. -/
theorem mem_enter (distinct : (table.map key).Nodup) (member : other ∈ enter key beats table item) :
    (other ∈ table ∧ (key other = key item → ¬beats item other)) ∨
      (other = item ∧ ∀ champion ∈ table, key champion = key item → beats item champion) := by
  induction table with
  | nil => exact .inr ⟨List.mem_singleton.mp member, by simp⟩
  | cons champion rest ih =>
      rw [List.map_cons, List.nodup_cons] at distinct
      simp only [enter] at member
      split_ifs at member with same wins
      · -- the champion of the key is the first one, and the item beats it
        rcases List.mem_cons.mp member with rfl | later
        · refine .inr ⟨rfl, ?_⟩
          intro held heldMem sameKey
          rcases List.mem_cons.mp heldMem with rfl | behind
          · exact wins
          · apply absurd _ distinct.1
            rw [same, ← sameKey]
            exact List.mem_map_of_mem behind
        · refine .inl ⟨List.mem_cons_of_mem _ later, fun sameKey => ?_⟩
          apply absurd _ distinct.1
          rw [same, ← sameKey]
          exact List.mem_map_of_mem later
      · rcases List.mem_cons.mp member with rfl | later
        · exact .inl ⟨List.mem_cons_self, fun _ => wins⟩
        · refine .inl ⟨List.mem_cons_of_mem _ later, fun sameKey => ?_⟩
          apply absurd _ distinct.1
          rw [same, ← sameKey]
          exact List.mem_map_of_mem later
      · rcases List.mem_cons.mp member with rfl | later
        · exact .inl ⟨List.mem_cons_self, fun sameKey => absurd sameKey same⟩
        · rcases ih distinct.2 later with ⟨old, unbeaten⟩ | ⟨isItem, beaten⟩
          · exact .inl ⟨List.mem_cons_of_mem _ old, unbeaten⟩
          · refine .inr ⟨isItem, fun held heldMem sameKey => ?_⟩
            rcases List.mem_cons.mp heldMem with rfl | behind
            · exact absurd sameKey same
            · exact beaten held behind sameKey

/-- The champions after all items: one for each key, unbeaten by the items of its key. -/
structure Crowned (key : α → κ) (beats : α → α → Prop) (items champions : List α) : Prop where
  distinct : (champions.map key).Nodup
  entered : ∀ champion ∈ champions, champion ∈ items
  unbeaten : ∀ champion ∈ champions, ∀ other ∈ items, key other = key champion →
    ¬beats other champion
  complete : ∀ other ∈ items, ∃ champion ∈ champions, key champion = key other

theorem Crowned.enter (irreflexive : ∀ item, ¬beats item item)
    (passes : ∀ {item champion other}, beats item champion → beats other item →
      beats other champion)
    (crowned : Crowned key beats items table) (item : α) :
    Crowned key beats (items ++ [item]) (Champions.enter key beats table item) where
  distinct := nodup_enter crowned.distinct
  entered champion member := by
    rcases mem_enter crowned.distinct member with ⟨old, -⟩ | ⟨rfl, -⟩
    · exact List.mem_append_left _ (crowned.entered champion old)
    · exact List.mem_append_right _ (List.mem_singleton_self champion)
  unbeaten champion member other otherMem sameKey := by
    rcases mem_enter crowned.distinct member with ⟨old, notItem⟩ | ⟨rfl, beaten⟩
    · rcases List.mem_append.mp otherMem with early | last
      · exact crowned.unbeaten champion old other early sameKey
      · rw [List.mem_singleton.mp last] at sameKey ⊢
        exact notItem sameKey.symm
    · rcases List.mem_append.mp otherMem with early | last
      · rcases crowned.complete other early with ⟨held, heldMem, heldKey⟩
        intro otherBeats
        apply crowned.unbeaten held heldMem other early heldKey.symm
        exact passes (beaten held heldMem (heldKey.trans sameKey)) otherBeats
      · rw [List.mem_singleton.mp last]
        exact irreflexive champion
  complete other otherMem := by
    have known : key other ∈ (Champions.enter key beats table item).map key := by
      apply mem_key_enter
      rcases List.mem_append.mp otherMem with early | last
      · rcases crowned.complete other early with ⟨held, heldMem, heldKey⟩
        rw [← heldKey]
        exact .inl (List.mem_map_of_mem heldMem)
      · rw [List.mem_singleton.mp last]
        exact .inr rfl
    rcases List.mem_map.mp known with ⟨champion, member, same⟩
    exact ⟨champion, member, same⟩

/-- Entering all items crowns the champions. -/
theorem crowned_foldl (irreflexive : ∀ item, ¬beats item item)
    (passes : ∀ {item champion other}, beats item champion → beats other item →
      beats other champion)
    (items : List α) : Crowned key beats items (items.foldl (Champions.enter key beats) []) := by
  have started : Crowned key beats [] [] := ⟨List.nodup_nil, by simp, by simp, by simp⟩
  suffices all : ∀ entered table, Crowned key beats entered table →
      Crowned key beats (entered ++ items) (items.foldl (Champions.enter key beats) table) by
    exact all [] [] started
  induction items with
  | nil =>
      intro entered table crowned
      rw [List.append_nil]
      exact crowned
  | cons item rest ih =>
      intro entered table crowned
      have next := ih (entered ++ [item]) _ (crowned.enter irreflexive passes item)
      rw [List.append_assoc] at next
      exact next

end

end Champions
