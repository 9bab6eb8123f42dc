import Finrec.Imports.RawObjects

/-!
# The object that the search names

The search goes through the data in the order of its text and stops at the first
place that it does not know or that it comes to again.  Its own list of types is
shorter than that of the encoder, and an object that is met again need not hold
itself, so what the search names is refused by the encoder only where that first
place is; and the search can run out of frames before it comes there.
-/

namespace Finrec.RawObjects

section

variable {α : Type}

/-- The places of the data in the order of their text; nothing stands for a value that the search has
no frame for. -/
def textOrder (heap : Heap α) : ℕ → α → List (Option (Place α))
  | 0, _ => [none]
  | frames + 1, object =>
      some (.value object) :: (heap.node object).places.flatMap fun place =>
        match place with
        | .key key => [some (.key key)]
        | .value value => textOrder heap frames value

/-- A key or a value of a type that the search does not know, an object other than `None` that it
comes to again, or a value that it has no frame for. -/
def Stops (heap : Heap α) (earlier : List (Option (Place α))) : Option (Place α) → Prop
  | none => True
  | some (.key key) => (heap.node key).isPlain = false
  | some (.value value) => heap.node value = .supported ∨ heap.node value = .other ∨
      some (.value value) ∈ earlier ∧ heap.node value ≠ .none

/-- The search goes on after each of the places. -/
def Passes (heap : Heap α) (places : List (Option (Place α))) : Prop :=
  ∀ earlier place later, places = earlier ++ place :: later → ¬ Stops heap earlier place

section

variable [DecidableEq α]

/-- A key of a type that no JSON key has, a value of a type that the encoder does not know, or an
object that comes again and has no text. -/
def Offends (heap : Heap α) (levels : ℕ) (earlier : List (Option (Place α))) : Place α → Prop
  | .key key => (heap.node key).isPlain = false
  | .value value =>
      heap.node value = .other ∨ some (.value value) ∈ earlier ∧ dumps heap levels [] value ≠ .text

/-- The object is refused by itself, as a key or as a value, or it holds itself. -/
def IsCulprit (heap : Heap α) (levels : ℕ) : Place α → Prop
  | .key key => (heap.node key).hasText = false
  | .value value => dumps heap levels [] value ≠ .text ∨ Holds heap value value

end

variable {heap : Heap α} {earlier : List (Option (Place α))} {object : α}

/-- The places in an item of a dict, and the places in it. -/
def itemOrder (heap : Heap α) (frames : ℕ) (item : α × α) : List (Option (Place α)) :=
  some (.key item.1) :: textOrder heap frames item.2

theorem textOrder_dict {frames : ℕ} {items : List (α × α)}
    (type : heap.node object = .dict items) :
    textOrder heap (frames + 1) object =
      some (.value object) :: items.flatMap (itemOrder heap frames) := by
  simp [textOrder, type, Node.places, List.flatMap_assoc]
  rfl

theorem textOrder_sequence {frames : ℕ} {items : List α}
    (type : heap.node object = .sequence items) :
    textOrder heap (frames + 1) object =
      some (.value object) :: items.flatMap (textOrder heap frames) := by
  simp [textOrder, type, Node.places, List.flatMap_map]

/-- The culprits among the places at which the search stops. -/
theorem stops_and_isCulprit_iff [DecidableEq α] (limits : Limits heap) {place : Place α} :
    Stops heap earlier (some place) ∧ IsCulprit heap limits.levels place ↔
      Offends heap limits.levels earlier place := by
  cases place with
  | key key =>
      simp only [Stops, IsCulprit, Offends, and_iff_left_iff_imp]
      intro strange
      cases type : heap.node key <;> simp_all [Node.hasText, Node.isPlain]
  | value value =>
      have refused : dumps heap limits.levels [] value ≠ .text ∨ Holds heap value value ↔
          dumps heap limits.levels [] value ≠ .text := by
        refine ⟨?_, Or.inl⟩
        rintro (refused | cyclic)
        · exact refused
        · exact dumps_ne_text_of_cyclic cyclic
      simp only [Stops, IsCulprit, Offends, refused]
      constructor
      · rintro ⟨type | type | ⟨again, -⟩, refused⟩
        · exact absurd (dumps_supported type (limits.enough value)) refused
        · exact .inl type
        · exact .inr ⟨again, refused⟩
      · rintro (type | ⟨again, refused⟩)
        · exact ⟨.inr (.inl type), dumps_other type⟩
        · refine ⟨.inr (.inr ⟨again, ?_⟩), refused⟩
          intro type
          exact refused (dumps_none type)

theorem passes_nil : Passes heap [] := by
  intro earlier place later split
  cases earlier <;> cases split

theorem passes_concat {place : Option (Place α)} : Passes heap (earlier ++ [place]) ↔
    Passes heap earlier ∧ ¬ Stops heap earlier place := by
  constructor
  · intro passes
    refine ⟨?_, passes earlier place [] rfl⟩
    rintro before other later rfl
    exact passes before other (later ++ [place]) (by simp)
  · rintro ⟨passes, goesOn⟩ before other later split
    rcases List.eq_nil_or_concat later with rfl | ⟨later, last, rfl⟩
    · obtain ⟨rfl, same⟩ := List.append_inj' split rfl
      cases same
      exact goesOn
    · rw [List.concat_eq_append, ← List.cons_append, ← List.append_assoc] at split
      exact passes before other later (List.append_inj' split rfl).1

/-- The first place at which the search stops, after places that it has passed. -/
def FirstStop (heap : Heap α) (earlier places : List (Option (Place α)))
    (place : Option (Place α)) : Prop :=
  ∃ before later, places = before ++ place :: later ∧ Passes heap (earlier ++ before) ∧
    Stops heap (earlier ++ before) place

theorem firstStop_cons {first place : Option (Place α)} {places : List (Option (Place α))}
    (passes : Passes heap earlier) :
    FirstStop heap earlier (first :: places) place ↔
      (first = place ∧ Stops heap earlier first) ∨
        FirstStop heap (earlier ++ [first]) places place := by
  constructor
  · rintro ⟨before, later, split, passed, stops⟩
    cases before with
    | nil =>
        cases split
        rw [List.append_nil] at stops
        exact .inl ⟨rfl, stops⟩
    | cons head before =>
        cases split
        rw [List.append_cons] at passed stops
        exact .inr ⟨before, later, rfl, passed, stops⟩
  · rintro (⟨rfl, stops⟩ | ⟨before, later, rfl, passed, stops⟩)
    · refine ⟨[], places, rfl, ?_, ?_⟩
      · rwa [List.append_nil]
      · rwa [List.append_nil]
    · refine ⟨first :: before, later, rfl, ?_, ?_⟩
      · rwa [List.append_cons]
      · rwa [List.append_cons]

end

section

variable {α : Type} [DecidableEq α] (heap : Heap α)

/-- One pass over places, with the objects that were seen. -/
def scan : List (Option (Place α)) → List α → Search α
  | [], seen => some (none, seen)
  | none :: _, _ => none
  | some (.key key) :: later, seen =>
      if (heap.node key).isPlain then scan later seen else some (some (.key key), seen)
  | some (.value value) :: later, seen =>
      if value ∈ seen then
        if heap.node value = .none then scan later seen else some (some (.value value), seen)
      else if heap.node value = .supported ∨ heap.node value = .other then
        some (some (.value value), value :: seen)
      else scan later (value :: seen)

variable {heap} {seen after : List α}

theorem scan_append (places later : List (Option (Place α))) :
    scan heap (places ++ later) seen =
      match scan heap places seen with
      | some (none, after) => scan heap later after
      | stopped => stopped := by
  induction places generalizing seen with
  | nil => rfl
  | cons place places ih =>
      rcases place with _ | ⟨key⟩ | ⟨value⟩
      · rfl
      · simp only [List.cons_append, scan]
        split_ifs
        · exact ih
        · rfl
      · simp only [List.cons_append, scan]
        split_ifs
        · exact ih
        · rfl
        · rfl
        · exact ih

/-- The pass stops at the first place at which the search stops. -/
theorem scan_eq_some_iff {earlier places : List (Option (Place α))} {place : Place α}
    (known : ∀ value, value ∈ seen ↔ some (.value value) ∈ earlier) (passes : Passes heap earlier) :
    (∃ after, scan heap places seen = some (some place, after)) ↔
      FirstStop heap earlier places (some place) := by
  induction places generalizing seen earlier with
  | nil =>
      simp only [scan, Option.some.injEq, Prod.mk.injEq, reduceCtorEq, false_and, exists_false,
        false_iff]
      rintro ⟨before, later, split, -⟩
      cases before <;> cases split
  | cons first places ih =>
      rw [firstStop_cons passes]
      by_cases stops : Stops heap earlier first
      · -- The rest does not matter, since no pass gets to it.
        have never : ¬ FirstStop heap (earlier ++ [first]) places (some place) := by
          rintro ⟨before, later, -, passed, -⟩
          rw [List.append_assoc] at passed
          exact passed earlier first before rfl stops
        have here : (∃ after, scan heap (first :: places) seen = some (some place, after)) ↔
            first = some place := by
          rcases first with _ | ⟨key⟩ | ⟨value⟩
          · simp [scan]
          · have strange : (heap.node key).isPlain = false := stops
            simp [scan, strange]
          · rcases stops with type | type | ⟨again, type⟩
            · by_cases again : value ∈ seen <;> simp [scan, again, type]
            · by_cases again : value ∈ seen <;> simp [scan, again, type]
            · simp [scan, (known value).mpr again, type]
        rw [here]
        exact ⟨fun same => .inl ⟨same, stops⟩, fun stopped => stopped.elim (·.1) (absurd · never)⟩
      · have passed : Passes heap (earlier ++ [first]) := passes_concat.mpr ⟨passes, stops⟩
        simp only [stops, and_false, false_or]
        rcases first with _ | ⟨key⟩ | ⟨value⟩
        · exact absurd trivial stops
        · have plain : (heap.node key).isPlain = true := by
            simpa [Stops] using stops
          rw [scan, if_pos plain]
          refine ih ?_ passed
          simp [known]
        · simp only [Stops, not_or, not_and, not_not] at stops
          obtain ⟨supported, other, again⟩ := stops
          by_cases seenBefore : value ∈ seen
          · rw [scan, if_pos seenBefore, if_pos (again ((known value).mp seenBefore))]
            refine ih ?_ passed
            intro other
            have old := (known value).mp seenBefore
            simp only [known, List.mem_append, List.mem_singleton, Option.some.injEq,
              Place.value.injEq]
            exact ⟨.inl, fun either => either.elim id fun same => same ▸ old⟩
          · rw [scan, if_neg seenBefore, if_neg (not_or.mpr ⟨supported, other⟩)]
            refine ih ?_ passed
            intro other
            simp [known, or_comm]

/-! ## The search is one pass over the places -/

theorem searchItems_eq_scan {visit : α → List α → Search α} {frames : ℕ}
    (visits : ∀ item seen, visit item seen = scan heap (textOrder heap frames item) seen)
    (items : List (α × α)) :
    searchItems heap visit items seen = scan heap (items.flatMap (itemOrder heap frames)) seen := by
  induction items generalizing seen with
  | nil => rfl
  | cons item items ih =>
      obtain ⟨key, value⟩ := item
      simp only [List.flatMap_cons, itemOrder, List.cons_append, scan, searchItems, scan_append,
        visits]
      split_ifs
      · rcases scan heap (textOrder heap frames value) seen with _ | ⟨_ | place, after⟩
        · rfl
        · exact ih
        · rfl
      · rfl

theorem searchAll_eq_scan {visit : α → List α → Search α} {frames : ℕ}
    (visits : ∀ item seen, visit item seen = scan heap (textOrder heap frames item) seen)
    (items : List α) :
    searchAll visit items seen = scan heap (items.flatMap (textOrder heap frames)) seen := by
  induction items generalizing seen with
  | nil => rfl
  | cons value items ih =>
      simp only [List.flatMap_cons, searchAll, scan_append, visits]
      rcases scan heap (textOrder heap frames value) seen with _ | ⟨_ | place, after⟩
      · rfl
      · exact ih
      · rfl

/-- The search is one pass over the places of the data. -/
theorem firstUnserializableValue_eq_scan (frames : ℕ) (value : α) (seen : List α) :
    firstUnserializableValue heap frames value seen =
      scan heap (textOrder heap frames value) seen := by
  induction frames generalizing value seen with
  | zero => rfl
  | succ frames ih =>
      rw [firstUnserializableValue]
      by_cases again : value ∈ seen
      · rw [if_pos again]
        cases type : heap.node value <;>
          simp [textOrder, scan, again, type, Node.places]
      · rw [if_neg again]
        cases type : heap.node value with
        | dict items =>
            rw [textOrder_dict type, scan, if_neg again, if_neg (by simp [type])]
            exact searchItems_eq_scan ih items
        | sequence items =>
            rw [textOrder_sequence type, scan, if_neg again, if_neg (by simp [type])]
            exact searchAll_eq_scan ih items
        | _ => simp [textOrder, scan, again, type, Node.places, Node.isPlain]

end

section

variable {α : Type} [Fintype α] [DecidableEq α] {heap : Heap α} {seen after : List α}

/-- How many objects the search has not seen. -/
def unseen (seen : List α) : ℕ := seen.toFinsetᶜ.card

theorem unseen_cons_lt {value : α} (fresh : value ∉ seen) :
    unseen (value :: seen) < unseen seen := by
  apply Finset.card_lt_card
  rw [List.toFinset_cons, Finset.compl_ssubset_compl]
  exact Finset.ssubset_insert (by simpa using fresh)

theorem unseen_anti (later : seen ⊆ after) : unseen after ≤ unseen seen := by
  apply Finset.card_le_card
  rw [Finset.compl_subset_compl]
  intro value member
  rw [List.mem_toFinset] at member ⊢
  exact later member

/-- The search comes to its end, and forgets no object. -/
def Ends (search : Search α) (seen : List α) : Prop :=
  ∃ place after, search = some (place, after) ∧ seen ⊆ after

theorem searchItems_ends {visit : α → List α → Search α} {depth : ℕ}
    (visits : ∀ item seen, unseen seen < depth → Ends (visit item seen) seen)
    (items : List (α × α)) (enough : unseen seen < depth) :
    Ends (searchItems heap visit items seen) seen := by
  induction items generalizing seen with
  | nil => exact ⟨none, seen, rfl, List.Subset.refl _⟩
  | cons item items ih =>
      obtain ⟨key, value⟩ := item
      rw [searchItems]
      split_ifs
      · obtain ⟨stopped, after, visited, grows⟩ := visits value seen enough
        rw [visited]
        cases stopped with
        | none =>
            obtain ⟨place, final, found, more⟩ := ih (lt_of_le_of_lt (unseen_anti grows) enough)
            exact ⟨place, final, found, List.Subset.trans grows more⟩
        | some place => exact ⟨some place, after, rfl, grows⟩
      · exact ⟨_, seen, rfl, List.Subset.refl _⟩

theorem searchAll_ends {visit : α → List α → Search α} {depth : ℕ}
    (visits : ∀ item seen, unseen seen < depth → Ends (visit item seen) seen)
    (items : List α) (enough : unseen seen < depth) : Ends (searchAll visit items seen) seen := by
  induction items generalizing seen with
  | nil => exact ⟨none, seen, rfl, List.Subset.refl _⟩
  | cons value items ih =>
      rw [searchAll]
      obtain ⟨stopped, after, visited, grows⟩ := visits value seen enough
      rw [visited]
      cases stopped with
      | none =>
          obtain ⟨place, final, found, more⟩ := ih (lt_of_le_of_lt (unseen_anti grows) enough)
          exact ⟨place, final, found, List.Subset.trans grows more⟩
      | some place => exact ⟨some place, after, rfl, grows⟩

/-- Each call sees an object more, so the objects not yet seen bound the depth of the calls. -/
theorem firstUnserializableValue_ends {depth : ℕ} {value : α} (enough : unseen seen < depth) :
    Ends (firstUnserializableValue heap depth value seen) seen := by
  induction depth generalizing value seen with
  | zero => omega
  | succ depth ih =>
      rw [firstUnserializableValue]
      split_ifs with again type
      · exact ⟨none, seen, rfl, List.Subset.refl _⟩
      · exact ⟨_, seen, rfl, List.Subset.refl _⟩
      · have fewer := unseen_cons_lt again
        have grows : seen ⊆ value :: seen := List.subset_cons_self value seen
        have less : unseen (value :: seen) < depth := by omega
        split
        next items type =>
          have inner : Ends (searchItems heap (firstUnserializableValue heap depth) items
              (value :: seen)) (value :: seen) := searchItems_ends (fun _ _ => ih) items less
          obtain ⟨place, after, found, more⟩ := inner
          exact ⟨place, after, found, List.Subset.trans grows more⟩
        next items type =>
          obtain ⟨place, after, found, more⟩ := searchAll_ends (fun _ _ => ih) items less
          exact ⟨place, after, found, List.Subset.trans grows more⟩
        next => exact ⟨_, _, rfl, grows⟩

/-- With more frames than objects the search ends; what it returns is refused by itself or holds
itself if and only if the first place at which it stops is an offence. -/
theorem culprit_iff (heap : Heap α) (limits : Limits heap) (rawData : α) :
    (Fintype.card α < limits.frames → ∃ place seen,
      firstUnserializableValue heap limits.frames rawData [] = some (place, seen)) ∧
    ((∃ place seen, firstUnserializableValue heap limits.frames rawData [] =
        some (some place, seen) ∧ IsCulprit heap limits.levels place) ↔
      ∃ earlier place later,
        textOrder heap limits.frames rawData = earlier ++ some place :: later ∧
          Passes heap earlier ∧ Offends heap limits.levels earlier place) := by
  refine ⟨?_, ?_⟩
  · intro enough
    have unseenAll : unseen ([] : List α) < limits.frames :=
      lt_of_le_of_lt (Finset.card_le_univ _) enough
    obtain ⟨place, seen, found, -⟩ :=
      @firstUnserializableValue_ends _ _ _ heap [] _ rawData unseenAll
    exact ⟨place, seen, found⟩
  have first (place : Place α) :
      (∃ seen, firstUnserializableValue heap limits.frames rawData [] = some (some place, seen)) ↔
        FirstStop heap [] (textOrder heap limits.frames rawData) (some place) := by
    rw [firstUnserializableValue_eq_scan]
    exact scan_eq_some_iff (by simp) passes_nil
  constructor
  · rintro ⟨place, seen, found, culprit⟩
    obtain ⟨earlier, later, order, passes, stops⟩ := (first place).mp ⟨seen, found⟩
    exact ⟨earlier, place, later, order, passes,
      (stops_and_isCulprit_iff limits).mp ⟨stops, culprit⟩⟩
  · rintro ⟨earlier, place, later, order, passes, offends⟩
    obtain ⟨stops, culprit⟩ := (stops_and_isCulprit_iff limits).mpr offends
    obtain ⟨seen, found⟩ := (first place).mpr ⟨earlier, later, order, passes, stops⟩
    exact ⟨place, seen, found, culprit⟩

end

namespace Sample

/-- A list that holds the same text twice, and then an object that is refused. -/
def repeated : Heap (Fin 3) where
  node
    | 0 => .sequence [1, 1, 2]
    | 1 => .str
    | 2 => .other
  typeName
    | 0 => "builtins.list"
    | 1 => "builtins.str"
    | 2 => "builtins.object"
  calls _ := 2

/-- Lists around an object that is refused. -/
def nested : Heap (Fin 4) where
  node
    | 0 => .sequence [1]
    | 1 => .sequence [2]
    | 2 => .sequence [3]
    | 3 => .other
  typeName
    | 0 | 1 | 2 => "builtins.list"
    | 3 => "builtins.object"
  calls _ := 2

end Sample

/-- The encoder refuses the last object of the list, and the search names the text before it; and
where the encoder can still refuse an object deep in lists, the search has run out of frames. -/
theorem repeated_text_named :
    (∃ seen, dumps Sample.repeated 1000 [] 0 = .refused ∧
      firstUnserializableValue Sample.repeated 900 0 [] = some (some (.value 1), seen) ∧
      ¬ IsCulprit Sample.repeated 1000 (.value 1)) ∧
    dumps Sample.nested 6 [] 0 = .refused ∧ firstUnserializableValue Sample.nested 3 0 [] = none := by
  refine ⟨⟨[1, 0], by decide, by decide, ?_⟩, by decide, by decide⟩
  rintro (refused | cyclic)
  · exact refused (by decide)
  · have written : dumps Sample.repeated 1000 [] 1 = .text := by decide
    exact dumps_ne_text_of_cyclic cyclic written

end Finrec.RawObjects
