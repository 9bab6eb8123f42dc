import Mathlib.Data.List.AList

/-!
# Names of objects

A finite map gives objects names; an object can have any number of them.  All
the names of an object can be listed, and taken away at once.
-/

universe u v

/-- A finite map from names to objects. -/
abbrev Names (Name : Type u) (Object : Type v) := AList fun _ : Name => Object

namespace Names

variable {Name : Type u} {Object : Type v} [DecidableEq Name] [DecidableEq Object]
  {names : Names Name Object} {name other : Name} {object another : Object}

/-- The names of an object. -/
def namesOf (names : Names Name Object) (object : Object) : List Name :=
  (names.entries.filter (·.2 = object)).map (·.1)

/-- The map without the names of an object. -/
def without (names : Names Name Object) (object : Object) : Names Name Object where
  entries := names.entries.filter (·.2 ≠ object)
  nodupKeys := names.nodupKeys.sublist List.filter_sublist

@[simp]
theorem mem_namesOf : name ∈ names.namesOf object ↔ names.lookup name = some object := by
  rw [← Option.mem_def, AList.mem_lookup_iff]
  simp [namesOf]

omit [DecidableEq Name] in
@[simp]
theorem namesOf_without_self : (names.without object).namesOf object = [] := by
  simp [namesOf, without, List.filter_filter]

omit [DecidableEq Name] in
/-- The names of the other objects stay. -/
theorem namesOf_without (differ : another ≠ object) :
    (names.without object).namesOf another = names.namesOf another := by
  unfold namesOf without
  rw [List.filter_filter]
  congr 2
  funext entry
  by_cases named : entry.2 = another
  · simp [named, differ]
  · simp [named]

/-- A new name of another object is not a name of this one. -/
theorem namesOf_insert_of_ne (fresh : name ∉ names) (differ : another ≠ object) :
    Names.namesOf (names.insert name another) object = names.namesOf object := by
  unfold namesOf
  rw [AList.entries_insert_of_notMem fresh, List.filter_cons_of_neg (by simpa using differ)]

end Names
