import Mathlib.Data.Fintype.Card
import Mathlib.Data.List.Basic
import Finrec.Ledger.Models

/-!
# Raw data as a graph of objects

The raw data of a row is any graph of Python objects: the same object can stand
at several places, and a container can hold itself.  An object is known by its
identity, and a heap says what is there.  `json.dumps` with the encoder of
Django writes what has a finite text, as long as calls can be nested; where it
refuses, the import names the object at which its own search stops, as long as
there are frames for it.
-/

namespace Finrec.RawObjects

/-- What the encoder and the search see of an object.  `supported` are the types that the encoder of
Django adds: dates, date-times, times without a zone, durations, decimals, UUIDs and lazy texts. -/
inductive Node (α : Type) where
  | none
  | bool
  | int (value : ℤ)
  | float
  | str
  | dict (items : List (α × α))
  | sequence (items : List α)
  | supported
  | other
deriving DecidableEq

structure Heap (α : Type) where
  node : α → Node α
  /-- The module and the qualified name of the type. -/
  typeName : α → String
  /-- How deep the calls are nested in which `default` gives a text for the object or refuses it. -/
  calls : α → ℕ

/-- What the interpreter leaves for the import of a row: the calls that may be nested in
`json.dumps`, and the frames for the search.  The encoder can always look at an object alone. -/
structure Limits {α : Type} (heap : Heap α) where
  levels : ℕ
  frames : ℕ
  enough : ∀ object, heap.calls object ≤ levels

namespace Node

variable {α : Type}

/-- `isinstance(value, (str, int, float, bool, type(None)))`. -/
def isPlain : Node α → Bool
  | .none | .bool | .int _ | .float | .str => true
  | .dict _ | .sequence _ | .supported | .other => false

/-- Integers with more digits have no decimal text. -/
def maxDigits : ℕ := 4300

/-- The encoder can write a plain value, as a key too. -/
def hasText : Node α → Bool
  | .int value => value.natAbs < 10 ^ maxDigits
  | node => node.isPlain

end Node

/-- What a container holds: a key of a dict, or a value. -/
inductive Place (α : Type) where
  | key (object : α)
  | value (object : α)
deriving DecidableEq

def Place.object {α : Type} : Place α → α
  | .key object | .value object => object

def Node.places {α : Type} : Node α → List (Place α)
  | .dict items => items.flatMap fun item => [.key item.1, .value item.2]
  | .sequence items => items.map .value
  | _ => []

/-- What `json.dumps` comes to: a text, a `TypeError` or a `ValueError`, or a `RecursionError`. -/
inductive Encoding where
  | text
  | refused
  | tooDeep
deriving DecidableEq

namespace Encoding

/-- The second part is written after the first. -/
def andThen : Encoding → Encoding → Encoding
  | .text, later => later
  | stopped, _ => stopped

def ofText (text : Bool) : Encoding :=
  if text then .text else .refused

/-- The items are written one after the other. -/
def all {β : Type} (write : β → Encoding) : List β → Encoding
  | [] => .text
  | item :: items => (write item).andThen (all write items)

theorem andThen_eq_text {first later : Encoding} :
    first.andThen later = .text ↔ first = .text ∧ later = .text := by
  cases first <;> simp [andThen]

theorem all_eq_text {β : Type} {write : β → Encoding} {items : List β} :
    all write items = .text ↔ ∀ item ∈ items, write item = .text := by
  induction items with
  | nil => simp [all]
  | cons item items ih => rw [all, andThen_eq_text, ih, List.forall_mem_cons]

end Encoding

/-- The first object holds the second, as a value of its own or of something in it. -/
inductive Holds {α : Type} (heap : Heap α) : α → α → Prop where
  | direct {object item : α} (member : .value item ∈ (heap.node object).places) :
      Holds heap object item
  | nested {object item inner : α} (member : .value item ∈ (heap.node object).places)
      (holds : Holds heap item inner) : Holds heap object inner

/-- What the search has come to: the place whose object it returns, if it has found one, and the
objects it has seen.  No result means a `RecursionError`. -/
abbrev Search (α : Type) := Option (Option (Place α) × List α)

section

variable {α : Type} [DecidableEq α] (heap : Heap α)

/-- `json.dumps` of the object, as far as calls can be nested; the markers are the containers around
it. -/
def dumps (levels : ℕ) (markers : List α) (object : α) : Encoding :=
  match heap.node object with
  | .dict items =>
      match levels with
      | 0 => .tooDeep
      | levels + 1 =>
          if object ∈ markers then .refused
          else .all (fun item => (Encoding.ofText (heap.node item.1).hasText).andThen
            (dumps levels (object :: markers) item.2)) items
  | .sequence items =>
      match levels with
      | 0 => .tooDeep
      | levels + 1 =>
          if object ∈ markers then .refused else .all (dumps levels (object :: markers)) items
  | .supported => if heap.calls object ≤ levels then .text else .tooDeep
  | .other => if heap.calls object ≤ levels then .refused else .tooDeep
  | node => .ofText node.hasText

/-- The loop over the items of a dict. -/
def searchItems (visit : α → List α → Search α) : List (α × α) → List α → Search α
  | [], seen => some (none, seen)
  | (key, item) :: items, seen =>
      if (heap.node key).isPlain then
        match visit item seen with
        | some (none, seen) => searchItems visit items seen
        | stopped => stopped
      else some (some (.key key), seen)

/-- The loop over the items of a list or a tuple. -/
def searchAll (visit : α → List α → Search α) : List α → List α → Search α
  | [], seen => some (none, seen)
  | item :: items, seen =>
      match visit item seen with
      | some (none, seen) => searchAll visit items seen
      | stopped => stopped

/-- `_first_unserializable_value`, as far as there are frames.  An object that is met again is
returned, and returning `None` means that nothing was found. -/
def firstUnserializableValue : ℕ → α → List α → Search α
  | 0, _, _ => none
  | frames + 1, value, seen =>
      if value ∈ seen then
        some (if heap.node value = .none then none else some (.value value), seen)
      else
        match heap.node value with
        | .dict items => searchItems heap (firstUnserializableValue frames) items (value :: seen)
        | .sequence items => searchAll (firstUnserializableValue frames) items (value :: seen)
        | node => some (if node.isPlain then none else some (.value value), value :: seen)

/-- What the import keeps of the raw data of a row: what its text is read back as, or the types. -/
inductive SafeRawData (α : Type) where
  | data (object : α)
  | unserializable (typeName repr : String) (issue : RowIssue)

/-- `_json_safe_raw_data`; no result means that a `RecursionError` leaves it. -/
def jsonSafeRawData (limits : Limits heap) (rawData : α) : Option (SafeRawData α) :=
  match dumps heap limits.levels [] rawData with
  | .text => some (.data rawData)
  | .tooDeep => none
  | .refused =>
      (firstUnserializableValue heap limits.frames rawData []).map fun found =>
        .unserializable
          ((found.1.map fun place => heap.typeName place.object).getD "builtins.NoneType")
          ("<" ++ heap.typeName rawData ++ ">") ⟨"raw_data", "原始数据无法序列化", "raw_data"⟩

end

section

variable {α : Type} {heap : Heap α} {object item inner : α}

theorem mem_places_dict {items : List (α × α)} (type : heap.node object = .dict items) :
    .value inner ∈ (heap.node object).places ↔ ∃ item ∈ items, item.2 = inner := by
  simp [type, Node.places, eq_comm]

theorem mem_places_sequence {items : List α} (type : heap.node object = .sequence items) :
    .value inner ∈ (heap.node object).places ↔ inner ∈ items := by
  simp [type, Node.places]

theorem Holds.concat (holds : Holds heap object item)
    (member : .value inner ∈ (heap.node item).places) : Holds heap object inner := by
  induction holds with
  | direct first => exact .nested first (.direct member)
  | nested first _ ih => exact .nested first (ih member)

/-- Once round a cycle, and one step on. -/
theorem Holds.around (holds : Holds heap object object) :
    ∃ inner, .value inner ∈ (heap.node object).places ∧ Holds heap inner inner := by
  cases holds with
  | direct member => exact ⟨object, member, .direct member⟩
  | nested member holds => exact ⟨_, member, holds.concat member⟩

variable [DecidableEq α] {levels : ℕ} {markers : List α}

/-- What a written container holds is written within it. -/
theorem dumps_inner (written : dumps heap levels markers object = .text)
    (member : .value inner ∈ (heap.node object).places) :
    ∃ fewer, levels = fewer + 1 ∧ dumps heap fewer (object :: markers) inner = .text := by
  cases type : heap.node object with
  | dict items =>
      obtain ⟨item, listed, rfl⟩ := (mem_places_dict type).mp member
      rw [dumps, type] at written
      cases levels with
      | zero => cases written
      | succ fewer =>
          simp only at written
          split_ifs at written
          have parts := Encoding.all_eq_text.mp written item listed
          exact ⟨fewer, rfl, (Encoding.andThen_eq_text.mp parts).2⟩
  | sequence items =>
      have listed := (mem_places_sequence type).mp member
      rw [dumps, type] at written
      cases levels with
      | zero => cases written
      | succ fewer =>
          simp only at written
          split_ifs at written
          exact ⟨fewer, rfl, Encoding.all_eq_text.mp written inner listed⟩
  | _ => simp [type, Node.places] at member

/-- What holds itself is never written. -/
theorem dumps_ne_text_of_cyclic (cyclic : Holds heap object object) :
    dumps heap levels markers object ≠ .text := by
  induction levels generalizing markers object with
  | zero =>
      intro written
      obtain ⟨inner, member, -⟩ := cyclic.around
      obtain ⟨fewer, impossible, -⟩ := dumps_inner written member
      omega
  | succ levels ih =>
      intro written
      obtain ⟨inner, member, again⟩ := cyclic.around
      obtain ⟨fewer, same, inside⟩ := dumps_inner written member
      cases same
      exact ih again inside

theorem dumps_other (type : heap.node object = .other) :
    dumps heap levels markers object ≠ .text := by
  rw [dumps, type]
  simp only
  split_ifs <;> simp

/-- The encoder writes a value of a type that it adds, if it can look at it at all. -/
theorem dumps_supported (type : heap.node object = .supported) (enough : heap.calls object ≤ levels) :
    dumps heap levels markers object = .text := by
  rw [dumps, type]
  exact if_pos enough

theorem dumps_none (type : heap.node object = .none) :
    dumps heap levels markers object = .text := by
  rw [dumps, type]
  rfl

end

end Finrec.RawObjects
