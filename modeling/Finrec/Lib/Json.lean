import Mathlib.Data.List.Basic
import Mathlib.Data.Option.Basic

/-!
# JSON values

The values that `json.loads` gives, over a type of texts.  Of two fields with one
name the last counts there, so the names of an object are different.
-/

inductive Json (τ : Type) where
  | null
  | bool (value : Bool)
  | number (text : String)
  | string (value : τ)
  | array (items : List (Json τ))
  | object (fields : List (τ × Json τ))

namespace Json

variable {τ : Type}

def string? : Json τ → Option τ
  | .string value => some value
  | _ => none

def bool? : Json τ → Option Bool
  | .bool value => some value
  | _ => none

/-- A list of texts. -/
def strings? : Json τ → Option (List τ)
  | .array items => items.mapM string?
  | _ => none

/-- The value is `null`, or else something that can be read. -/
def nullable? {α : Type} (read : Json τ → Option α) : Json τ → Option (Option α)
  | .null => some none
  | value => (read value).map some

section Fields

variable [DecidableEq τ]

/-- The value under a name. -/
def field? (fields : List (τ × Json τ)) (name : τ) : Option (Json τ) :=
  (fields.find? fun field => field.1 = name).map Prod.snd

/-- What a reader makes of the value under a name. -/
def readField? {α : Type} (read : Json τ → Option α) (fields : List (τ × Json τ)) (name : τ) :
    Option α := (field? fields name).bind read

/-- The fields of an object that has exactly the expected names. -/
def exactObject? (expected : List τ) : Json τ → Option (List (τ × Json τ))
  | .object fields =>
      if (∀ name ∈ fields.map Prod.fst, name ∈ expected) ∧
          ∀ name ∈ expected, name ∈ fields.map Prod.fst then some fields
      else none
  | _ => none

theorem exactObject?_object {fields : List (τ × Json τ)} {expected : List τ}
    (same : fields.map Prod.fst = expected) : exactObject? expected (.object fields) = some fields := by
  rw [exactObject?, same, if_pos ⟨fun _ member => member, fun _ member => member⟩]

end Fields

theorem strings?_array (values : List τ) :
    strings? (.array (values.map .string)) = some values := by
  induction values with
  | nil => rfl
  | cons value values ih =>
      simp only [strings?] at ih
      simp [strings?, string?, ih]

theorem nullable?_of_some {α : Type} {read : Json τ → Option α} {value : Json τ} {result : α}
    (found : read value = some result) (present : value ≠ .null) :
    nullable? read value = some (some result) := by
  cases value with
  | null => exact absurd rfl present
  | bool | number | string | array | object => simp only [nullable?, found, Option.map_some]

theorem of_nullable?_eq_some {α : Type} {read : Json τ → Option α} {value : Json τ} {result : α}
    (found : nullable? read value = some (some result)) :
    read value = some result ∧ value ≠ .null := by
  cases value with
  | null => cases found
  | bool | number | string | array | object =>
      simp only [nullable?, Option.map_eq_some_iff, Option.some.injEq] at found
      obtain ⟨_, read, rfl⟩ := found
      exact ⟨read, by simp⟩

theorem readField?_eq_some [DecidableEq τ] {α : Type} {read : Json τ → Option α}
    {fields : List (τ × Json τ)} {name : τ} {value : α} :
    readField? read fields name = some value ↔
      ∃ json, field? fields name = some json ∧ read json = some value :=
  Option.bind_eq_some_iff

end Json
