import Mathlib.Data.List.Basic
import Mathlib.Logic.Function.Basic

/-!
# Registers

A register has at most one entry under a key, and an item changes the entry
under its own key only.  Where any two items of one key may change places, so
may any two in a list of items.
-/

namespace Registers

variable {κ ι β : Type} [DecidableEq κ]

/-- A register after an item. -/
def take (key : ι → κ) (entry : Option β → ι → Option β) (register : κ → Option β) (item : ι) :
    κ → Option β :=
  Function.update register (key item) (entry (register (key item)) item)

variable {key : ι → κ} {entry : Option β → ι → Option β} {left right item : ι}

/-- An item that leaves its entry alone leaves the register alone. -/
theorem take_eq_self {register : κ → Option β}
    (same : entry (register (key item)) item = register (key item)) :
    take key entry register item = register := by
  rw [take, same, Function.update_eq_self]

theorem take_comm (commute : key left = key right → ∀ found,
      entry (entry found left) right = entry (entry found right) left) (register : κ → Option β) :
    take key entry (take key entry register left) right =
      take key entry (take key entry register right) left := by
  unfold take
  by_cases same : key left = key right
  · rw [← same]
    simp only [Function.update_self, Function.update_idem, commute same]
  · rw [Function.update_of_ne (Ne.symm same), Function.update_of_ne same,
      Function.update_comm same]

/-- The order of the items does not matter. -/
theorem foldl_take_perm {items others : List ι} (perm : items.Perm others)
    (commute : ∀ left ∈ items, ∀ right ∈ items, key left = key right → ∀ found,
      entry (entry found left) right = entry (entry found right) left)
    (register : κ → Option β) :
    items.foldl (take key entry) register = others.foldl (take key entry) register := by
  apply perm.foldl_eq'
  intro left leftMem right rightMem reached
  exact take_comm (commute left leftMem right rightMem) reached

end Registers
