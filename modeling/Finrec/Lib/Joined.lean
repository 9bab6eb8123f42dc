import Mathlib.Data.List.Basic

/-!
# Texts joined with a separator

Fields that do not contain the separator can be read off the text that joins
them, and a text can be read off its UTF-8 bytes.
-/

namespace Joined

theorem toList_loop (bytes : ByteArray) (index : ℕ) (read : List UInt8) :
    ByteArray.toList.loop bytes index read = read.reverse ++ bytes.data.toList.drop index := by
  fun_induction ByteArray.toList.loop bytes index read with
  | case1 index read within ih =>
      have inside : index < bytes.data.toList.length := within
      rw [ih, List.drop_eq_getElem_cons inside]
      simp [ByteArray.get!, getElem!_pos bytes.data index within]
  | case2 index read beyond =>
      have past : bytes.data.toList.length ≤ index := Nat.le_of_not_lt beyond
      rw [List.drop_eq_nil_of_le past, List.append_nil]

theorem toList_eq (bytes : ByteArray) : bytes.toList = bytes.data.toList := by
  rw [ByteArray.toList, toList_loop]
  rfl

theorem toUTF8_toList_inj {left right : String} :
    left.toUTF8.toList = right.toUTF8.toList ↔ left = right := by
  rw [toList_eq, toList_eq, String.toUTF8_eq_toByteArray, String.toUTF8_eq_toByteArray,
    Array.toList_inj]
  constructor
  · intro same
    exact String.toByteArray_inj.mp (ByteArray.ext same)
  · rintro rfl
    rfl

section Fields

variable {separator : Char} {left right : List String}

/-- Splitting at the separator gives the fields back. -/
theorem splitOn_intercalate {fields : List String}
    (free : ∀ field ∈ fields, separator ∉ field.toList) (nonempty : fields ≠ []) :
    (String.intercalate (String.singleton separator) fields).toList.splitOn separator =
      fields.map String.toList := by
  rw [String.toList_intercalate, String.toList_singleton]
  apply List.splitOn_intercalate
  · intro text member
    rcases List.mem_map.mp member with ⟨field, fieldMem, rfl⟩
    exact free field fieldMem
  · simpa using nonempty

theorem intercalate_inj (leftFree : ∀ field ∈ left, separator ∉ field.toList)
    (rightFree : ∀ field ∈ right, separator ∉ field.toList) (leftNonempty : left ≠ [])
    (rightNonempty : right ≠ []) :
    String.intercalate (String.singleton separator) left =
      String.intercalate (String.singleton separator) right ↔ left = right := by
  constructor
  · intro same
    have split := splitOn_intercalate leftFree leftNonempty
    rw [same, splitOn_intercalate rightFree rightNonempty] at split
    have injective : Function.Injective String.toList := fun _ _ same => String.toList_inj.mp same
    exact (List.map_injective_iff.mpr injective split).symm
  · rintro rfl
    rfl

end Fields

end Joined
