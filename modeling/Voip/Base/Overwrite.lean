import Mathlib.Data.List.Basic

/-! A copy through a raw pointer to the first element of a buffer. What would lie behind the end of
the buffer is not kept. -/

namespace Base

variable {α : Type*}

def copyTo (src dst : List α) : List α := src.take dst.length ++ dst.drop src.length

@[simp] theorem length_copyTo (src dst : List α) : (copyTo src dst).length = dst.length := by
  simp only [copyTo, List.length_append, List.length_take, List.length_drop]
  omega

theorem copyTo_of_le {src dst : List α} (h : src.length ≤ dst.length) :
    copyTo src dst = src ++ dst.drop src.length := by
  rw [copyTo, List.take_of_length_le h]

theorem copyTo_of_length_eq {src dst : List α} (h : src.length = dst.length) :
    copyTo src dst = src := by
  rw [copyTo_of_le (Nat.le_of_eq h), h, List.drop_length, List.append_nil]

theorem getElem?_copyTo {src dst : List α} {i : ℕ} (h : i < dst.length) :
    (copyTo src dst)[i]? = if i < src.length then src[i]? else dst[i]? := by
  have htake : (src.take dst.length).length = min dst.length src.length := List.length_take
  rw [copyTo]
  split_ifs with hi
  · rw [List.getElem?_append_left (by omega), List.getElem?_take_of_lt h]
  · rw [List.getElem?_append_right (by omega), List.getElem?_drop]
    congr 1
    omega

end Base
