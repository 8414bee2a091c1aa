import Voip.Base.Overwrite

/-! A vector with its spare memory. Somebody who writes through a pointer to the first element may
use the whole capacity, while `resize` fills everything behind the old size anew. -/

namespace Base

structure RawVector (α : Type*) where
  mem : List α
  size : ℕ
  size_le : size ≤ mem.length

namespace RawVector

variable {α : Type*}

def capacity (v : RawVector α) : ℕ := v.mem.length

def toList (v : RawVector α) : List α := v.mem.take v.size

def alloc (n : ℕ) (a : α) : RawVector α := ⟨List.replicate n a, n, by simp⟩

def clear (v : RawVector α) : RawVector α := ⟨v.mem, 0, Nat.zero_le _⟩

def write (v : RawVector α) (xs : List α) : RawVector α :=
  ⟨copyTo xs v.mem, v.size, (length_copyTo xs v.mem).symm ▸ v.size_le⟩

def resize (v : RawVector α) (n : ℕ) (a : α) : RawVector α :=
  if h : n ≤ v.size then ⟨v.mem, n, Nat.le_trans h v.size_le⟩
  else ⟨v.mem.take v.size ++ List.replicate (n - v.size) a ++ v.mem.drop n, n, by
    have hs := v.size_le
    simp only [List.length_append, List.length_take, List.length_replicate, List.length_drop]
    omega⟩

@[simp] theorem capacity_alloc (n : ℕ) (a : α) : (alloc n a).capacity = n :=
  List.length_replicate

@[simp] theorem size_clear (v : RawVector α) : v.clear.size = 0 := rfl

@[simp] theorem size_write (v : RawVector α) (xs : List α) : (v.write xs).size = v.size := rfl

@[simp] theorem capacity_write (v : RawVector α) (xs : List α) :
    (v.write xs).capacity = v.capacity :=
  length_copyTo ..

@[simp] theorem size_resize (v : RawVector α) (n : ℕ) (a : α) : (v.resize n a).size = n := by
  unfold resize
  split_ifs <;> rfl

theorem capacity_resize (v : RawVector α) {n : ℕ} (h : n ≤ v.capacity) (a : α) :
    (v.resize n a).capacity = v.capacity := by
  have hs := v.size_le
  unfold capacity at h ⊢
  unfold resize
  split_ifs with hn
  · rfl
  · simp only [List.length_append, List.length_take, List.length_replicate, List.length_drop]
    omega

theorem toList_resize (v : RawVector α) (n : ℕ) (a : α) :
    (v.resize n a).toList = v.toList.take n ++ List.replicate (n - v.size) a := by
  have hs := v.size_le
  unfold resize
  split_ifs with hn
  · rw [toList, toList, List.take_take, Nat.min_eq_left hn, Nat.sub_eq_zero_of_le hn]
    simp
  · have hlen : (v.mem.take v.size).length = v.size := by simp [hs]
    rw [toList, toList, List.take_of_length_le (by omega : (v.mem.take v.size).length ≤ n)]
    exact List.take_left' (by simp only [List.length_append, hlen, List.length_replicate]; omega)

theorem toList_write_resize (v : RawVector α) {xs : List α} (h : xs.length ≤ v.capacity) (a : α) :
    ((v.write xs).resize xs.length a).toList =
      xs.take v.size ++ List.replicate (xs.length - v.size) a := by
  have hwrite : (v.write xs).toList.take xs.length = xs.take v.size := by
    have hmem : (v.write xs).mem = xs ++ v.mem.drop xs.length := by
      change xs.take v.capacity ++ v.mem.drop xs.length = _
      rw [List.take_of_length_le h]
    rw [toList, size_write, List.take_take, hmem,
      List.take_append_of_le_length (Nat.min_le_left ..)]
    rcases Nat.le_total xs.length v.size with hle | hle
    · rw [Nat.min_eq_left hle, List.take_length, List.take_of_length_le hle]
    · rw [Nat.min_eq_right hle]
  rw [toList_resize, hwrite, size_write]

/-- A list that is cut off and filled up again is itself where it does not differ from the
filling. -/
theorem take_append_replicate_eq_iff (n : ℕ) (xs : List α) (a : α) :
    xs.take n ++ List.replicate (xs.length - n) a = xs ↔ ∀ x ∈ xs.drop n, x = a := by
  constructor
  · intro heq x hx
    have htail := List.append_cancel_left (heq.trans (List.take_append_drop n xs).symm)
    exact List.eq_of_mem_replicate (htail.symm ▸ hx)
  · intro hall
    have htail : xs.drop n = List.replicate (xs.length - n) a :=
      List.eq_replicate_iff.mpr ⟨List.length_drop, hall⟩
    rw [← htail, List.take_append_drop]

/-- The write survives exactly if it does not differ from the filling behind the old size. -/
theorem toList_write_resize_eq_iff (v : RawVector α) {xs : List α} (h : xs.length ≤ v.capacity)
    (a : α) : ((v.write xs).resize xs.length a).toList = xs ↔ ∀ x ∈ xs.drop v.size, x = a := by
  rw [toList_write_resize v h]
  exact take_append_replicate_eq_iff v.size xs a

end RawVector

end Base
