import Mathlib.Data.List.Basic
import Mathlib.Logic.Nontrivial.Basic

/-! A stream that arrives in chunks, of each of which only the head is taken. -/

namespace Base

variable {α : Type*} {k : ℕ}

def heads (k : ℕ) (chunks : List (List α)) : List α := (chunks.map (List.take k)).flatten

/-- The heads make up a beginning of the stream, and what is missing is shorter than a head. -/
def Covers (k : ℕ) (chunks : List (List α)) : Prop :=
  heads k chunks <+: chunks.flatten ∧ chunks.flatten.length < (heads k chunks).length + k

/-- Lengths of chunks that have nothing behind their heads, except that the last may have less
than another head. -/
def Whole (k : ℕ) : List ℕ → Prop
  | [] => True
  | [n] => k ≤ n ∧ n < 2 * k
  | n :: m :: ns => n = k ∧ Whole k (m :: ns)

instance decidableWhole (k : ℕ) : (ns : List ℕ) → Decidable (Whole k ns)
  | [] => inferInstanceAs (Decidable True)
  | [n] => inferInstanceAs (Decidable (k ≤ n ∧ n < 2 * k))
  | n :: m :: ns =>
    have := decidableWhole k (m :: ns)
    inferInstanceAs (Decidable (n = k ∧ Whole k (m :: ns)))

theorem heads_cons (k : ℕ) (c : List α) (chunks : List (List α)) :
    heads k (c :: chunks) = c.take k ++ heads k chunks := rfl

theorem map_length_replicate (ns : List ℕ) (a : α) :
    (ns.map fun n => List.replicate n a).map List.length = ns := by
  rw [List.map_map]
  exact (List.map_congr_left fun n _ => List.length_replicate).trans ns.map_id

theorem bounds_of_whole (hk : 0 < k) {ns : List ℕ} (h : Whole k ns) :
    ∀ n ∈ ns, k ≤ n ∧ n < 2 * k := by
  induction ns with
  | nil => exact nofun
  | cons n ns ih =>
    cases ns with
    | nil => exact List.forall_mem_singleton.mpr h
    | cons m ns =>
      have hn := h.1
      exact List.forall_mem_cons.mpr ⟨by omega, ih h.2⟩

theorem covers_cons_iff {c : List α} (hc : c.length = k) (chunks : List (List α)) :
    Covers k (c :: chunks) ↔ Covers k chunks := by
  have htake : c.take k = c := List.take_of_length_le (Nat.le_of_eq hc)
  unfold Covers
  rw [heads_cons, htake, List.flatten_cons, List.prefix_append_right_inj,
    List.length_append, List.length_append, Nat.add_assoc, Nat.add_lt_add_iff_left]

theorem covers_singleton_iff {c : List α} (hc : k ≤ c.length) :
    Covers k [c] ↔ c.length < 2 * k := by
  have hheads : heads k [c] = c.take k := List.append_nil _
  unfold Covers
  rw [hheads, List.flatten_singleton, List.length_take, Nat.min_eq_left hc, Nat.two_mul]
  exact and_iff_right (List.take_prefix k c)

theorem covers_of_whole (hk : 0 < k) {chunks : List (List α)}
    (h : Whole k (chunks.map List.length)) : Covers k chunks := by
  induction chunks with
  | nil => exact ⟨List.prefix_rfl, lt_of_lt_of_eq hk (Nat.zero_add k).symm⟩
  | cons c chunks ih =>
    cases chunks with
    | nil => exact (covers_singleton_iff h.1).mpr h.2
    | cons d chunks => exact (covers_cons_iff h.1 _).mpr (ih h.2)

/-- A chunk that is longer than its head leaves something out before the next one begins. -/
theorem length_le_of_covers {a b : α} (hab : a ≠ b) {n m : ℕ} (hk : 0 < k) (hn : k ≤ n)
    (hm : k ≤ m) {chunks : List (List α)}
    (h : Covers k (List.replicate n a :: List.replicate m b :: chunks)) : n ≤ k := by
  by_contra hlt
  obtain ⟨j, rfl⟩ : ∃ j, n = k + (j + 1) := ⟨n - k - 1, by omega⟩
  obtain ⟨i, hi⟩ : ∃ i, k = i + 1 := ⟨k - 1, by omega⟩
  have hprefix := h.1
  rw [heads_cons, heads_cons, List.take_replicate, List.take_replicate, Nat.min_eq_left hn,
    Nat.min_eq_left hm, List.flatten_cons, List.replicate_add, List.append_assoc,
    List.prefix_append_right_inj, List.replicate_succ] at hprefix
  nth_rewrite 1 [hi] at hprefix
  rw [List.replicate_succ, List.cons_append, List.cons_append, List.cons_prefix_cons] at hprefix
  exact hab hprefix.1.symm

/-- Whatever arrives in chunks of the given lengths is covered, just where these are whole. -/
theorem covers_iff_whole [Nontrivial α] (hk : 0 < k) {ns : List ℕ} (h : ∀ n ∈ ns, k ≤ n) :
    (∀ chunks : List (List α), chunks.map List.length = ns → Covers k chunks) ↔ Whole k ns := by
  refine ⟨fun hcovers => ?_, fun hwhole chunks hlengths => covers_of_whole hk (hlengths ▸ hwhole)⟩
  obtain ⟨a, b, hab⟩ := exists_pair_ne α
  induction ns with
  | nil => trivial
  | cons n ns ih =>
    rw [List.forall_mem_cons] at h
    cases ns with
    | nil =>
      have hn := hcovers [List.replicate n a] (by rw [List.map_singleton, List.length_replicate])
      rw [covers_singleton_iff (by rw [List.length_replicate]; exact h.1),
        List.length_replicate] at hn
      exact ⟨h.1, hn⟩
    | cons m ns =>
      have hle := length_le_of_covers hab hk h.1 (h.2 m (List.mem_cons_self ..))
        (hcovers (List.replicate n a :: (m :: ns).map fun n => List.replicate n b)
          (congrArg₂ List.cons List.length_replicate (map_length_replicate (m :: ns) b)))
      have hn : n = k := Nat.le_antisymm hle h.1
      refine ⟨hn, ih h.2 fun chunks hchunks => ?_⟩
      rw [← covers_cons_iff (c := List.replicate n a) (by rw [List.length_replicate, hn])]
      exact hcovers _ (by rw [List.map_cons, hchunks, List.length_replicate])

theorem whole_mul_iff {c : ℕ} (hc : 0 < c) (k : ℕ) (ns : List ℕ) :
    Whole (c * k) (ns.map (c * ·)) ↔ Whole k ns := by
  induction ns with
  | nil => exact Iff.rfl
  | cons n ns ih =>
    cases ns with
    | nil =>
      have hdouble : c * n < 2 * (c * k) ↔ n < 2 * k := by
        rw [Nat.mul_left_comm, Nat.mul_lt_mul_left hc]
      exact and_congr (Nat.mul_le_mul_left_iff hc) hdouble
    | cons m ns => exact and_congr (Nat.mul_right_inj (Nat.ne_of_gt hc)) ih

end Base
