import Voip.Base.Machine
import Voip.Base.Overwrite

/-! A display that is refreshed from a queue. A refresh copies the front of the queue over the first
cells and leaves the cells behind it, so that an entry stays visible until it is covered. -/

namespace Base

/-- Entries are numbered as they come. One that waits has its length, a cell that shows one its
number. -/
structure Display where
  next : ℕ
  waiting : List (ℕ × ℕ)
  cells : List (Option ℕ)
  deriving DecidableEq, Repr

namespace Display

inductive Action where
  | enter (length : ℕ) (flush : Bool)
  | refresh (blank : Option ℕ)
  deriving DecidableEq, Repr

def base (d : Display) : Option ℕ → List (Option ℕ)
  | none => d.cells
  | some size => List.replicate size none

def paint : List (ℕ × ℕ) → List (Option ℕ) → List (Option ℕ)
  | [], cells => cells
  | (k, length) :: _, cells => copyTo (List.replicate length (some k)) cells

def step (d : Display) : Action → Option (List (Option ℕ)) × Display
  | .enter length flush =>
    (none, { d with
      next := d.next + 1
      waiting := (if flush then [] else d.waiting) ++ [(d.next, length)] })
  | .refresh blank =>
    let cells := paint d.waiting (d.base blank)
    (some cells, { d with waiting := d.waiting.tail, cells })

def shown (d : Display) (acts : List Action) : List (List (Option ℕ)) :=
  (answers step d acts).1.filterMap id

def numbers (d : Display) : List ℕ := d.waiting.map Prod.fst

def held (cells : List (Option ℕ)) : ℕ := cells.countP Option.isSome

def frontLength : List (ℕ × ℕ) → ℕ
  | [] => 0
  | (_, length) :: _ => length

/-- Nothing stays visible under the front of the queue. -/
def Covers (d : Display) : Action → Prop
  | .enter .. => True
  | .refresh blank => held (d.base blank) ≤ frontLength d.waiting

def NoCommon (cells cells' : List (Option ℕ)) : Prop := ∀ k, some k ∈ cells → some k ∉ cells'

/-- What is shown came before what waits, and both before the next. -/
structure Ordered (d : Display) : Prop where
  sorted : d.numbers.Pairwise (· < ·)
  lt_next : ∀ j ∈ d.numbers, j < d.next
  shown_lt_next : ∀ k, some k ∈ d.cells → k < d.next
  shown_lt : ∀ k, some k ∈ d.cells → ∀ j ∈ d.numbers, k < j

/-- An entry is visible from the first cell on, and behind it nothing. -/
def Front (cells : List (Option ℕ)) : Prop :=
  ∃ k m n, cells = List.replicate m (some k) ++ List.replicate n none

theorem held_front (k m n : ℕ) :
    held (List.replicate m (some k) ++ List.replicate n none) = m := by
  simp [held, List.countP_append, List.countP_replicate]

theorem front_replicate (n : ℕ) : Front (List.replicate n none) := ⟨0, 0, n, rfl⟩

theorem front_base {d : Display} (h : Front d.cells) (blank : Option ℕ) : Front (d.base blank) := by
  cases blank with
  | none => exact h
  | some size => exact front_replicate size

theorem mem_base {d : Display} {blank : Option ℕ} {k : ℕ} (h : some k ∈ d.base blank) :
    some k ∈ d.cells := by
  cases blank with
  | none => exact h
  | some size => exact absurd (List.eq_of_mem_replicate h) (Option.some_ne_none k)

theorem mem_paint {waiting : List (ℕ × ℕ)} {cells : List (Option ℕ)} {k : ℕ}
    (h : some k ∈ paint waiting cells) : k ∈ (waiting.map Prod.fst).head? ∨ some k ∈ cells := by
  cases waiting with
  | nil => exact .inr h
  | cons w rest =>
    rcases List.mem_append.mp h with hnew | hold
    · have hk := List.eq_of_mem_replicate (List.mem_of_mem_take hnew)
      exact .inl (by simp [Option.some.inj hk])
    · exact .inr (List.mem_of_mem_drop hold)

theorem paint_of_covered {waiting : List (ℕ × ℕ)} {cells : List (Option ℕ)} (hfront : Front cells)
    (h : held cells ≤ frontLength waiting) :
    Front (paint waiting cells) ∧
      ∀ k, some k ∈ paint waiting cells → k ∈ (waiting.map Prod.fst).head? := by
  obtain ⟨k, m, n, rfl⟩ := hfront
  rw [held_front] at h
  cases waiting with
  | nil =>
    obtain rfl : m = 0 := Nat.le_zero.mp h
    exact ⟨front_replicate n, fun j hj => absurd (List.eq_of_mem_replicate hj) nofun⟩
  | cons w rest =>
    obtain ⟨j, length⟩ := w
    have hpaint : paint ((j, length) :: rest) (List.replicate m (some k) ++ List.replicate n none) =
        List.replicate (min (m + n) length) (some j) ++
          List.replicate (n - (length - m)) none := by
      have hm : m - length = 0 := Nat.sub_eq_zero_of_le h
      simp only [paint, copyTo, List.length_append, List.length_replicate, List.take_replicate,
        List.drop_append, List.drop_replicate, hm, List.replicate_zero, List.nil_append]
    rw [hpaint]
    refine ⟨⟨j, _, _, rfl⟩, fun i hi => ?_⟩
    rcases List.mem_append.mp hi with hi | hi
    · simp [Option.some.inj (List.eq_of_mem_replicate hi)]
    · exact absurd (List.eq_of_mem_replicate hi) nofun

theorem paint_of_not_covered {waiting : List (ℕ × ℕ)} {cells : List (Option ℕ)}
    (hfront : Front cells) (h : ¬ held cells ≤ frontLength waiting) :
    ∃ k, some k ∈ cells ∧ some k ∈ paint waiting cells := by
  obtain ⟨k, m, n, rfl⟩ := hfront
  rw [held_front, Nat.not_le] at h
  have hm : 0 < m := Nat.lt_of_le_of_lt (Nat.zero_le _) h
  refine ⟨k, List.mem_append_left _ (List.mem_replicate.mpr ⟨Nat.ne_of_gt hm, rfl⟩), ?_⟩
  cases waiting with
  | nil => exact List.mem_append_left _ (List.mem_replicate.mpr ⟨Nat.ne_of_gt hm, rfl⟩)
  | cons w rest =>
    refine List.mem_append_right _ ?_
    rw [List.length_replicate, List.drop_append, List.drop_replicate]
    exact List.mem_append_left _ (List.mem_replicate.mpr ⟨Nat.sub_ne_zero_of_lt h, rfl⟩)

theorem lt_of_mem_head? {ks : List ℕ} (h : ks.Pairwise (· < ·)) {k j : ℕ} (hk : k ∈ ks.head?)
    (hj : j ∈ ks.tail) : k < j := by
  cases ks with
  | nil => cases hk
  | cons i ks =>
    obtain rfl : i = k := Option.some.inj hk
    exact (List.pairwise_cons.mp h).1 j hj

/-! What a step does to the numbers that wait and to those that are visible. -/

theorem numbers_enter (d : Display) (length : ℕ) (flush : Bool) :
    (d.step (.enter length flush)).2.numbers =
      (if flush then [] else d.numbers) ++ [d.next] := by
  cases flush <;> exact List.map_append

theorem mem_numbers_enter {d : Display} {length : ℕ} {flush : Bool} {j : ℕ}
    (h : j ∈ (d.step (.enter length flush)).2.numbers) : j ∈ d.numbers ∨ j = d.next := by
  rw [numbers_enter] at h
  rcases List.mem_append.mp h with hold | hnew
  · cases flush with
    | false => exact .inl hold
    | true => cases hold
  · exact .inr (List.mem_singleton.mp hnew)

theorem numbers_refresh (d : Display) (blank : Option ℕ) :
    (d.step (.refresh blank)).2.numbers = d.numbers.tail := List.map_tail

theorem mem_numbers_refresh {d : Display} {blank : Option ℕ} {j : ℕ}
    (h : j ∈ (d.step (.refresh blank)).2.numbers) : j ∈ d.numbers :=
  List.mem_of_mem_tail (d.numbers_refresh blank ▸ h)

theorem mem_cells_refresh {d : Display} {blank : Option ℕ} {k : ℕ}
    (h : some k ∈ (d.step (.refresh blank)).2.cells) :
    k ∈ d.numbers.head? ∨ some k ∈ d.cells := by
  rcases mem_paint h with hhead | hold
  · exact .inl hhead
  · exact .inr (mem_base hold)

theorem ordered_enter {d : Display} (hd : d.Ordered) (length : ℕ) (flush : Bool) :
    (d.step (.enter length flush)).2.Ordered := by
  refine ⟨?_, fun j hj => ?_, fun k hk => Nat.lt_succ_of_lt (hd.shown_lt_next k hk),
    fun k hk j hj => ?_⟩
  · rw [numbers_enter, List.pairwise_append]
    cases flush with
    | false =>
      refine ⟨hd.sorted, List.pairwise_singleton .., fun j hj i hi => ?_⟩
      rw [List.mem_singleton.mp hi]
      exact hd.lt_next j hj
    | true => exact ⟨List.Pairwise.nil, List.pairwise_singleton .., nofun⟩
  · rcases mem_numbers_enter hj with hold | rfl
    · exact Nat.lt_succ_of_lt (hd.lt_next j hold)
    · exact Nat.lt_succ_self _
  · rcases mem_numbers_enter hj with hold | rfl
    · exact hd.shown_lt k hk j hold
    · exact hd.shown_lt_next k hk

theorem ordered_refresh {d : Display} (hd : d.Ordered) (blank : Option ℕ) :
    (d.step (.refresh blank)).2.Ordered := by
  refine ⟨?_, fun j hj => hd.lt_next j (mem_numbers_refresh hj), fun k hk => ?_,
    fun k hk j hj => ?_⟩
  · rw [numbers_refresh]
    exact hd.sorted.tail
  · rcases mem_cells_refresh hk with hhead | hold
    · exact hd.lt_next k (List.mem_of_mem_head? hhead)
    · exact hd.shown_lt_next k hold
  · rcases mem_cells_refresh hk with hhead | hold
    · exact lt_of_mem_head? hd.sorted hhead (d.numbers_refresh blank ▸ hj)
    · exact hd.shown_lt k hold j (mem_numbers_refresh hj)

theorem ordered_step {d : Display} (hd : d.Ordered) (a : Action) : (d.step a).2.Ordered := by
  cases a with
  | enter length flush => exact ordered_enter hd length flush
  | refresh blank => exact ordered_refresh hd blank

theorem shown_enter (d : Display) (length : ℕ) (flush : Bool) (acts : List Action) :
    d.shown (.enter length flush :: acts) = (d.step (.enter length flush)).2.shown acts := rfl

theorem shown_refresh (d : Display) (blank : Option ℕ) (acts : List Action) :
    d.shown (.refresh blank :: acts) =
      (d.step (.refresh blank)).2.cells :: (d.step (.refresh blank)).2.shown acts := rfl

theorem mem_shown {acts : List Action} {d : Display} {cells : List (Option ℕ)} {k : ℕ}
    (hcells : cells ∈ d.shown acts) (hk : some k ∈ cells) :
    some k ∈ d.cells ∨ k ∈ d.numbers ∨ d.next ≤ k := by
  induction acts generalizing d with
  | nil => cases hcells
  | cons a acts ih =>
    cases a with
    | enter length flush =>
      rw [shown_enter] at hcells
      rcases ih hcells with hshown | hwaiting | hnext
      · exact .inl hshown
      · rcases mem_numbers_enter hwaiting with hold | rfl
        · exact .inr (.inl hold)
        · exact .inr (.inr (Nat.le_refl _))
      · exact .inr (.inr (Nat.le_of_succ_le hnext))
    | refresh blank =>
      rw [shown_refresh] at hcells
      have hcases : some k ∈ (d.step (.refresh blank)).2.cells ∨
          k ∈ (d.step (.refresh blank)).2.numbers ∨ d.next ≤ k := by
        rcases List.mem_cons.mp hcells with rfl | hlater
        · exact .inl hk
        · exact ih hlater
      rcases hcases with hshown | hwaiting | hnext
      · rcases mem_cells_refresh hshown with hhead | hold
        · exact .inr (.inl (List.mem_of_mem_head? hhead))
        · exact .inl hold
      · exact .inr (.inl (mem_numbers_refresh hwaiting))
      · exact .inr (.inr hnext)

/-- Each entry is in one refresh at most if and only if every refresh covers what is visible. -/
theorem pairwise_shown_iff (acts : List Action) {d : Display} (hd : d.Ordered)
    (hfront : Front d.cells) :
    (d.cells :: d.shown acts).Pairwise NoCommon ↔ Throughout step Covers d acts := by
  induction acts generalizing d with
  | nil => exact iff_of_true (List.pairwise_singleton ..) trivial
  | cons a acts ih =>
    cases a with
    | enter length flush =>
      rw [shown_enter, Throughout, and_iff_right (show d.Covers (.enter length flush) from trivial)]
      exact ih (ordered_step hd (.enter length flush)) hfront
    | refresh blank =>
      have hd' := ordered_step hd (.refresh blank)
      rw [shown_refresh, Throughout]
      by_cases hcovers : Covers d (.refresh blank)
      · obtain ⟨hfront', hhead⟩ := paint_of_covered (front_base hfront blank) hcovers
        rw [and_iff_right hcovers, ← ih hd' hfront', List.pairwise_cons, and_iff_right_iff_imp]
        -- nothing that was visible comes back
        intro _ cells hcells k hk hagain
        have hnew : ∀ j ∈ d.numbers, j ≠ k := fun j hj => Nat.ne_of_gt (hd.shown_lt k hk j hj)
        have hlater : some k ∈ (d.step (.refresh blank)).2.cells ∨
            k ∈ (d.step (.refresh blank)).2.numbers ∨ d.next ≤ k := by
          rcases List.mem_cons.mp hcells with rfl | hlater
          · exact .inl hagain
          · exact mem_shown hlater hagain
        rcases hlater with hshown | hwaiting | hnext
        · exact hnew k (List.mem_of_mem_head? (hhead k hshown)) rfl
        · exact hnew k (mem_numbers_refresh hwaiting) rfl
        · exact absurd (hd.shown_lt_next k hk) (Nat.not_lt.mpr hnext)
      · obtain ⟨k, hold, hnew⟩ := paint_of_not_covered (front_base hfront blank) hcovers
        refine iff_of_false (fun h => ?_) (fun h => hcovers h.1)
        exact (List.pairwise_cons.mp h).1 _ (List.mem_cons_self ..) k (mem_base hold) hnew

end Display

end Base
