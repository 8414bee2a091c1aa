import Mathlib.Data.List.Infix
import Voip.Base.Machine

/-! A queue of bounded length that throws away all it holds where an entry finds it full. What it
holds is bounded in number and in age, and nothing is thrown away in exactly those runs in which no
stretch has too many entries for its exits. -/

namespace Base

inductive Passage (α : Type*) where
  | enter (a : α)
  | leave
  deriving DecidableEq, Repr

namespace Passage

variable {α : Type*}

def entries (fs : List (Passage α)) : List α :=
  fs.filterMap fun
    | .enter a => some a
    | .leave => none

def exits (fs : List (Passage α)) : ℕ :=
  fs.countP fun
    | .enter _ => false
    | .leave => true

@[simp] theorem entries_enter (a : α) (fs : List (Passage α)) :
    entries (enter a :: fs) = a :: entries fs := rfl

@[simp] theorem entries_leave (fs : List (Passage α)) : entries (leave :: fs) = entries fs := rfl

@[simp] theorem exits_enter (a : α) (fs : List (Passage α)) :
    exits (enter a :: fs) = exits fs := rfl

@[simp] theorem exits_leave (fs : List (Passage α)) : exits (leave :: fs) = exits fs + 1 :=
  List.countP_cons_of_pos rfl

def map {β : Type*} (f : α → β) : Passage α → Passage β
  | enter a => .enter (f a)
  | leave => .leave

theorem entries_append (fs gs : List (Passage α)) :
    entries (fs ++ gs) = entries fs ++ entries gs := List.filterMap_append

/-- With `m` waiting at the beginning, no stretch has more than `c` entries beyond its exits. -/
def Tolerable (c m : ℕ) (fs : List (Passage α)) : Prop :=
  (∀ w, w <:+: fs → (entries w).length ≤ exits w + c) ∧
    ∀ w, w <+: fs → m + (entries w).length ≤ exits w + c

variable {c m : ℕ} {fs : List (Passage α)}

theorem tolerable_nil (h : m ≤ c) : Tolerable c m ([] : List (Passage α)) := by
  constructor
  · intro w hw
    rw [List.infix_nil.mp hw]
    exact Nat.zero_le _
  · intro w hw
    rw [List.prefix_nil.mp hw]
    exact h.trans (Nat.le_add_left c 0)

/-- From an empty queue, the stretches from the beginning on are stretches like any other. -/
theorem tolerable_zero_iff :
    Tolerable c 0 fs ↔ ∀ w, w <:+: fs → (entries w).length ≤ exits w + c := by
  refine ⟨And.left, fun h => ⟨h, fun w hw => ?_⟩⟩
  rw [Nat.zero_add]
  exact h w hw.isInfix

/-- The stretches of what a list of other things comes to are what its own stretches come to. -/
theorem tolerable_filterMap_iff {ι : Type*} (f : ι → Option (Passage α)) (is : List ι) :
    Tolerable c 0 (is.filterMap f) ↔ ∀ w, w <:+: is →
      (entries (w.filterMap f)).length ≤ exits (w.filterMap f) + c := by
  simp only [tolerable_zero_iff, List.infix_filterMap_iff, forall_exists_index, and_imp]
  constructor
  · intro hall w hw
    exact hall _ w hw rfl
  · rintro hall _ w hw rfl
    exact hall w hw

theorem forall_prefix_cons_iff {P : List (Passage α) → Prop} (f : Passage α) :
    (∀ w, w <+: f :: fs → P w) ↔ P [] ∧ ∀ w, w <+: fs → P (f :: w) := by
  constructor
  · intro h
    exact ⟨h [] (List.nil_prefix), fun w hw => h _ ((List.prefix_cons_inj f).mpr hw)⟩
  · rintro ⟨hnil, hcons⟩ w hw
    cases w with
    | nil => exact hnil
    | cons g w =>
      obtain ⟨rfl, htail⟩ := List.cons_prefix_cons.mp hw
      exact hcons w htail

theorem forall_infix_cons_iff {P : List (Passage α) → Prop} (f : Passage α) :
    (∀ w, w <:+: f :: fs → P w) ↔ (∀ w, w <:+: fs → P w) ∧ ∀ w, w <+: fs → P (f :: w) := by
  simp only [List.infix_cons_iff, or_imp, forall_and, forall_prefix_cons_iff]
  constructor
  · rintro ⟨⟨-, hcons⟩, hrest⟩
    exact ⟨hrest, hcons⟩
  · rintro ⟨hrest, hcons⟩
    exact ⟨⟨hrest [] (List.nil_infix), hcons⟩, hrest⟩

theorem tolerable_enter_iff (a : α) :
    Tolerable c m (enter a :: fs) ↔ m < c ∧ Tolerable c (m + 1) fs := by
  simp only [Tolerable, forall_infix_cons_iff, forall_prefix_cons_iff, entries_enter, exits_enter,
    List.length_cons]
  constructor
  · rintro ⟨⟨hanywhere, -⟩, -, hopening⟩
    have hfirst := hopening [] List.nil_prefix
    simp only [entries, exits, List.filterMap_nil, List.countP_nil, List.length_nil] at hfirst
    refine ⟨by omega, hanywhere, fun w hw => ?_⟩
    have hw := hopening w hw
    omega
  · rintro ⟨hlt, hanywhere, hopening⟩
    refine ⟨⟨hanywhere, fun w hw => ?_⟩, ?_, fun w hw => ?_⟩
    · have hw := hopening w hw
      omega
    · exact Nat.le_trans (Nat.le_of_lt hlt) (Nat.le_add_left c 0)
    · have hw := hopening w hw
      omega

theorem tolerable_leave_iff (h : m ≤ c) :
    Tolerable c m (leave :: fs) ↔ Tolerable c (m - 1) fs := by
  simp only [Tolerable, forall_infix_cons_iff, forall_prefix_cons_iff, entries_leave, exits_leave]
  constructor
  · rintro ⟨⟨hanywhere, -⟩, -, hopening⟩
    refine ⟨hanywhere, fun w hw => ?_⟩
    have hlong := hopening w hw
    have hshort := hanywhere w hw.isInfix
    omega
  · rintro ⟨hanywhere, hopening⟩
    refine ⟨⟨hanywhere, fun w hw => ?_⟩, ?_, fun w hw => ?_⟩
    · have hw := hanywhere w hw.isInfix
      omega
    · exact h.trans (Nat.le_add_left c 0)
    · have hw := hopening w hw
      omega

end Passage

namespace Backlog

open Passage

universe u

variable {α : Type u} (c : ℕ)

/-- The answer is the entry that leaves. -/
def step (q : List α) : Passage α → Option α × List α
  | .enter a => (none, (if q.length = c then [] else q) ++ [a])
  | .leave => (q.head?, q.tail)

def left (q : List α) (fs : List (Passage α)) : List α := (answers (step c) q fs).1.filterMap id

def waiting (q : List α) (fs : List (Passage α)) : List α := (answers (step c) q fs).2

section
variable (q : List α) (fs : List (Passage α))

theorem waiting_enter (a : α) :
    waiting c q (.enter a :: fs) = waiting c ((if q.length = c then [] else q) ++ [a]) fs := rfl

theorem waiting_leave : waiting c q (.leave :: fs) = waiting c q.tail fs := rfl

theorem left_enter (a : α) :
    left c q (.enter a :: fs) = left c ((if q.length = c then [] else q) ++ [a]) fs := rfl

theorem left_leave : left c q (.leave :: fs) = q.head?.toList ++ left c q.tail fs := by
  cases q <;> rfl

theorem left_append (gs : List (Passage α)) :
    left c q (fs ++ gs) = left c q fs ++ left c (waiting c q fs) gs := by
  rw [left, answers_append, List.filterMap_append]
  rfl

theorem waiting_append (gs : List (Passage α)) :
    waiting c q (fs ++ gs) = waiting c (waiting c q fs) gs := by
  rw [waiting, answers_append]
  rfl

theorem waiting_map {β : Type u} (f : α → β) :
    waiting c (q.map f) (fs.map (Passage.map f)) = (waiting c q fs).map f := by
  induction fs generalizing q with
  | nil => rfl
  | cons passage fs ih =>
    cases passage with
    | enter a =>
      rw [waiting_enter, ← ih, List.map_append, apply_ite (List.map f), ← List.length_map f]
      rfl
    | leave =>
      rw [waiting_leave, ← ih, List.map_tail]
      rfl

theorem left_map {β : Type u} (f : α → β) :
    left c (q.map f) (fs.map (Passage.map f)) = (left c q fs).map f := by
  induction fs generalizing q with
  | nil => rfl
  | cons passage fs ih =>
    cases passage with
    | enter a =>
      rw [left_enter, ← ih, List.map_append, apply_ite (List.map f), ← List.length_map f]
      rfl
    | leave =>
      rw [left_leave, List.map_append, ← ih, List.map_tail]
      cases q <;> rfl

variable {c q}

theorem length_enter_le (hc : 0 < c) (hq : q.length ≤ c) (a : α) :
    ((if q.length = c then [] else q) ++ [a]).length ≤ c := by
  rw [List.length_append, List.length_singleton]
  split_ifs with hfull
  · exact hc
  · exact Nat.lt_of_le_of_ne hq hfull

theorem length_waiting_le (hc : 0 < c) (hq : q.length ≤ c) : (waiting c q fs).length ≤ c := by
  induction fs generalizing q with
  | nil => exact hq
  | cons f fs ih =>
    cases f with
    | enter a => exact ih (length_enter_le hc hq a)
    | leave => exact ih ((List.tail_sublist q).length_le.trans hq)

/-- Either something has been thrown away, or just the oldest have left. -/
theorem waiting_cases :
    waiting c q fs <:+ entries fs ∨ waiting c q fs = q.drop (exits fs) ++ entries fs := by
  induction fs generalizing q with
  | nil => exact .inr (List.append_nil q).symm
  | cons f fs ih =>
    cases f with
    | enter a =>
      rw [waiting_enter, entries_enter, exits_enter]
      by_cases hfull : q.length = c
      · rw [if_pos hfull, List.nil_append]
        refine .inl ?_
        rcases @ih [a] with h | h
        · exact h.trans (List.suffix_cons ..)
        · rw [h, ← List.singleton_append]
          exact (List.suffix_append_self_iff).mpr (List.drop_suffix ..)
      · rw [if_neg hfull]
        rcases @ih (q ++ [a]) with h | h
        · exact .inl (h.trans (List.suffix_cons ..))
        · rcases Nat.le_total (exits fs) q.length with hle | hge
          · right
            rw [h, List.drop_append_of_le_length hle, List.append_assoc, List.singleton_append]
          · left
            rw [h, List.drop_append, List.drop_of_length_le hge, List.nil_append,
              ← List.singleton_append]
            exact (List.suffix_append_self_iff).mpr (List.drop_suffix ..)
    | leave =>
      rw [waiting_leave, entries_leave, exits_leave, ← List.drop_tail]
      exact ih

/-- Whoever waits has come after the last `c` exits. -/
theorem waiting_suffix_entries (h : q.length ≤ exits fs) : waiting c q fs <:+ entries fs := by
  rcases waiting_cases (c := c) (q := q) fs with hsuffix | heq
  · exact hsuffix
  · rw [heq, List.drop_of_length_le h]
    exact List.suffix_rfl

/-- What leaves and what waits is what was entered, in order, with gaps. -/
theorem sublist_entered : (left c q fs ++ waiting c q fs).Sublist (q ++ entries fs) := by
  induction fs generalizing q with
  | nil => exact (List.append_nil q).symm ▸ List.Sublist.refl _
  | cons f fs ih =>
    cases f with
    | enter a =>
      rw [left_enter, waiting_enter, entries_enter, List.append_cons q a (entries fs)]
      refine ih.trans (List.Sublist.append_right (List.Sublist.append_right ?_ _) _)
      split_ifs
      · exact List.nil_sublist q
      · exact List.Sublist.refl q
    | leave =>
      rw [left_leave, waiting_leave, entries_leave, List.append_assoc]
      cases q with
      | nil => exact ih
      | cons a q => exact ih.cons_cons a

/-- Nothing is lost just where no stretch of the run has too many entries for its exits. -/
theorem conserved_iff (hc : 0 < c) (hq : q.length ≤ c) :
    left c q fs ++ waiting c q fs = q ++ entries fs ↔ Tolerable c q.length fs := by
  induction fs generalizing q with
  | nil => exact iff_of_true (List.append_nil q).symm (tolerable_nil hq)
  | cons f fs ih =>
    cases f with
    | enter a =>
      rw [left_enter, waiting_enter, entries_enter, tolerable_enter_iff]
      by_cases hfull : q.length = c
      · rw [if_pos hfull]
        refine iff_of_false (fun h => ?_) (fun h => Nat.ne_of_lt h.1 hfull)
        have hle := (sublist_entered (c := c) (q := [a]) fs).length_le
        rw [List.nil_append] at h
        rw [h] at hle
        simp only [List.length_append, List.length_cons, List.length_nil] at hle
        omega
      · have hlt := Nat.lt_of_le_of_ne hq hfull
        have hlength : (q ++ [a]).length = q.length + 1 := List.length_append
        rw [if_neg hfull, List.append_cons q a (entries fs), and_iff_right hlt, ← hlength]
        exact ih (hlength.trans_le hlt)
    | leave =>
      rw [left_leave, waiting_leave, entries_leave, tolerable_leave_iff hq, List.append_assoc]
      cases q with
      | nil => exact ih hq
      | cons a q =>
        have htail : q.length ≤ c := (Nat.le_succ _).trans hq
        change a :: (left c q fs ++ waiting c q fs) = a :: (q ++ entries fs) ↔ _
        rw [List.cons.injEq, and_iff_right rfl, ih htail]
        rfl

end

/-- A machine that has a backlog inside does in a run what the passages of all its steps do. The
invariant may speak of the inputs to come, and `κ` is what the passages depend on. -/
theorem drive_refines {κ ι : Type*} {σ ω β ε : Type u} {step : σ → ι → Except ε (ω × σ)}
    (out : ω → Option β) (f : α → β) (next : κ → ι → κ) (passages : κ → ι → List (Passage α))
    (traffic : κ → List ι → List (Passage α)) (hnil : ∀ k, traffic k [] = [])
    (hcons : ∀ k i is, traffic k (i :: is) = passages k i ++ traffic (next k i) is)
    (Inv : List ι → κ → List α → σ → Prop)
    (hstep : ∀ {i is k q s o s'}, Inv (i :: is) k q s → step s i = .ok (o, s') →
      (out o).toList = (left c q (passages k i)).map f ∧
        Inv is (next k i) (waiting c q (passages k i)) s')
    {is : List ι} {k : κ} {q : List α} {s s' : σ} {os : List ω} (hs : Inv is k q s)
    (h : drive step s is = .ok (os, s')) :
    os.filterMap out = (left c q (traffic k is)).map f ∧
      ∃ k', Inv [] k' (waiting c q (traffic k is)) s' := by
  induction is generalizing k q s os with
  | nil =>
    obtain ⟨rfl, rfl⟩ := Prod.mk.inj (Except.ok.inj h)
    rw [hnil]
    exact ⟨rfl, k, hs⟩
  | cons i is ih =>
    obtain ⟨o, t, os', hi, hrest, rfl⟩ := drive_cons_eq_ok h
    obtain ⟨hout, ht⟩ := hstep hs hi
    obtain ⟨hleft, hwaiting⟩ := ih ht hrest
    rw [hcons, left_append, waiting_append, List.map_append, ← hout, ← hleft]
    refine ⟨?_, hwaiting⟩
    cases hshown : out o with
    | none => rw [List.filterMap_cons_none hshown]; rfl
    | some b => rw [List.filterMap_cons_some hshown]; rfl

end Backlog

end Base
