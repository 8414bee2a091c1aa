import Mathlib.Logic.Function.Basic
import Mathlib.Tactic.SplitIfs

/-! Handles that a system gives out, to whom it has given them, and what each holder still knows
of. -/

namespace Base

universe u v

/-- `owner` is the system's side and `held` the holders'. -/
structure Handles (ι : Type u) (η : Type v) where
  owner : η → Option ι
  held : ι → Option η

namespace Handles

variable {ι : Type u} {η : Type v}

section
variable (t : Handles ι η)

/-- What a holder knows of is its own. -/
def Sound : Prop := ∀ i h, t.held i = some h → t.owner h = some i

/-- What has been given out is known of. -/
def Tight : Prop := ∀ i h, t.owner h = some i → t.held i = some h

variable [DecidableEq ι] [DecidableEq η]

def give (i : ι) (h : η) : Handles ι η where
  owner := Function.update t.owner h (some i)
  held := Function.update t.held i (some h)

def take (i : ι) (h : η) : Handles ι η where
  owner := Function.update t.owner h none
  held := Function.update t.held i none

/-- The holder forgets its handle, and the system is not told. -/
def forget (i : ι) : Handles ι η := { t with held := Function.update t.held i none }

/-- The system gives out a handle that the holder never knows of. -/
def lose (i : ι) (h : η) : Handles ι η := { t with owner := Function.update t.owner h (some i) }

end

variable {t : Handles ι η} {i j : ι} {h g : η}

theorem Sound.unique (hs : t.Sound) (hi : t.held i = some h) (hj : t.held j = some h) : i = j :=
  Option.some.inj ((hs i h hi).symm.trans (hs j h hj))

theorem Sound.ne_of_free (hs : t.Sound) (hfree : t.owner h = none) (hj : t.held j = some g) :
    g ≠ h := by
  rintro rfl
  cases hfree.symm.trans (hs j g hj)

section
variable [DecidableEq ι] [DecidableEq η]

theorem sound_give (hs : t.Sound) (hfree : t.owner h = none) : (t.give i h).Sound := by
  intro j g hj
  simp only [give, Function.update_apply] at hj ⊢
  split_ifs at hj with hji
  · rw [if_pos (Option.some.inj hj).symm, hji]
  · rw [if_neg (hs.ne_of_free hfree hj)]
    exact hs j g hj

theorem tight_give_iff (hfree : t.owner h = none) (hidle : t.held i = none) :
    (t.give i h).Tight ↔ t.Tight := by
  simp only [Tight, give, Function.update_apply]
  refine forall_congr' fun j => forall_congr' fun g => ?_
  by_cases hg : g = h
  · subst hg
    rw [hfree, if_pos rfl]
    refine iff_of_true (fun hj => ?_) nofun
    rw [if_pos (Option.some.inj hj).symm]
  · rw [if_neg hg]
    by_cases hji : j = i
    · subst hji
      rw [if_pos rfl, hidle]
      simp [Ne.symm hg]
    · rw [if_neg hji]

theorem sound_take (hs : t.Sound) (hi : t.held i = some h) : (t.take i h).Sound := by
  intro j g hj
  simp only [take, Function.update_apply] at hj ⊢
  split_ifs at hj with hji
  rw [if_neg ?_]
  · exact hs j g hj
  · rintro rfl
    exact hji (hs.unique hj hi)

theorem tight_take_iff (hs : t.Sound) (hi : t.held i = some h) : (t.take i h).Tight ↔ t.Tight := by
  simp only [Tight, take, Function.update_apply]
  refine forall_congr' fun j => forall_congr' fun g => ?_
  by_cases hg : g = h
  · subst hg
    rw [if_pos rfl, hs i g hi]
    refine iff_of_true nofun fun hj => ?_
    rw [← Option.some.inj hj, hi]
  · rw [if_neg hg]
    by_cases hji : j = i
    · subst hji
      rw [if_pos rfl, hi]
      simp [Ne.symm hg]
    · rw [if_neg hji]

end

section
variable [DecidableEq ι]

theorem sound_forget (hs : t.Sound) (i : ι) : (t.forget i).Sound := by
  intro j g hj
  simp only [forget, Function.update_apply] at hj
  split_ifs at hj
  exact hs j g hj

theorem tight_forget_iff (hs : t.Sound) : (t.forget i).Tight ↔ t.Tight ∧ t.held i = none := by
  have hforget : t.held i = none → t.forget i = t := by
    intro hnone
    rw [forget, ← hnone, Function.update_eq_self]
  constructor
  · intro ht
    have hnone : t.held i = none := by
      rw [Option.eq_none_iff_forall_ne_some]
      intro g hi
      have hheld := ht i g (hs i g hi)
      simp only [forget, Function.update_self, reduceCtorEq] at hheld
    exact ⟨hforget hnone ▸ ht, hnone⟩
  · rintro ⟨ht, hnone⟩
    rw [hforget hnone]
    exact ht

end

section
variable [DecidableEq η]

theorem sound_lose (hs : t.Sound) (hfree : t.owner h = none) : (t.lose i h).Sound := by
  intro j g hj
  simp only [lose, Function.update_apply] at hj ⊢
  rw [if_neg (hs.ne_of_free hfree hj)]
  exact hs j g hj

theorem not_tight_lose (hs : t.Sound) (hfree : t.owner h = none) : ¬ (t.lose i h).Tight := by
  intro ht
  have hheld := ht i h (Function.update_self ..)
  exact hs.ne_of_free hfree hheld rfl

end

end Handles

end Base
