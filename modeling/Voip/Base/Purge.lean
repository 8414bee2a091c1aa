import Voip.Base.Machine

/-! Machines with parts that do not get in each other's way: a part of the state that one kind of
input is answered from and no other kind touches is, after any run, what it would be without the
other inputs. -/

namespace Base

universe u v w

variable {σ ω : Type u} {ι : Type v} {ε : Type w} {ν : Type*}

structure Sees (step : σ → ι → Except ε (ω × σ)) (view : σ → ν) (own : ι → Bool) : Prop where
  ignored : ∀ s i o s', own i = false → step s i = .ok (o, s') → view s' = view s
  determined : ∀ s t i o s', own i = true → view s = view t → step s i = .ok (o, s') →
    ∃ o' t', step t i = .ok (o', t') ∧ view s' = view t'

variable {step : σ → ι → Except ε (ω × σ)} {view : σ → ν} {own : ι → Bool}

/-- A step that is guarded by what the part has of the state is still answered from it. -/
theorem Sees.guarded (h : Sees step view own) {bad : σ → ι → Bool} {e : ε}
    (hbad : ∀ s t i, own i = true → view s = view t → bad s i = bad t i) :
    Sees (guarded step bad e) view own where
  ignored := fun s i o s' hown hi => h.ignored s i o s' hown (guarded_eq_ok_iff.mp hi).1
  determined := by
    intro s t i o s' hown hview hi
    obtain ⟨hstep, hgood⟩ := guarded_eq_ok_iff.mp hi
    obtain ⟨o', t', ht, hview'⟩ := h.determined s t i o s' hown hview hstep
    rw [hbad s t i hown hview] at hgood
    exact ⟨o', t', guarded_eq_ok_iff.mpr ⟨ht, hgood⟩, hview'⟩

/-- A run can be made without the inputs of other kinds, and the part is the same. -/
theorem drive_purge (h : Sees step view own) {is : List ι} {s t s' : σ} {os : List ω}
    (hview : view s = view t) (hrun : drive step s is = .ok (os, s')) :
    ∃ os' t', drive step t (is.filter own) = .ok (os', t') ∧ view s' = view t' := by
  induction is generalizing s t os with
  | nil =>
    obtain ⟨-, rfl⟩ := Prod.mk.inj (Except.ok.inj hrun)
    exact ⟨[], t, rfl, hview⟩
  | cons i is ih =>
    obtain ⟨o, s₁, os', hi, hrest, -⟩ := drive_cons_eq_ok hrun
    cases hown : own i with
    | false =>
      rw [List.filter_cons_of_neg (ne_true_of_eq_false hown)]
      exact ih ((h.ignored s i o s₁ hown hi).trans hview) hrest
    | true =>
      obtain ⟨o', t₁, ht, hview₁⟩ := h.determined s t i o s₁ hown hview hi
      obtain ⟨os'', t', hpurged, hview'⟩ := ih hview₁ hrest
      rw [List.filter_cons_of_pos hown]
      exact ⟨o' :: os'', t', drive_cons_of_ok ht hpurged, hview'⟩

theorem view_eq_of_purge_eq (h : Sees step view own) {is js : List ι} {s s₁ s₂ : σ}
    {os₁ os₂ : List ω} (h₁ : drive step s is = .ok (os₁, s₁))
    (h₂ : drive step s js = .ok (os₂, s₂)) (hown : is.filter own = js.filter own) :
    view s₁ = view s₂ := by
  obtain ⟨_, t₁, hrun₁, hview₁⟩ := drive_purge h rfl h₁
  obtain ⟨_, t₂, hrun₂, hview₂⟩ := drive_purge h rfl h₂
  rw [hown, hrun₂] at hrun₁
  obtain ⟨-, rfl⟩ := Prod.mk.inj (Except.ok.inj hrun₁)
  exact hview₁.trans hview₂.symm

section
variable {ν' : Type*} {view' : σ → ν'} {other : ι → Bool} (h : Sees step view own)
  (h' : Sees step view' other) (hother : ∀ i, other i = !own i)
include h h' hother

/-- Runs of both kinds of inputs can be merged in any way. -/
theorem drive_of_purges {is : List ι} {s t t' : σ} (hview : view s = view t)
    (hview' : view' s = view' t') (hrun : ∃ r, drive step t (is.filter own) = .ok r)
    (hrun' : ∃ r, drive step t' (is.filter other) = .ok r) : ∃ r, drive step s is = .ok r := by
  induction is generalizing s t t' with
  | nil => exact ⟨_, rfl⟩
  | cons i is ih =>
    have hi := hother i
    cases hown : own i with
    | false =>
      rw [hown] at hi
      rw [List.filter_cons_of_neg (ne_true_of_eq_false hown)] at hrun
      rw [List.filter_cons_of_pos hi] at hrun'
      obtain ⟨⟨os, t₂⟩, hdrive⟩ := hrun'
      obtain ⟨o, t₁, os', ht, hrest, -⟩ := drive_cons_eq_ok hdrive
      obtain ⟨o', s₁, hs, hview₁⟩ := h'.determined t' s i o t₁ hi hview'.symm ht
      have hkept := h.ignored s i o' s₁ hown hs
      obtain ⟨⟨os'', s₂⟩, hmerged⟩ := ih (hkept.trans hview) hview₁.symm hrun ⟨_, hrest⟩
      exact ⟨_, drive_cons_of_ok hs hmerged⟩
    | true =>
      rw [hown] at hi
      rw [List.filter_cons_of_pos hown] at hrun
      rw [List.filter_cons_of_neg (ne_true_of_eq_false hi)] at hrun'
      obtain ⟨⟨os, t₂⟩, hdrive⟩ := hrun
      obtain ⟨o, t₁, os', ht, hrest, -⟩ := drive_cons_eq_ok hdrive
      obtain ⟨o', s₁, hs, hview₁⟩ := h.determined t s i o t₁ hown hview.symm ht
      have hkept := h'.ignored s i o' s₁ hi hs
      obtain ⟨⟨os'', s₂⟩, hmerged⟩ := ih hview₁.symm (hkept.trans hview') ⟨_, hrest⟩ hrun'
      exact ⟨_, drive_cons_of_ok hs hmerged⟩

theorem drive_ok_iff_purges (s : σ) (is : List ι) :
    (∃ r, drive step s is = .ok r) ↔
      (∃ r, drive step s (is.filter own) = .ok r) ∧
        ∃ r, drive step s (is.filter other) = .ok r := by
  constructor
  · rintro ⟨⟨os, s'⟩, hrun⟩
    obtain ⟨os₁, s₁, hrun₁, -⟩ := drive_purge h rfl hrun
    obtain ⟨os₂, s₂, hrun₂, -⟩ := drive_purge h' rfl hrun
    exact ⟨⟨_, hrun₁⟩, ⟨_, hrun₂⟩⟩
  · rintro ⟨hrun, hrun'⟩
    exact drive_of_purges h h' hother rfl rfl hrun hrun'

end

end Base
