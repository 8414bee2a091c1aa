import Voip.Base.Machine

/-! A machine of small steps beside one of whole operations. Each operation takes effect in one of
its steps, its point; there the whole one is carried out on the side. -/

namespace Base

universe u v w

variable {σ τ κ ω : Type u} {ι : Type v} {ε : Type w} (step : σ → ι → Except ε (ω × σ))
  (point : σ → ι → Option κ) (spec : τ → κ → ω × τ)

/-- What a step does to the state on the side. -/
def beside (s : σ) (t : τ) (i : ι) : τ :=
  match point s i with
  | none => t
  | some k => (spec t k).2

/-- The answer is the operation whose point the step is, with the step's own answer. -/
def paired (st : σ × τ) (i : ι) : Except ε (Option (κ × ω) × (σ × τ)) := do
  let (o, s) ← step st.1 i
  pure ((point st.1 i).map fun k => (k, o), (s, beside point spec st.1 st.2 i))

/-- The step is not stuck, and as a point it answers as the whole operation does. -/
def AnswersWhole (st : σ × τ) (i : ι) : Prop :=
  ∃ o s, step st.1 i = .ok (o, s) ∧ ∀ k ∈ point st.1 i, (spec st.2 k).1 = o

variable {step}

theorem paired_of_ok {s s' : σ} {i : ι} {o : ω} (h : step s i = .ok (o, s')) (t : τ) :
    paired step point spec (s, t) i =
      .ok ((point s i).map fun k => (k, o), (s', beside point spec s t i)) := by
  simp only [paired, h, bind, Except.bind, pure, Except.pure]

theorem paired_of_error {s : σ} {i : ι} {e : ε} (h : step s i = .error e) (t : τ) :
    paired step point spec (s, t) i = .error e := by
  simp only [paired, h, bind, Except.bind]

variable {point spec}

/-- A run whose points all answer so is, at its points, a run of the whole operations. -/
theorem drive_of_answersWhole {is : List ι} {s : σ} {t : τ}
    (h : Along (paired step point spec) (AnswersWhole step point spec) (s, t) is) :
    ∃ os s' t', drive (paired step point spec) (s, t) is = .ok (os, (s', t')) ∧
      answers spec t ((os.filterMap id).map Prod.fst) = ((os.filterMap id).map Prod.snd, t') := by
  induction is generalizing s t with
  | nil => exact ⟨[], s, t, rfl, rfl⟩
  | cons i is ih =>
    obtain ⟨⟨o, s₁, hstep, hanswer⟩, hrest⟩ := h
    have hpaired := paired_of_ok point spec hstep t
    obtain ⟨os, s', t', hdrive, hanswers⟩ := ih (hrest _ _ hpaired)
    refine ⟨_, s', t', drive_cons_of_ok hpaired hdrive, ?_⟩
    rw [beside] at hanswers
    cases hpoint : point s i with
    | none =>
      rw [hpoint] at hanswers
      exact hanswers
    | some k =>
      rw [hpoint] at hanswers
      simp only [Option.map_some, List.filterMap_cons_some (id_eq _), List.map_cons, answers,
        hanswers, hanswer k hpoint]

end Base
