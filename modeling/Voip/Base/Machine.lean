import Mathlib.Data.List.Basic

/-! Machines that take their inputs one at a time: what a list of inputs is answered with, and
what holds at every step on the way. -/

namespace Base

universe u v w

variable {σ τ : Type u} {ι : Type v} {ω : Type u} {ε : Type w}

/-- Feeds the inputs one after the other; the first error is the last step. -/
def drive (step : σ → ι → Except ε (ω × σ)) : σ → List ι → Except ε (List ω × σ)
  | s, [] => .ok ([], s)
  | s, i :: is => do
    let (o, s) ← step s i
    let (os, s) ← drive step s is
    pure (o :: os, s)

/-- The same for a machine that answers every input. -/
def answers (step : σ → ι → ω × σ) : σ → List ι → List ω × σ
  | s, [] => ([], s)
  | s, i :: is =>
    let next := step s i
    let rest := answers step next.2 is
    (next.1 :: rest.1, rest.2)

theorem drive_simulates {step : σ → ι → Except ε (ω × σ)} {spec : τ → ι → ω × τ} (conc : τ → σ)
    {is : List ι}
    (h : ∀ t, ∀ i ∈ is, step (conc t) i = .ok ((spec t i).1, conc (spec t i).2)) (t : τ) :
    drive step (conc t) is = .ok ((answers spec t is).1, conc (answers spec t is).2) := by
  induction is generalizing t with
  | nil => rfl
  | cons i is ih =>
    have hi := h t i (List.mem_cons_self ..)
    have his := ih (fun t j hj => h t j (List.mem_cons_of_mem _ hj)) (spec t i).2
    simp only [drive, hi, answers, bind, Except.bind, his, pure, Except.pure]

theorem answers_append (step : σ → ι → ω × σ) (s : σ) (is js : List ι) :
    answers step s (is ++ js) =
      ((answers step s is).1 ++ (answers step (answers step s is).2 js).1,
        (answers step (answers step s is).2 js).2) := by
  induction is generalizing s with
  | nil => rfl
  | cons i is ih => simp only [List.cons_append, answers, ih]

theorem length_answers (step : σ → ι → ω × σ) (s : σ) (is : List ι) :
    (answers step s is).1.length = is.length := by
  induction is generalizing s with
  | nil => rfl
  | cons i is ih => rw [answers, List.length_cons, List.length_cons, ih]

theorem drive_cons_eq_ok {step : σ → ι → Except ε (ω × σ)} {s s' : σ} {i : ι} {is : List ι}
    {os : List ω} (h : drive step s (i :: is) = .ok (os, s')) :
    ∃ o t os', step s i = .ok (o, t) ∧ drive step t is = .ok (os', s') ∧ os = o :: os' := by
  cases hi : step s i with
  | error e => simp only [drive, hi, bind, Except.bind, reduceCtorEq] at h
  | ok r =>
    obtain ⟨o, t⟩ := r
    cases his : drive step t is with
    | error e => simp only [drive, hi, his, bind, Except.bind, reduceCtorEq] at h
    | ok r =>
      obtain ⟨os', t'⟩ := r
      simp only [drive, hi, his, bind, Except.bind, pure, Except.pure, Except.ok.injEq,
        Prod.mk.injEq] at h
      obtain ⟨rfl, rfl⟩ := h
      exact ⟨o, t, os', rfl, his, rfl⟩

theorem drive_cons_of_ok {step : σ → ι → Except ε (ω × σ)} {s t s' : σ} {i : ι} {o : ω}
    {is : List ι} {os : List ω} (h : step s i = .ok (o, t))
    (hrest : drive step t is = .ok (os, s')) :
    drive step s (i :: is) = .ok (o :: os, s') := by
  simp only [drive, h, hrest, bind, Except.bind, pure, Except.pure]

/-- What holds of the state at the end is settled by the run after its first step. -/
theorem forall_drive_cons_iff {step : σ → ι → Except ε (ω × σ)} {Q : σ → Prop} {s t : σ} {i : ι}
    {o : ω} (h : step s i = .ok (o, t)) (is : List ι) :
    (∀ os s', drive step s (i :: is) = .ok (os, s') → Q s') ↔
      ∀ os s', drive step t is = .ok (os, s') → Q s' := by
  constructor
  · intro hall os s' hrest
    exact hall _ s' (drive_cons_of_ok h hrest)
  · intro hall os s' hdrive
    obtain ⟨o', t', os', hi, hrest, -⟩ := drive_cons_eq_ok hdrive
    obtain ⟨-, rfl⟩ := Prod.mk.inj (Except.ok.inj (h.symm.trans hi))
    exact hall os' s' hrest

/-- Inputs that every state with the invariant takes lead through a whole run; the invariant may
speak of the inputs so far. -/
theorem drive_of_history {step : σ → ι → Except ε (ω × σ)} (Inv : List ι → σ → Prop)
    (P : ι → Prop)
    (hstep : ∀ past s i, Inv past s → P i →
      ∃ o s', step s i = .ok (o, s') ∧ Inv (past ++ [i]) s')
    {is : List ι} (h : ∀ i ∈ is, P i) {past : List ι} {s : σ} (hs : Inv past s) :
    ∃ os s', drive step s is = .ok (os, s') ∧ Inv (past ++ is) s' := by
  induction is generalizing past s with
  | nil => exact ⟨[], s, rfl, (List.append_nil past).symm ▸ hs⟩
  | cons i is ih =>
    rw [List.forall_mem_cons] at h
    obtain ⟨o, t, hi, ht⟩ := hstep past s i hs h.1
    obtain ⟨os, s', his, hs'⟩ := ih h.2 ht
    exact ⟨o :: os, s', drive_cons_of_ok hi his, List.append_cons past i is ▸ hs'⟩

theorem drive_of_invariant {step : σ → ι → Except ε (ω × σ)} (Inv : σ → Prop) (P : ι → Prop)
    (hstep : ∀ s i, Inv s → P i → ∃ o s', step s i = .ok (o, s') ∧ Inv s') {is : List ι}
    (h : ∀ i ∈ is, P i) {s : σ} (hs : Inv s) :
    ∃ os s', drive step s is = .ok (os, s') ∧ Inv s' := by
  induction is generalizing s with
  | nil => exact ⟨[], s, rfl, hs⟩
  | cons i is ih =>
    rw [List.forall_mem_cons] at h
    obtain ⟨o, t, hi, ht⟩ := hstep s i hs h.1
    obtain ⟨os, s', his, hs'⟩ := ih h.2 ht
    exact ⟨o :: os, s', drive_cons_of_ok hi his, hs'⟩

/-- A run in which every input has its own answer. -/
theorem drive_of_answers {step : σ → ι → Except ε (ω × σ)} (Inv : σ → Prop) (P : ι → Prop)
    (answer : ι → ω)
    (hstep : ∀ s i, Inv s → P i → ∃ s', step s i = .ok (answer i, s') ∧ Inv s') {is : List ι}
    (h : ∀ i ∈ is, P i) {s : σ} (hs : Inv s) :
    ∃ s', drive step s is = .ok (is.map answer, s') := by
  induction is generalizing s with
  | nil => exact ⟨s, rfl⟩
  | cons i is ih =>
    rw [List.forall_mem_cons] at h
    obtain ⟨t, hi, ht⟩ := hstep s i hs h.1
    obtain ⟨s', his⟩ := ih h.2 ht
    exact ⟨s', drive_cons_of_ok hi his⟩

/-- The other way round: a run without faults has had no other inputs. -/
theorem forall_of_drive {step : σ → ι → Except ε (ω × σ)} (Inv : σ → Prop) (P : ι → Prop)
    (hstep : ∀ s i o s', Inv s → step s i = .ok (o, s') → P i ∧ Inv s') {is : List ι} {s s' : σ}
    {os : List ω} (hs : Inv s) (h : drive step s is = .ok (os, s')) : ∀ i ∈ is, P i := by
  induction is generalizing s os with
  | nil => exact nofun
  | cons i is ih =>
    obtain ⟨o, t, os', hi, his, -⟩ := drive_cons_eq_ok h
    obtain ⟨hP, ht⟩ := hstep s i o t hs hi
    exact List.forall_mem_cons.mpr ⟨hP, ih ht his⟩

theorem drive_preserves {step : σ → ι → Except ε (ω × σ)} (Inv : σ → Prop)
    (hstep : ∀ s i o s', Inv s → step s i = .ok (o, s') → Inv s') {is : List ι} {s s' : σ}
    {os : List ω} (hs : Inv s) (h : drive step s is = .ok (os, s')) : Inv s' := by
  induction is generalizing s os with
  | nil =>
    obtain ⟨-, rfl⟩ := Prod.mk.inj (Except.ok.inj h)
    exact hs
  | cons i is ih =>
    obtain ⟨o, t, os', hi, his, -⟩ := drive_cons_eq_ok h
    exact ih (hstep s i o t hs hi) his

/-- Steps of one kind that use up what is left of them. -/
theorem countP_of_drive {step : σ → ι → Except ε (ω × σ)} (Inv : σ → Prop) (kind : ι → Bool)
    (left : σ → ℕ)
    (hstep : ∀ s i o s', Inv s → step s i = .ok (o, s') →
      Inv s' ∧ (kind i).toNat + left s' = left s) {is : List ι} {s s' : σ} {os : List ω}
    (hs : Inv s) (h : drive step s is = .ok (os, s')) : is.countP kind + left s' = left s := by
  induction is generalizing s os with
  | nil =>
    obtain ⟨-, rfl⟩ := Prod.mk.inj (Except.ok.inj h)
    exact Nat.zero_add _
  | cons i is ih =>
    obtain ⟨o, t, os', hi, his, -⟩ := drive_cons_eq_ok h
    obtain ⟨ht, hleft⟩ := hstep s i o t hs hi
    have hrest := ih ht his
    have hi : (if kind i = true then 1 else 0) = (kind i).toNat := by cases kind i <;> rfl
    rw [List.countP_cons, hi]
    omega

/-- `P` holds at every step of the run, of the state before it and the input it takes. -/
def Along (step : σ → ι → Except ε (ω × σ)) (P : σ → ι → Prop) : σ → List ι → Prop
  | _, [] => True
  | s, i :: is => P s i ∧ ∀ o s', step s i = .ok (o, s') → Along step P s' is

theorem along_cons_ok {step : σ → ι → Except ε (ω × σ)} {P : σ → ι → Prop} {s s' : σ} {i : ι}
    {o : ω} (h : step s i = .ok (o, s')) (is : List ι) :
    Along step P s (i :: is) ↔ P s i ∧ Along step P s' is := by
  refine and_congr_right fun _ => ⟨fun hall => hall o s' h, ?_⟩
  rintro hrest o' t ht
  obtain ⟨-, rfl⟩ := Prod.mk.inj (Except.ok.inj (h.symm.trans ht))
  exact hrest

theorem along_cons_error {step : σ → ι → Except ε (ω × σ)} {P : σ → ι → Prop} {s : σ} {i : ι}
    {e : ε} (h : step s i = .error e) (is : List ι) : Along step P s (i :: is) ↔ P s i := by
  refine and_iff_left fun o s' hok => ?_
  rw [h] at hok
  cases hok

/-- Where no state matters to `P`, a run without faults has it just where its inputs do. -/
theorem along_iff_forall {step : σ → ι → Except ε (ω × σ)} {P : σ → ι → Prop} {Q : ι → Prop}
    (hok : ∀ s i, ∃ o s', step s i = .ok (o, s')) (h : ∀ s i, P s i ↔ Q i) (is : List ι)
    (s : σ) : Along step P s is ↔ ∀ i ∈ is, Q i := by
  induction is generalizing s with
  | nil => exact iff_of_true trivial nofun
  | cons i is ih =>
    obtain ⟨o, s', hstep⟩ := hok s i
    rw [along_cons_ok hstep, List.forall_mem_cons, ih, h]

/-- A run along which `P` holds keeps what steps with `P` keep, and with it whatever that implies
at each step. -/
theorem along_of_along {step : σ → ι → Except ε (ω × σ)} {P Q : σ → ι → Prop} (Inv : σ → Prop)
    (hstep : ∀ s i o s', Inv s → P s i → step s i = .ok (o, s') → Inv s')
    (hQ : ∀ s i, Inv s → P s i → Q s i) {is : List ι} {s : σ} (hs : Inv s)
    (h : Along step P s is) : Along step Q s is := by
  induction is generalizing s with
  | nil => trivial
  | cons i is ih =>
    exact ⟨hQ s i hs h.1, fun o s' hi => ih (hstep s i o s' hs h.1 hi) (h.2 o s' hi)⟩

theorem along_of_invariant {step : σ → ι → Except ε (ω × σ)} {P : σ → ι → Prop} (Inv : σ → Prop)
    (hstep : ∀ s i o s', Inv s → step s i = .ok (o, s') → Inv s') (hP : ∀ s i, Inv s → P s i)
    (is : List ι) {s : σ} (hs : Inv s) : Along step P s is := by
  induction is generalizing s with
  | nil => trivial
  | cons i is ih => exact ⟨hP s i hs, fun o s' hi => ih (hstep s i o s' hs hi)⟩

theorem along_and_iff {step : σ → ι → Except ε (ω × σ)} {P Q : σ → ι → Prop} {is : List ι}
    {s : σ} :
    Along step (fun s i => P s i ∧ Q s i) s is ↔ Along step P s is ∧ Along step Q s is := by
  induction is generalizing s with
  | nil => exact (and_iff_left trivial).symm
  | cons i is ih =>
    constructor
    · rintro ⟨⟨hP, hQ⟩, hall⟩
      exact ⟨⟨hP, fun o s' hi => (ih.mp (hall o s' hi)).1⟩,
        hQ, fun o s' hi => (ih.mp (hall o s' hi)).2⟩
    · rintro ⟨⟨hP, hallP⟩, hQ, hallQ⟩
      exact ⟨⟨hP, hQ⟩, fun o s' hi => ih.mpr ⟨hallP o s' hi, hallQ o s' hi⟩⟩

theorem along_of_forall {step : σ → ι → Except ε (ω × σ)} {P : ι → Prop} {is : List ι}
    (h : ∀ i ∈ is, P i) (s : σ) : Along step (fun _ i => P i) s is := by
  induction is generalizing s with
  | nil => trivial
  | cons i is ih =>
    rw [List.forall_mem_cons] at h
    exact ⟨h.1, fun _ s' _ => ih h.2 s'⟩

/-- What holds at every step that is no error holds along a run without errors. -/
theorem along_of_drive {step : σ → ι → Except ε (ω × σ)} {P : σ → ι → Prop}
    (hP : ∀ s i r, step s i = .ok r → P s i) {is : List ι} {s s' : σ} {os : List ω}
    (h : drive step s is = .ok (os, s')) : Along step P s is := by
  induction is generalizing s os with
  | nil => trivial
  | cons i is ih =>
    obtain ⟨o, t, os', hi, his, -⟩ := drive_cons_eq_ok h
    exact (along_cons_ok hi is).mpr ⟨hP s i _ hi, ih his⟩

theorem along_append_iff {step : σ → ι → Except ε (ω × σ)} {P : σ → ι → Prop} {is : List ι}
    {s s' : σ} {os : List ω} (h : drive step s is = .ok (os, s')) (js : List ι) :
    Along step P s (is ++ js) ↔ Along step P s is ∧ Along step P s' js := by
  induction is generalizing s os with
  | nil =>
    obtain ⟨-, rfl⟩ := Prod.mk.inj (Except.ok.inj h)
    exact (and_iff_right trivial).symm
  | cons i is ih =>
    obtain ⟨o, t, os', hi, his, -⟩ := drive_cons_eq_ok h
    rw [List.cons_append, along_cons_ok hi, along_cons_ok hi, ih his, and_assoc]

/-- What only certain steps lose, and none gains, is kept just by a run without them. -/
theorem drive_iff_along {step : σ → ι → Except ε (ω × σ)} {P : σ → ι → Prop} (Inv Q : σ → Prop)
    (hstep : ∀ s i o s', Inv s → step s i = .ok (o, s') → Inv s' ∧ (Q s' ↔ Q s ∧ P s i))
    {is : List ι} {s s' : σ} {os : List ω} (hs : Inv s) (h : drive step s is = .ok (os, s')) :
    Q s' ↔ Q s ∧ Along step P s is := by
  induction is generalizing s os with
  | nil =>
    obtain ⟨-, rfl⟩ := Prod.mk.inj (Except.ok.inj h)
    exact (and_iff_left trivial).symm
  | cons i is ih =>
    obtain ⟨o, t, os', hi, his, -⟩ := drive_cons_eq_ok h
    obtain ⟨ht, hQ⟩ := hstep s i o t hs hi
    rw [ih ht his, hQ, along_cons_ok hi, and_assoc]

/-- The same for a machine that answers every input. -/
def Throughout (step : σ → ι → ω × σ) (P : σ → ι → Prop) : σ → List ι → Prop
  | _, [] => True
  | s, i :: is => P s i ∧ Throughout step P (step s i).2 is

section
variable {step : σ → ι → ω × σ} {P Q : σ → ι → Prop}

/-- Two properties of the steps that are the same wherever an invariant holds, which they keep. -/
theorem throughout_iff (Inv : σ → Prop) (h : ∀ s i, Inv s → (P s i ↔ Q s i))
    (hstep : ∀ s i, Inv s → Q s i → Inv (step s i).2) (is : List ι) {s : σ} (hs : Inv s) :
    Throughout step P s is ↔ Throughout step Q s is := by
  induction is generalizing s with
  | nil => exact Iff.rfl
  | cons i is ih =>
    rw [Throughout, Throughout, h s i hs]
    exact and_congr_right fun hQ => ih (hstep s i hs hQ)

theorem throughout_iff_forall {R : ι → Prop} {is : List ι} (h : ∀ s, ∀ i ∈ is, P s i ↔ R i)
    (s : σ) : Throughout step P s is ↔ ∀ i ∈ is, R i := by
  induction is generalizing s with
  | nil => exact iff_of_true trivial nofun
  | cons i is ih =>
    have hrest := ih (fun s j hj => h s j (List.mem_cons_of_mem _ hj)) (step s i).2
    rw [Throughout, h s i (List.mem_cons_self ..), hrest, List.forall_mem_cons]

end

/-- The machine that stops, with the error `e`, at a step that is bad. -/
def guarded (step : σ → ι → Except ε (ω × σ)) (bad : σ → ι → Bool) (e : ε) (s : σ) (i : ι) :
    Except ε (ω × σ) := do
  let r ← step s i
  if bad s i then .error e else pure r

section
variable {step : σ → ι → Except ε (ω × σ)} {bad : σ → ι → Bool} {e : ε}

theorem guarded_eq_ok_iff {s : σ} {i : ι} {r : ω × σ} :
    guarded step bad e s i = .ok r ↔ step s i = .ok r ∧ bad s i = false := by
  cases hstep : step s i with
  | error f => simp [guarded, hstep, bind, Except.bind]
  | ok r' =>
    cases hbad : bad s i <;> simp [guarded, hstep, hbad, bind, Except.bind, pure, Except.pure]

theorem drive_guarded_eq_ok_iff {s : σ} {is : List ι} {r : List ω × σ} :
    drive (guarded step bad e) s is = .ok r ↔
      drive step s is = .ok r ∧ Along step (fun s i => bad s i = false) s is := by
  induction is generalizing s r with
  | nil => exact (and_iff_left trivial).symm
  | cons i is ih =>
    obtain ⟨os, s'⟩ := r
    constructor
    · intro h
      obtain ⟨o, t, os', hi, his, rfl⟩ := drive_cons_eq_ok h
      obtain ⟨hstep, hgood⟩ := guarded_eq_ok_iff.mp hi
      obtain ⟨hrest, hall⟩ := ih.mp his
      exact ⟨drive_cons_of_ok hstep hrest, (along_cons_ok hstep is).mpr ⟨hgood, hall⟩⟩
    · rintro ⟨h, hgood, hall⟩
      obtain ⟨o, t, os', hi, his, rfl⟩ := drive_cons_eq_ok h
      exact drive_cons_of_ok (guarded_eq_ok_iff.mpr ⟨hi, hgood⟩) (ih.mpr ⟨his, hall o t hi⟩)

end

instance decidableAlong (step : σ → ι → Except ε (ω × σ)) (P : σ → ι → Prop)
    [∀ s i, Decidable (P s i)] : (s : σ) → (is : List ι) → Decidable (Along step P s is)
  | _, [] => inferInstanceAs (Decidable True)
  | s, i :: is =>
    match h : step s i with
    | .error _ => decidable_of_iff (P s i) (along_cons_error h is).symm
    | .ok (_, s') =>
      have := decidableAlong step P s' is
      decidable_of_iff (P s i ∧ Along step P s' is) (along_cons_ok h is).symm

end Base
