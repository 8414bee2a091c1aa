import Voip.Jitter.SimpleJB

/-! The consumer's empty test and the producer's test and clear are outside the mutex. What the
consumer has seen is undone by a clear until the `push_back` behind it, and by nothing else. -/

namespace Voip.Jitter

open Base

variable {α : Type}

def clearedBy (cleared : Bool) : Action α → Bool
  | .clear => true
  | .pushBack => false
  | _ => cleared

/-- The consumer does not copy between a clear and the `push_back` behind it. -/
def NoPopBehindClear : Bool → List (Action α) → Prop
  | _, [] => True
  | cleared, a :: acts =>
    (a = .copyPop → cleared = false) ∧ NoPopBehindClear (clearedBy cleared a) acts

def EmptyIfCleared (cleared : Bool) (s : Jitter α) : Prop :=
  (cleared = true → s.dataBuffer = []) ∧
    (s.consumer = .copying → cleared = false → s.dataBuffer ≠ [])

theorem emptyIfCleared_step {s s' : Jitter α} {a : Action α} {o : Option α} {cleared : Bool}
    (hs : EmptyIfCleared cleared s) (h : s.step a = .ok (o, s')) :
    EmptyIfCleared (clearedBy cleared a) s' := by
  obtain ⟨hempty, hfull⟩ := hs
  cases step_eq_ok_iff.mp h with
  | foundFull => exact ⟨hempty, hfull⟩
  | foundRoom => exact ⟨hempty, hfull⟩
  | clear => exact ⟨fun _ => rfl, fun _ => nofun⟩
  | pushBack =>
    exact ⟨nofun, fun _ _ => List.append_ne_nil_of_right_ne_nil _ (List.cons_ne_nil _ _)⟩
  | hasNoData => exact ⟨hempty, hfull⟩
  | hasData => exact ⟨hempty, nofun⟩
  | foundEmpty => exact ⟨hempty, nofun⟩
  | foundPacket htesting hne => exact ⟨hempty, fun _ _ => hne⟩
  | copyPop hcopying hfront =>
    refine ⟨fun hc => ?_, nofun⟩
    rw [hempty hc] at hfront
    cases hfront

theorem copying_of_next {s : Jitter α} (hnext : s.step .copyPop ≠ .error .notNext) :
    s.consumer = .copying := by
  obtain ⟨dataBuffer, producer, consumer⟩ := s
  cases consumer <;> simp [step] at hnext ⊢

theorem nonempty_iff_not_cleared {s : Jitter α} {cleared : Bool} (hs : EmptyIfCleared cleared s)
    (hnext : s.step .copyPop ≠ .error .notNext) : s.dataBuffer ≠ [] ↔ cleared = false := by
  refine ⟨fun hne => ?_, hs.2 (copying_of_next hnext)⟩
  cases hc : cleared with
  | false => rfl
  | true => exact absurd (hs.1 hc) hne

theorem along_nonempty_iff (acts : List (Action α)) (s : Jitter α) (cleared : Bool)
    (hs : EmptyIfCleared cleared s) (hacts : Interleaving s acts) :
    Along step (fun s a => a = .copyPop → s.dataBuffer ≠ []) s acts ↔
      NoPopBehindClear cleared acts := by
  induction acts generalizing s cleared with
  | nil => exact Iff.rfl
  | cons a acts ih =>
    have hhead : (a = .copyPop → s.dataBuffer ≠ []) ↔ (a = .copyPop → cleared = false) := by
      refine imp_congr_right ?_
      rintro rfl
      exact nonempty_iff_not_cleared hs hacts.1
    cases hstep : s.step a with
    | ok r =>
      obtain ⟨o, s'⟩ := r
      have hrest := ih s' _ (emptyIfCleared_step hs hstep) (hacts.2 o s' hstep)
      rw [along_cons_ok hstep, hrest, hhead, NoPopBehindClear]
    | error e =>
      -- only the copy from an empty deque gets stuck here, and both sides exclude it
      obtain ⟨rfl, -, hempty⟩ := of_step_error hstep hacts.1
      have hbad : ¬ (Action.copyPop = (.copyPop : Action α) → s.dataBuffer ≠ []) :=
        fun h => h rfl hempty
      exact iff_of_false (fun h => hbad h.1) (fun h => hbad (hhead.mpr h.1))

/-- In any interleaving from the empty buffer, every locked copy finds a packet exactly when none
is made between a clear and the `push_back` behind it. -/
theorem copyPop_nonempty_iff (acts : List (Action α)) (h : Interleaving start acts) :
    Along step (fun s a => a = .copyPop → s.dataBuffer ≠ []) start acts ↔
      NoPopBehindClear false acts :=
  along_nonempty_iff acts start false ⟨nofun, nofun⟩ h

theorem copyPop_nonempty_iff_one :
    Interleaving start [Action.sizeTest 7, .pushBack, .hasData, .emptyTest, .copyPop] ∧
      Along step (fun s a => a = .copyPop → s.dataBuffer ≠ []) start
        [Action.sizeTest 7, .pushBack, .hasData, .emptyTest, .copyPop] := by
  have hacts : Interleaving start
      [Action.sizeTest 7, .pushBack, .hasData, .emptyTest, .copyPop] := by decide
  exact ⟨hacts, (copyPop_nonempty_iff _ hacts).mpr (by simp [NoPopBehindClear, clearedBy])⟩

/-- Ten packets, and the tests of both threads before either acts. -/
theorem copyPop_empty :
    ¬ ∀ acts : List (Action ℕ), Interleaving start acts →
      Along step (fun s a => a = .copyPop → s.dataBuffer ≠ []) start acts := by
  intro h
  have hacts := h ((List.replicate 10 [.sizeTest 7, .pushBack]).flatten ++
    [.hasData, .emptyTest, .sizeTest 7, .clear, .copyPop])
  revert hacts
  decide

end Voip.Jitter
