import Voip.Base.Ledger
import Voip.Jitter.SimpleJB

/-! What became of every packet. The histories that an observer of the two threads writes down
are those of one ledger, whose waiting part is the deque. -/

namespace Voip.Jitter

open Base

variable {α : Type}

/-- As `step`, but the copy from an empty deque is no step. -/
def stepOrSkip (s : Jitter α) (a : Action α) : Except Stuck (Option α × Jitter α) :=
  match s.step a with
  | .error .emptyDeque => .ok (none, s)
  | r => r

def argument (s : Jitter α) : Option α :=
  match s.producer with
  | .idle => none
  | .clearing data | .pushing data => some data

/-- `dropped` has with each packet what the latest size test had seen, which is `seen`. -/
structure History (α : Type) where
  added : List α
  delivered : List α
  dropped : List (α × ℕ)
  seen : ℕ

namespace History

def start : History α := ⟨[], [], [], 0⟩

def record (s : Jitter α) (copied : Option α) (h : History α) : Action α → History α
  | .sizeTest _ => { h with seen := s.dataBuffer.length }
  | .clear => { h with dropped := h.dropped ++ s.dataBuffer.map fun packet => (packet, h.seen) }
  | .pushBack => { h with added := h.added ++ s.argument.toList }
  | .copyPop => { h with delivered := h.delivered ++ copied.toList }
  | .hasData | .emptyTest => h

end History

def observedStep (t : Jitter α × History α) (a : Action α) :
    Except Stuck (Option α × (Jitter α × History α)) := do
  let (copied, s) ← t.1.stepOrSkip a
  pure (copied, (s, t.2.record t.1 copied a))

/-- Only a producer that has tested for a full deque pushes, and only one that found it full
clears. -/
structure Bounded (t : Jitter α × History α) : Prop where
  length_le : t.1.dataBuffer.length ≤ BUFFER_MAX_PACKETS
  pushing : ∀ data, t.1.producer = .pushing data → t.1.dataBuffer.length < BUFFER_MAX_PACKETS
  clearing : ∀ data, t.1.producer = .clearing data → t.2.seen = BUFFER_MAX_PACKETS
  dropped : ∀ entry ∈ t.2.dropped, entry.2 = BUFFER_MAX_PACKETS

structure Books (t : Jitter α × History α) (l : Ledger α ℕ) : Prop where
  waiting : l.waiting = t.1.dataBuffer
  entries : l.entries = t.2.added
  delivered : l.delivered = t.2.delivered
  dropped : l.dropped = t.2.dropped

theorem bounded_start : Bounded ((.start, .start) : Jitter α × History α) :=
  ⟨Nat.zero_le _, nofun, nofun, nofun⟩

theorem books_start : Books ((.start, .start) : Jitter α × History α) .empty :=
  ⟨rfl, rfl, rfl, rfl⟩

theorem bounded_step {t : Jitter α × History α} {s' : Jitter α} {a : Action α} {o : Option α}
    (ht : Bounded t) (h : t.1.step a = .ok (o, s')) : Bounded (s', t.2.record t.1 o a) := by
  obtain ⟨s, hist⟩ := t
  obtain ⟨hlength, hpushing, hclearing, hdropped⟩ := ht
  cases step_eq_ok_iff.mp h with
  | foundFull hidle hfull => exact ⟨hlength, nofun, fun _ _ => hfull, hdropped⟩
  | foundRoom hidle hroom =>
    -- from here to the push the deque can only shrink
    exact ⟨hlength, fun _ _ => Nat.lt_of_le_of_ne hlength hroom, nofun, hdropped⟩
  | clear hdata =>
    refine ⟨Nat.zero_le _, fun _ _ => Nat.zero_lt_succ 9, nofun, ?_⟩
    intro entry hentry
    rcases List.mem_append.mp hentry with hold | hnew
    · exact hdropped entry hold
    · obtain ⟨packet, -, rfl⟩ := List.mem_map.mp hnew
      exact hclearing _ hdata
  | pushBack hdata =>
    refine ⟨?_, nofun, nofun, hdropped⟩
    simpa only [List.length_append, List.length_singleton] using
      Nat.succ_le_of_lt (hpushing _ hdata)
  | hasNoData => exact ⟨hlength, hpushing, hclearing, hdropped⟩
  | hasData => exact ⟨hlength, hpushing, hclearing, hdropped⟩
  | foundEmpty => exact ⟨hlength, hpushing, hclearing, hdropped⟩
  | foundPacket => exact ⟨hlength, hpushing, hclearing, hdropped⟩
  | @copyPop packet rest hcopying hfront =>
    have hshorter : rest.length < s.dataBuffer.length := by
      rw [show s.dataBuffer = packet :: rest from hfront]
      exact Nat.lt_succ_self _
    exact ⟨Nat.le_trans (Nat.le_of_lt hshorter) hlength,
      fun data hdata => Nat.lt_trans hshorter (hpushing data hdata), hclearing, hdropped⟩

/-- Every step is at most one entry in the ledger: an `enter`, a `flush` or a `deliver`. -/
theorem books_step {t : Jitter α × History α} {s' : Jitter α} {a : Action α} {o : Option α}
    {l : Ledger α ℕ} (ht : Books t l) (h : t.1.step a = .ok (o, s')) :
    ∃ l', Books (s', t.2.record t.1 o a) l' := by
  obtain ⟨s, hist⟩ := t
  obtain ⟨hwaiting, hentries, hdelivered, hdropped⟩ := ht
  cases step_eq_ok_iff.mp h with
  | foundFull => exact ⟨l, hwaiting, hentries, hdelivered, hdropped⟩
  | foundRoom => exact ⟨l, hwaiting, hentries, hdelivered, hdropped⟩
  | clear =>
    refine ⟨l.flush hist.seen, rfl, ?_, ?_, ?_⟩
    · rw [l.entries_flush, hentries]
      rfl
    · rw [l.delivered_flush, hdelivered]
      rfl
    · rw [l.dropped_flush, hdropped, hwaiting]
      rfl
  | @pushBack data hdata =>
    refine ⟨l.enter data, congrArg (· ++ [data]) hwaiting, ?_, hdelivered, hdropped⟩
    rw [l.entries_enter, hentries]
    simp only [History.record, argument, show s.producer = .pushing data from hdata,
      Option.toList_some]
  | hasNoData => exact ⟨l, hwaiting, hentries, hdelivered, hdropped⟩
  | hasData => exact ⟨l, hwaiting, hentries, hdelivered, hdropped⟩
  | foundEmpty => exact ⟨l, hwaiting, hentries, hdelivered, hdropped⟩
  | foundPacket => exact ⟨l, hwaiting, hentries, hdelivered, hdropped⟩
  | @copyPop packet rest hcopying hbuf =>
    have hfront : l.waiting = packet :: rest := hwaiting.trans hbuf
    refine ⟨l.deliver, ?_, ?_, ?_, ?_⟩
    · simp only [Ledger.deliver, hfront]
    · rw [l.entries_deliver, hentries]
      rfl
    · rw [l.delivered_deliver hfront, hdelivered]
      rfl
    · rw [l.dropped_deliver, hdropped]
      rfl

theorem observedStep_cases {t t' : Jitter α × History α} {a : Action α} {o : Option α}
    (h : observedStep t a = .ok (o, t')) :
    t' = t ∨ ∃ s', t.1.step a = .ok (o, s') ∧ t' = (s', t.2.record t.1 o a) := by
  cases hstep : t.1.step a with
  | ok r =>
    obtain ⟨copied, s'⟩ := r
    simp only [observedStep, stepOrSkip, hstep, bind, Except.bind, pure, Except.pure,
      Except.ok.injEq, Prod.mk.injEq] at h
    obtain ⟨rfl, rfl⟩ := h
    exact .inr ⟨s', rfl, rfl⟩
  | error e =>
    cases e with
    | notNext => simp only [observedStep, stepOrSkip, hstep, bind, Except.bind, reduceCtorEq] at h
    | emptyDeque =>
      obtain ⟨rfl, -⟩ := of_step_error hstep (by simp only [hstep, ne_eq, reduceCtorEq,
        Except.error.injEq, not_false_eq_true])
      simp only [observedStep, stepOrSkip, hstep, bind, Except.bind, pure, Except.pure,
        Except.ok.injEq, Prod.mk.injEq, History.record, Option.toList_none, List.append_nil] at h
      exact .inl h.2.symm

/-- Bound, order and loss of the buffer at any time of any run. -/
theorem accounting_run {acts : List (Action α)} {copied : List (Option α)} {s : Jitter α}
    {hist : History α} (h : drive observedStep (start, .start) acts = .ok (copied, (s, hist))) :
    s.dataBuffer.length ≤ BUFFER_MAX_PACKETS ∧
      s.dataBuffer <:+ hist.added ∧
      hist.delivered.Sublist hist.added ∧
      hist.added.Perm (hist.delivered ++ hist.dropped.map Prod.fst ++ s.dataBuffer) ∧
      (∃ l : Ledger α ℕ, l.entries = hist.added ∧ l.waiting = s.dataBuffer ∧
        l.delivered = hist.delivered ∧ l.dropped = hist.dropped) ∧
      ∀ entry ∈ hist.dropped, entry.2 = BUFFER_MAX_PACKETS := by
  have hinv : Bounded (s, hist) ∧ ∃ l, Books (s, hist) l := by
    refine drive_preserves (fun t => Bounded t ∧ ∃ l, Books t l) ?_
      ⟨bounded_start, .empty, books_start⟩ h
    rintro t a o t' ⟨hbounded, l, hbooks⟩ hstep
    rcases observedStep_cases hstep with rfl | ⟨s', hs', rfl⟩
    · exact ⟨hbounded, l, hbooks⟩
    · exact ⟨bounded_step hbounded hs', books_step hbooks hs'⟩
  obtain ⟨hbounded, l, hwaiting, hentries, hdelivered, hdropped⟩ := hinv
  simp only at hwaiting hentries hdelivered hdropped
  refine ⟨hbounded.length_le, ?_, ?_, ?_, ⟨l, hentries, hwaiting, hdelivered, hdropped⟩,
    hbounded.dropped⟩
  · rw [← hwaiting, ← hentries]
    exact l.waiting_suffix
  · rw [← hdelivered, ← hentries]
    exact l.delivered_sublist
  · rw [← hdelivered, ← hdropped, ← hwaiting, ← hentries]
    exact l.entries_perm

theorem accounting_run_two :
    drive observedStep (start, .start)
        [.sizeTest 7, .pushBack, .hasData, .sizeTest 8, .emptyTest, .copyPop, .pushBack] =
      .ok ([none, none, none, none, none, some 7, none],
        (⟨[8], .idle, .idle⟩, ⟨[7, 8], [7], [], 1⟩)) ∧
      [8].length ≤ BUFFER_MAX_PACKETS ∧ [8] <:+ [7, 8] ∧ [7].Sublist [7, 8] :=
  have hrun : drive observedStep (start, .start)
      [.sizeTest 7, .pushBack, .hasData, .sizeTest 8, .emptyTest, .copyPop, .pushBack] =
    .ok ([none, none, none, none, none, some 7, none],
      (⟨[8], .idle, .idle⟩, ⟨[7, 8], [7], [], 1⟩)) := rfl
  have hbook := accounting_run hrun
  ⟨hrun, hbook.1, hbook.2.1, hbook.2.2.1⟩

end Voip.Jitter
