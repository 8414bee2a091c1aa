import Voip.Base.Backlog
import Voip.Base.Linearize
import Voip.Jitter.Interleaving

/-! The steps of the two threads against their operations whole. An `add` takes effect in its
`push_back`; a read of the consumer where it finds the deque empty, or else in its copy. That the
test and the clear of an `add` come before is without effect unless the consumer comes between. -/

namespace Voip.Jitter

open Base

variable {α : Type}

def point (s : Jitter α) : Action α → Option (Passage α)
  | .pushBack =>
    match s.producer with
    | .pushing data => some (.enter data)
    | _ => none
  | .hasData => if s.dataBuffer.isEmpty then some .leave else none
  | .emptyTest => if s.dataBuffer.isEmpty then some .leave else none
  | .copyPop => some .leave
  | .sizeTest _ => none
  | .clear => none

/-- The step answers as its operation does whole, and a `push_back` leaves the deque that the whole
`add` leaves. -/
def Agrees (st : Jitter α × List α) (a : Action α) : Prop :=
  AnswersWhole step point (Backlog.step BUFFER_MAX_PACKETS) st a ∧
    (a = .pushBack → ∀ o s', st.1.step a = .ok (o, s') →
      s'.dataBuffer = beside point (Backlog.step BUFFER_MAX_PACKETS) st.1 st.2 a)

def takenBy (taken : ℕ) : Action α → ℕ
  | .sizeTest _ => 0
  | .copyPop => taken + 1
  | _ => taken

/-- The consumer has taken so many packets since the size test, and then the deque has been cleared
if `cleared` is true: between the clear and the `push_back` it does not look unless it has taken all
ten, and the `push_back` does not come unless it has taken none or all. -/
def Undisturbed (taken : ℕ) (cleared : Bool) : Action α → Prop
  | .pushBack => cleared = true → taken = 0 ∨ taken = BUFFER_MAX_PACKETS
  | .hasData => cleared = true → taken = BUFFER_MAX_PACKETS
  | .emptyTest => cleared = true → taken = BUFFER_MAX_PACKETS
  | .copyPop => cleared = false
  | .sizeTest _ => True
  | .clear => True

def InTurn : ℕ → Bool → List (Action α) → Prop
  | _, _, [] => True
  | taken, cleared, a :: acts =>
    Undisturbed taken cleared a ∧ InTurn (takenBy taken a) (clearedBy cleared a) acts

/-- The deque is what the whole operations leave, but for an `add` under way that has cleared it. -/
inductive Held (taken : ℕ) (s : Jitter α) (q : List α) : Bool → Prop
  | level (hsame : s.dataBuffer = q) (hbounded : q.length ≤ BUFFER_MAX_PACKETS)
      (hclearing : ∀ data, s.producer = .clearing data → taken + q.length = BUFFER_MAX_PACKETS)
      (hpushing : ∀ data, s.producer = .pushing data → q.length ≠ BUFFER_MAX_PACKETS)
      (hcopying : s.consumer = .copying → q ≠ []) : Held taken s q false
  | cut (hempty : s.dataBuffer = []) (hmissing : taken + q.length = BUFFER_MAX_PACKETS)
      {data : α} (hpushing : s.producer = .pushing data) : Held taken s q true

variable {taken : ℕ} {cleared : Bool} {s s' : Jitter α} {q : List α} {a : Action α} {o : Option α}

theorem Held.bounded (hs : Held taken s q cleared) : q.length ≤ BUFFER_MAX_PACKETS := by
  cases hs with
  | level hsame hbounded hclearing hpushing hcopying => exact hbounded
  | cut hempty hmissing hpushing => exact hmissing ▸ Nat.le_add_left _ _

theorem Held.consumer (hs : Held taken s q cleared) (consumer : Consumer)
    (h : consumer = .copying → s.dataBuffer ≠ []) :
    Held taken { s with consumer } q cleared := by
  cases hs with
  | level hsame hbounded hclearing hpushing hcopying =>
    subst hsame
    exact .level rfl hbounded hclearing hpushing h
  | cut hempty hmissing hpushing => exact .cut hempty hmissing hpushing

/-- Where a look at an empty deque is not disturbed, there is nothing in the other one either. -/
theorem Held.eq_nil_iff (hs : Held taken s q cleared) (hempty : s.dataBuffer = []) :
    q = [] ↔ (cleared = true → taken = BUFFER_MAX_PACKETS) := by
  cases hs with
  | level hsame hbounded hclearing hpushing hcopying =>
    subst hsame
    exact iff_of_true hempty nofun
  | cut hempty hmissing hpushing =>
    rw [← List.length_eq_zero_iff]
    constructor
    · intro hzero _
      rwa [hzero] at hmissing
    · intro hall
      rw [hall rfl] at hmissing
      exact Nat.add_eq_left.mp hmissing

theorem point_of_isEmpty (h : s.dataBuffer = []) :
    point s .hasData = some .leave ∧ point s .emptyTest = some .leave := by
  simp only [point, h, List.isEmpty_nil, if_true, and_self]

theorem point_of_nonempty (h : s.dataBuffer ≠ []) :
    point s .hasData = none ∧ point s .emptyTest = none := by
  simp only [point, List.isEmpty_iff, h, if_false, and_self]

theorem beside_look (hempty : s.dataBuffer = []) :
    beside point (Backlog.step BUFFER_MAX_PACKETS) s q .hasData = q.tail ∧
      beside point (Backlog.step BUFFER_MAX_PACKETS) s q .emptyTest = q.tail := by
  simp only [beside, point_of_isEmpty hempty, Backlog.step, and_self]

theorem beside_see (hne : s.dataBuffer ≠ []) :
    beside point (Backlog.step BUFFER_MAX_PACKETS) s q .hasData = q ∧
      beside point (Backlog.step BUFFER_MAX_PACKETS) s q .emptyTest = q := by
  simp only [beside, point_of_nonempty hne, and_self]

theorem beside_pushBack {data : α} (hpush : s.producer = .pushing data) :
    beside point (Backlog.step BUFFER_MAX_PACKETS) s q .pushBack =
      (if q.length = BUFFER_MAX_PACKETS then [] else q) ++ [data] := by
  simp only [beside, point, hpush, Backlog.step]

/-- A `push_back` leaves what the whole `add` leaves just where it is not disturbed. -/
theorem Held.push_iff (hs : Held taken s q cleared) {data : α}
    (hpush : s.producer = .pushing data) :
    s.dataBuffer ++ [data] = beside point (Backlog.step BUFFER_MAX_PACKETS) s q .pushBack ↔
      (cleared = true → taken = 0 ∨ taken = BUFFER_MAX_PACKETS) := by
  rw [beside_pushBack hpush, List.append_left_inj]
  cases hs with
  | level hsame hbounded hclearing hpushing hcopying =>
    rw [if_neg (hpushing data hpush)]
    exact iff_of_true hsame nofun
  | cut hempty hmissing hpushing =>
    rw [hempty, imp_iff_right rfl]
    by_cases hfull : q.length = BUFFER_MAX_PACKETS
    · rw [if_pos hfull]
      exact iff_of_true rfl (.inl (by omega))
    · rw [if_neg hfull, eq_comm, ← List.length_eq_zero_iff]
      omega

theorem held_step (hs : Held taken s q cleared) (ha : Undisturbed taken cleared a)
    (h : s.step a = .ok (o, s')) :
    Held (takenBy taken a) s' (beside point (Backlog.step BUFFER_MAX_PACKETS) s q a)
      (clearedBy cleared a) := by
  cases step_eq_ok_iff.mp h with
  | foundFull hidle hfull =>
    cases hs with
    | level hsame hbounded hclearing hpushing hcopying =>
      subst hsame
      exact .level rfl hbounded (fun _ _ => (Nat.zero_add _).trans hfull) nofun hcopying
    | cut hempty hmissing hpushing => rw [hidle] at hpushing; cases hpushing
  | foundRoom hidle hroom =>
    cases hs with
    | level hsame hbounded hclearing hpushing hcopying =>
      subst hsame
      exact .level rfl hbounded nofun (fun _ _ => hroom) hcopying
    | cut hempty hmissing hpushing => rw [hidle] at hpushing; cases hpushing
  | clear hclear =>
    cases hs with
    | level hsame hbounded hclearing hpushing hcopying => exact .cut rfl (hclearing _ hclear) rfl
    | cut hempty hmissing hpushing => rw [hclear] at hpushing; cases hpushing
  | pushBack hpush =>
    have hpushed := (hs.push_iff hpush).mpr ha
    refine .level hpushed ?_ nofun nofun fun _ => ?_
    · rw [beside_pushBack hpush]
      exact Backlog.length_enter_le (by decide) hs.bounded _
    · rw [beside_pushBack hpush]
      exact List.append_ne_nil_of_right_ne_nil _ (List.cons_ne_nil _ _)
  | hasNoData hidle hempty =>
    obtain rfl := (hs.eq_nil_iff hempty).mpr ha
    rw [(beside_look hempty).1]
    exact hs
  | hasData hidle hne =>
    rw [(beside_see hne).1]
    exact hs.consumer .testing nofun
  | foundEmpty htesting hempty =>
    obtain rfl := (hs.eq_nil_iff hempty).mpr ha
    rw [(beside_look hempty).2]
    exact hs.consumer .idle nofun
  | foundPacket htesting hne =>
    rw [(beside_see hne).2]
    exact hs.consumer .copying fun _ => hne
  | copyPop hcopying hfront =>
    cases hs with
    | level hsame hbounded hclearing hpushing hcopying =>
      obtain rfl := hsame.symm.trans hfront
      refine .level rfl (Nat.le_of_succ_le hbounded) (fun data hdata => ?_) (fun data hdata => ?_)
        nofun
      · have hcount := hclearing data hdata
        rw [List.length_cons] at hcount
        rw [takenBy, ← hcount, Nat.add_assoc, Nat.add_comm 1]
        rfl
      · exact Nat.ne_of_lt hbounded
    | cut hempty hmissing hpushing => rw [hempty] at hfront; cases hfront

theorem leave_none_iff (q : List α) :
    (∀ f ∈ some (Passage.leave : Passage α), (Backlog.step BUFFER_MAX_PACKETS q f).1 = none) ↔
      q = [] := by
  simp only [Option.mem_def, Option.some.injEq, forall_eq', Backlog.step, List.head?_eq_none_iff]

theorem Held.level_of_nonempty (hs : Held taken s q cleared) (hne : s.dataBuffer ≠ []) :
    cleared = false := by
  cases hs with
  | level hsame hbounded hclearing hpushing hcopying => rfl
  | cut hempty hmissing hpushing => exact absurd hempty hne

theorem agrees_iff_of_step (h : s.step a = .ok (o, s')) :
    Agrees (s, q) a ↔ (∀ f ∈ point s a, (Backlog.step BUFFER_MAX_PACKETS q f).1 = o) ∧
      (a = .pushBack → s'.dataBuffer = beside point (Backlog.step BUFFER_MAX_PACKETS) s q a) := by
  constructor
  · rintro ⟨⟨o', s'', h', hanswer⟩, hpush⟩
    obtain ⟨rfl, rfl⟩ := Prod.mk.inj (Except.ok.inj (h.symm.trans h'))
    exact ⟨hanswer, fun ha => hpush ha o s' h⟩
  · rintro ⟨hanswer, hpush⟩
    refine ⟨⟨o, s', h, hanswer⟩, fun ha o' s'' h' => ?_⟩
    obtain ⟨rfl, rfl⟩ := Prod.mk.inj (Except.ok.inj (h.symm.trans h'))
    exact hpush ha

/-- One step agrees just where it is not disturbed. -/
theorem agrees_iff (hs : Held taken s q cleared) (hnext : s.step a ≠ .error .notNext) :
    Agrees (s, q) a ↔ Undisturbed taken cleared a := by
  cases hstep : s.step a with
  | error e =>
    obtain ⟨rfl, hcopy, hempty⟩ := of_step_error hstep hnext
    refine iff_of_false ?_ ?_
    · rintro ⟨⟨o, s', hok, -⟩, -⟩
      rw [hstep] at hok
      cases hok
    · intro hlevel
      cases hs with
      | level hsame hbounded hclearing hpushing hcopying =>
        exact hcopying hcopy (hsame.symm.trans hempty)
      | cut => cases hlevel
  | ok r =>
    obtain ⟨o, s'⟩ := r
    rw [agrees_iff_of_step hstep]
    cases step_eq_ok_iff.mp hstep with
    | foundFull => exact iff_of_true ⟨nofun, nofun⟩ trivial
    | foundRoom => exact iff_of_true ⟨nofun, nofun⟩ trivial
    | clear => exact iff_of_true ⟨nofun, nofun⟩ trivial
    | pushBack hpush =>
      rw [and_iff_right, imp_iff_right rfl]
      · exact hs.push_iff hpush
      · rw [point, hpush]
        rintro _ ⟨⟩
        rfl
    | hasNoData hidle hempty =>
      rw [(point_of_isEmpty hempty).1, and_iff_left nofun]
      exact (leave_none_iff q).trans (hs.eq_nil_iff hempty)
    | hasData hidle hne =>
      have hlevel := hs.level_of_nonempty hne
      rw [(point_of_nonempty hne).1]
      exact iff_of_true ⟨nofun, nofun⟩ fun hcleared => absurd hcleared (hlevel ▸ Bool.false_ne_true)
    | foundEmpty htesting hempty =>
      rw [(point_of_isEmpty hempty).2, and_iff_left nofun]
      exact (leave_none_iff q).trans (hs.eq_nil_iff hempty)
    | foundPacket htesting hne =>
      have hlevel := hs.level_of_nonempty hne
      rw [(point_of_nonempty hne).2]
      exact iff_of_true ⟨nofun, nofun⟩ fun hcleared => absurd hcleared (hlevel ▸ Bool.false_ne_true)
    | copyPop hcopying hfront =>
      cases hs with
      | level hsame hbounded hclearing hpushing hcopying' =>
        obtain rfl := hsame.symm.trans hfront
        refine iff_of_true ⟨?_, nofun⟩ rfl
        rintro _ ⟨⟩
        rfl
      | cut hempty hmissing hpushing => rw [hempty] at hfront; cases hfront

theorem along_agrees_iff (acts : List (Action α)) (hs : Held taken s q cleared)
    (hacts : Interleaving s acts) :
    Along (paired step point (Backlog.step BUFFER_MAX_PACKETS)) Agrees (s, q) acts ↔
      InTurn taken cleared acts := by
  induction acts generalizing s q taken cleared with
  | nil => exact Iff.rfl
  | cons a acts ih =>
    have hhead := agrees_iff hs hacts.1
    cases hstep : s.step a with
    | error e =>
      -- stuck in the middle of an operation
      have hdisturbed : ¬ Undisturbed taken cleared a := by
        rw [← hhead]
        rintro ⟨⟨o, s', hok, -⟩, -⟩
        rw [hstep] at hok
        cases hok
      rw [along_cons_error (paired_of_error point _ hstep q), hhead]
      exact iff_of_false hdisturbed fun h => hdisturbed h.1
    | ok r =>
      obtain ⟨o, s'⟩ := r
      rw [along_cons_ok (paired_of_ok point _ hstep q), hhead, InTurn]
      exact and_congr_right fun ha => ih (held_step hs ha hstep) (hacts.2 o s' hstep)

theorem held_drive {acts : List (Action α)} {s s' : Jitter α} {q q' : List α}
    {os : List (Option (Passage α × Option α))} (hs : Held taken s q cleared)
    (hacts : InTurn taken cleared acts)
    (h : drive (paired step point (Backlog.step BUFFER_MAX_PACKETS)) (s, q) acts =
      .ok (os, (s', q'))) :
    ∃ taken' cleared', Held taken' s' q' cleared' := by
  induction acts generalizing s q taken cleared os with
  | nil =>
    obtain ⟨-, rfl, rfl⟩ := Prod.mk.inj (Except.ok.inj h)
    exact ⟨taken, cleared, hs⟩
  | cons a acts ih =>
    obtain ⟨o, t, os', hpaired, hrest, -⟩ := drive_cons_eq_ok h
    cases hstep : s.step a with
    | error e => rw [paired_of_error point _ hstep q] at hpaired; cases hpaired
    | ok r =>
      obtain ⟨o', s₁⟩ := r
      rw [paired_of_ok point _ hstep q] at hpaired
      obtain ⟨-, rfl⟩ := Prod.mk.inj (Except.ok.inj hpaired)
      exact ih (held_step hs hacts.1 hstep) hacts.2 hrest

theorem Held.same_of_idle (hs : Held taken s q cleared) (hidle : s.producer = .idle) :
    s.dataBuffer = q := by
  cases hs with
  | level hsame hbounded hclearing hpushing hcopying => exact hsame
  | cut hempty hmissing hpushing => rw [hidle] at hpushing; cases hpushing

theorem held_start : Held 0 (start : Jitter α) [] false :=
  .level rfl (Nat.zero_le _) nofun nofun nofun

/-- The interleaved steps answer as the whole operations do, one after the other, just where no
`add` that resets the buffer is disturbed. Then the run is, point for point, a run of the backlog,
and between its operations the deque is what the backlog holds. -/
theorem whole_iff (acts : List (Action α)) (h : Interleaving start acts) :
    (Along (paired step point (Backlog.step BUFFER_MAX_PACKETS)) Agrees (start, []) acts ↔
        InTurn 0 false acts) ∧
      (InTurn 0 false acts → ∃ os s' q,
        drive (paired step point (Backlog.step BUFFER_MAX_PACKETS)) (start, []) acts =
            .ok (os, (s', q)) ∧
          answers (Backlog.step BUFFER_MAX_PACKETS) [] ((os.filterMap id).map Prod.fst) =
            ((os.filterMap id).map Prod.snd, q) ∧
          (s'.producer = .idle → s'.dataBuffer = q)) := by
  have hiff := along_agrees_iff acts held_start h
  refine ⟨hiff, fun hturn => ?_⟩
  have hanswers : Along (paired step point (Backlog.step BUFFER_MAX_PACKETS))
      (AnswersWhole step point (Backlog.step BUFFER_MAX_PACKETS)) (start, []) acts :=
    along_of_along (fun _ => True) (fun _ _ _ _ _ _ _ => trivial) (fun _ _ _ h => h.1) trivial
      (hiff.mpr hturn)
  obtain ⟨os, s', q, hdrive, hwhole⟩ := drive_of_answersWhole hanswers
  obtain ⟨taken, cleared, hheld⟩ := held_drive held_start hturn hdrive
  exact ⟨os, s', q, hdrive, hwhole, hheld.same_of_idle⟩

/-- The consumer's test and copy come around the size test of an add that finds room. -/
theorem whole_iff_room :
    Along (paired step point (Backlog.step BUFFER_MAX_PACKETS)) Agrees (start, [])
      [Action.sizeTest 7, .pushBack, .hasData, .sizeTest 8, .emptyTest, .copyPop, .pushBack] :=
  (whole_iff _ (by decide)).1.mpr (by simp [InTurn, Undisturbed, takenBy, clearedBy])

/-- A packet taken between the test and the clear is lost to the operations in any order: nine are
thrown away where ten, or none, would have been. -/
example : ¬ InTurn 0 false ((List.replicate 10 [Action.sizeTest 7, .pushBack]).flatten ++
    [.hasData, .emptyTest, .sizeTest 7, .copyPop, .clear, .pushBack]) := by
  simp [InTurn, Undisturbed, takenBy, clearedBy, BUFFER_MAX_PACKETS, List.replicate]

end Voip.Jitter
