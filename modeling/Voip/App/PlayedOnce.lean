import Mathlib.Data.List.Forall2
import Voip.App.Playout
import Voip.Base.Display

/-! Which packet is heard when. The output buffer lives across callbacks, so that a run in UDP mode
is a run of a display whose cells are the buffer's bytes and whose queue is the jitter buffer. -/

namespace Voip

open Base

/-- A run with its books: the packets added so far, and the display. -/
structure Tracked where
  playout : Playout
  added : List Bytes
  display : Display
  deriving DecidableEq

def cellByte (added : List Bytes) (i : ℕ) : Option ℕ → UInt8
  | none => 0
  | some k => (added.getD k []).getD i 0

def rendered (added : List Bytes) (cells : List (Option ℕ)) : Bytes :=
  cells.mapIdx (cellByte added)

namespace Tracked

def displayAction (p : Playout) : PlayoutEvent → Display.Action
  | .add data => .enter data.length (p.app.jitterBuffer.dataBuffer.length = BUFFER_MAX_PACKETS)
  | .callback _ _ nFrames =>
    .refresh (if nFrames ≠ p.card.fs then some (p.card.adapt nFrames).outputBuffer.size else none)

def record (added : List Bytes) : PlayoutEvent → List Bytes
  | .add data => added ++ [data]
  | .callback .. => added

/-- A callback answers with its result and the numbers of the packets in it. -/
def step (t : Tracked) (e : PlayoutEvent) :
    Except Fault ((Option CallbackResult × Option (List (Option ℕ))) × Tracked) := do
  let (result, playout) ← t.playout.step e
  let (cells, display) := t.display.step (displayAction t.playout e)
  pure ((result, cells), { playout, added := record t.added e, display })

def start (p : Playout) : Tracked :=
  { playout := p, added := [],
    display := { next := 0, waiting := [], cells := List.replicate p.card.outputBuffer.size none } }

def frontLength : List Bytes → ℕ
  | [] => 0
  | packet :: _ => packet.length

/-- A callback either reshapes the output buffer or finds a packet that reaches as far as what the
buffer still holds of earlier ones. -/
def Covering (t : Tracked) : PlayoutEvent → Prop
  | .add _ => True
  | .callback _ _ nFrames => nFrames = t.playout.card.fs →
    Display.held t.display.cells ≤ frontLength t.playout.app.jitterBuffer.dataBuffer

/-! ## The display shows what is heard -/

@[simp] theorem length_rendered (added : List Bytes) (cells : List (Option ℕ)) :
    (rendered added cells).length = cells.length := List.length_mapIdx

theorem getElem?_rendered (added : List Bytes) (cells : List (Option ℕ)) (i : ℕ) :
    (rendered added cells)[i]? = cells[i]?.map (cellByte added i) := List.getElem?_mapIdx

theorem rendered_replicate (added : List Bytes) (n : ℕ) :
    rendered added (List.replicate n none) = List.replicate n 0 := by
  refine List.ext_getElem? fun i => ?_
  rw [getElem?_rendered, List.getElem?_replicate, List.getElem?_replicate]
  split_ifs <;> rfl

theorem rendered_grow {added added' : List Bytes} (h : added <+: added')
    {cells : List (Option ℕ)} (hcells : ∀ k, some k ∈ cells → k < added.length) :
    rendered added' cells = rendered added cells := by
  obtain ⟨later, rfl⟩ := h
  refine List.ext_getElem? fun i => ?_
  rw [getElem?_rendered, getElem?_rendered]
  cases hcell : cells[i]? with
  | none => rfl
  | some cell =>
    cases cell with
    | none => rfl
    | some k =>
      have hk := hcells k (List.mem_of_getElem? hcell)
      simp only [Option.map_some, cellByte, List.getD_append _ _ _ _ hk]

theorem rendered_copyTo {added : List Bytes} {k : ℕ} {packet : Bytes} (hk : added[k]? = some packet)
    (cells : List (Option ℕ)) :
    rendered added (copyTo (List.replicate packet.length (some k)) cells) =
      copyTo packet (rendered added cells) := by
  refine List.ext_getElem? fun i => ?_
  rw [getElem?_rendered]
  by_cases hi : i < cells.length
  · rw [getElem?_copyTo hi, getElem?_copyTo (by rwa [length_rendered]), List.length_replicate]
    split_ifs with hpacket
    · rw [List.getElem?_replicate, if_pos hpacket, List.getElem?_eq_getElem hpacket]
      simp only [Option.map_some, cellByte, List.getD_eq_getElem?_getD, hk, Option.getD_some,
        List.getElem?_eq_getElem hpacket]
    · rw [getElem?_rendered]
  · rw [List.getElem?_eq_none (by rw [length_copyTo]; exact Nat.le_of_not_lt hi),
      List.getElem?_eq_none (by rw [length_copyTo, length_rendered]; exact Nat.le_of_not_lt hi)]
    rfl

def Queued (added : List Bytes) : List (ℕ × ℕ) → List Bytes → Prop :=
  List.Forall₂ fun w packet => added[w.1]? = some packet ∧ w.2 = packet.length

theorem frontLength_eq {added buffer : List Bytes} {waiting : List (ℕ × ℕ)}
    (h : Queued added waiting buffer) : Display.frontLength waiting = frontLength buffer := by
  cases h with
  | nil => rfl
  | cons hw _ => exact hw.2

theorem queued_grow {added added' buffer : List Bytes} {waiting : List (ℕ × ℕ)}
    (hgrow : added <+: added') (h : Queued added waiting buffer) :
    Queued added' waiting buffer := by
  refine h.imp fun w packet hw => ⟨?_, hw.2⟩
  obtain ⟨later, rfl⟩ := hgrow
  obtain ⟨hlt, -⟩ := List.getElem?_eq_some_iff.mp hw.1
  rw [List.getElem?_append_left hlt, hw.1]

theorem rendered_paint {added buffer : List Bytes} {waiting : List (ℕ × ℕ)}
    (h : Queued added waiting buffer) (cells : List (Option ℕ)) :
    rendered added (Display.paint waiting cells) =
        ((SimpleJB.mk buffer).getFrontData (rendered added cells)).1 ∧
      Queued added waiting.tail
        ((SimpleJB.mk buffer).getFrontData (rendered added cells)).2.dataBuffer := by
  cases h with
  | nil => exact ⟨rfl, List.Forall₂.nil⟩
  | @cons w packet waiting buffer hw hrest =>
    obtain ⟨k, length⟩ := w
    obtain ⟨hk, rfl⟩ := hw
    exact ⟨rendered_copyTo hk cells, hrest⟩

/-- What ties the books to the run. -/
structure Synced (t : Tracked) : Prop where
  isLoopback : t.playout.app.isLoopback = false
  isUDP : t.playout.app.isUDP = true
  ordered : t.display.Ordered
  next_eq : t.display.next = t.added.length
  waiting : Queued t.added t.display.waiting t.playout.app.jitterBuffer.dataBuffer
  cells : t.playout.card.outputBuffer.data = rendered t.added t.display.cells

theorem synced_start {p : Playout} (hloop : p.app.isLoopback = false) (hudp : p.app.isUDP = true)
    (hbuffer : p.app.jitterBuffer = .new)
    (hzero : p.card.outputBuffer.data = List.replicate p.card.outputBuffer.size 0) :
    Synced (start p) where
  isLoopback := hloop
  isUDP := hudp
  ordered := ⟨List.Pairwise.nil, nofun, fun _ hk => absurd (List.eq_of_mem_replicate hk) nofun,
    fun _ hk => absurd (List.eq_of_mem_replicate hk) nofun⟩
  next_eq := rfl
  waiting := by
    change Queued [] [] p.app.jitterBuffer.dataBuffer
    rw [hbuffer]
    exact List.Forall₂.nil
  cells := hzero.trans (rendered_replicate _ _).symm

theorem step_ok {t t' : Tracked} {e : PlayoutEvent}
    {o : Option CallbackResult × Option (List (Option ℕ))} (h : t.step e = .ok (o, t')) :
    t.playout.step e = .ok (o.1, t'.playout) ∧
      t.display.step (displayAction t.playout e) = (o.2, t'.display) ∧
      t'.added = record t.added e := by
  cases hstep : t.playout.step e with
  | error f => simp [step, hstep] at h
  | ok r =>
    simp only [step, hstep, ok_bind, pure_eq_ok, Except.ok.injEq, Prod.mk.injEq] at h
    obtain ⟨rfl, rfl⟩ := h
    exact ⟨rfl, rfl, rfl⟩

theorem covering_iff {t : Tracked} (ht : Synced t) (e : PlayoutEvent) :
    Covering t e ↔ t.display.Covers (displayAction t.playout e) := by
  cases e with
  | add data => exact Iff.rfl
  | callback opus_encode inBuf nFrames =>
    rw [Covering, displayAction, ← frontLength_eq ht.waiting]
    by_cases hn : nFrames = t.playout.card.fs
    · rw [forall_prop_of_true hn, if_neg (not_not.mpr hn)]
      rfl
    · rw [if_pos hn]
      refine iff_of_true (fun h => absurd h hn) ?_
      simp [Display.Covers, Display.base, Display.held, List.countP_replicate]

theorem rendered_base {t : Tracked} (ht : Synced t) (nFrames : UInt32) :
    rendered t.added (t.display.base (if nFrames ≠ t.playout.card.fs then
        some (t.playout.card.adapt nFrames).outputBuffer.size else none)) =
      (t.playout.card.adapt nFrames).outputBuffer.data := by
  by_cases hn : nFrames = t.playout.card.fs
  · rw [if_neg (not_not.mpr hn), SoundCardImpl.adapt, if_neg (not_not.mpr hn), ht.cells]
    rfl
  · rw [if_pos hn, Display.base, rendered_replicate, SoundCardImpl.adapt, if_pos hn]
    exact (AudioBuffer.data_setFsChFmt ..).symm

theorem synced_add {t t' : Tracked} (ht : Synced t) {data : Bytes}
    {o : Option CallbackResult × Option (List (Option ℕ))}
    (h : t.step (.add data) = .ok (o, t')) : Synced t' ∧ o = (none, none) := by
  obtain ⟨hplayout, hdisplay, hadded⟩ := step_ok h
  have hordered := Display.ordered_step ht.ordered (displayAction t.playout (.add data))
  rw [hdisplay] at hordered
  obtain ⟨result, cells⟩ := o
  obtain ⟨playout, added, display⟩ := t'
  obtain ⟨rfl, rfl⟩ := Prod.mk.inj (Except.ok.inj hplayout)
  obtain ⟨rfl, rfl⟩ := Prod.mk.inj hdisplay
  obtain rfl : added = t.added ++ [data] := hadded
  have hgrow : t.added <+: t.added ++ [data] := List.prefix_append ..
  refine ⟨⟨ht.isLoopback, ht.isUDP, hordered, ?_, ?_, ?_⟩, rfl⟩
  · exact (congrArg Nat.succ ht.next_eq).trans (by simp)
  · have hnew : Queued (t.added ++ [data]) [(t.display.next, data.length)] [data] := by
      refine List.Forall₂.cons ⟨?_, rfl⟩ List.Forall₂.nil
      rw [ht.next_eq, List.getElem?_concat_length]
    refine List.rel_append ?_ hnew
    simp only [decide_eq_true_eq]
    split_ifs
    · exact List.Forall₂.nil
    · exact queued_grow hgrow ht.waiting
  · rw [rendered_grow hgrow]
    · exact ht.cells
    · intro k hk
      rw [← ht.next_eq]
      exact ht.ordered.shown_lt_next k hk

theorem synced_callback {t t' : Tracked} (ht : Synced t) {opus_encode : OpusEncode}
    {inBuf : ℕ → UInt8} {nFrames : UInt32}
    {o : Option CallbackResult × Option (List (Option ℕ))}
    (h : t.step (.callback opus_encode inBuf nFrames) = .ok (o, t')) :
    Synced t' ∧ ∃ result, o = (some result, some t'.display.cells) ∧
      result.toOut = rendered t'.added t'.display.cells := by
  obtain ⟨hplayout, hdisplay, hadded⟩ := step_ok h
  have hordered := Display.ordered_step ht.ordered
    (displayAction t.playout (.callback opus_encode inBuf nFrames))
  rw [hdisplay] at hordered
  obtain ⟨result?, cells⟩ := o
  obtain ⟨playout, added, display⟩ := t'
  obtain rfl : added = t.added := hadded
  obtain ⟨rfl, rfl⟩ := Prod.mk.inj hdisplay
  obtain ⟨result, hresult, hmodes, -, houtput, hbuffer, htoOut⟩ :=
    Playout.step_callback_cases _ _ _ _ ht.isLoopback ht.isUDP hplayout
  obtain rfl : result? = some result := hresult
  have hpaint := rendered_paint ht.waiting (t.display.base (if nFrames ≠ t.playout.card.fs then
    some (t.playout.card.adapt nFrames).outputBuffer.size else none))
  rw [rendered_base ht] at hpaint
  have hcells : playout.card.outputBuffer.data = rendered t.added _ :=
    houtput.trans hpaint.1.symm
  refine ⟨⟨hmodes.2.1.trans ht.isLoopback, hmodes.2.2.trans ht.isUDP,
    hordered, ht.next_eq, ?_, hcells⟩, result, rfl, htoOut.trans hcells⟩
  change Queued t.added t.display.waiting.tail playout.app.jitterBuffer.dataBuffer
  rw [hbuffer]
  exact hpaint.2

theorem synced_step {t t' : Tracked} (ht : Synced t) {e : PlayoutEvent}
    {o : Option CallbackResult × Option (List (Option ℕ))} (h : t.step e = .ok (o, t')) :
    Synced t' ∧ t.added <+: t'.added ∧ ∀ result, o.1 = some result →
      o.2 = some t'.display.cells ∧ result.toOut = rendered t'.added t'.display.cells := by
  have hadded := (step_ok h).2.2
  cases e with
  | add data =>
    obtain ⟨ht', rfl⟩ := synced_add ht h
    exact ⟨ht', hadded ▸ List.prefix_append .., nofun⟩
  | callback opus_encode inBuf nFrames =>
    obtain ⟨ht', result, rfl, htoOut⟩ := synced_callback ht h
    refine ⟨ht', hadded ▸ List.prefix_rfl, ?_⟩
    rintro _ ⟨⟩
    exact ⟨rfl, htoOut⟩

theorem drive_rendered {events : List PlayoutEvent} {t t' : Tracked} (ht : Synced t)
    {os : List (Option CallbackResult × Option (List (Option ℕ)))}
    (h : drive step t events = .ok (os, t')) :
    t.added <+: t'.added ∧ ∀ o ∈ os, ∀ result, o.1 = some result →
      ∃ cells, o.2 = some cells ∧ result.toOut = rendered t'.added cells := by
  induction events generalizing t os with
  | nil =>
    obtain ⟨rfl, rfl⟩ := Prod.mk.inj (Except.ok.inj h)
    exact ⟨List.prefix_rfl, nofun⟩
  | cons e events ih =>
    obtain ⟨o, t₁, os', hstep, hrest, rfl⟩ := drive_cons_eq_ok h
    obtain ⟨ht₁, hgrow, hresult⟩ := synced_step ht hstep
    obtain ⟨hlater, hall⟩ := ih ht₁ hrest
    refine ⟨hgrow.trans hlater, List.forall_mem_cons.mpr ⟨fun result ho => ?_, hall⟩⟩
    obtain ⟨hcells, htoOut⟩ := hresult result ho
    refine ⟨_, hcells, htoOut.trans (rendered_grow hlater fun k hk => ?_).symm⟩
    rw [← ht₁.next_eq]
    exact ht₁.ordered.shown_lt_next k hk

/-- A run is a run of its display. -/
theorem drive_shown {events : List PlayoutEvent} {t t' : Tracked} (ht : Synced t)
    {os : List (Option CallbackResult × Option (List (Option ℕ)))}
    (h : drive step t events = .ok (os, t')) :
    ∃ acts, t.display.shown acts = os.filterMap Prod.snd ∧
      (Along step Covering t events ↔ Throughout Display.step Display.Covers t.display acts) := by
  induction events generalizing t os with
  | nil =>
    obtain ⟨rfl, -⟩ := Prod.mk.inj (Except.ok.inj h)
    exact ⟨[], rfl, Iff.rfl⟩
  | cons e events ih =>
    obtain ⟨o, t₁, os', hstep, hrest, rfl⟩ := drive_cons_eq_ok h
    obtain ⟨-, hdisplay, -⟩ := step_ok hstep
    obtain ⟨acts, hshown, hcovering⟩ := ih (synced_step ht hstep).1 hrest
    refine ⟨displayAction t.playout e :: acts, ?_, ?_⟩
    · rw [List.filterMap_cons, ← hshown, Display.shown, answers, hdisplay, List.filterMap_cons]
      rfl
    · rw [along_cons_ok hstep, Throughout, hdisplay, covering_iff ht, hcovering]

/-- What the callbacks of a run output is what the books say of it, and no packet is in the output
of two callbacks if and only if every callback is covering. -/
theorem playedOnce_iff {card₀ card : SoundCardImpl} {audio : RtAudio} {inDev outDev : Int32}
    {inCh outCh sr fs : UInt32} {fmt : SampleFormat} {app : VoIPComm}
    (hinit : card₀.init audio inDev outDev inCh outCh sr fs fmt = (true, card))
    (hloop : app.isLoopback = false) (hudp : app.isUDP = true) (hbuffer : app.jitterBuffer = .new)
    {events : List PlayoutEvent} {os : List (Option CallbackResult × Option (List (Option ℕ)))}
    {t : Tracked} (h : drive step (start ⟨card, app⟩) events = .ok (os, t)) :
    (∀ o ∈ os, ∀ result, o.1 = some result →
        ∃ cells, o.2 = some cells ∧ result.toOut = rendered t.added cells) ∧
      ((os.filterMap Prod.snd).Pairwise Display.NoCommon ↔
        Along step Covering (start ⟨card, app⟩) events) := by
  have hstart := synced_start (p := ⟨card, app⟩) hloop hudp hbuffer
    (SoundCardImpl.init_output hinit)
  obtain ⟨acts, hshown, hcovering⟩ := drive_shown hstart h
  have hfront : Display.Front (start ⟨card, app⟩).display.cells := Display.front_replicate _
  refine ⟨(drive_rendered hstart h).2, ?_⟩
  rw [hcovering, ← Display.pairwise_shown_iff acts hstart.ordered hfront, hshown,
    List.pairwise_cons]
  have hsilent : ∀ cells ∈ os.filterMap Prod.snd,
      Display.NoCommon (start ⟨card, app⟩).display.cells cells :=
    fun cells _ k hk => absurd (List.eq_of_mem_replicate hk) (Option.some_ne_none k)
  exact (and_iff_right hsilent).symm

instance (t : Tracked) : (e : PlayoutEvent) → Decidable (Covering t e)
  | .add _ => inferInstanceAs (Decidable True)
  | .callback _ _ _ => inferInstanceAs (Decidable (_ → _))

/-- A call in UDP mode with two mono frames to a callback. -/
def monoCall : Playout where
  card := (SoundCardImpl.new.init ⟨0, 1, some 2⟩ (-1) (-1) 1 1 44100 2 .INT16).2
  app := { VoIPComm.new (.new 1 0 7) with isUDP := true }

def silence : PlayoutEvent := .callback (fun _ _ _ => ⟨0, []⟩) (fun _ => 0) 2

theorem playedOnce_iff_two :
    ∃ os t, drive step (start monoCall) [.add [1, 2, 3, 4], silence, .add [5, 6, 7, 8], silence] =
        .ok (os, t) ∧
      (os.filterMap Prod.snd).Pairwise Display.NoCommon := by
  have hinit : SoundCardImpl.new.init ⟨0, 1, some 2⟩ (-1) (-1) 1 1 44100 2 .INT16 =
      (true, monoCall.card) := rfl
  have hrun : ∃ r, drive step (start monoCall)
      [.add [1, 2, 3, 4], silence, .add [5, 6, 7, 8], silence] = .ok r := ⟨_, rfl⟩
  obtain ⟨⟨os, t⟩, hrun⟩ := hrun
  exact ⟨os, t, hrun, (playedOnce_iff hinit rfl rfl rfl hrun).2.mpr (by decide)⟩

/-- Behind an underrun a packet of the output buffer's size is heard again. -/
theorem playedOnce_underrun :
    ∃ os t, drive step (start monoCall) [.add [1, 2, 3, 4], silence, silence] = .ok (os, t) ∧
      (os.filterMap Prod.fst).map CallbackResult.toOut = [[1, 2, 3, 4], [1, 2, 3, 4]] ∧
      ¬ (os.filterMap Prod.snd).Pairwise Display.NoCommon := by
  refine ⟨_, _, rfl, rfl, fun h => ?_⟩
  replace h : [List.replicate 4 (some 0), List.replicate 4 (some 0)].Pairwise Display.NoCommon := h
  exact (List.pairwise_cons.mp h).1 _ (List.mem_cons_self ..) 0 (by decide) (by decide)

end Tracked

end Voip
