import Voip.App.Overrun
import Voip.Base.Backlog

/-! How much the network's timing may vary. In UDP mode the jitter buffer of a call is a backlog
that packets enter as they are accepted and leave one to a callback. -/

namespace Voip.Playout

open Base

def arrival : PlayoutEvent → Option Bytes
  | .add data => some data
  | .callback .. => none

def passage : PlayoutEvent → Passage Bytes
  | .add data => .enter data
  | .callback .. => .leave

/-- The packet that a callback finds at the front of the jitter buffer. -/
def front (p : Playout) : PlayoutEvent → Option Bytes
  | .add _ => none
  | .callback .. => p.app.jitterBuffer.dataBuffer.head?

/-- A step without a fault, answered with that packet as well. -/
def watch (p : Playout) (e : PlayoutEvent) :
    Except Fault ((Option Bytes × Option CallbackResult) × Playout) := do
  let (result, p') ← p.checked e
  pure ((p.front e, result), p')

/-- The packet is heard to its end, in front of whatever the output buffer holds behind it. -/
def Heard (o : Option Bytes × Option CallbackResult) : Prop :=
  ∀ packet, o.1 = some packet → ∃ result, o.2 = some result ∧ packet <+: result.toOut

theorem entries_passage (events : List PlayoutEvent) :
    Passage.entries (events.map passage) = events.filterMap arrival := by
  induction events with
  | nil => rfl
  | cons e events ih =>
    cases e with
    | add data => exact congrArg (data :: ·) ih
    | callback opus_encode inBuf nFrames => exact ih

theorem exits_passage (events : List PlayoutEvent) :
    Passage.exits (events.map passage) = (events.filterMap frames).length := by
  induction events with
  | nil => rfl
  | cons e events ih =>
    cases e with
    | add data => exact ih
    | callback opus_encode inBuf nFrames =>
      exact (Passage.exits_leave _).trans (congrArg (· + 1) ih)

theorem watch_ok {p p' : Playout} {e : PlayoutEvent} {o : Option Bytes × Option CallbackResult}
    (h : p.watch e = .ok (o, p')) :
    p.step e = .ok (o.2, p') ∧ p.overruns e = false ∧ o.1 = p.front e := by
  cases hchecked : p.checked e with
  | error f => simp [watch, hchecked] at h
  | ok r =>
    simp only [watch, hchecked, ok_bind, pure_eq_ok, Except.ok.injEq, Prod.mk.injEq] at h
    obtain ⟨rfl, rfl⟩ := h
    obtain ⟨hstep, hroom⟩ := guarded_eq_ok_iff.mp hchecked
    exact ⟨hstep, hroom, rfl⟩

theorem prefix_copyTo {packet out : Bytes} (h : packet.length ≤ out.length) :
    packet <+: copyTo packet out := by
  rw [copyTo_of_le h]
  exact List.prefix_append ..

theorem watch_cases {p p' : Playout} {e : PlayoutEvent}
    {o : Option Bytes × Option CallbackResult} (hloop : p.app.isLoopback = false)
    (hudp : p.app.isUDP = true) (h : p.watch e = .ok (o, p')) :
    p'.app.isLoopback = false ∧ p'.app.isUDP = true ∧ Heard o ∧
      Backlog.step BUFFER_MAX_PACKETS p.app.jitterBuffer.dataBuffer (passage e) =
        (o.1, p'.app.jitterBuffer.dataBuffer) := by
  obtain ⟨hstep, hroom, hfront⟩ := watch_ok h
  cases e with
  | add data =>
    obtain ⟨-, rfl⟩ := Prod.mk.inj (Except.ok.inj hstep)
    refine ⟨hloop, hudp, ?_, ?_⟩
    · rw [Heard, hfront]
      exact nofun
    · rw [hfront]
      rfl
  | callback opus_encode inBuf nFrames =>
    obtain ⟨result, hresult, hmodes, -, houtput, hbuffer, htoOut⟩ :=
      p.step_callback_cases _ _ _ hloop hudp hstep
    refine ⟨hmodes.2.1.trans hloop, hmodes.2.2.trans hudp, ?_, ?_⟩
    · intro packet hpacket
      refine ⟨result, hresult, ?_⟩
      obtain ⟨rest, hcons⟩ := List.head?_eq_some_iff.mp (hfront.symm.trans hpacket)
      rw [htoOut, houtput, SimpleJB.getFrontData_cons hcons]
      exact prefix_copyTo
        (length_le_of_not_overruns hloop hudp hroom (hfront.symm.trans hpacket))
    · rw [hfront, hbuffer]
      cases hqueue : p.app.jitterBuffer.dataBuffer with
      | nil => simp [passage, front, Backlog.step, SimpleJB.getFrontData, hqueue]
      | cons packet rest => simp [passage, front, Backlog.step, SimpleJB.getFrontData, hqueue]

/-- A run in UDP mode is a run of the backlog. -/
theorem drive_watch {events : List PlayoutEvent} {p p' : Playout}
    {os : List (Option Bytes × Option CallbackResult)} (hloop : p.app.isLoopback = false)
    (hudp : p.app.isUDP = true) (h : drive watch p events = .ok (os, p')) :
    (∀ o ∈ os, Heard o) ∧
      os.filterMap Prod.fst =
        Backlog.left BUFFER_MAX_PACKETS p.app.jitterBuffer.dataBuffer (events.map passage) ∧
      p'.app.jitterBuffer.dataBuffer =
        Backlog.waiting BUFFER_MAX_PACKETS p.app.jitterBuffer.dataBuffer (events.map passage) := by
  induction events generalizing p os with
  | nil =>
    obtain ⟨rfl, rfl⟩ := Prod.mk.inj (Except.ok.inj h)
    exact ⟨nofun, rfl, rfl⟩
  | cons e events ih =>
    obtain ⟨o, p₁, os', hstep, hrest, rfl⟩ := drive_cons_eq_ok h
    obtain ⟨hloop₁, hudp₁, hheard, hbacklog⟩ := watch_cases hloop hudp hstep
    obtain ⟨hall, hleft, hwaiting⟩ := ih hloop₁ hudp₁ hrest
    refine ⟨List.forall_mem_cons.mpr ⟨hheard, hall⟩, ?_, ?_⟩
    · rw [List.filterMap_cons, hleft, List.map_cons, Backlog.left, Backlog.left, answers,
        hbacklog, List.filterMap_cons]
      rfl
    · rw [hwaiting, List.map_cons, Backlog.waiting, Backlog.waiting, answers, hbacklog]

section
variable {packer : RtpPacker} {audio : RtAudio} {inDev outDev : Int32} {payloadType : UInt32}
  {s : System} (hstart : (System.new packer).startUDP audio inDev outDev payloadType = some s)
include hstart

/-- No packet is lost, each being played or still waiting in its turn, exactly if in no stretch of
the call more than ten packets come in beyond the callbacks. -/
theorem playsAll_iff {events : List PlayoutEvent} {p' : Playout}
    {os : List (Option Bytes × Option CallbackResult)}
    (h : drive watch s.playout events = .ok (os, p')) :
    (∀ o ∈ os, Heard o) ∧
      (os.filterMap Prod.fst ++ p'.app.jitterBuffer.dataBuffer = events.filterMap arrival ↔
        ∀ w, w <:+: events →
          (w.filterMap arrival).length ≤ (w.filterMap frames).length + BUFFER_MAX_PACKETS) := by
  obtain ⟨hloop, hudp, hbuffer⟩ := System.startUDP_app hstart
  obtain ⟨hheard, hleft, hwaiting⟩ := drive_watch hloop hudp h
  rw [hbuffer] at hleft hwaiting
  have hconserved := Backlog.conserved_iff (c := BUFFER_MAX_PACKETS) (q := [])
    (events.map passage) (by decide) (Nat.zero_le _)
  rw [← entries_passage, hleft, hwaiting]
  rw [List.nil_append, List.length_nil] at hconserved
  refine ⟨hheard, hconserved.trans ?_⟩
  simp only [← List.filterMap_eq_map, Passage.tolerable_filterMap_iff]
  simp only [List.filterMap_eq_map, entries_passage, exits_passage]

/-- Behind ten callbacks nothing older waits, and nothing older is taken. -/
theorem recent_of_callbacks {past later : List PlayoutEvent} {p' : Playout}
    {os : List (Option Bytes × Option CallbackResult)}
    (h : drive watch s.playout (past ++ later) = .ok (os, p'))
    (hlater : BUFFER_MAX_PACKETS ≤ (later.filterMap frames).length) :
    p'.app.jitterBuffer.dataBuffer <:+ later.filterMap arrival ∧
      ∀ e o p'', p'.watch e = .ok (o, p'') → ∀ packet, o.1 = some packet →
        packet ∈ later.filterMap arrival := by
  obtain ⟨hloop, hudp, hbuffer⟩ := System.startUDP_app hstart
  obtain ⟨-, -, hwaiting⟩ := drive_watch hloop hudp h
  rw [hbuffer, List.map_append, Backlog.waiting_append] at hwaiting
  have hlength := Backlog.length_waiting_le (c := BUFFER_MAX_PACKETS) (q := [])
    (past.map passage) (by decide) (Nat.zero_le _)
  have hrecent : p'.app.jitterBuffer.dataBuffer <:+ later.filterMap arrival := by
    rw [hwaiting, ← entries_passage]
    rw [← exits_passage] at hlater
    exact Backlog.waiting_suffix_entries _ (hlength.trans hlater)
  refine ⟨hrecent, fun e o p'' hwatch packet hpacket => hrecent.subset ?_⟩
  have hfront := (watch_ok hwatch).2.2.symm.trans hpacket
  cases e with
  | add data => cases hfront
  | callback opus_encode inBuf nFrames => exact List.mem_of_mem_head? hfront

end

def quiet : PlayoutEvent := .callback (fun _ _ _ => ⟨0, []⟩) (fun _ => 0) 2

theorem playsAll_iff_two :
    ∃ s, (System.new (.new 1 0 7)).startUDP ⟨0, 1, some 2⟩ (-1) (-1) 11 = some s ∧
      ∃ os p', drive watch s.playout [.add [1, 2, 3, 4], quiet, .add [5, 6, 7, 8]] = .ok (os, p') ∧
        os.filterMap Prod.fst ++ p'.app.jitterBuffer.dataBuffer = [[1, 2, 3, 4], [5, 6, 7, 8]] := by
  have hstart : ∃ s, (System.new (.new 1 0 7)).startUDP ⟨0, 1, some 2⟩ (-1) (-1) 11 = some s ∧
      ∃ os p', drive watch s.playout [.add [1, 2, 3, 4], quiet, .add [5, 6, 7, 8]] =
        .ok (os, p') := ⟨_, rfl, _, _, rfl⟩
  obtain ⟨s, hstart, os, p', hrun⟩ := hstart
  refine ⟨s, hstart, os, p', hrun, (playsAll_iff hstart hrun).2.mpr fun w hw => ?_⟩
  have hfew := (List.length_filterMap_le arrival w).trans hw.length_le
  exact hfew.trans (Nat.le_add_left_of_le (show 3 ≤ BUFFER_MAX_PACKETS by decide))

theorem recent_of_callbacks_ten :
    ∃ s, (System.new (.new 1 0 7)).startUDP ⟨0, 1, some 2⟩ (-1) (-1) 11 = some s ∧
      ∃ os p', drive watch s.playout ([.add [1, 2, 3, 4]] ++ List.replicate 10 quiet) =
        .ok (os, p') ∧ p'.app.jitterBuffer.dataBuffer <:+ [] := by
  have hstart : ∃ s, (System.new (.new 1 0 7)).startUDP ⟨0, 1, some 2⟩ (-1) (-1) 11 = some s ∧
      ∃ os p', drive watch s.playout ([.add [1, 2, 3, 4]] ++ List.replicate 10 quiet) =
        .ok (os, p') := ⟨_, rfl, _, _, rfl⟩
  obtain ⟨s, hstart, os, p', hrun⟩ := hstart
  exact ⟨s, hstart, os, p', hrun, (recent_of_callbacks hstart hrun (Nat.le_refl _)).1⟩

end Voip.Playout
