import Voip.App.Overrun
import Voip.Base.Purge

/-! The two directions of a call. They meet in the jitter buffer and in the output buffer, where a
packet can be too long; and nothing that is sent and nothing that the receive loop remembers depends
on these. -/

namespace Voip

open Base

namespace VoIPComm

/-- The application without what it has received. -/
def outbound (c : VoIPComm) : VoIPComm := { c with jitterBuffer := .new }

variable (opus_encode : OpusEncode)

theorem transmit_jitterBuffer (c : VoIPComm) (jitterBuffer : SimpleJB) (input : AudioBuffer) :
    ({ c with jitterBuffer } : VoIPComm).transmit opus_encode input =
      (c.transmit opus_encode input).map fun c => { c with jitterBuffer } := by
  unfold transmit
  by_cases hopus : c.isOpus = true
  · simp only [if_pos hopus]
    cases c.encoder.encode opus_encode input.data [] <;> rfl
  · simp only [if_neg hopus]
    rfl

theorem eq_of_outbound {c d : VoIPComm} (h : c.outbound = d.outbound) :
    d = { c with jitterBuffer := d.jitterBuffer } := by
  obtain ⟨⟩ := c
  obtain ⟨⟩ := d
  simp only [outbound, mk.injEq, true_and] at h ⊢
  exact ⟨h.1.symm, h.2.1.symm, h.2.2.1.symm, h.2.2.2.1.symm, h.2.2.2.2.1.symm,
    h.2.2.2.2.2.1.symm, h.2.2.2.2.2.2.symm⟩

/-- Whatever has been received, and whatever the output holds, the same goes out. -/
theorem process_outbound {c d c' : VoIPComm} (h : c.outbound = d.outbound)
    {output out input : AudioBuffer} {retval : Int32} (output' : AudioBuffer)
    (hc : c.process opus_encode output input = .ok ((retval, out), c')) :
    ∃ out' d', d.process opus_encode output' input = .ok ((retval, out'), d') ∧
      c'.outbound = d'.outbound := by
  rw [eq_of_outbound h]
  by_cases hloop : c.isLoopback = true
  · rw [process, if_pos hloop] at hc
    obtain ⟨hout, rfl⟩ := Prod.mk.inj (Except.ok.inj hc)
    obtain ⟨rfl, -⟩ := Prod.mk.inj hout
    rw [process, if_pos (by exact hloop)]
    exact ⟨_, _, rfl, rfl⟩
  · by_cases hudp : c.isUDP = true
    · rw [Bool.not_eq_true] at hloop
      rw [processUDP_mode opus_encode hloop hudp] at hc
      rw [processUDP_mode opus_encode (by exact hloop) (by exact hudp), transmit_jitterBuffer]
      cases htransmit : c.transmit opus_encode input with
      | error e =>
        rw [htransmit] at hc
        cases hc
      | ok c₁ =>
        rw [htransmit, ok_bind, playFront_eq, pure_eq_ok] at hc
        obtain ⟨hout, rfl⟩ := Prod.mk.inj (Except.ok.inj hc)
        obtain ⟨rfl, -⟩ := Prod.mk.inj hout
        rw [Except.map, ok_bind, playFront_eq]
        exact ⟨_, _, rfl, rfl⟩
    · rw [process, if_neg hloop, if_neg hudp] at hc
      obtain ⟨hout, rfl⟩ := Prod.mk.inj (Except.ok.inj hc)
      obtain ⟨rfl, -⟩ := Prod.mk.inj hout
      rw [process, if_neg (by exact hloop), if_neg (by exact hudp)]
      exact ⟨_, _, rfl, rfl⟩

end VoIPComm

namespace SoundCardImpl

/-- The sound card without what is to be played. -/
def outbound (card : SoundCardImpl) : SoundCardImpl := { card with outputBuffer := .new }

theorem eq_of_outbound {card other : SoundCardImpl} (h : card.outbound = other.outbound) :
    other = { card with outputBuffer := other.outputBuffer } := by
  obtain ⟨⟩ := card
  obtain ⟨⟩ := other
  simp only [outbound, mk.injEq, true_and] at h ⊢
  exact ⟨h.1.symm, h.2.1.symm, h.2.2.1.symm, h.2.2.2.1.symm, h.2.2.2.2.1.symm,
    h.2.2.2.2.2.1.symm, h.2.2.2.2.2.2.1.symm, h.2.2.2.2.2.2.2.symm⟩

theorem adapt_outbound {card other : SoundCardImpl} (h : card.outbound = other.outbound)
    (nFrames : UInt32) : (card.adapt nFrames).outbound = (other.adapt nFrames).outbound := by
  rw [eq_of_outbound h]
  unfold adapt
  by_cases hn : nFrames = card.fs
  · simp only [if_neg (not_not.mpr hn)]
    rfl
  · simp only [if_pos hn]
    rfl

theorem capture_outbound {card other : SoundCardImpl} (h : card.outbound = other.outbound)
    (inBuf : ℕ → UInt8) : card.capture inBuf = other.capture inBuf := by
  change card.outbound.capture inBuf = other.outbound.capture inBuf
  rw [h]

theorem captured_outbound {card other : SoundCardImpl} (h : card.outbound = other.outbound)
    (inBuf : ℕ → UInt8) (output output' : AudioBuffer) :
    outbound { card with inputBuffer := card.capture inBuf, outputBuffer := output } =
      outbound { other with inputBuffer := other.capture inBuf, outputBuffer := output' } := by
  rw [eq_of_outbound h]
  rfl

end SoundCardImpl

namespace System

def isCallback : SystemEvent → Bool
  | .receive .. => false
  | .callback .. => true

def isReceive : SystemEvent → Bool
  | .receive .. => true
  | .callback .. => false

theorem isReceive_eq (e : SystemEvent) : isReceive e = !isCallback e := by
  cases e <;> rfl

/-- The side of the program that captures and sends. -/
def outbound (s : System) : SoundCardImpl × VoIPComm :=
  (s.playout.card.outbound, s.playout.app.outbound)

theorem outbound_callback {p q p' : Playout} (hcard : p.card.outbound = q.card.outbound)
    (happ : p.app.outbound = q.app.outbound) {opus_encode : OpusEncode} {inBuf : ℕ → UInt8}
    {nFrames : UInt32} {o : Option CallbackResult}
    (h : p.step (.callback opus_encode inBuf nFrames) = .ok (o, p')) :
    ∃ o' q', q.step (.callback opus_encode inBuf nFrames) = .ok (o', q') ∧
      p'.card.outbound = q'.card.outbound ∧ p'.app.outbound = q'.app.outbound := by
  have hadapt := SoundCardImpl.adapt_outbound hcard nFrames
  have hcapture := SoundCardImpl.capture_outbound hadapt inBuf
  cases hprocess : p.app.process opus_encode (p.card.adapt nFrames).outputBuffer
      ((p.card.adapt nFrames).capture inBuf) with
  | error e =>
    rw [Playout.step_callback_error p opus_encode inBuf nFrames hprocess] at h
    cases h
  | ok r =>
    obtain ⟨⟨retval, output⟩, app⟩ := r
    rw [Playout.step_callback_ok p opus_encode inBuf nFrames hprocess] at h
    obtain ⟨-, rfl⟩ := Prod.mk.inj (Except.ok.inj h)
    obtain ⟨output', app', hprocess', happ'⟩ := VoIPComm.process_outbound opus_encode happ
      (q.card.adapt nFrames).outputBuffer hprocess
    rw [hcapture] at hprocess'
    exact ⟨_, _, Playout.step_callback_ok q opus_encode inBuf nFrames hprocess',
      SoundCardImpl.captured_outbound hadapt inBuf output output', happ'⟩

theorem sees_outbound : Sees step outbound isCallback where
  ignored := by
    intro s e o s' hown h
    cases e with
    | callback opus_encode inBuf nFrames => cases hown
    | receive opus_decode packet =>
      obtain ⟨-, hsame | ⟨data, frame, -, -, hadd⟩⟩ := step_receive_cases h
      · rw [outbound, hsame, outbound]
      · obtain ⟨-, happ⟩ := Prod.mk.inj (Except.ok.inj hadd)
        rw [outbound, ← happ]
        rfl
  determined := by
    intro s t e o s' hown hview h
    cases e with
    | receive opus_decode packet => cases hown
    | callback opus_encode inBuf nFrames =>
      obtain ⟨hcard, happ⟩ := Prod.mk.inj hview
      obtain ⟨o', q', hq, hcard', happ'⟩ := outbound_callback hcard happ (step_callback h).1
      refine ⟨o', { t with playout := q' }, ?_, Prod.ext hcard' happ'⟩
      rw [step, hq, ok_bind]
      rfl

/-- What the receive loop keeps does not depend on the buffer that it adds to. -/
theorem receive_receiver {opus_decode : OpusDecode} {r r' : Receiver} {jb jb' : SimpleJB}
    {packet : Bytes} (h : r.receive opus_decode jb packet = .ok (r', jb')) (other : SimpleJB) :
    ∃ other', r.receive opus_decode other packet = .ok (r', other') := by
  rw [Receiver.receive_eq] at h ⊢
  cases hhandle : r.depacker.handle r.payloadType packet with
  | error e =>
    rw [hhandle] at h
    cases h
  | ok handled =>
    obtain ⟨payload, depacker⟩ := handled
    rw [hhandle, ok_bind] at h
    rw [ok_bind]
    cases payload with
    | none =>
      obtain ⟨rfl, -⟩ := Prod.mk.inj (Except.ok.inj h)
      exact ⟨other, rfl⟩
    | some data =>
      simp only [Receiver.deliver] at h ⊢
      by_cases hpt : r.payloadType = OPUS_PAYLOADTYPE
      · rw [if_pos hpt] at h ⊢
        cases hdecode : r.decoder.decode opus_decode data [] with
        | error e =>
          rw [hdecode] at h
          cases h
        | ok decoded =>
          rw [hdecode] at h
          obtain ⟨rfl, -⟩ := Prod.mk.inj (Except.ok.inj h)
          exact ⟨_, rfl⟩
      · rw [if_neg hpt] at h ⊢
        obtain ⟨rfl, -⟩ := Prod.mk.inj (Except.ok.inj h)
        exact ⟨_, rfl⟩

theorem sees_receiver : Sees step receiver isReceive where
  ignored := by
    intro s e o s' hown h
    cases e with
    | receive opus_decode packet => cases hown
    | callback opus_encode inBuf nFrames => exact (step_callback h).2
  determined := by
    intro s t e o s' hown hview h
    cases e with
    | callback opus_encode inBuf nFrames => cases hown
    | receive opus_decode packet =>
      cases hreceive : s.receiver.receive opus_decode s.playout.app.jitterBuffer packet with
      | error e => simp [step, hreceive] at h
      | ok r =>
        obtain ⟨receiver, jitterBuffer⟩ := r
        simp only [step, hreceive, ok_bind, pure_eq_ok, Except.ok.injEq, Prod.mk.injEq] at h
        obtain ⟨-, rfl⟩ := h
        obtain ⟨other, hother⟩ := receive_receiver hreceive t.playout.app.jitterBuffer
        rw [hview] at hother
        let app := { t.playout.app with jitterBuffer := other }
        refine ⟨none, ⟨{ t.playout with app }, receiver⟩, ?_, rfl⟩
        rw [step, hother, ok_bind]
        rfl

theorem spills_outbound (s t : System) (e : SystemEvent) (hown : isCallback e = true)
    (hview : s.outbound = t.outbound) : s.spills e = t.spills e := by
  cases e with
  | receive opus_decode packet => cases hown
  | callback opus_encode inBuf nFrames =>
    obtain ⟨hcard, happ⟩ := Prod.mk.inj hview
    have hcapture := SoundCardImpl.capture_outbound
      (SoundCardImpl.adapt_outbound hcard nFrames) inBuf
    rw [spills, spills, hcapture, VoIPComm.eq_of_outbound happ]

theorem spills_receiver (s t : System) (e : SystemEvent) (hown : isReceive e = true)
    (hview : s.receiver = t.receiver) : s.spills e = t.spills e := by
  cases e with
  | callback opus_encode inBuf nFrames => cases hown
  | receive opus_decode packet => rw [spills, spills, hview]

/-- Without datagrams there is nothing to take out of the jitter buffer. -/
theorem along_callbacks {s : System} (hs : InCall s)
    (hbuffer : s.playout.app.jitterBuffer.dataBuffer = []) (events : List SystemEvent) :
    Along step (fun s e => s.overflows e = false) s (events.filter isCallback) := by
  refine along_of_along
    (fun s => InCall s ∧ s.playout.app.jitterBuffer.dataBuffer = []) ?_ ?_ ⟨hs, hbuffer⟩
    (along_of_forall (fun e he => (List.mem_filter.mp he).2) s)
  · rintro s e o s' ⟨hs, hbuffer⟩ hown h
    refine ⟨inCall_step hs h, ?_⟩
    cases e with
    | receive opus_decode packet => cases hown
    | callback opus_encode inBuf nFrames =>
      obtain ⟨result, -, -, -, -, hjitter, -⟩ :=
        s.playout.step_callback_cases _ _ _ hs.isLoopback hs.isUDP (step_callback h).1
      rw [hjitter, SimpleJB.getFrontData, hbuffer]
      exact hbuffer
  · rintro s e ⟨-, hbuffer⟩ hown
    cases e with
    | receive opus_decode packet => rfl
    | callback opus_encode inBuf nFrames => rw [overflows, SimpleJB.overruns, hbuffer]; rfl

theorem along_receives (s : System) (events : List SystemEvent) :
    Along step (fun s e => s.overflows e = false) s (events.filter isReceive) := by
  refine along_of_along (fun _ => True) (fun _ _ _ _ _ _ _ => trivial) ?_ trivial
    (along_of_forall (fun e he => (List.mem_filter.mp he).2) s)
  rintro s e - hown
  cases e with
  | receive opus_decode packet => rfl
  | callback opus_encode inBuf nFrames => cases hown

/-- A run ends without a fault just if the callbacks alone and the receive loop alone do, and no
callback takes a packet that is too long for it. Two such runs with the same callbacks have sent the
same, and with the same datagrams they have the same receiver, however the ones are interleaved with
the others. -/
theorem directions_independent {packer : RtpPacker} {audio : RtAudio} {inDev outDev : Int32}
    {payloadType : UInt32} {s : System}
    (hstart : (new packer).startUDP audio inDev outDev payloadType = some s)
    (events : List SystemEvent) :
    ((∃ r, drive checked s events = .ok r) ↔
        (∃ r, drive checked s (events.filter isCallback) = .ok r) ∧
          (∃ r, drive checked s (events.filter isReceive) = .ok r) ∧
          Along step (fun s e => s.overflows e = false) s events) ∧
      ∀ events' os s₁ os' s₂, drive checked s events = .ok (os, s₁) →
        drive checked s events' = .ok (os', s₂) →
        (events.filter isCallback = events'.filter isCallback → s₁.outbound = s₂.outbound) ∧
          (events.filter isReceive = events'.filter isReceive → s₁.receiver = s₂.receiver) := by
  have hs := inCall_start hstart
  have hbuffer := congrArg SimpleJB.dataBuffer (startUDP_app hstart).2.2
  constructor
  · rw [exists_checked_iff hs, exists_checked_iff hs, exists_checked_iff hs,
      and_iff_left (along_callbacks hs hbuffer events), and_iff_left (along_receives s events),
      ← and_assoc]
    exact and_congr_left' (drive_ok_iff_purges (sees_outbound.guarded spills_outbound)
      (sees_receiver.guarded spills_receiver) isReceive_eq s events)
  · intro events' os s₁ os' s₂ h₁ h₂
    have hrun₁ := (drive_guarded_eq_ok_iff.mp h₁).1
    have hrun₂ := (drive_guarded_eq_ok_iff.mp h₂).1
    exact ⟨view_eq_of_purge_eq sees_outbound hrun₁ hrun₂,
      view_eq_of_purge_eq sees_receiver hrun₁ hrun₂⟩

def tone : SystemEvent := .callback (fun _ _ _ => ⟨0, []⟩) (fun _ => 42) 2

def datagram (number : UInt8) (payload : Bytes) : SystemEvent :=
  .receive (fun _ _ => ⟨0, []⟩) ([0x80, 11, 0, number, 0, 0, 0, 0, 0, 0, 0, 9] ++ payload)

/-- A payload of six bytes does no harm, nor does a callback of two frames; only the one behind the
other does. -/
theorem directions_independent_tone :
    ∃ s, (new (.new 1 0 7)).startUDP ⟨0, 1, some 2⟩ (-1) (-1) 11 = some s ∧
      drive checked s [datagram 1 [1, 2, 3, 4, 5, 6], tone] = .error .overrun ∧
      ∃ os s₁ os' s₂,
        drive checked s [tone, datagram 1 [1, 2, 3, 4, 5, 6]] = .ok (os, s₁) ∧
          drive checked s [datagram 7 [1], datagram 1 [], tone] = .ok (os', s₂) ∧
          s₁.outbound = s₂.outbound := by
  have hruns : ∃ s, (new (.new 1 0 7)).startUDP ⟨0, 1, some 2⟩ (-1) (-1) 11 = some s ∧
      drive checked s [datagram 1 [1, 2, 3, 4, 5, 6], tone] = .error .overrun ∧
      ∃ os s₁ os' s₂,
        drive checked s [tone, datagram 1 [1, 2, 3, 4, 5, 6]] = .ok (os, s₁) ∧
          drive checked s [datagram 7 [1], datagram 1 [], tone] = .ok (os', s₂) :=
    ⟨_, rfl, rfl, _, _, _, _, rfl, rfl⟩
  obtain ⟨s, hstart, hoverrun, os, s₁, os', s₂, h₁, h₂⟩ := hruns
  exact ⟨s, hstart, hoverrun, os, s₁, os', s₂, h₁, h₂,
    ((directions_independent hstart _).2 _ os s₁ os' s₂ h₁ h₂).1 rfl⟩

end System

end Voip
