import Voip.App.System

/-! Writes past the end of a buffer. The copies to and from the sound card, the one out of the
jitter buffer and the arrays that libopus is given are plain pointers; a run counts as one without
faults only if none of them is followed too far. -/

namespace Voip

open Base AudioBuffer

namespace AudioEncoder

/-- The library writes more than `out` has room for. -/
def overruns (opus_encode : OpusEncode) (e : AudioEncoder) (inputData : Bytes) : Bool :=
  match readSamples inputData (OPUS_CHANNELS * OPUS_FRAMESIZE) with
  | .ok samples => e.out.length < (opus_encode samples e.framesize 1276).written.length
  | .error _ => false

end AudioEncoder

namespace AudioDecoder

-- the library is not called for an empty vector, whose `at(0)` throws
def overruns (opus_decode : OpusDecode) (d : AudioDecoder) (inputData : Bytes) : Bool :=
  inputData ≠ [] ∧
    d.out.length < (opus_decode inputData (OPUS_CHANNELS * OPUS_FRAMESIZE)).written.length

end AudioDecoder

namespace SimpleJB

/-- `getFrontData` copies the whole packet, whatever `out` has room for. -/
def overruns (jb : SimpleJB) (out : Bytes) : Bool :=
  jb.dataBuffer.head?.any fun packet => out.length < packet.length

end SimpleJB

namespace VoIPComm

def overruns (opus_encode : OpusEncode) (c : VoIPComm) (output input : AudioBuffer) : Bool :=
  !c.isLoopback && c.isUDP &&
    (c.isOpus && c.encoder.overruns opus_encode input.data || c.jitterBuffer.overruns output.data)

end VoIPComm

namespace Receiver

def overruns (opus_decode : OpusDecode) (r : Receiver) (packet : Bytes) : Bool :=
  match r.depacker.handle r.payloadType packet with
  | .ok (some data, _) =>
    r.payloadType = OPUS_PAYLOADTYPE && r.decoder.overruns opus_decode data
  | _ => false

end Receiver

namespace Playout

def overruns (p : Playout) : PlayoutEvent → Bool
  | .add _ => false
  | .callback opus_encode inBuf nFrames =>
    let card := p.card.adapt nFrames
    let input := card.capture inBuf
    p.app.overruns opus_encode card.outputBuffer input ||
      -- the driver's own memory, into which the output buffer is copied at the end
      frameBytes nFrames card.outputParameters.nChannels card.fmt <
        (if p.app.isLoopback then input.size else card.outputBuffer.size)

/-- A step in which nothing is written past the end of its buffer. -/
def checked : Playout → PlayoutEvent → Except Fault (Option CallbackResult × Playout) :=
  guarded step overruns .overrun

theorem length_le_of_not_overruns {p : Playout} (hloop : p.app.isLoopback = false)
    (hudp : p.app.isUDP = true) {opus_encode : OpusEncode} {inBuf : ℕ → UInt8} {nFrames : UInt32}
    (h : p.overruns (.callback opus_encode inBuf nFrames) = false) {packet : Bytes}
    (hfront : p.app.jitterBuffer.dataBuffer.head? = some packet) :
    packet.length ≤ (p.card.adapt nFrames).outputBuffer.size := by
  simp only [overruns, VoIPComm.overruns, hloop, hudp, SimpleJB.overruns, hfront, Option.any_some,
    Bool.not_false, Bool.true_and, Bool.or_eq_false_iff, decide_eq_false_iff_not, not_lt] at h
  exact h.1.2

theorem shaped_of_callback {p p' : Playout} {ch : UInt32} (hshaped : p.card.Shaped ch ch .INT16)
    (hloop : p.app.isLoopback = false) (hudp : p.app.isUDP = true) {opus_encode : OpusEncode}
    {inBuf : ℕ → UInt8} {nFrames : UInt32} {o : Option CallbackResult}
    (h : p.step (.callback opus_encode inBuf nFrames) = .ok (o, p')) :
    p'.card.Shaped ch ch .INT16 := by
  have hprocess := VoIPComm.processUDP_mode opus_encode hloop hudp
    (p.card.adapt nFrames).outputBuffer ((p.card.adapt nFrames).capture inBuf)
  cases htransmit : p.app.transmit opus_encode ((p.card.adapt nFrames).capture inBuf) with
  | error e =>
    rw [htransmit, error_bind] at hprocess
    rw [step_callback_error p opus_encode inBuf nFrames hprocess] at h
    cases h
  | ok app =>
    obtain ⟨result, q, hstep, hq, -⟩ :=
      p.step_callback_of_transmit opus_encode inBuf nFrames hshaped hloop hudp htransmit
    obtain ⟨-, rfl⟩ := Prod.mk.inj (Except.ok.inj (hstep.symm.trans h))
    exact hq

end Playout

namespace System

def overruns (s : System) : SystemEvent → Bool
  | .receive opus_decode packet => s.receiver.overruns opus_decode packet
  | .callback opus_encode inBuf nFrames => s.playout.overruns (.callback opus_encode inBuf nFrames)

def checked : System → SystemEvent → Except Fault (Option CallbackResult × System) :=
  guarded step overruns .overrun

/-! ## In a call -/

/-- The library writes past the end of the array that it is given. -/
def spills (s : System) : SystemEvent → Bool
  | .receive opus_decode packet => s.receiver.overruns opus_decode packet
  | .callback opus_encode inBuf nFrames =>
    s.playout.app.isOpus &&
      s.playout.app.encoder.overruns opus_encode ((s.playout.card.adapt nFrames).capture inBuf).data

/-- A callback takes a packet that is longer than its output buffer. -/
def overflows (s : System) : SystemEvent → Bool
  | .receive .. => false
  | .callback _ _ nFrames =>
    s.playout.app.jitterBuffer.overruns (s.playout.card.adapt nFrames).outputBuffer.data

structure InCall (s : System) : Prop where
  shaped : ∃ ch, s.playout.card.Shaped ch ch .INT16
  isLoopback : s.playout.app.isLoopback = false
  isUDP : s.playout.app.isUDP = true

theorem inCall_start {packer : RtpPacker} {audio : RtAudio} {inDev outDev : Int32}
    {payloadType : UInt32} {s : System}
    (h : (new packer).startUDP audio inDev outDev payloadType = some s) : InCall s := by
  obtain ⟨channels, sampleRate, frameSize, -, hcard, -⟩ := startUDP_cases h
  obtain ⟨hloop, hudp, -⟩ := startUDP_app h
  exact ⟨⟨channels, SoundCardImpl.shaped_init hcard⟩, hloop, hudp⟩

theorem inCall_step {s s' : System} {e : SystemEvent} {o : Option CallbackResult} (hs : InCall s)
    (h : s.step e = .ok (o, s')) : InCall s' := by
  cases e with
  | receive opus_decode packet =>
    obtain ⟨-, hsame | ⟨data, frame, -, -, hadd⟩⟩ := step_receive_cases h
    · exact ⟨hsame ▸ hs.shaped, hsame ▸ hs.isLoopback, hsame ▸ hs.isUDP⟩
    · obtain ⟨-, hadded⟩ := Prod.mk.inj (Except.ok.inj hadd)
      exact ⟨hadded ▸ hs.shaped, hadded ▸ hs.isLoopback, hadded ▸ hs.isUDP⟩
  | callback opus_encode inBuf nFrames =>
    obtain ⟨hstep, -⟩ := step_callback h
    obtain ⟨ch, hshaped⟩ := hs.shaped
    obtain ⟨-, -, hmodes, -⟩ :=
      s.playout.step_callback_cases _ _ _ hs.isLoopback hs.isUDP hstep
    exact ⟨⟨ch, Playout.shaped_of_callback hshaped hs.isLoopback hs.isUDP hstep⟩,
      hmodes.2.1.trans hs.isLoopback, hmodes.2.2.trans hs.isUDP⟩

/-- What is left to go wrong: the copy into the driver's memory always fits. -/
theorem overruns_eq {s : System} (hs : InCall s) (e : SystemEvent) :
    s.overruns e = (s.spills e || s.overflows e) := by
  cases e with
  | receive opus_decode packet => exact (Bool.or_false _).symm
  | callback opus_encode inBuf nFrames =>
    obtain ⟨ch, hshaped⟩ := hs.shaped
    obtain ⟨hadapted, hfs⟩ := s.playout.card.shaped_adapt hshaped nFrames
    have hsize : (s.playout.card.adapt nFrames).outputBuffer.size ≤
        frameBytes nFrames (s.playout.card.adapt nFrames).outputParameters.nChannels
          (s.playout.card.adapt nFrames).fmt := by
      rw [hadapted.output_size, hfs, hadapted.output_channels, hadapted.fmt_eq,
        bufferSize_toNat_mod]
      exact Nat.mod_le ..
    simp only [overruns, Playout.overruns, VoIPComm.overruns, hs.isLoopback, hs.isUDP, spills,
      overflows, Bool.not_false, Bool.true_and, Bool.false_eq_true, if_false,
      decide_eq_false (Nat.not_lt.mpr hsize), Bool.or_false]

/-- A step in which libopus keeps to the arrays that it is given. -/
def contained : System → SystemEvent → Except Fault (Option CallbackResult × System) :=
  guarded step spills .overrun

theorem exists_checked_iff {s : System} (hs : InCall s) (events : List SystemEvent) :
    (∃ r, drive checked s events = .ok r) ↔
      (∃ r, drive contained s events = .ok r) ∧
        Along step (fun s e => s.overflows e = false) s events := by
  have hrooms : Along step (fun s e => s.overruns e = false) s events ↔
      Along step (fun s e => s.spills e = false) s events ∧
        Along step (fun s e => s.overflows e = false) s events := by
    rw [← along_and_iff]
    constructor
    · refine along_of_along InCall (fun s e o s' hs _ h => inCall_step hs h) (fun s e hs h => ?_) hs
      rwa [overruns_eq hs, Bool.or_eq_false_iff] at h
    · refine along_of_along InCall (fun s e o s' hs _ h => inCall_step hs h) (fun s e hs h => ?_) hs
      rwa [overruns_eq hs, Bool.or_eq_false_iff]
  simp only [checked, contained, drive_guarded_eq_ok_iff, hrooms, exists_and_right, and_assoc]

end System

end Voip
