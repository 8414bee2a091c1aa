import Voip.App.VoIPComm
import Voip.Base.Machine

/-! The sound card's callbacks and the packets that arrive between them, each operation whole. -/

namespace Voip

structure Playout where
  card : SoundCardImpl
  app : VoIPComm
  deriving DecidableEq

inductive PlayoutEvent where
  | add (data : Bytes)
  | callback (opus_encode : OpusEncode) (inBuf : ℕ → UInt8) (nFrames : UInt32)

namespace Playout

def frames : PlayoutEvent → Option UInt32
  | .add _ => none
  | .callback _ _ nFrames => some nFrames

def step (p : Playout) : PlayoutEvent → Except Fault (Option CallbackResult × Playout)
  | .add data =>
    pure (none, { p with app := { p.app with jitterBuffer := p.app.jitterBuffer.add data } })
  | .callback opus_encode inBuf nFrames => do
    let (result, (card, app)) ←
      p.card.callback (VoIPComm.process opus_encode) p.app inBuf nFrames
    pure (some result, { card, app })

section
variable (p : Playout) (opus_encode : OpusEncode) (inBuf : ℕ → UInt8) (nFrames : UInt32)

theorem step_callback_ok {retval : Int32} {output : AudioBuffer} {app : VoIPComm}
    (h : p.app.process opus_encode (p.card.adapt nFrames).outputBuffer
      ((p.card.adapt nFrames).capture inBuf) = .ok ((retval, output), app)) :
    p.step (.callback opus_encode inBuf nFrames) =
      .ok (some ⟨((p.card.adapt nFrames).capture inBuf).data, output.data, retval⟩,
        ⟨{ p.card.adapt nFrames with
          inputBuffer := (p.card.adapt nFrames).capture inBuf, outputBuffer := output }, app⟩) := by
  rw [step, SoundCardImpl.callback, h]
  rfl

theorem step_callback_error {e : Fault}
    (h : p.app.process opus_encode (p.card.adapt nFrames).outputBuffer
      ((p.card.adapt nFrames).capture inBuf) = .error e) :
    p.step (.callback opus_encode inBuf nFrames) = .error e := by
  rw [step, SoundCardImpl.callback, h]
  rfl

/-- In UDP mode a callback is what `transmit` does, and a packet taken out of the buffer. -/
theorem step_callback_of_transmit {ch : UInt32} {app : VoIPComm}
    (hshaped : p.card.Shaped ch ch .INT16) (hloop : p.app.isLoopback = false)
    (hudp : p.app.isUDP = true)
    (h : p.app.transmit opus_encode ((p.card.adapt nFrames).capture inBuf) = .ok app) :
    ∃ result p', p.step (.callback opus_encode inBuf nFrames) = .ok (some result, p') ∧
      p'.card.Shaped ch ch .INT16 ∧ ∃ jitterBuffer, p'.app = { app with jitterBuffer } := by
  have hprocess := VoIPComm.processUDP_mode opus_encode hloop hudp
    (p.card.adapt nFrames).outputBuffer ((p.card.adapt nFrames).capture inBuf)
  rw [h, ok_bind, VoIPComm.playFront_eq, pure_eq_ok] at hprocess
  obtain ⟨hadapted, -⟩ := p.card.shaped_adapt hshaped nFrames
  exact ⟨_, _, step_callback_ok p opus_encode inBuf nFrames hprocess,
    SoundCardImpl.shaped_callback hadapted inBuf (SimpleJB.length_getFrontData ..), _, rfl⟩

/-- All that a callback without a fault can do in UDP mode. -/
theorem step_callback_cases {p' : Playout} {o : Option CallbackResult}
    (hloop : p.app.isLoopback = false) (hudp : p.app.isUDP = true)
    (h : p.step (.callback opus_encode inBuf nFrames) = .ok (o, p')) :
    ∃ result, o = some result ∧ p.app.SameModes p'.app ∧
      p'.card.fs = (p.card.adapt nFrames).fs ∧
      p'.card.outputBuffer.data =
        (p.app.jitterBuffer.getFrontData (p.card.adapt nFrames).outputBuffer.data).1 ∧
      p'.app.jitterBuffer =
        (p.app.jitterBuffer.getFrontData (p.card.adapt nFrames).outputBuffer.data).2 ∧
      result.toOut = p'.card.outputBuffer.data := by
  have hprocess := VoIPComm.processUDP_mode opus_encode hloop hudp
    (p.card.adapt nFrames).outputBuffer ((p.card.adapt nFrames).capture inBuf)
  by_cases hshort : p.app.isOpus = true ∧ ((p.card.adapt nFrames).capture inBuf).size < 1920
  · rw [VoIPComm.transmit_throws opus_encode hshort.1 hshort.2] at hprocess
    rw [step_callback_error p opus_encode inBuf nFrames hprocess] at h
    cases h
  · obtain ⟨c', htransmit, hmodes, hbuffer⟩ := VoIPComm.transmit_ok opus_encode
      fun hopus => Nat.le_of_not_lt fun hlt => hshort ⟨hopus, hlt⟩
    rw [htransmit, ok_bind, VoIPComm.playFront_eq, hbuffer, pure_eq_ok] at hprocess
    rw [step_callback_ok p opus_encode inBuf nFrames hprocess] at h
    obtain ⟨rfl, rfl⟩ := Prod.mk.inj (Except.ok.inj h)
    exact ⟨_, rfl, hmodes, rfl, rfl, rfl, rfl⟩

end

end Playout

end Voip
