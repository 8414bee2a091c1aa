import Voip.App.System

/-! A call in Opus mode, from its start on: what one callback does with what it has captured. -/

namespace Voip

open Base

structure OpusCall (p : Playout) : Prop where
  shaped : p.card.Shaped 2 2 .INT16
  isOpus : p.app.isOpus = true
  isLoopback : p.app.isLoopback = false
  isUDP : p.app.isUDP = true
  framesize : p.app.encoder.framesize = 480

/-- The size of the input buffer for `nFrames` frames of two channels. -/
def capturedBytes (nFrames : UInt32) : ℕ := (AudioBuffer.bufferSize nFrames 2 .INT16).toNat

theorem capturedBytes_eq (nFrames : UInt32) :
    capturedBytes nFrames = 4 * nFrames.toNat % UInt32.size := by
  have hbits : (SampleFormat.INT16.bits / 8).toNat = 2 := by decide
  rw [capturedBytes, AudioBuffer.bufferSize, UInt32.toNat_mul, UInt32.toNat_mul, hbits]
  change nFrames.toNat * 2 % 4294967296 * 2 % 4294967296 = 4 * nFrames.toNat % 4294967296
  omega

namespace System

theorem startUDP_opus {packer : RtpPacker} {audio : RtAudio} {inDev outDev : Int32} {s : System}
    (h : (new packer).startUDP audio inDev outDev 100 = some s) :
    OpusCall s.playout ∧ s.playout.app.sender = .new := by
  obtain ⟨channels, sampleRate, frameSize, hparameters, hcard, happ⟩ := startUDP_cases h
  have hopus : udpParameters 100 = some (2, 48000, 480) := rfl
  cases hopus.symm.trans hparameters
  refine ⟨?_, congrArg VoIPComm.sender happ⟩
  constructor
  · exact SoundCardImpl.shaped_init hcard
  · exact congrArg VoIPComm.isOpus happ
  · exact congrArg VoIPComm.isLoopback happ
  · exact congrArg VoIPComm.isUDP happ
  · exact congrArg (fun app => app.encoder.framesize) happ

theorem exists_startUDP_opus :
    ∃ s, (new (.new 1 0 7)).startUDP ⟨0, 1, some 480⟩ (-1) (-1) 100 = some s := ⟨_, rfl⟩

end System

namespace Playout

section
variable {p : Playout} (hp : OpusCall p) (inBuf : ℕ → UInt8) (nFrames : UInt32)
include hp

theorem size_captured :
    ((p.card.adapt nFrames).capture inBuf).size = capturedBytes nFrames := by
  obtain ⟨hshaped, hfs⟩ := p.card.shaped_adapt hp.shaped nFrames
  rw [SoundCardImpl.size_capture, hshaped.input_size, hfs, capturedBytes]

theorem getD_captured {i : ℕ} (h : i < capturedBytes nFrames) :
    ((p.card.adapt nFrames).capture inBuf).data.getD i 0 = inBuf i := by
  have hlt : i < ((p.card.adapt nFrames).capture inBuf).data.length :=
    h.trans_eq (size_captured hp inBuf nFrames).symm
  rw [List.getD_eq_getElem _ _ hlt]
  simp only [SoundCardImpl.capture, List.getElem_map, List.getElem_range]

theorem samples_captured (h : 1920 ≤ capturedBytes nFrames) :
    pcmSamples (fun i => ((p.card.adapt nFrames).capture inBuf).data.getD i 0) 960 =
      pcmSamples inBuf 960 :=
  pcmSamples_congr fun i hi => getD_captured hp inBuf nFrames (by omega)

variable (opus_encode : OpusEncode)

/-- One block is passed to the library, the first 960 of the captured samples. -/
theorem step_callback_opus (h : 1920 ≤ capturedBytes nFrames) :
    ∃ result p', p.step (.callback opus_encode inBuf nFrames) = .ok (some result, p') ∧
      OpusCall p' ∧
      p'.app.sender =
        (p.app.sendEncoded (opus_encode (pcmSamples inBuf 960) 480 1276)).sender := by
  have hsize := size_captured hp inBuf nFrames
  have htransmit := VoIPComm.transmit_opus opus_encode hp.isOpus (h.trans_eq hsize.symm)
  rw [samples_captured hp inBuf nFrames h, hp.framesize] at htransmit
  obtain ⟨result, p', hstep, hshaped, jitterBuffer, happ⟩ :=
    step_callback_of_transmit p opus_encode inBuf nFrames hp.shaped hp.isLoopback hp.isUDP htransmit
  refine ⟨result, p', hstep, ?_, ?_⟩
  · constructor
    · exact hshaped
    all_goals rw [happ]
    · exact hp.isOpus
    · exact hp.isLoopback
    · exact hp.isUDP
    · exact hp.framesize
  · rw [happ]

end

theorem step_add_opus {p : Playout} (hp : OpusCall p) (data : Bytes) :
    ∃ p', p.step (.add data) = .ok (none, p') ∧ OpusCall p' ∧ p'.app.sender = p.app.sender :=
  ⟨_, rfl, ⟨hp.shaped, hp.isOpus, hp.isLoopback, hp.isUDP, hp.framesize⟩, rfl⟩

end Playout

end Voip
