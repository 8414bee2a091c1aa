import Voip.App.BufferSizes
import Voip.App.System
import Voip.Rtp.Header

/-! Raw frames of any size, from the driver to the datagrams that go out. The sound card follows the
driver's frame count, and every callback is one packet. -/

namespace Voip

open Base AudioBuffer

structure RawCall (ch : UInt32) (p : Playout) : Prop where
  shaped : p.card.Shaped ch ch .INT16
  isOpus : p.app.isOpus = false
  isLoopback : p.app.isLoopback = false
  isUDP : p.app.isUDP = true

/-- The channels of payload types 10 and 11. -/
def rawChannels (payloadType : UInt32) : UInt32 := if payloadType = 10 then 2 else 1

namespace System

theorem startUDP_raw {packer : RtpPacker} {audio : RtAudio} {inDev outDev : Int32}
    {payloadType : UInt32} {s : System} (hpt : payloadType = 10 ∨ payloadType = 11)
    (h : (new packer).startUDP audio inDev outDev payloadType = some s) :
    RawCall (rawChannels payloadType) s.playout ∧ s.playout.app.sender = .new ∧
      s.playout.app.packer = packer.init payloadType.toUInt8 := by
  obtain ⟨channels, sampleRate, frameSize, hparameters, hcard, happ⟩ := startUDP_cases h
  have hraw : udpParameters payloadType = some (rawChannels payloadType, 44100, 512) := by
    rcases hpt with rfl | rfl <;> rfl
  have hopus : payloadType ≠ OPUS_PAYLOADTYPE.toUInt32 := by
    rcases hpt with rfl | rfl <;> decide
  cases hraw.symm.trans hparameters
  rw [if_neg hopus, if_neg hopus] at happ
  refine ⟨?_, congrArg VoIPComm.sender happ, congrArg VoIPComm.packer happ⟩
  constructor
  · exact SoundCardImpl.shaped_init hcard
  · exact congrArg VoIPComm.isOpus happ
  · exact congrArg VoIPComm.isLoopback happ
  · exact congrArg VoIPComm.isUDP happ

theorem exists_startUDP_raw (packer : RtpPacker) (granted : UInt32) {payloadType : UInt32}
    (hpt : payloadType = 10 ∨ payloadType = 11) :
    ∃ s, (new packer).startUDP ⟨0, 1, some granted⟩ (-1) (-1) payloadType = some s := by
  rcases hpt with rfl | rfl <;> exact ⟨_, rfl⟩

end System

namespace Playout

/-- The bytes of a callback's frames. -/
def rawCaptured (ch : UInt32) : PlayoutEvent → Option Bytes
  | .add _ => none
  | .callback _ inBuf nFrames => some ((List.range (frameBytes nFrames ch .INT16)).map inBuf)

/-- The packet fits in a UDP datagram. -/
def FitsDatagram (ch : UInt32) (e : PlayoutEvent) : Prop :=
  ∀ nFrames ∈ frames e, 12 + frameBytes nFrames ch .INT16 ≤ 65507

section
variable {ch : UInt32} {p : Playout}

theorem step_callback_raw (hp : RawCall ch p) (opus_encode : OpusEncode) (inBuf : ℕ → UInt8)
    {nFrames : UInt32} (hfits : frameBytes nFrames ch .INT16 < UInt32.size) :
    ∃ result p', p.step (.callback opus_encode inBuf nFrames) = .ok (some result, p') ∧
      RawCall ch p' ∧
      p'.app.sender.sent = p.app.sender.sent ++
        [(p.app.packer.pack ((List.range (frameBytes nFrames ch .INT16)).map inBuf)).1] ∧
      p'.app.packer =
        (p.app.packer.pack ((List.range (frameBytes nFrames ch .INT16)).map inBuf)).2 := by
  obtain ⟨hin, hout⟩ := sizes_adapt hp.shaped hfits hfits
  have hdata : ((p.card.adapt nFrames).capture inBuf).data =
      (List.range (frameBytes nFrames ch .INT16)).map inBuf :=
    congrArg (fun n => (List.range n).map inBuf) hin
  have htransmit := VoIPComm.transmit_raw opus_encode hp.isOpus
    ((p.card.adapt nFrames).capture inBuf)
  rw [hdata] at htransmit
  obtain ⟨result, p', hstep, hshaped, jitterBuffer, happ⟩ :=
    step_callback_of_transmit p opus_encode inBuf nFrames hp.shaped hp.isLoopback hp.isUDP htransmit
  refine ⟨result, p', hstep, ?_, ?_, ?_⟩
  · constructor
    · exact hshaped
    all_goals rw [happ]
    · exact hp.isOpus
    · exact hp.isLoopback
    · exact hp.isUDP
  · rw [happ]
    rfl
  · rw [happ]

theorem step_add_raw (hp : RawCall ch p) (data : Bytes) :
    ∃ p', p.step (.add data) = .ok (none, p') ∧ RawCall ch p' ∧
      p'.app.sender = p.app.sender ∧ p'.app.packer = p.app.packer :=
  ⟨_, rfl, ⟨hp.shaped, hp.isOpus, hp.isLoopback, hp.isUDP⟩, rfl, rfl⟩

/-- What has been sent, and what the packer would make of further payloads, is what it would have
made of all of them. -/
structure PackedSoFar (ch : UInt32) (packer : RtpPacker) (past : List PlayoutEvent)
    (p : Playout) : Prop extends RawCall ch p where
  sent_packAll : ∀ rest, p.app.sender.sent ++ p.app.packer.packAll rest =
    packer.packAll (past.filterMap (rawCaptured ch) ++ rest)

theorem packedSoFar_step {packer : RtpPacker} {past : List PlayoutEvent} {e : PlayoutEvent}
    (hp : PackedSoFar ch packer past p) (he : FitsDatagram ch e) :
    ∃ o p', p.step e = .ok (o, p') ∧ PackedSoFar ch packer (past ++ [e]) p' := by
  cases e with
  | add data =>
    obtain ⟨p', hstep, hraw, hsender, hpacker⟩ := step_add_raw hp.toRawCall data
    refine ⟨none, p', hstep, hraw, fun rest => ?_⟩
    rw [hsender, hpacker, hp.sent_packAll, List.filterMap_append]
    exact congrArg (fun c => packer.packAll (c ++ rest)) (List.append_nil _).symm
  | callback opus_encode inBuf nFrames =>
    have hsize : frameBytes nFrames ch .INT16 < 4294967296 := by
      have hfits := he nFrames rfl
      omega
    obtain ⟨result, p', hstep, hraw, hsent, hpacker⟩ :=
      step_callback_raw hp.toRawCall opus_encode inBuf hsize
    refine ⟨some result, p', hstep, hraw, fun rest => ?_⟩
    have hpacked := hp.sent_packAll
      ((List.range (frameBytes nFrames ch .INT16)).map inBuf :: rest)
    rw [hsent, hpacker, List.append_assoc, List.filterMap_append, List.append_assoc]
    exact hpacked

theorem drive_packedSoFar {packer : RtpPacker} (hp : PackedSoFar ch packer [] p)
    {events : List PlayoutEvent} (h : ∀ e ∈ events, FitsDatagram ch e) :
    ∃ os p', drive step p events = .ok (os, p') ∧
      p'.app.sender.sent = packer.packAll (events.filterMap (rawCaptured ch)) := by
  obtain ⟨os, p', hdrive, hpacked⟩ := drive_of_history (PackedSoFar ch packer) (FitsDatagram ch)
    (fun _ _ _ hp he => packedSoFar_step hp he) h hp
  refine ⟨os, p', hdrive, ?_⟩
  simpa [RtpPacker.packAll] using hpacked.sent_packAll []

end

theorem packedSoFar_start {packer : RtpPacker} {audio : RtAudio} {inDev outDev : Int32}
    {payloadType : UInt32} {s : System} (hpt : payloadType = 10 ∨ payloadType = 11)
    (hstart : (System.new packer).startUDP audio inDev outDev payloadType = some s) :
    PackedSoFar (rawChannels payloadType) (packer.init payloadType.toUInt8) [] s.playout := by
  obtain ⟨hraw, hsender, hpacker⟩ := System.startUDP_raw hpt hstart
  refine ⟨hraw, fun rest => ?_⟩
  rw [hsender, hpacker]
  rfl

end Playout

end Voip
