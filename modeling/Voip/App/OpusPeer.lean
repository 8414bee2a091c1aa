import Voip.App.Call
import Voip.App.OpusCall

/-! One program in an Opus call. Its packets have all lengths, and each is read into a vector that
the one before it has left at its own length. -/

namespace Voip

open Base

/-- What `decode` makes of a packet that is not empty. -/
def AudioDecoder.decoded (d : AudioDecoder) (result : OpusResult Int16) : Bytes :=
  if result.ret ≤ 0 then [] else pcmBytes (d.keep result).out

/-- A vector with a payload never stops the receive loop. -/
theorem System.step_receive_opus {sys : System} {s : Session}
    (hpt : sys.receiver.payloadType = OPUS_PAYLOADTYPE)
    (hs : sys.receiver.depacker = s.toDepacker) {vector : Bytes} (hlength : 12 < vector.length)
    (opus_decode : OpusDecode) :
    ∃ receiver, sys.step (.receive opus_decode vector) =
        .ok (none, ⟨sys.playout.hear ((s.receive OPUS_PAYLOADTYPE vector).1.map fun data =>
          sys.receiver.decoder.decoded (opus_decode data 960)), receiver⟩) ∧
      receiver.payloadType = OPUS_PAYLOADTYPE ∧
      receiver.depacker = (s.receive OPUS_PAYLOADTYPE vector).2.toDepacker := by
  obtain ⟨playout, payloadType, depacker, decoder⟩ := sys
  obtain rfl : payloadType = OPUS_PAYLOADTYPE := hpt
  have hreadable := s.readable_of_header OPUS_PAYLOADTYPE (Nat.le_of_lt hlength)
  cases hpayload : (s.receive OPUS_PAYLOADTYPE vector).1 with
  | none =>
    have hrejects := Receiver.receive_rejects opus_decode playout.app.jitterBuffer hs hreadable
      hpayload
    refine ⟨⟨OPUS_PAYLOADTYPE, (s.receive OPUS_PAYLOADTYPE vector).2.toDepacker, decoder⟩, ?_,
      rfl, rfl⟩
    rw [step, hrejects]
    rfl
  | some data =>
    have hdata : data ≠ [] := by
      rw [Session.payload_of_receive hpayload]
      refine List.ne_nil_of_length_pos ?_
      rw [List.length_drop]
      omega
    have haccepts := Receiver.receive_accepts opus_decode playout.app.jitterBuffer hs hreadable
      hpayload
    rw [Receiver.deliver, if_pos rfl, decoder.decode_eq opus_decode hdata, ok_bind] at haccepts
    refine ⟨⟨OPUS_PAYLOADTYPE, (s.receive OPUS_PAYLOADTYPE vector).2.toDepacker,
      decoder.keep (opus_decode data 960)⟩, ?_, rfl, rfl⟩
    rw [step, haccepts]
    rfl

structure OpusPeer (p : Peer) : Prop where
  call : OpusCall p.system.playout
  packer : p.system.playout.app.packer.payloadType = OPUS_PAYLOADTYPE
  payloadType : p.system.receiver.payloadType = OPUS_PAYLOADTYPE
  ready : p.endpoint.Ready
  room : 12 ≤ p.endpoint.data.size

namespace Peer

variable {plat : Platform} {p : Peer}

theorem opusPeer_hear {endpoint : Endpoint} (hp : OpusPeer p) (receiver : Receiver)
    (hpt : receiver.payloadType = OPUS_PAYLOADTYPE) (hready : endpoint.Ready)
    (hroom : 12 ≤ endpoint.data.size) (payload : Option Bytes) :
    OpusPeer ⟨⟨p.system.playout.hear payload, receiver⟩, endpoint⟩ := by
  refine ⟨?_, (congrArg RtpPacker.payloadType (Playout.packer_hear ..)).trans hp.packer, hpt,
    hready, hroom⟩
  cases payload with
  | none => exact hp.call
  | some data =>
    exact ⟨hp.call.shaped, hp.call.isOpus, hp.call.isLoopback, hp.call.isUDP, hp.call.framesize⟩

variable (plat) in
/-- A packet with a payload is read, clipped, and decoded where it is accepted. -/
theorem step_read_opus (hp : OpusPeer p) {s : Session}
    (hs : p.system.receiver.depacker = s.toDepacker) {packet : Bytes} (hlong : 12 < packet.length)
    (hshort : packet.length ≤ 2060) (sender : SockaddrIn) (opus_decode : OpusDecode) :
    ∃ p', p.step plat (.read (.received sender packet) opus_decode) = .ok (none, p') ∧
      OpusPeer p' ∧ p'.endpoint.data.size = packet.length ∧
      p'.system.receiver.depacker = (s.receive OPUS_PAYLOADTYPE packet).2.toDepacker ∧
      p'.system.playout = p.system.playout.hear
        ((s.receive OPUS_PAYLOADTYPE packet).1.map fun data =>
          p.system.receiver.decoder.decoded
            (opus_decode (clip (p.endpoint.data.size - 12) data) 960)) := by
  have hne : packet ≠ [] := List.ne_nil_of_length_pos (by omega)
  obtain ⟨hlist, hsize⟩ := Endpoint.toList_receive_clip plat hp.ready sender hne hshort
  have hready := (Endpoint.receive_received plat hp.ready sender hshort).1
  have hreceive := Session.receive_clip OPUS_PAYLOADTYPE s hp.room packet
  have hlength : 12 < (clip p.endpoint.data.size packet).length :=
    (length_clip ..).symm ▸ hlong
  obtain ⟨receiver, hstep, hpt, hdepacker⟩ :=
    System.step_receive_opus hp.payloadType hs hlength opus_decode
  rw [hreceive, Option.map_map] at hstep
  rw [hreceive] at hdepacker
  refine ⟨_, ?_, opusPeer_hear hp receiver hpt hready ?_ _, hsize, hdepacker, rfl⟩
  · rw [step, hlist, hstep, ok_bind]
    rfl
  · rw [hsize]
    exact Nat.le_of_lt hlong

variable (plat) in
/-- A callback of at least one Opus frame sends one packet, whatever the library answers. -/
theorem step_callback_opus (hp : OpusPeer p) (opus_encode : OpusEncode) (inBuf : ℕ → UInt8)
    {nFrames : UInt32} (h : 1920 ≤ capturedBytes nFrames) :
    ∃ callback p', p.step plat (.callback opus_encode inBuf nFrames) =
        .ok (some ⟨p.system.playout.app.jitterBuffer.hasData, callback⟩, p') ∧
      OpusPeer p' ∧ p'.system.receiver = p.system.receiver ∧ p'.endpoint = p.endpoint ∧
      p'.sent = p.sent ++ [(p.system.playout.app.packer.pack (p.system.playout.app.encoder.finish
        (opus_encode (pcmSamples inBuf 960) 480 1276) []).1).1] ∧
      p'.system.playout.app.packer = (p.system.playout.app.packer.pack
        (p.system.playout.app.encoder.finish
          (opus_encode (pcmSamples inBuf 960) 480 1276) []).1).2 ∧
      p'.buffered = p.buffered.tail ∧
      ∀ frame ∈ p.buffered.head?, frame.length = capturedBytes nFrames →
        callback.toOut = frame := by
  have hcall := hp.call
  have hsize := Playout.size_captured hcall inBuf nFrames
  have htransmit := VoIPComm.transmit_opus opus_encode hcall.isOpus (h.trans_eq hsize.symm)
  rw [Playout.samples_captured hcall inBuf nFrames h, hcall.framesize] at htransmit
  obtain ⟨result, q, hstep, hshaped, jitterBuffer, happ⟩ :=
    p.system.playout.step_callback_of_transmit opus_encode inBuf nFrames hcall.shaped
      hcall.isLoopback hcall.isUDP htransmit
  obtain ⟨result', hresult, -, -, houtput, hbuffer, htoOut⟩ :=
    p.system.playout.step_callback_cases _ _ _ hcall.isLoopback hcall.isUDP hstep
  obtain rfl := Option.some.inj hresult
  have hpacker : q.app.packer = (p.system.playout.app.packer.pack
      (p.system.playout.app.encoder.finish
        (opus_encode (pcmSamples inBuf 960) 480 1276) []).1).2 := congrArg VoIPComm.packer happ
  refine ⟨result, { p with system := { p.system with playout := q } }, ?_, ?_, rfl, rfl,
    congrArg (fun app => app.sender.sent) happ, hpacker, ?_, ?_⟩
  · rw [step, System.step, hstep]
    rfl
  · refine ⟨⟨hshaped, ?_, ?_, ?_, ?_⟩, ?_, hp.payloadType, hp.ready, hp.room⟩
    · exact (congrArg VoIPComm.isOpus happ).trans hcall.isOpus
    · exact (congrArg VoIPComm.isLoopback happ).trans hcall.isLoopback
    · exact (congrArg VoIPComm.isUDP happ).trans hcall.isUDP
    · exact (congrArg (fun app => app.encoder.framesize) happ).trans hcall.framesize
    · refine (congrArg RtpPacker.payloadType hpacker).trans ?_
      rw [RtpPacker.pack_payloadType, hp.packer]
  · exact (congrArg SimpleJB.dataBuffer hbuffer).trans (SimpleJB.dataBuffer_getFrontData ..)
  · intro frame hfront hlength
    obtain ⟨hadapted, hfs⟩ := p.system.playout.card.shaped_adapt hcall.shaped nFrames
    have hout :
        (p.system.playout.card.adapt nFrames).outputBuffer.size = capturedBytes nFrames := by
      rw [hadapted.output_size, hfs, capturedBytes]
    rw [htoOut, houtput]
    cases hqueue : p.system.playout.app.jitterBuffer.dataBuffer with
    | nil => rw [buffered, hqueue] at hfront; cases hfront
    | cons frame' rest =>
      rw [buffered, hqueue] at hfront
      obtain rfl := Option.some.inj hfront
      rw [SimpleJB.getFrontData_cons hqueue]
      exact copyTo_of_length_eq (hlength.trans hout.symm)

end Peer

namespace AudioEncoder

/-- What goes out is empty just where the library has failed. -/
theorem finish_eq_nil_iff (e : AudioEncoder) (result : OpusResult UInt8) :
    (e.finish result []).1 = [] ↔ result.ret ≤ 0 := by
  dsimp only [finish]
  split_ifs with hret
  · exact iff_of_true rfl hret
  · refine iff_of_false ?_ hret
    rw [List.append_nil]
    refine List.ne_nil_of_length_pos ?_
    rw [List.length_take, length_copyTo, e.out_length]
    exact Nat.lt_min.mpr ⟨by omega, by decide⟩

theorem length_finish_le (e : AudioEncoder) (result : OpusResult UInt8) :
    (e.finish result []).1.length ≤ OPUS_MAX_SIZE := by
  dsimp only [finish]
  split_ifs
  · exact Nat.zero_le _
  · rw [List.append_nil, List.length_take, length_copyTo, e.out_length]
    exact Nat.min_le_right ..

end AudioEncoder

end Voip
