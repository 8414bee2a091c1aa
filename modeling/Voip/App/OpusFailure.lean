import Voip.App.OpusPeer

/-! What a failed encode can do to a call. It goes out as a packet without a payload, and a program
that accepts such a packet ends. -/

namespace Voip

open Base

/-- What one callback of the sound card captures, and the encoder that it goes to. -/
structure Capture where
  side : Side
  opus_encode : OpusEncode
  inBuf : ℕ → UInt8
  nFrames : UInt32

namespace Capture

def event (capture : Capture) : CallEvent :=
  .callback capture.side capture.opus_encode capture.inBuf capture.nFrames

def result (capture : Capture) : OpusResult UInt8 :=
  capture.opus_encode (pcmSamples capture.inBuf 960) 480 1276

/-- The buffer has a whole Opus frame, and the library encodes it. -/
def Succeeds (capture : Capture) : Prop :=
  1920 ≤ capturedBytes capture.nFrames ∧ 0 < capture.result.ret

end Capture

namespace Call

def capture : CallEvent → Option Capture
  | .callback side opus_encode inBuf nFrames => some ⟨side, opus_encode, inBuf, nFrames⟩
  | .arrive .. => none

/-- Every packet that has been sent has a payload, and can be read whole. -/
structure AudiblePeer (p : Peer) : Prop extends OpusPeer p where
  session : ∃ s : Session, p.system.receiver.depacker = s.toDepacker
  sent : ∀ packet ∈ p.sent, 12 < packet.length ∧ packet.length ≤ 2060

def Audible (c : Call) : Prop := ∀ side, AudiblePeer (c side)

variable {plat : Side → Platform} {c c' : Call} {side : Side}

theorem audible_update (hc : Audible c) {p : Peer} (hp : AudiblePeer p) :
    Audible (Function.update c side p) :=
  (Function.forall_update_iff c fun _ p => AudiblePeer p).mpr ⟨hp, fun side' _ => hc side'⟩

theorem audible_callback (hc : Audible c) (plat : Side → Platform) {head : Capture}
    (h : head.Succeeds) : ∃ o c', step plat c head.event = .ok (o, c') ∧ Audible c' := by
  obtain ⟨result, p', hstep, hpeer, hreceiver, -, hsent, -⟩ :=
    Peer.step_callback_opus (plat head.side) (hc head.side).toOpusPeer head.opus_encode head.inBuf
      h.1
  refine ⟨some (head.side, ⟨(c head.side).system.playout.app.jitterBuffer.hasData, result⟩),
    Function.update c head.side p', ?_, audible_update hc ⟨hpeer, ?_, ?_⟩⟩
  · rw [Capture.event, step, hstep]
    rfl
  · rw [hreceiver]
    exact (hc head.side).session
  · rw [hsent]
    intro packet hpacket
    rcases List.mem_append.mp hpacket with hold | hnew
    · exact (hc head.side).sent packet hold
    · have hne := mt ((c head.side).system.playout.app.encoder.finish_eq_nil_iff head.result).mp
        (Int.not_le.mpr h.2)
      have hpos := List.length_pos_of_ne_nil hne
      have hle := (c head.side).system.playout.app.encoder.length_finish_le head.result
      have hmax : OPUS_MAX_SIZE = 1276 := rfl
      rw [List.mem_singleton.mp hnew, RtpPacker.pack_length]
      rw [Capture.result] at hpos hle
      omega

theorem audible_arrive (hc : Audible c) (plat : Side → Platform) (side : Side) (i : ℕ)
    (sender : SockaddrIn) (opus_decode : OpusDecode) :
    ∃ o c', step plat c (.arrive side i sender opus_decode) = .ok (o, c') ∧ Audible c' := by
  cases hpacket : (c side.other).sent[i]? with
  | none =>
    refine ⟨none, c, ?_, hc⟩
    rw [step, hpacket]
    rfl
  | some packet =>
    obtain ⟨hlong, hshort⟩ := (hc side.other).sent packet (List.mem_of_getElem? hpacket)
    obtain ⟨s, hs⟩ := (hc side).session
    obtain ⟨p', hstep, hpeer, -, hdepacker, hplayout⟩ := Peer.step_read_opus (plat side)
      (hc side).toOpusPeer hs hlong hshort sender opus_decode
    have hsent : p'.sent = (c side).sent := by
      rw [Peer.sent, hplayout, Playout.sender_hear, Peer.sent]
    refine ⟨none, Function.update c side p', ?_, audible_update hc ⟨hpeer, ⟨_, hdepacker⟩, ?_⟩⟩
    · rw [step, hpacket]
      simp only [hstep, ok_bind, pure_eq_ok]
    · rw [hsent]
      exact (hc side).sent

theorem audible_step (hc : Audible c) (plat : Side → Platform) {e : CallEvent}
    (h : ∀ head ∈ capture e, head.Succeeds) :
    ∃ o c', step plat c e = .ok (o, c') ∧ Audible c' := by
  cases e with
  | callback side opus_encode inBuf nFrames =>
    have hhead : Capture.Succeeds ⟨side, opus_encode, inBuf, nFrames⟩ := h _ rfl
    obtain ⟨o, c', hstep, hc'⟩ := audible_callback hc plat hhead
    exact ⟨o, c', hstep, hc'⟩
  | arrive side i sender opus_decode => exact audible_arrive hc plat side i sender opus_decode

/-! ## A packet without a payload -/

theorem opusPeer_listening {packer : RtpPacker} {audio : RtAudio} {inDev outDev : Int32}
    {s : System} (hstart : (System.new packer).startUDP audio inDev outDev 100 = some s)
    (addr : Ipv4SocketAddress) :
    OpusPeer (.listening s addr) ∧ (Peer.listening s addr).sent = [] ∧
      s.receiver.depacker = .new := by
  obtain ⟨hcall, hsender⟩ := System.startUDP_opus hstart
  obtain ⟨channels, sampleRate, frameSize, -, -, happ⟩ := System.startUDP_cases hstart
  have hreceiver := System.startUDP_receiver hstart
  refine ⟨⟨hcall, ?_, ?_, ⟨rfl, ?_⟩, ?_⟩, congrArg Sender.sent hsender, ?_⟩
  · exact congrArg (fun app => app.packer.payloadType) happ
  · exact congrArg Receiver.payloadType hreceiver
  · exact Nat.le_of_eq (RawVector.capacity_alloc 2060 (0 : UInt8)).symm
  · show 12 ≤ 2060
    decide
  · exact congrArg Receiver.depacker hreceiver

end Call

end Voip
