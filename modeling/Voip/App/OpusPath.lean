import Voip.App.Receiver
import Voip.App.VoIPComm
import Voip.Rtp.Header

/-! A frame on its way from one program to the other in Opus mode. What the two libraries make of
it is left open; everything around them takes nothing away and adds nothing. -/

namespace Voip

open Base

namespace Receiver

variable {r : Receiver} (opus_decode : OpusDecode) (p : RtpPacker) {data : Bytes}
  {d : RtpDepacker}
  (hvalid : r.depacker.validatePacket (p.pack data).1 r.payloadType = .ok (true, d))
  (jitterBuffer : SimpleJB)
include hvalid

/-- Whatever state the depacker is in, of a packet that it accepts the whole payload goes on. -/
theorem receive_pack :
    ∃ d', r.receive opus_decode jitterBuffer (p.pack data).1 =
      deliver opus_decode { r with depacker := d' } jitterBuffer data := by
  have hunpack := RtpDepacker.unpack_of_lt (v := (p.pack data).1)
    (by rw [RtpPacker.pack_length]; omega) d
  rw [RtpPacker.drop_pack] at hunpack
  simp only [receive_eq, RtpDepacker.handle, hvalid, ok_bind, if_true, hunpack, pure_eq_ok]
  exact ⟨_, rfl⟩

/-- What goes out for a failed encode stops the receive loop of the peer. -/
theorem receive_header_only (hpt : r.payloadType = OPUS_PAYLOADTYPE) (hdata : data = []) :
    r.receive opus_decode jitterBuffer (p.pack data).1 = .error .outOfRange := by
  obtain ⟨d', hreceive⟩ := receive_pack opus_decode p hvalid jitterBuffer
  rw [hreceive, hdata, deliver_opus_nil opus_decode jitterBuffer (by exact hpt)]

end Receiver

/-- An encoder and a decoder that never fail, for frames of ten milliseconds. -/
structure Codec where
  E : List Int16 → Bytes
  D : Bytes → List Int16
  length_E : ∀ s, s.length = 960 → 1 ≤ (E s).length ∧ (E s).length ≤ OPUS_MAX_SIZE
  length_D : ∀ b, (D b).length = 960

namespace Codec

def opus_encode (k : Codec) : OpusEncode := fun samples _ _ =>
  ⟨(k.E samples).length, k.E samples⟩

def opus_decode (k : Codec) : OpusDecode := fun data _ => ⟨480, k.D data⟩

variable (k : Codec)

theorem encoded_ne {s : List Int16} (hs : s.length = 960) : k.E s ≠ [] :=
  List.ne_nil_of_length_pos (k.length_E s hs).1

theorem finish_encoded (e : AudioEncoder) {s : List Int16} (hs : s.length = 960)
    (frame_size : Int32) (max_data_bytes : ℕ) :
    (e.finish (k.opus_encode s frame_size max_data_bytes) []).1 = k.E s := by
  obtain ⟨hpos, hmax⟩ := k.length_E s hs
  have hret : ¬ (k.opus_encode s frame_size max_data_bytes).ret ≤ 0 := by
    change ¬ ((k.E s).length : Int) ≤ 0
    omega
  rw [e.finish_produced (.inr ⟨Int.ofNat_le.mpr hmax, rfl⟩)]
  exact if_neg hret

theorem decode_encoded (d : AudioDecoder) {b : Bytes} (hb : b ≠ []) :
    ∃ d', d.decode k.opus_decode b [] = .ok (pcmBytes (k.D b), d') := by
  have hfull : (k.D b).length = d.out.length := (k.length_D b).trans d.out_length.symm
  have hout : (d.keep (k.opus_decode b 960)).out = k.D b := copyTo_of_length_eq hfull
  rw [d.decode_eq k.opus_decode hb, hout]
  exact ⟨_, rfl⟩

theorem receive_encoded {r : Receiver} (hpt : r.payloadType = OPUS_PAYLOADTYPE) (p : RtpPacker)
    {b : Bytes} (hb : b ≠ []) {d : RtpDepacker}
    (hvalid : r.depacker.validatePacket (p.pack b).1 r.payloadType = .ok (true, d))
    (jitterBuffer : SimpleJB) :
    ∃ r', r.receive k.opus_decode jitterBuffer (p.pack b).1 =
      .ok (r', jitterBuffer.add (pcmBytes (k.D b))) := by
  obtain ⟨d', hreceive⟩ := Receiver.receive_pack k.opus_decode p hvalid jitterBuffer
  obtain ⟨decoder, hdecode⟩ := k.decode_encoded r.decoder hb
  rw [Receiver.deliver, if_pos hpt, hdecode, ok_bind] at hreceive
  exact ⟨_, hreceive⟩

theorem pcmBytes_input {input : AudioBuffer} (h : input.data.length = 1920) :
    pcmBytes (pcmSamples (fun i => input.data.getD i 0) 960) = input.data := by
  refine (pcmBytes_pcmSamples _ 960).trans (List.ext_getElem ?_ fun i hi hi' => ?_)
  · rw [List.length_map, List.length_range, h]
  · rw [List.getElem_map, List.getElem_range, List.getD_eq_getElem _ _ hi']

theorem processUDP_encoded {c : VoIPComm} (hopus : c.isOpus = true) {input : AudioBuffer}
    (hinput : input.data.length = 1920) (output : AudioBuffer) :
    ∃ output' c', c.processUDP k.opus_encode output input = .ok (output', c') ∧
      c'.sender.sent = c.sender.sent ++
        [(c.packer.pack (k.E (pcmSamples (fun i => input.data.getD i 0) 960))).1] := by
  have hsize : 1920 ≤ input.size := Nat.le_of_eq hinput.symm
  have htransmit := VoIPComm.transmit_opus k.opus_encode hopus hsize
  generalize hs : pcmSamples (fun i => input.data.getD i 0) 960 = s at htransmit ⊢
  have hlength : s.length = 960 := hs ▸ length_pcmSamples _ 960
  have hprocess : c.processUDP k.opus_encode output input =
      .ok ((c.sendEncoded (k.opus_encode s c.encoder.framesize 1276)).playFront output) := by
    rw [VoIPComm.processUDP, htransmit]
    rfl
  rw [VoIPComm.playFront_eq] at hprocess
  refine ⟨_, _, hprocess, (c.sent_sendEncoded _).trans ?_⟩
  rw [k.finish_encoded c.encoder hlength]

/-- The captured frame goes out in one packet, and what a peer that accepts it stores is the
codec's work and no one else's; some peer does accept it. -/
theorem stored_eq_decoded {c : VoIPComm} (hopus : c.isOpus = true)
    (hpt : c.packer.payloadType = OPUS_PAYLOADTYPE) {input : AudioBuffer}
    (hinput : input.data.length = 1920) (output : AudioBuffer) :
    ∃ packet output' c', c.processUDP k.opus_encode output input = .ok (output', c') ∧
      c'.sender.sent = c.sender.sent ++ [packet] ∧
      RtpDepacker.new.validatePacket packet OPUS_PAYLOADTYPE = .ok (true, .new) ∧
      ∀ (r : Receiver) (jitterBuffer : SimpleJB) (d : RtpDepacker),
        r.payloadType = OPUS_PAYLOADTYPE →
        r.depacker.validatePacket packet OPUS_PAYLOADTYPE = .ok (true, d) →
        ∃ r' frame, r.receive k.opus_decode jitterBuffer packet =
            .ok (r', jitterBuffer.add frame) ∧
          frame = pcmBytes (k.D (k.E (pcmSamples (fun i => input.data.getD i 0) 960))) ∧
          (k.D (k.E (pcmSamples (fun i => input.data.getD i 0) 960)) =
            pcmSamples (fun i => input.data.getD i 0) 960 → frame = input.data) := by
  obtain ⟨output', c', hprocess, hsent⟩ := k.processUDP_encoded hopus hinput output
  refine ⟨_, output', c', hprocess, hsent, ?_, ?_⟩
  · refine Session.validatePacket_fresh ?_ ((c.packer.addressed_pack _ _).mpr ?_)
    · rw [RtpPacker.pack_length]
      omega
    · rw [hpt]
      decide
  · intro r jitterBuffer d hr hvalid
    obtain ⟨r', hreceive⟩ := k.receive_encoded hr c.packer (k.encoded_ne (length_pcmSamples _ 960))
      (hr ▸ hvalid) jitterBuffer
    refine ⟨r', _, hreceive, rfl, fun hinverse => ?_⟩
    rw [hinverse, pcmBytes_input hinput]

/-- A codec that knows only silence. -/
def silent : Codec where
  E _ := [0]
  D _ := List.replicate 960 0
  length_E _ _ := ⟨Nat.le_refl 1, by decide⟩
  length_D _ := List.length_replicate

theorem stored_eq_decoded_silent :
    ∃ packet, RtpDepacker.new.validatePacket packet OPUS_PAYLOADTYPE = .ok (true, .new) ∧
      ∃ r', (Receiver.init OPUS_PAYLOADTYPE .new).receive silent.opus_decode .new packet =
        .ok (r', SimpleJB.new.add (List.replicate 1920 0)) := by
  have hinput : (⟨480, 2, 48000, .INT16, List.replicate 1920 0⟩ : AudioBuffer).data.length =
      1920 := List.length_replicate
  obtain ⟨packet, -, -, -, -, hvalid, hstored⟩ := silent.stored_eq_decoded
    (c := { VoIPComm.new ⟨1, 0, 7, OPUS_PAYLOADTYPE⟩ with isOpus := true }) rfl rfl hinput .new
  obtain ⟨r', frame, hreceive, -, hframe⟩ :=
    hstored (.init OPUS_PAYLOADTYPE .new) .new .new rfl hvalid
  refine ⟨packet, hvalid, r', hreceive.trans ?_⟩
  rw [hframe]
  refine (List.eq_replicate_iff.mpr ⟨length_pcmSamples _ 960, fun s hs => ?_⟩).symm
  obtain ⟨i, -, rfl⟩ := List.mem_map.mp hs
  have hzero (j : ℕ) : (List.replicate 1920 (0 : UInt8)).getD j 0 = 0 :=
    List.getElem?_getD_replicate_default_eq 0 1920 j
  exact (congrArg₂ leSample (hzero _) (hzero _)).trans (by decide)

end Codec

end Voip
