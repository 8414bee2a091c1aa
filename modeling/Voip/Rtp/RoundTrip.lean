import Voip.Rtp.Fields
import Voip.Rtp.Header

/-! The header as a codec: what the packer writes, the getters read. -/

namespace Voip

open Base

namespace RtpPacker

variable (p : RtpPacker) (data : Bytes)

theorem sequenceNumber_pack : Rtp.sequenceNumber (p.pack data).1 = p.seqNumber.toNat := by
  rw [← headerSequenceNumber_toNat, headerSequenceNumber_pack]

theorem timestamp_pack : Rtp.timestamp (p.pack data).1 = (p.pack data).2.timestamp.toNat := by
  have hword := be32_masks (p.pack data).2.timestamp
  rw [← congrArg UInt32.toNat hword, be32_toNat, pack_bytes]
  rfl

theorem mask_payloadType_eq {p : RtpPacker} (hpt : p.payloadType.toNat < 128) :
    p.payloadType &&& 0x7f = p.payloadType := by
  apply UInt8.toNat_inj.mp
  rw [Rtp.mask_payloadType, Nat.mod_eq_of_lt hpt]

/-- The packer as a packet shows it: the sequence number from before the call, the timestamp from
after it. -/
def shown : RtpPacker := { p with timestamp := (p.pack data).2.timestamp }

/-- Everything that went into a packet comes back out of it. -/
structure RoundTrip : Prop where
  length_eq : (p.pack data).1.length = 12 + data.length
  getVersion : RtpDepacker.getVersion (p.pack data).1 = .ok 2
  getPayloadType : RtpDepacker.getPayloadType (p.pack data).1 = .ok p.payloadType
  getSequenceNumber : RtpDepacker.getSequenceNumber (p.pack data).1 = .ok p.seqNumber
  getSSRC : RtpDepacker.getSSRC (p.pack data).1 = .ok p.ssrc
  timestamp : Rtp.timestamp (p.pack data).1 = (p.pack data).2.timestamp.toNat
  unpack : ∀ d : RtpDepacker, ∃ d', d.unpack (p.pack data).1 = .ok (data, d')
  frame : ∃ seqNumber timestamp, (p.pack data).2 = { p with seqNumber, timestamp }

variable {p data}

theorem roundTrip (hpt : p.payloadType.toNat < 128) : RoundTrip p data where
  length_eq := p.pack_length data
  getVersion := by
    rw [RtpDepacker.getVersion_of_lt (by rw [pack_length]; omega), headerVersion_pack]
  getPayloadType := by
    rw [RtpDepacker.getPayloadType_of_lt (by rw [pack_length]; omega), headerPayloadType_pack,
      mask_payloadType_eq hpt]
  getSequenceNumber := by
    rw [RtpDepacker.getSequenceNumber_of_lt (by rw [pack_length]; omega),
      headerSequenceNumber_pack]
  getSSRC := by
    rw [RtpDepacker.getSSRC_of_lt (by rw [pack_length]; omega), headerSSRC_pack]
  timestamp := p.timestamp_pack data
  unpack d := by
    rw [RtpDepacker.unpack_of_lt (by rw [pack_length]; omega), drop_pack]
    exact ⟨_, rfl⟩
  frame := by
    refine ⟨(p.pack data).2.seqNumber, (p.pack data).2.timestamp, ?_⟩
    rw [mk.injEq]
    exact ⟨rfl, rfl, p.pack_ssrc data, p.pack_payloadType data⟩

theorem pack_injective {p' : RtpPacker} {data' : Bytes} (hpt : p.payloadType.toNat < 128)
    (hpt' : p'.payloadType.toNat < 128) (h : (p.pack data).1 = (p'.pack data').1) :
    p.shown data = p'.shown data' ∧ data = data' := by
  have hdata : data = data' := by
    rw [← p.drop_pack data, h, drop_pack]
  have hseq : p.seqNumber = p'.seqNumber := by
    rw [← p.headerSequenceNumber_pack data, h, headerSequenceNumber_pack]
  have hssrc : p.ssrc = p'.ssrc := by
    rw [← p.headerSSRC_pack data, h, headerSSRC_pack]
  have htype : p.payloadType = p'.payloadType := by
    rw [← mask_payloadType_eq hpt, ← p.headerPayloadType_pack data, h, headerPayloadType_pack,
      mask_payloadType_eq hpt']
  have htime : (p.pack data).2.timestamp = (p'.pack data').2.timestamp := by
    apply UInt32.toNat_inj.mp
    rw [← p.timestamp_pack data, h, timestamp_pack]
  refine ⟨?_, hdata⟩
  rw [shown, shown, mk.injEq]
  exact ⟨hseq, htime, hssrc, htype⟩

theorem pack_snd_eq_of_shown {p' : RtpPacker} {data' : Bytes}
    (h : p.shown data = p'.shown data') : (p.pack data).2 = (p'.pack data').2 := by
  rw [shown, shown, mk.injEq] at h
  obtain ⟨hseq, htime, hssrc, htype⟩ := h
  rw [RtpPacker.mk.injEq (p.pack data).2.seqNumber]
  refine ⟨?_, htime, ?_, ?_⟩
  · rw [pack_seqNumber, pack_seqNumber, hseq]
  · rw [pack_ssrc, pack_ssrc, hssrc]
  · rw [pack_payloadType, pack_payloadType, htype]

/-- A packet gives back all of its packer and its payload, and a call that differs in either, also
in the packer it leaves, gives another packet. -/
theorem pack_roundTrip (hpt : p.payloadType.toNat < 128) : RoundTrip p data ∧
    ∀ (p' : RtpPacker) (data' : Bytes), p'.payloadType.toNat < 128 →
      p.shown data ≠ p'.shown data' ∨ (p.pack data).2 ≠ (p'.pack data').2 ∨ data ≠ data' →
      (p.pack data).1 ≠ (p'.pack data').1 := by
  refine ⟨roundTrip hpt, fun p' data' hpt' hdiffer h => ?_⟩
  obtain ⟨hshown, hdata⟩ := pack_injective hpt hpt' h
  rcases hdiffer with hdiffer | hdiffer | hdiffer
  · exact hdiffer hshown
  · exact hdiffer (pack_snd_eq_of_shown hshown)
  · exact hdiffer hdata

theorem pack_roundTrip_empty :
    RoundTrip ⟨65535, 7, 9, 100⟩ [] ∧
      (RtpPacker.pack ⟨65535, 7, 9, 100⟩ []).1 ≠ (RtpPacker.pack ⟨0, 7, 9, 100⟩ []).1 := by
  obtain ⟨hround, hdiffer⟩ := @pack_roundTrip ⟨65535, 7, 9, 100⟩ [] (by decide)
  exact ⟨hround, hdiffer ⟨0, 7, 9, 100⟩ [] (by decide) (.inl (by decide))⟩

end RtpPacker

end Voip
