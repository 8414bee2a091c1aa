import Voip.Rtp.Fields
import Voip.Rtp.Header

/-! What `unpack` takes for the payload. It strips twelve bytes, which is the header that the packer
writes; of a packet from elsewhere the validation looks at the version only. -/

namespace Voip

open Base

theorem version_of_validatePacket {pt : UInt8} {d d' : RtpDepacker} {v : Bytes}
    (h0 : 0 < v.length) (h : d.validatePacket v pt = .ok (true, d')) : Rtp.version v = 2 := by
  rw [← headerVersion_toNat]
  by_contra hversion
  have hne : headerVersion v ≠ 2 := fun heq => hversion (congrArg UInt8.toNat heq)
  rw [Session.validatePacket_of_version_ne d h0 hne] at h
  cases h

/-- What the packer has put into a packet is its payload. -/
theorem RtpPacker.payload_pack (p : RtpPacker) (data : Bytes) :
    Rtp.payload (p.pack data).1 = some data := by
  have h12 : 12 ≤ (p.pack data).1.length := by
    rw [pack_length]
    omega
  have hfirst : (p.pack data).1.getD 0 0 = 0x80 := by
    rw [pack_bytes]
    rfl
  have hversion : Rtp.version (p.pack data).1 = 2 := by
    rw [Rtp.version, hfirst]
    rfl
  rw [Rtp.payload_of_plain ((Rtp.plain_iff hversion).mpr hfirst) h12, drop_pack]

/-- An accepted packet has version 2, and what is passed on of it is its payload just where the
other bits of its first byte are zero. -/
theorem unpack_payload_iff {pt : UInt8} {d d' : RtpDepacker} {v : Bytes} (h12 : 12 ≤ v.length)
    (h : d.validatePacket v pt = .ok (true, d')) :
    Rtp.version v = 2 ∧ ∃ d'', d'.unpack v = .ok (v.drop 12, d'') ∧
      (Rtp.payload v = some (v.drop 12) ↔ v.getD 0 0 = 0x80) := by
  have hversion := version_of_validatePacket (by omega) h
  refine ⟨hversion, _, RtpDepacker.unpack_of_lt h12 d', ?_⟩
  rw [Rtp.payload_eq_drop_iff h12, Rtp.plain_iff hversion]

theorem unpack_payload_iff_extension :
    Rtp.payload [0x90, 10, 0, 1, 0, 0, 0, 0, 0, 0, 0, 7, 0, 0, 0, 0, 42] ≠
      some [0, 0, 0, 0, 42] := by
  have hvalid : RtpDepacker.new.validatePacket
      [0x90, 10, 0, 1, 0, 0, 0, 0, 0, 0, 0, 7, 0, 0, 0, 0, 42] 10 = .ok (true, .new) := rfl
  obtain ⟨-, -, -, hpayload⟩ := unpack_payload_iff (by decide) hvalid
  exact fun h => absurd (hpayload.mp h) (by decide)

/-- A packet with one contributing source, as the first of a session: its identifier is passed on in
front of the payload. -/
theorem unpack_source :
    RtpDepacker.new.validatePacket
        [0x81, 10, 0, 1, 0, 0, 0, 0, 0, 0, 0, 7, 1, 2, 3, 4, 42] 10 = .ok (true, .new) ∧
      RtpDepacker.new.unpack [0x81, 10, 0, 1, 0, 0, 0, 0, 0, 0, 0, 7, 1, 2, 3, 4, 42] =
        .ok ([1, 2, 3, 4, 42], ⟨true, 1, true, 7⟩) ∧
      Rtp.payload [0x81, 10, 0, 1, 0, 0, 0, 0, 0, 0, 0, 7, 1, 2, 3, 4, 42] = some [42] := by
  decide

end Voip
