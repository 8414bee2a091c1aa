import Voip.Base.RtpHeader
import Voip.Rtp.Session

/-! The getters read the fields that the header format has. -/

namespace Voip

open Base

theorem headerVersion_toNat (v : Bytes) : (headerVersion v).toNat = Rtp.version v :=
  Rtp.mask_version (v.getD 0 0)

theorem headerPayloadType_toNat (v : Bytes) : (headerPayloadType v).toNat = Rtp.payloadType v :=
  Rtp.mask_payloadType (v.getD 1 0)

theorem headerSequenceNumber_toNat (v : Bytes) :
    (headerSequenceNumber v).toNat = Rtp.sequenceNumber v :=
  be16_toNat (v.getD 2 0) (v.getD 3 0)

theorem headerSSRC_toNat (v : Bytes) : (headerSSRC v).toNat = Rtp.ssrc v :=
  be32_toNat (v.getD 8 0) (v.getD 9 0) (v.getD 10 0) (v.getD 11 0)

/-- A datagram of the program's version of RTP with the payload type that is expected. -/
def Relevant (pt : UInt8) (v : Bytes) : Prop :=
  Rtp.version v = 2 ∧ Rtp.payloadType v = pt.toNat

instance (pt : UInt8) (v : Bytes) : Decidable (Relevant pt v) :=
  inferInstanceAs (Decidable (_ ∧ _))

theorem addressed_iff_relevant (pt : UInt8) (v : Bytes) :
    Session.Addressed pt v ↔ Relevant pt v := by
  have hversion : headerVersion v = 2 ↔ Rtp.version v = 2 := by
    rw [← UInt8.toNat_inj, headerVersion_toNat]
    rfl
  have htype : headerPayloadType v = pt ↔ Rtp.payloadType v = pt.toNat := by
    rw [← UInt8.toNat_inj, headerPayloadType_toNat]
  exact and_congr hversion htype

namespace Session

variable {pt : UInt8} {v : Bytes}

theorem receive_of_not_relevant (h : ¬ Relevant pt v) (s : Session) : receive pt s v = (none, s) :=
  if_neg (mt (addressed_iff_relevant pt v).mp h)

theorem receive_fresh (h : Relevant pt v) :
    receive pt fresh v =
      (some (v.drop 12), bound (headerSequenceNumber v) (headerSSRC v)) :=
  if_pos ((addressed_iff_relevant pt v).mpr h)

theorem receive_relevant (h : Relevant pt v) (last : UInt16) (ssrc : UInt32) :
    receive pt (bound last ssrc) v =
      (if Rtp.sequenceNumber v = last.toNat + 1 ∧ Rtp.ssrc v = ssrc.toNat then
        some (v.drop 12) else none, bound (headerSequenceNumber v) ssrc) := by
  have hssrc : headerSSRC v = ssrc ↔ Rtp.ssrc v = ssrc.toNat := by
    rw [← UInt32.toNat_inj, headerSSRC_toNat]
  rw [receive, if_pos ((addressed_iff_relevant pt v).mpr h)]
  simp only [headerSequenceNumber_toNat, hssrc]

end Session

end Voip
