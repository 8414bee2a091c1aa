import Voip.Rtp.Packer
import Voip.Rtp.Session
import Voip.Base.Machine

/-! What the depacker reads out of a packet that the packer wrote. -/

namespace Voip

namespace RtpPacker

variable (p : RtpPacker) (data : Bytes)

@[simp] theorem headerVersion_pack : headerVersion (p.pack data).1 = 2 := by
  rw [pack_bytes]
  change (0x80 &&& 0xC0 : UInt8) >>> 6 = 2
  decide

@[simp] theorem headerPayloadType_pack :
    headerPayloadType (p.pack data).1 = p.payloadType &&& 0x7f := by
  rw [pack_bytes]
  rfl

@[simp] theorem headerSequenceNumber_pack :
    headerSequenceNumber (p.pack data).1 = p.seqNumber := by
  rw [pack_bytes]
  exact Base.be16_masks p.seqNumber

@[simp] theorem headerSSRC_pack : headerSSRC (p.pack data).1 = p.ssrc := by
  rw [pack_bytes]
  exact Base.be32_masks p.ssrc

@[simp] theorem drop_pack : (p.pack data).1.drop 12 = data := by
  rw [pack_bytes]
  rfl

theorem pack_seqNumber_toNat :
    (p.pack data).2.seqNumber.toNat = (p.seqNumber.toNat + 1) % 65535 := by
  have hlt := Nat.mod_lt (p.seqNumber.toNat + 1) (show 0 < 65535 by decide)
  rw [pack_seqNumber, UInt16.toNat_ofNat', Nat.mod_eq_of_lt (by omega)]

theorem addressed_pack (pt : UInt8) :
    Session.Addressed pt (p.pack data).1 ↔ p.payloadType &&& 0x7f = pt := by
  simp [Session.Addressed]

end RtpPacker

theorem RtpPacker.of_mem_packAll {p : RtpPacker} {payloads : List Bytes} {v : Bytes}
    (h : v ∈ p.packAll payloads) :
    12 ≤ v.length ∧ headerSSRC v = p.ssrc ∧ headerVersion v = 2 ∧
      headerPayloadType v = p.payloadType &&& 0x7f := by
  induction payloads generalizing p with
  | nil => simp [packAll] at h
  | cons data rest ih =>
    rcases List.mem_cons.mp h with rfl | h
    · simp
    · simpa using ih h

/-- Over packets with a whole header the depacker never throws and runs as its session does. -/
theorem Session.drive_handle (pt : UInt8) (s : Session) {vs : List Bytes}
    (h : ∀ v ∈ vs, 12 ≤ v.length) :
    Base.drive (RtpDepacker.handle pt) s.toDepacker vs =
      .ok ((Base.answers (Session.receive pt) s vs).1,
        (Base.answers (Session.receive pt) s vs).2.toDepacker) :=
  Base.drive_simulates Session.toDepacker
    (fun s v hv => handle_of_readable (readable_of_header pt s (h v hv))) s

end Voip
