import Voip.Base.Machine
import Voip.Rtp.Fields

/-! Which packets a depacker accepts. The number that follows the last one is taken without a wrap,
so that a session which has reached 65535 waits for a number that no packet has. -/

namespace Voip

open Base

/-- A packet that continues the session, or begins one. -/
def Continues (pt : UInt8) (d : RtpDepacker) (v : Bytes) : Prop :=
  Relevant pt v ∧
    (¬ (d.isSequenceNumberSet = true ∧ d.isSSRCSet = true) ∨
      Rtp.sequenceNumber v = (d.lastSequenceNumber.toNat + 1) % 65536 ∧
        Rtp.ssrc v = d.expectedSSRC.toNat)

/-- `validatePacket` accepts the packets that continue the session, and `unpack` then passes on all
but the header and keeps the packet's number and SSRC. -/
def AcceptsExactly (pt : UInt8) (d : RtpDepacker) (v : Bytes) : Prop :=
  ∃ accepted d', d.validatePacket v pt = .ok (accepted, d') ∧
    (accepted = true ↔ Continues pt d v) ∧
    (accepted = true → ∃ d'', d'.unpack v = .ok (v.drop 12, d'') ∧
      d''.lastSequenceNumber.toNat = Rtp.sequenceNumber v ∧
      d''.expectedSSRC.toNat = Rtp.ssrc v)

/-- The session's own packet behind number 65535. -/
def AtWrap (pt : UInt8) (d : RtpDepacker) (v : Bytes) : Prop :=
  Relevant pt v ∧ (d.isSequenceNumberSet = true ∧ d.isSSRCSet = true) ∧
    d.lastSequenceNumber = 65535 ∧ Rtp.sequenceNumber v = 0 ∧ Rtp.ssrc v = d.expectedSSRC.toNat

namespace Session

theorem drive_handle_ok {pt : UInt8} {past : List Bytes} {os : List (Option Bytes)}
    {d : RtpDepacker} (h : drive (RtpDepacker.handle pt) .new past = .ok (os, d)) :
    ∃ s : Session, d = s.toDepacker := by
  refine drive_preserves (fun d => ∃ s : Session, d = s.toDepacker) ?_ ⟨.fresh, rfl⟩ h
  rintro _ v o d' ⟨s, rfl⟩ hstep
  exact ⟨_, (handle_ok hstep).2⟩

section
variable {pt : UInt8} {v : Bytes}

theorem acceptsExactly_of_not_relevant (h12 : 12 ≤ v.length) (h : ¬ Relevant pt v)
    (d : RtpDepacker) : AcceptsExactly pt d v := by
  have hrejects : d.validatePacket v pt = .ok (false, d) := by
    by_cases hversion : headerVersion v = 2
    · refine validatePacket_of_payloadType_ne d (by omega) fun htype => h ?_
      exact (addressed_iff_relevant pt v).mp ⟨hversion, htype⟩
    · exact validatePacket_of_version_ne d (by omega) hversion
  exact ⟨false, d, hrejects, iff_of_false Bool.false_ne_true fun hc => h hc.1, nofun⟩

theorem acceptsExactly_fresh (h12 : 12 ≤ v.length) (h : Relevant pt v) :
    AcceptsExactly pt .new v := by
  have haddressed := (addressed_iff_relevant pt v).mpr h
  refine ⟨true, .new, validatePacket_fresh (by omega) haddressed,
    iff_of_true rfl ⟨h, .inl nofun⟩, fun _ => ⟨_, unpack_fresh h12, ?_, ?_⟩⟩
  · exact headerSequenceNumber_toNat v
  · exact headerSSRC_toNat v

theorem validatePacket_bound_of_lt (h12 : 12 ≤ v.length) (h : Relevant pt v) (last : UInt16)
    (ssrc : UInt32) :
    (bound last ssrc).toDepacker.validatePacket v pt =
      .ok (decide (Rtp.sequenceNumber v = last.toNat + 1 ∧ Rtp.ssrc v = ssrc.toNat),
        (bound (headerSequenceNumber v) ssrc).toDepacker) := by
  have haddressed := (addressed_iff_relevant pt v).mpr h
  have hssrc : headerSSRC v = ssrc ↔ Rtp.ssrc v = ssrc.toNat := by
    rw [← UInt32.toNat_inj, headerSSRC_toNat]
  rw [validatePacket_bound (by omega) haddressed, RtpDepacker.getSequenceNumber_of_lt (by omega),
    RtpDepacker.getSSRC_of_lt h12, ok_bind, ok_bind, headerSequenceNumber_toNat]
  by_cases hnext : Rtp.sequenceNumber v = last.toNat + 1
  · simp only [hnext, if_true, pure_eq_ok, hssrc, true_and]
  · simp only [hnext, if_false, pure_eq_ok, false_and, decide_false]

theorem continues_bound_iff (h : Relevant pt v) (last : UInt16) (ssrc : UInt32) :
    Continues pt (bound last ssrc).toDepacker v ↔
      Rtp.sequenceNumber v = (last.toNat + 1) % 65536 ∧ Rtp.ssrc v = ssrc.toNat := by
  simp [Continues, toDepacker, h]

theorem atWrap_bound_iff (h : Relevant pt v) (last : UInt16) (ssrc : UInt32) :
    AtWrap pt (bound last ssrc).toDepacker v ↔
      last.toNat = 65535 ∧ Rtp.sequenceNumber v = 0 ∧ Rtp.ssrc v = ssrc.toNat := by
  simp [AtWrap, toDepacker, h, ← UInt16.toNat_inj]

/-- What is taken to follow the last number is what does follow it, except behind 65535. -/
theorem acceptsExactly_bound_iff (h12 : 12 ≤ v.length) (h : Relevant pt v) (last : UInt16)
    (ssrc : UInt32) :
    AcceptsExactly pt (bound last ssrc).toDepacker v ↔
      ¬ AtWrap pt (bound last ssrc).toDepacker v := by
  have hvalidate := validatePacket_bound_of_lt h12 h last ssrc
  have hlast := last.toNat_lt
  have hseq := Rtp.sequenceNumber_lt v
  rw [atWrap_bound_iff h]
  constructor
  · rintro ⟨accepted, d', hvalidate', haccepted, -⟩ ⟨hmax, hzero, hssrc⟩
    rw [hvalidate] at hvalidate'
    obtain ⟨rfl, -⟩ := Prod.mk.inj (Except.ok.inj hvalidate')
    rw [continues_bound_iff h, decide_eq_true_iff] at haccepted
    have hnext := (haccepted.mpr ⟨by omega, hssrc⟩).1
    omega
  · intro hnot
    refine ⟨_, _, hvalidate, ?_, fun haccepted => ?_⟩
    · rw [continues_bound_iff h, decide_eq_true_iff, and_congr_left_iff]
      intro hssrc
      have hsafe : ¬ (last.toNat = 65535 ∧ Rtp.sequenceNumber v = 0) :=
        fun hw => hnot ⟨hw.1, hw.2, hssrc⟩
      omega
    · have hssrc := (of_decide_eq_true haccepted).2
      exact ⟨_, unpack_bound h12 .., headerSequenceNumber_toNat v, hssrc.symm⟩

end

end Session

/-- Whatever the loop has received so far, acceptance is exact but for the packet at the wrap. -/
theorem acceptsExactly_iff {pt : UInt8} {past : List Bytes} {os : List (Option Bytes)}
    {d : RtpDepacker} (h : drive (RtpDepacker.handle pt) .new past = .ok (os, d)) {v : Bytes}
    (h12 : 12 ≤ v.length) : AcceptsExactly pt d v ↔ ¬ AtWrap pt d v := by
  obtain ⟨s, rfl⟩ := Session.drive_handle_ok h
  by_cases hrelevant : Relevant pt v
  · cases s with
    | fresh =>
      refine iff_of_true (Session.acceptsExactly_fresh h12 hrelevant) ?_
      rintro ⟨-, ⟨hset, -⟩, -⟩
      cases hset
    | bound last ssrc => exact Session.acceptsExactly_bound_iff h12 hrelevant last ssrc
  · exact iff_of_true (Session.acceptsExactly_of_not_relevant h12 hrelevant _)
      fun hw => hrelevant hw.1

theorem acceptsExactly_iff_next :
    drive (RtpDepacker.handle 10) .new [[0x80, 10, 0, 1, 0, 0, 0, 0, 0, 0, 0, 7, 42]] =
        .ok ([some [42]], ⟨true, 1, true, 7⟩) ∧
      AcceptsExactly 10 ⟨true, 1, true, 7⟩ [0x80, 10, 0, 2, 0, 0, 0, 0, 0, 0, 0, 7, 43] := by
  have hrun : drive (RtpDepacker.handle 10) .new [[0x80, 10, 0, 1, 0, 0, 0, 0, 0, 0, 0, 7, 42]] =
      .ok ([some [42]], ⟨true, 1, true, 7⟩) := rfl
  refine ⟨hrun, (acceptsExactly_iff hrun (by decide)).mpr ?_⟩
  rintro ⟨-, -, hlast, -⟩
  cases hlast

/-- Number 0 of the same sender, behind number 65535. -/
theorem acceptsExactly_wrap :
    drive (RtpDepacker.handle 10) .new [[0x80, 10, 255, 255, 0, 0, 0, 0, 0, 0, 0, 7, 42]] =
        .ok ([some [42]], ⟨true, 65535, true, 7⟩) ∧
      ¬ AcceptsExactly 10 ⟨true, 65535, true, 7⟩ [0x80, 10, 0, 0, 0, 0, 0, 0, 0, 0, 0, 7, 43] := by
  refine ⟨rfl, ?_⟩
  rintro ⟨accepted, d', hvalidate, haccepted, -⟩
  obtain ⟨rfl, -⟩ := Prod.mk.inj (Except.ok.inj hvalidate)
  have hcontinues : Continues 10 ⟨true, 65535, true, 7⟩
      [0x80, 10, 0, 0, 0, 0, 0, 0, 0, 0, 0, 7, 43] := by
    refine ⟨by decide, .inr (by decide)⟩
  exact Bool.false_ne_true (haccepted.mpr hcontinues)

end Voip
