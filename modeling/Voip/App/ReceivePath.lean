import Voip.App.Receiver
import Voip.Base.Machine

/-! Which vectors one turn of the receive loop survives. -/

namespace Voip.Receiver

open Base

/-- The loop as a machine: each turn has its vector, and what libopus would do with it. -/
def turn (t : Receiver × SimpleJB) (input : OpusDecode × Bytes) :
    Except Fault (Unit × (Receiver × SimpleJB)) := do
  let t ← t.1.receive input.1 t.2 input.2
  pure ((), t)

def InSession (payloadType : UInt8) (r : Receiver) : Prop :=
  r.payloadType = payloadType ∧ ∃ s : Session, r.depacker = s.toDepacker

theorem inSession_receive {pt : UInt8} {r r' : Receiver} {jb jb' : SimpleJB} {packet : Bytes}
    {opus_decode : OpusDecode} (hr : InSession pt r)
    (h : r.receive opus_decode jb packet = .ok (r', jb')) : InSession pt r' := by
  obtain ⟨rfl, s, hs⟩ := hr
  obtain ⟨payload, hhandle, hpt, -⟩ := receive_cases h
  rw [hs] at hhandle
  exact ⟨hpt, _, (Session.handle_ok hhandle).2⟩

theorem inSession_drive {pt : UInt8} {decoder : AudioDecoder} {jb jb' : SimpleJB} {r : Receiver}
    {past : List (OpusDecode × Bytes)} {os : List Unit}
    (h : drive turn (Receiver.init pt decoder, jb) past = .ok (os, (r, jb'))) :
    InSession pt r := by
  refine drive_preserves (fun t => InSession pt t.1) ?_ ⟨rfl, .fresh, rfl⟩ h
  rintro ⟨r, jb⟩ ⟨opus_decode, packet⟩ o ⟨r', jb'⟩ hr hturn
  cases hreceive : r.receive opus_decode jb packet with
  | error e => simp [turn, hreceive] at hturn
  | ok t =>
    have ht : t = (r', jb') := by simpa [turn, hreceive] using hturn
    exact inSession_receive hr (hreceive.trans (congrArg Except.ok ht))

/-- The turn ends without a fault, and a vector without a whole header is rejected with nothing
changed. -/
def Survives (opus_decode : OpusDecode) (r : Receiver) (jb : SimpleJB) (packet : Bytes) : Prop :=
  (∃ result, r.receive opus_decode jb packet = .ok result) ∧
    (packet.length < 12 →
      r.depacker.validatePacket packet r.payloadType = .ok (false, r.depacker) ∧
        r.receive opus_decode jb packet = .ok (r, jb))

/-- The vectors that are survived. A short one of the right version and type is survived in a
session whose last number it repeats, a header alone wherever its payload is not decoded. -/
def Survivable (payloadType : UInt8) (d : RtpDepacker) (packet : Bytes) : Prop :=
  0 < packet.length ∧ (headerVersion packet = 2 → 1 < packet.length ∧
    (headerPayloadType packet = payloadType →
      if packet.length < 12 then
        d.isSequenceNumberSet = true ∧ 3 < packet.length ∧
          headerSequenceNumber packet = d.lastSequenceNumber
      else packet.length = 12 → payloadType = OPUS_PAYLOADTYPE →
        d.isSequenceNumberSet = true ∧
          ¬ ((headerSequenceNumber packet).toNat = d.lastSequenceNumber.toNat + 1 ∧
            headerSSRC packet = d.expectedSSRC)))

theorem readable_of_survivable {pt : UInt8} {s : Session} {packet : Bytes}
    (h : Survivable pt s.toDepacker packet) : s.Readable pt packet := by
  obtain ⟨h0, h⟩ := h
  by_cases hlong : 12 ≤ packet.length
  · exact Session.readable_of_header pt s hlong
  · refine ⟨h0, fun hv => ⟨(h hv).1, fun hp => ?_⟩⟩
    have hshort := (h hv).2 hp
    rw [if_pos (Nat.lt_of_not_le hlong)] at hshort
    obtain ⟨hset, h3, hseq⟩ := hshort
    cases s with
    | fresh => cases hset
    | bound last ssrc =>
      refine ⟨h3, fun hnext => ?_⟩
      rw [hseq] at hnext
      exact absurd hnext (Nat.ne_of_lt (Nat.lt_succ_self _))

section
variable {pt : UInt8} {s : Session} {packet : Bytes}

theorem length_of_accepted {data : Bytes} (hread : s.Readable pt packet)
    (hsome : (s.receive pt packet).1 = some data) : 12 ≤ packet.length := by
  by_cases ha : Session.Addressed pt packet
  · have hbody := ((hread.2 ha.1).2 ha.2)
    cases s with
    | fresh => exact hbody
    | bound last ssrc =>
      by_cases hnext : (headerSequenceNumber packet).toNat = last.toNat + 1
      · exact hbody.2 hnext
      · simp [Session.receive, ha, hnext] at hsome
  · simp [Session.receive, ha] at hsome

theorem survivable_of_addressed (d : RtpDepacker) (h0 : 0 < packet.length)
    (ha : Session.Addressed pt packet) :
    Survivable pt d packet ↔ 1 < packet.length ∧
      if packet.length < 12 then
        d.isSequenceNumberSet = true ∧ 3 < packet.length ∧
          headerSequenceNumber packet = d.lastSequenceNumber
      else packet.length = 12 → pt = OPUS_PAYLOADTYPE →
        d.isSequenceNumberSet = true ∧
          ¬ ((headerSequenceNumber packet).toNat = d.lastSequenceNumber.toNat + 1 ∧
            headerSSRC packet = d.expectedSSRC) := by
  rw [Survivable, and_iff_right h0, forall_prop_of_true ha.1, forall_prop_of_true ha.2]

theorem survivable_of_accepted {data : Bytes} (hread : s.Readable pt packet)
    (hsome : (s.receive pt packet).1 = some data) :
    Survivable pt s.toDepacker packet ↔ (pt = OPUS_PAYLOADTYPE → data ≠ []) := by
  have hlong := length_of_accepted hread hsome
  have hempty : packet.drop 12 = [] ↔ packet.length = 12 := by
    rw [List.drop_eq_nil_iff]
    omega
  by_cases ha : Session.Addressed pt packet
  · rw [survivable_of_addressed _ hread.1 ha, if_neg (Nat.not_lt.mpr hlong),
      and_iff_right (show 1 < packet.length by omega)]
    cases s with
    | fresh =>
      obtain rfl : packet.drop 12 = data := by simpa [Session.receive, ha] using hsome
      simp only [Session.toDepacker, RtpDepacker.new, Bool.false_eq_true, false_and, ne_eq, hempty]
      exact ⟨fun h hpt hlen => h hlen hpt, fun h hlen hpt => h hpt hlen⟩
    | bound last ssrc =>
      by_cases hnext : (headerSequenceNumber packet).toNat = last.toNat + 1 ∧
          headerSSRC packet = ssrc
      · obtain rfl : packet.drop 12 = data := by simpa [Session.receive, ha, hnext] using hsome
        simp only [Session.toDepacker, hnext.1, hnext.2, and_self, not_true_eq_false, and_false,
          ne_eq, hempty]
        exact ⟨fun h hpt hlen => h hlen hpt, fun h hlen hpt => h hpt hlen⟩
      · simp [Session.receive, ha, hnext] at hsome
  · simp [Session.receive, ha] at hsome

theorem survivable_of_rejected (hread : s.Readable pt packet)
    (hnone : (s.receive pt packet).1 = none) :
    Survivable pt s.toDepacker packet ↔
      (packet.length < 12 → (s.receive pt packet).2 = s) := by
  by_cases ha : Session.Addressed pt packet
  · have hbody := hread.2 ha.1
    rw [survivable_of_addressed _ hread.1 ha, and_iff_right hbody.1]
    cases s with
    | fresh => simp [Session.receive, ha] at hnone
    | bound last ssrc =>
      have hrejected : ¬ ((headerSequenceNumber packet).toNat = last.toNat + 1 ∧
          headerSSRC packet = ssrc) := by
        intro hnext
        simp [Session.receive, ha, hnext] at hnone
      by_cases hlong : packet.length < 12
      · simp [hlong, Session.receive, ha, Session.toDepacker, (hbody.2 ha.2).1]
      · simp [hlong, Session.toDepacker, hrejected]
  · refine iff_of_true ⟨hread.1, fun hv => ⟨(hread.2 hv).1, fun hp => absurd ⟨hv, hp⟩ ha⟩⟩ ?_
    simp [Session.receive, ha]

end

theorem receive_ok_iff_of_accepted {opus_decode : OpusDecode} {r : Receiver} {jb : SimpleJB}
    {s : Session} {packet data : Bytes} (hs : r.depacker = s.toDepacker)
    (hread : s.Readable r.payloadType packet)
    (hsome : (s.receive r.payloadType packet).1 = some data) :
    (∃ result, r.receive opus_decode jb packet = .ok result) ↔
      (r.payloadType = OPUS_PAYLOADTYPE → data ≠ []) := by
  rw [receive_accepts opus_decode jb hs hread hsome]
  constructor
  · rintro ⟨result, hresult⟩ hpt rfl
    rw [deliver_opus_nil opus_decode jb (by exact hpt)] at hresult
    cases hresult
  · intro hdata
    obtain ⟨frame, decoder, hdeliver, -⟩ := deliver_ok opus_decode jb
      (r := { r with depacker := (s.receive r.payloadType packet).2.toDepacker }) hdata
    exact ⟨_, hdeliver⟩

theorem survives_iff_of_session {opus_decode : OpusDecode} {r : Receiver} {jb : SimpleJB}
    {s : Session} {packet : Bytes} (hs : r.depacker = s.toDepacker) :
    r.Survives opus_decode jb packet ↔ Survivable r.payloadType r.depacker packet := by
  by_cases hread : s.Readable r.payloadType packet
  · cases hpayload : (s.receive r.payloadType packet).1 with
    | none =>
      have hreceive := receive_rejects opus_decode jb hs hread hpayload
      have hvalidate : r.depacker.validatePacket packet r.payloadType =
          .ok (false, (s.receive r.payloadType packet).2.toDepacker) := by
        refine RtpDepacker.validatePacket_of_handle ?_
        rw [hs, Session.handle_of_readable hread, hpayload]
      rw [Survives, hreceive, hvalidate, hs, survivable_of_rejected hread hpayload,
        and_iff_right ⟨_, rfl⟩]
      refine imp_congr_right fun _ => ⟨?_, ?_⟩
      · rintro ⟨hdepacker, -⟩
        exact Session.toDepacker_injective (Prod.mk.inj (Except.ok.inj hdepacker)).2
      · intro hsame
        rw [hsame, ← hs]
        exact ⟨rfl, rfl⟩
    | some data =>
      have hlong := length_of_accepted hread hpayload
      rw [Survives, receive_ok_iff_of_accepted hs hread hpayload, hs,
        survivable_of_accepted hread hpayload]
      exact and_iff_left fun hshort => absurd hshort (Nat.not_lt.mpr hlong)
  · constructor
    · rintro ⟨⟨result, hresult⟩, -⟩
      rw [receive_throws opus_decode jb hs hread] at hresult
      cases hresult
    · intro h
      rw [hs] at h
      exact absurd (readable_of_survivable h) hread

/-- Whatever the loop has received so far, it survives exactly the survivable vectors. -/
theorem survives_iff {pt : UInt8} {decoder : AudioDecoder} {jb₀ jb₁ : SimpleJB} {r : Receiver}
    {past : List (OpusDecode × Bytes)} {os : List Unit}
    (h : drive turn (Receiver.init pt decoder, jb₀) past = .ok (os, (r, jb₁)))
    (opus_decode : OpusDecode) (jb : SimpleJB) (packet : Bytes) :
    r.Survives opus_decode jb packet ↔ Survivable pt r.depacker packet := by
  obtain ⟨rfl, s, hs⟩ := inSession_drive h
  exact survives_iff_of_session hs

theorem survives_iff_header :
    drive turn (Receiver.init 10 .new, .new)
        [(fun _ _ => ⟨0, []⟩, [0x80, 10, 0, 1, 0, 0, 0, 0, 0, 0, 0, 7, 42])] =
      .ok ([()], (⟨10, ⟨true, 1, true, 7⟩, .new⟩, ⟨[[42]]⟩)) ∧
    Survives (fun _ _ => ⟨0, []⟩) ⟨10, ⟨true, 1, true, 7⟩, .new⟩ ⟨[[42]]⟩
      [0x80, 10, 0, 2, 0, 0, 0, 0, 0, 0, 0, 7] := by
  have hrun : drive turn (Receiver.init 10 .new, .new)
      [(fun _ _ => ⟨0, []⟩, [0x80, 10, 0, 1, 0, 0, 0, 0, 0, 0, 0, 7, 42])] =
    .ok ([()], (⟨10, ⟨true, 1, true, 7⟩, .new⟩, ⟨[[42]]⟩)) := rfl
  refine ⟨hrun, (survives_iff hrun _ _ _).mpr ⟨by decide, fun _ => ⟨by decide, fun _ => ?_⟩⟩⟩
  rw [if_neg (by decide)]
  intro _ hpt
  cases hpt

/-- The vector that a failed `recvfrom` leaves ends the first turn of every session. -/
theorem survives_empty :
    ¬ (Receiver.init 10 .new).Survives (fun _ _ => ⟨0, []⟩) .new [] := by
  rintro ⟨⟨result, hresult⟩, -⟩
  cases hresult

end Voip.Receiver
