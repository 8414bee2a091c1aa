import Voip.Rtp.Depacker

/-! A session is fresh or bound. The depacker's two flags can only be set together, so its four
fields carry no more than this, and `handle` is the session's own transition wherever no read
goes past the end of the vector. -/

namespace Voip

inductive Session where
  | fresh
  | bound (last : UInt16) (ssrc : UInt32)
  deriving DecidableEq, Repr

namespace Session

def toDepacker : Session → RtpDepacker
  | fresh => .new
  | bound last ssrc => ⟨true, last, true, ssrc⟩

theorem toDepacker_injective : Function.Injective toDepacker := by
  intro s t h
  cases s <;> cases t <;> simp_all [toDepacker, RtpDepacker.new]

/-- Version and payload type are checked without regard to the session. -/
def Addressed (pt : UInt8) (v : Bytes) : Prop := headerVersion v = 2 ∧ headerPayloadType v = pt

instance (pt : UInt8) (v : Bytes) : Decidable (Addressed pt v) :=
  inferInstanceAs (Decidable (_ ∧ _))

/-- The payload passed on, if any, and the session after the packet. -/
def receive (pt : UInt8) (s : Session) (v : Bytes) : Option Bytes × Session :=
  if Addressed pt v then
    match s with
    | fresh => (some (v.drop 12), bound (headerSequenceNumber v) (headerSSRC v))
    | bound last ssrc =>
      (if (headerSequenceNumber v).toNat = last.toNat + 1 ∧ headerSSRC v = ssrc then
        some (v.drop 12) else none, bound (headerSequenceNumber v) ssrc)
  else (none, s)

/-- What is passed on of a packet is what stands behind its header. -/
theorem payload_of_receive {pt : UInt8} {s : Session} {v data : Bytes}
    (h : (receive pt s v).1 = some data) : data = v.drop 12 := by
  by_cases ha : Addressed pt v
  · cases s with
    | fresh => simpa [receive, ha] using h.symm
    | bound last ssrc =>
      by_cases hnext : (headerSequenceNumber v).toNat = last.toNat + 1 ∧ headerSSRC v = ssrc
      · simpa [receive, ha, hnext] using h.symm
      · simp [receive, ha, hnext] at h
  · simp [receive, ha] at h

/-- How long a vector must be for the checks it reaches. -/
def Readable (pt : UInt8) (s : Session) (v : Bytes) : Prop :=
  0 < v.length ∧ (headerVersion v = 2 → 1 < v.length ∧ (headerPayloadType v = pt →
    match s with
    | fresh => 11 < v.length
    | bound last _ => 3 < v.length ∧
      ((headerSequenceNumber v).toNat = last.toNat + 1 → 11 < v.length)))

theorem readable_of_header (pt : UInt8) (s : Session) {v : Bytes} (h : 12 ≤ v.length) :
    Readable pt s v := by
  refine ⟨by omega, fun _ => ⟨by omega, fun _ => ?_⟩⟩
  cases s with
  | fresh => exact h
  | bound last ssrc => exact ⟨by omega, fun _ => h⟩

section
open RtpDepacker

variable {pt : UInt8} {v : Bytes}

theorem validatePacket_of_version_ne (d : RtpDepacker) (h0 : 0 < v.length)
    (hv : headerVersion v ≠ 2) : d.validatePacket v pt = .ok (false, d) := by
  simp [validatePacket, validateVersion, getVersion_of_lt h0, hv, bind, Except.bind, pure,
    Except.pure]

theorem validatePacket_of_payloadType_ne (d : RtpDepacker) (h1 : 1 < v.length)
    (hp : headerPayloadType v ≠ pt) : d.validatePacket v pt = .ok (false, d) := by
  have h0 : 0 < v.length := by omega
  by_cases hv : headerVersion v = 2
  · simp [validatePacket, validateVersion, validatePayloadType, getVersion_of_lt h0,
      getPayloadType_of_lt h1, hv, hp, bind, Except.bind, pure, Except.pure]
  · exact validatePacket_of_version_ne d h0 hv

theorem validatePacket_fresh (h1 : 1 < v.length) (ha : Addressed pt v) :
    RtpDepacker.new.validatePacket v pt = .ok (true, .new) := by
  have h0 : 0 < v.length := by omega
  simp [validatePacket, validateVersion, validatePayloadType, getVersion_of_lt h0,
    getPayloadType_of_lt h1, ha.1, ha.2, RtpDepacker.new, bind, Except.bind, pure, Except.pure]

/-- In a bound session the sequence number is looked at, and kept, before the SSRC. -/
theorem validatePacket_bound (h1 : 1 < v.length) (ha : Addressed pt v) (last : UInt16)
    (ssrc : UInt32) :
    (bound last ssrc).toDepacker.validatePacket v pt = (do
      let seq ← getSequenceNumber v
      if seq.toNat = last.toNat + 1 then do
        let got ← getSSRC v
        pure (decide (got = ssrc), (bound seq ssrc).toDepacker)
      else pure (false, (bound seq ssrc).toDepacker)) := by
  have h0 : 0 < v.length := by omega
  simp only [validatePacket, validateVersion, validatePayloadType, getVersion_of_lt h0,
    getPayloadType_of_lt h1, ha.1, ha.2, toDepacker, validateSequenceNumber, validateSSRC, bind,
    Except.bind, pure, Except.pure]
  cases getSequenceNumber v with
  | error f => simp
  | ok seq =>
    by_cases hs : seq.toNat = last.toNat + 1
    · cases getSSRC v <;> simp [hs]
    · simp [hs]

theorem unpack_bound (h : 11 < v.length) (last : UInt16) (ssrc : UInt32) :
    (bound last ssrc).toDepacker.unpack v = .ok (v.drop 12, (bound last ssrc).toDepacker) :=
  unpack_of_lt h _

theorem unpack_fresh (h : 11 < v.length) :
    RtpDepacker.new.unpack v =
      .ok (v.drop 12, (bound (headerSequenceNumber v) (headerSSRC v)).toDepacker) :=
  unpack_of_lt h _

theorem unpack_fresh_throws (h : v.length ≤ 11) :
    RtpDepacker.new.unpack v = .error .outOfRange := by
  by_cases h3 : 3 < v.length
  · simp [unpack, RtpDepacker.new, getSequenceNumber_of_lt h3, getSSRC_of_le h, bind, Except.bind,
      pure, Except.pure]
  · simp [unpack, RtpDepacker.new, getSequenceNumber_of_le (Nat.le_of_not_lt h3), bind,
      Except.bind]

/-- Where the reads stay inside the vector, the depacker makes the session's transition. -/
theorem handle_of_readable {s : Session} (h : Readable pt s v) :
    s.toDepacker.handle pt v = .ok ((receive pt s v).1, (receive pt s v).2.toDepacker) := by
  obtain ⟨h0, h⟩ := h
  by_cases hv : headerVersion v = 2
  · obtain ⟨h1, h⟩ := h hv
    by_cases hp : headerPayloadType v = pt
    · have hb := h hp
      have ha : Addressed pt v := ⟨hv, hp⟩
      cases s with
      | fresh =>
        rw [handle, toDepacker, validatePacket_fresh h1 ha]
        simp [unpack_fresh hb, receive, ha, bind, Except.bind, pure, Except.pure]
      | bound last ssrc =>
        rw [handle, validatePacket_bound h1 ha, getSequenceNumber_of_lt hb.1]
        by_cases hs : (headerSequenceNumber v).toNat = last.toNat + 1
        · have h12 := hb.2 hs
          by_cases hc : headerSSRC v = ssrc <;>
            simp [getSSRC_of_lt h12, unpack_bound h12, receive, ha, hs, hc, bind, Except.bind,
              pure, Except.pure]
        · simp [receive, ha, hs, bind, Except.bind, pure, Except.pure]
    · have ha : ¬ Addressed pt v := fun ha => hp ha.2
      rw [handle, validatePacket_of_payloadType_ne _ h1 hp]
      simp [receive, ha, bind, Except.bind, pure, Except.pure]
  · have ha : ¬ Addressed pt v := fun ha => hv ha.1
    rw [handle, validatePacket_of_version_ne _ h0 hv]
    simp [receive, ha, bind, Except.bind, pure, Except.pure]

/-- Everywhere else a read throws. -/
theorem handle_of_not_readable {s : Session} (h : ¬ Readable pt s v) :
    s.toDepacker.handle pt v = .error .outOfRange := by
  by_cases h0 : 0 < v.length
  -- with a wrong version or payload type nothing further would be read
  · have hv : headerVersion v = 2 := by
      by_contra hv
      exact h ⟨h0, fun hc => absurd hc hv⟩
    by_cases h1 : 1 < v.length
    · have hp : headerPayloadType v = pt := by
        by_contra hp
        exact h ⟨h0, fun _ => ⟨h1, fun hc => absurd hc hp⟩⟩
      have ha : Addressed pt v := ⟨hv, hp⟩
      cases s with
      | fresh =>
        have h11 : ¬ 11 < v.length := fun hc => h ⟨h0, fun _ => ⟨h1, fun _ => hc⟩⟩
        rw [handle, toDepacker, validatePacket_fresh h1 ha]
        simp [unpack_fresh_throws (Nat.le_of_not_lt h11), bind, Except.bind]
      | bound last ssrc =>
        rw [handle, validatePacket_bound h1 ha]
        by_cases h3 : 3 < v.length
        · have hs : (headerSequenceNumber v).toNat = last.toNat + 1 := by
            by_contra hs
            exact h ⟨h0, fun _ => ⟨h1, fun _ => ⟨h3, fun hc => absurd hc hs⟩⟩⟩
          have h11 : ¬ 11 < v.length := fun hc => h ⟨h0, fun _ => ⟨h1, fun _ => ⟨h3, fun _ => hc⟩⟩⟩
          rw [getSequenceNumber_of_lt h3]
          simp [hs, getSSRC_of_le (Nat.le_of_not_lt h11), bind, Except.bind]
        · simp [getSequenceNumber_of_le (Nat.le_of_not_lt h3), bind, Except.bind]
    · have hb : getPayloadType v = .error .outOfRange := by
        rw [getPayloadType, vecAt_of_le (Nat.le_of_not_lt h1)]
        rfl
      simp [handle, validatePacket, validateVersion, validatePayloadType, getVersion_of_lt h0, hv,
        hb, bind, Except.bind, pure, Except.pure]
  · have hb : getVersion v = .error .outOfRange := by
      rw [getVersion, vecAt_of_le (Nat.le_of_not_lt h0)]
      rfl
    simp [handle, validatePacket, validateVersion, hb, bind, Except.bind]

/-- All that `handle` can do in a session, where it does not throw. -/
theorem handle_ok {s : Session} {o : Option Bytes} {d : RtpDepacker}
    (h : s.toDepacker.handle pt v = .ok (o, d)) :
    o = (receive pt s v).1 ∧ d = (receive pt s v).2.toDepacker := by
  by_cases hread : Readable pt s v
  · rw [handle_of_readable hread] at h
    obtain ⟨rfl, rfl⟩ := Prod.mk.inj (Except.ok.inj h)
    exact ⟨rfl, rfl⟩
  · rw [handle_of_not_readable hread] at h
    cases h

end

end Session

end Voip
