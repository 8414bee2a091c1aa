import Voip.Basic
import Voip.Base.ByteOrder

/-! The receiving side of the RTP header: `RtpDepacker`, reading every byte through `at`. -/

namespace Voip

structure RtpDepacker where
  isSequenceNumberSet : Bool
  lastSequenceNumber : UInt16
  isSSRCSet : Bool
  expectedSSRC : UInt32
  deriving DecidableEq, Repr

namespace RtpDepacker

def new : RtpDepacker :=
  { isSequenceNumberSet := false, lastSequenceNumber := 0, isSSRCSet := false, expectedSSRC := 0 }

/-! ## Header getters -/

def getSequenceNumber (packet : Bytes) : Except Fault UInt16 := do
  let b2 ← vecAt packet 2
  let b3 ← vecAt packet 3
  pure (Base.be16 b2 b3)

def getPayloadType (packet : Bytes) : Except Fault UInt8 := do
  let b1 ← vecAt packet 1
  pure (b1 &&& 0x7f)

def getVersion (packet : Bytes) : Except Fault UInt8 := do
  let b0 ← vecAt packet 0
  pure ((b0 &&& 0xC0) >>> 6)

def getSSRC (packet : Bytes) : Except Fault UInt32 := do
  let b8 ← vecAt packet 8
  let b9 ← vecAt packet 9
  let b10 ← vecAt packet 10
  let b11 ← vecAt packet 11
  pure (Base.be32 b8 b9 b10 b11)

/-! ## Validation -/

def validateVersion (packet : Bytes) : Except Fault Bool := do
  let version ← getVersion packet
  pure (version = 2)

def validatePayloadType (packet : Bytes) (expectedPayloadType : UInt8) : Except Fault Bool := do
  let payloadType ← getPayloadType packet
  pure (payloadType = expectedPayloadType)

def validateSequenceNumber (d : RtpDepacker) (packet : Bytes) :
    Except Fault (Bool × RtpDepacker) := do
  let packetSeqNumber ← getSequenceNumber packet
  -- compared in `int`, so nothing follows 65535, and kept whatever the result
  let result : Bool := packetSeqNumber.toNat = d.lastSequenceNumber.toNat + 1
  pure (result, { d with lastSequenceNumber := packetSeqNumber })

def validateSSRC (d : RtpDepacker) (packet : Bytes) : Except Fault Bool := do
  let ssrc ← getSSRC packet
  pure (ssrc = d.expectedSSRC)

def validatePacket (d : RtpDepacker) (packet : Bytes) (expectedPayloadType : UInt8) :
    Except Fault (Bool × RtpDepacker) := do
  let versionOk ← validateVersion packet
  if !versionOk then pure (false, d) else
  let typeOk ← validatePayloadType packet expectedPayloadType
  if !typeOk then pure (false, d) else
  let (seqOk, d) ←
    if d.isSequenceNumberSet then d.validateSequenceNumber packet else pure (true, d)
  if !seqOk then pure (false, d) else
  let ssrcOk ← if d.isSSRCSet then d.validateSSRC packet else pure true
  pure (ssrcOk, d)

/-- The two flags are set one after the other, each behind reads that may throw. -/
def unpack (d : RtpDepacker) (packet : Bytes) : Except Fault (Bytes × RtpDepacker) := do
  let d ←
    if !d.isSequenceNumberSet then do
      let seq ← getSequenceNumber packet
      pure { d with lastSequenceNumber := seq, isSequenceNumberSet := true }
    else pure d
  let d ←
    if !d.isSSRCSet then do
      let ssrc ← getSSRC packet
      pure { d with expectedSSRC := ssrc, isSSRCSet := true }
    else pure d
  if packet.length < 12 then throw .pastTheEnd else pure (packet.drop 12, d)

/-- What the receive loop does with one packet before it decodes: validate it, and unpack it if
it is accepted. -/
def handle (expectedPayloadType : UInt8) (d : RtpDepacker) (packet : Bytes) :
    Except Fault (Option Bytes × RtpDepacker) := do
  let (ok, d) ← d.validatePacket packet expectedPayloadType
  if ok then
    let (payload, d) ← d.unpack packet
    pure (some payload, d)
  else pure (none, d)

theorem validatePacket_of_handle {expectedPayloadType : UInt8} {d d' : RtpDepacker}
    {packet : Bytes} (h : d.handle expectedPayloadType packet = .ok (none, d')) :
    d.validatePacket packet expectedPayloadType = .ok (false, d') := by
  rw [handle] at h
  cases hv : d.validatePacket packet expectedPayloadType with
  | error e => simp [hv] at h
  | ok checked =>
    obtain ⟨valid, d''⟩ := checked
    cases valid with
    | false => simpa [hv] using h
    | true =>
      cases hu : d''.unpack packet with
      | error e => simp [hv, hu] at h
      | ok unpacked => simp [hv, hu] at h

def acceptedPackets (expectedPayloadType : UInt8) : RtpDepacker → List Bytes →
    Except Fault (List Bytes)
  | _, [] => .ok []
  | d, packet :: packets => do
    let (payload, d) ← d.handle expectedPayloadType packet
    let rest ← acceptedPackets expectedPayloadType d packets
    pure (if payload.isSome then packet :: rest else rest)

end RtpDepacker

/-! ## The header fields of a vector long enough to have them -/

def headerVersion (v : Bytes) : UInt8 := (v.getD 0 0 &&& 0xC0) >>> 6

def headerPayloadType (v : Bytes) : UInt8 := v.getD 1 0 &&& 0x7f

def headerSequenceNumber (v : Bytes) : UInt16 := Base.be16 (v.getD 2 0) (v.getD 3 0)

def headerSSRC (v : Bytes) : UInt32 :=
  Base.be32 (v.getD 8 0) (v.getD 9 0) (v.getD 10 0) (v.getD 11 0)

namespace RtpDepacker

theorem getVersion_of_lt {v : Bytes} (h : 0 < v.length) : getVersion v = .ok (headerVersion v) := by
  rw [getVersion, vecAt_of_lt h]
  rfl

theorem getPayloadType_of_lt {v : Bytes} (h : 1 < v.length) :
    getPayloadType v = .ok (headerPayloadType v) := by
  rw [getPayloadType, vecAt_of_lt h]
  rfl

theorem getSequenceNumber_of_lt {v : Bytes} (h : 3 < v.length) :
    getSequenceNumber v = .ok (headerSequenceNumber v) := by
  rw [getSequenceNumber, vecAt_of_lt (by omega), vecAt_of_lt h]
  rfl

theorem getSSRC_of_lt {v : Bytes} (h : 11 < v.length) : getSSRC v = .ok (headerSSRC v) := by
  rw [getSSRC, vecAt_of_lt (by omega), vecAt_of_lt (by omega), vecAt_of_lt (by omega),
    vecAt_of_lt h]
  rfl

theorem getSequenceNumber_of_le {v : Bytes} (h : v.length ≤ 3) :
    getSequenceNumber v = .error .outOfRange := by
  rw [getSequenceNumber]
  by_cases h2 : 2 < v.length
  · rw [vecAt_of_lt h2, vecAt_of_le h]
    rfl
  · rw [vecAt_of_le (Nat.le_of_not_lt h2)]
    rfl

theorem getSSRC_of_le {v : Bytes} (h : v.length ≤ 11) : getSSRC v = .error .outOfRange := by
  rw [getSSRC]
  by_cases h8 : 8 < v.length
  · rw [vecAt_of_lt h8]
    by_cases h9 : 9 < v.length
    · rw [vecAt_of_lt h9]
      by_cases h10 : 10 < v.length
      · rw [vecAt_of_lt h10, vecAt_of_le h]
        rfl
      · rw [vecAt_of_le (Nat.le_of_not_lt h10)]
        rfl
    · rw [vecAt_of_le (Nat.le_of_not_lt h9)]
      rfl
  · rw [vecAt_of_le (Nat.le_of_not_lt h8)]
    rfl

theorem unpack_of_lt {v : Bytes} (h : 11 < v.length) (d : RtpDepacker) :
    d.unpack v = .ok (v.drop 12,
      { isSequenceNumberSet := true
        lastSequenceNumber :=
          if d.isSequenceNumberSet then d.lastSequenceNumber else headerSequenceNumber v
        isSSRCSet := true
        expectedSSRC := if d.isSSRCSet then d.expectedSSRC else headerSSRC v }) := by
  obtain ⟨seqSet, last, ssrcSet, ssrc⟩ := d
  have h12 : ¬ v.length < 12 := by omega
  have hseq := getSequenceNumber_of_lt (show 3 < v.length by omega)
  have hssrc := getSSRC_of_lt h
  cases seqSet <;> cases ssrcSet <;>
    simp [unpack, hseq, hssrc, h12, bind, Except.bind, pure, Except.pure]

/-- What an accepted packet has agreed with, and the number it leaves. -/
theorem of_validatePacket_true {pt : UInt8} {v : Bytes} {d d' : RtpDepacker}
    (h11 : 11 < v.length) (h : d.validatePacket v pt = .ok (true, d')) :
    (d.isSSRCSet = true → headerSSRC v = d.expectedSSRC) ∧
      d' = { d with lastSequenceNumber :=
        if d.isSequenceNumberSet then headerSequenceNumber v else d.lastSequenceNumber } := by
  obtain ⟨seqSet, last, ssrcSet, ssrc⟩ := d
  have hversion := getVersion_of_lt (show 0 < v.length by omega)
  have htype := getPayloadType_of_lt (show 1 < v.length by omega)
  have hseq := getSequenceNumber_of_lt (show 3 < v.length by omega)
  have hssrc := getSSRC_of_lt h11
  simp only [validatePacket, validateVersion, validatePayloadType, validateSequenceNumber,
    validateSSRC, hversion, htype, hseq, hssrc, bind, Except.bind, pure, Except.pure] at h
  cases seqSet <;> cases ssrcSet <;> grind

end RtpDepacker

end Voip
