import Voip.Basic
import Voip.Base.ByteOrder

/-! The sending side of the RTP header: `RtpPacker` with its two running counters. -/

namespace Voip

structure RtpPacker where
  seqNumber : UInt16
  timestamp : UInt32
  ssrc : UInt32
  payloadType : UInt8
  deriving DecidableEq, Repr

namespace RtpPacker

def new (seqNumber : UInt16) (timestamp ssrc : UInt32) : RtpPacker :=
  { seqNumber, timestamp, ssrc, payloadType := 0 }

def init (p : RtpPacker) (payloadType : UInt8) : RtpPacker := { p with payloadType }

def setFirstByte (header : Bytes) : Bytes := (header.set 0 0x00).modify 0 (· ||| 0x80)

def setSecondByte (p : RtpPacker) (header : Bytes) : Bytes := header.set 1 p.payloadType

def setSequenceNumber (p : RtpPacker) (header : Bytes) : Bytes × RtpPacker :=
  let header := header.set 2 ((p.seqNumber &&& 0xFF00) >>> 8).toUInt8
  let header := header.set 3 (p.seqNumber &&& 0x00FF).toUInt8
  -- `int` arithmetic modulo the largest `uint16_t`
  (header, { p with seqNumber := UInt16.ofNat ((p.seqNumber.toNat + 1) % 65535) })

def setTimestamp (p : RtpPacker) (header : Bytes) : Bytes × RtpPacker :=
  let p :=
    if p.payloadType = 10 ∨ p.payloadType = 11 then
      { p with timestamp := (p.timestamp + 512) % 4294967295 }
    else if p.payloadType = OPUS_PAYLOADTYPE then
      { p with timestamp := (p.timestamp + OPUS_TIMESTAMP_INCREMENT) % 4294967295 }
    else p
  -- unlike the sequence number, the timestamp steps before it is written
  let header := header.set 4 ((p.timestamp &&& 0xFF000000) >>> 24).toUInt8
  let header := header.set 5 ((p.timestamp &&& 0x00FF0000) >>> 16).toUInt8
  let header := header.set 6 ((p.timestamp &&& 0x0000FF00) >>> 8).toUInt8
  let header := header.set 7 (p.timestamp &&& 0x000000FF).toUInt8
  (header, p)

def setSSRC (p : RtpPacker) (header : Bytes) : Bytes :=
  let header := header.set 8 ((p.ssrc &&& 0xFF000000) >>> 24).toUInt8
  let header := header.set 9 ((p.ssrc &&& 0x00FF0000) >>> 16).toUInt8
  let header := header.set 10 ((p.ssrc &&& 0x0000FF00) >>> 8).toUInt8
  header.set 11 (p.ssrc &&& 0x000000FF).toUInt8

def pack (p : RtpPacker) (data : Bytes) : Bytes × RtpPacker :=
  let header := setFirstByte (List.replicate 12 0)
  let header := p.setSecondByte header
  let (header, p) := p.setSequenceNumber header
  let (header, p) := p.setTimestamp header
  let header := p.setSSRC header
  (header ++ data, p)

def packAll (p : RtpPacker) : List Bytes → List Bytes
  | [] => []
  | data :: rest => (p.pack data).1 :: (p.pack data).2.packAll rest

@[simp] theorem setTimestamp_seqNumber (p : RtpPacker) (header : Bytes) :
    (p.setTimestamp header).2.seqNumber = p.seqNumber := by
  unfold setTimestamp
  split_ifs <;> rfl

@[simp] theorem setTimestamp_ssrc (p : RtpPacker) (header : Bytes) :
    (p.setTimestamp header).2.ssrc = p.ssrc := by
  unfold setTimestamp
  split_ifs <;> rfl

@[simp] theorem setTimestamp_payloadType (p : RtpPacker) (header : Bytes) :
    (p.setTimestamp header).2.payloadType = p.payloadType := by
  unfold setTimestamp
  split_ifs <;> rfl

@[simp] theorem pack_seqNumber (p : RtpPacker) (data : Bytes) :
    (p.pack data).2.seqNumber = UInt16.ofNat ((p.seqNumber.toNat + 1) % 65535) :=
  setTimestamp_seqNumber (p.setSequenceNumber []).2 []

@[simp] theorem pack_ssrc (p : RtpPacker) (data : Bytes) : (p.pack data).2.ssrc = p.ssrc :=
  setTimestamp_ssrc (p.setSequenceNumber []).2 []

@[simp] theorem pack_payloadType (p : RtpPacker) (data : Bytes) :
    (p.pack data).2.payloadType = p.payloadType :=
  setTimestamp_payloadType (p.setSequenceNumber []).2 []

theorem pack_bytes (p : RtpPacker) (data : Bytes) :
    (p.pack data).1 =
      [0x80, p.payloadType,
        ((p.seqNumber &&& 0xFF00) >>> 8).toUInt8, (p.seqNumber &&& 0x00FF).toUInt8,
        (((p.pack data).2.timestamp &&& 0xFF000000) >>> 24).toUInt8,
        (((p.pack data).2.timestamp &&& 0x00FF0000) >>> 16).toUInt8,
        (((p.pack data).2.timestamp &&& 0x0000FF00) >>> 8).toUInt8,
        ((p.pack data).2.timestamp &&& 0x000000FF).toUInt8,
        ((p.ssrc &&& 0xFF000000) >>> 24).toUInt8, ((p.ssrc &&& 0x00FF0000) >>> 16).toUInt8,
        ((p.ssrc &&& 0x0000FF00) >>> 8).toUInt8, (p.ssrc &&& 0x000000FF).toUInt8] ++ data := by
  rw [← pack_ssrc p data]
  rfl

@[simp] theorem pack_length (p : RtpPacker) (data : Bytes) :
    (p.pack data).1.length = 12 + data.length := by
  rw [pack_bytes]
  simp only [List.length_append, List.length_cons, List.length_nil]

end RtpPacker

end Voip
