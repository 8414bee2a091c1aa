import Voip.Audio.Opus
import Voip.Jitter.SimpleJB
import Voip.Rtp.Session

/-! `Receiver`: what the receive loop does with the vector that `recvfrom` leaves. -/

namespace Voip

structure Receiver where
  payloadType : UInt8
  depacker : RtpDepacker
  decoder : AudioDecoder
  deriving DecidableEq

namespace Receiver

def init (payloadType : UInt8) (decoder : AudioDecoder) : Receiver :=
  { payloadType, depacker := .new, decoder }

/-- One turn of the loop. -/
def receive (opus_decode : OpusDecode) (r : Receiver) (jitterBuffer : SimpleJB) (packet : Bytes) :
    Except Fault (Receiver × SimpleJB) := do
  let (valid, depacker) ← r.depacker.validatePacket packet r.payloadType
  if valid then
    if r.payloadType = OPUS_PAYLOADTYPE then
      let (unpackedData, depacker) ← depacker.unpack packet
      let (decodedData, decoder) ← r.decoder.decode opus_decode unpackedData []
      pure ({ r with depacker, decoder }, jitterBuffer.add decodedData)
    else
      let (unpackedData, depacker) ← depacker.unpack packet
      pure ({ r with depacker }, jitterBuffer.add unpackedData)
  else pure ({ r with depacker }, jitterBuffer)

def deliver (opus_decode : OpusDecode) (r : Receiver) (jitterBuffer : SimpleJB)
    (unpackedData : Bytes) : Except Fault (Receiver × SimpleJB) := do
  if r.payloadType = OPUS_PAYLOADTYPE then
    let (decodedData, decoder) ← r.decoder.decode opus_decode unpackedData []
    pure ({ r with decoder }, jitterBuffer.add decodedData)
  else pure (r, jitterBuffer.add unpackedData)

/-- The loop is the depacker's `handle` and, where it yields a payload, `deliver`. -/
theorem receive_eq (opus_decode : OpusDecode) (r : Receiver) (jitterBuffer : SimpleJB)
    (packet : Bytes) :
    r.receive opus_decode jitterBuffer packet = (do
      let (payload, depacker) ← r.depacker.handle r.payloadType packet
      match payload with
      | some data => deliver opus_decode { r with depacker } jitterBuffer data
      | none => pure ({ r with depacker }, jitterBuffer)) := by
  rw [receive, RtpDepacker.handle]
  cases r.depacker.validatePacket packet r.payloadType with
  | error e => rfl
  | ok checked =>
    obtain ⟨valid, depacker⟩ := checked
    cases valid with
    | false => rfl
    | true =>
      simp only [ok_bind, if_true]
      cases depacker.unpack packet with
      | error e => simp
      | ok unpacked => simp [deliver]

/-- How many bytes an accepted packet adds to the jitter buffer. -/
def frameLength (opus_decode : OpusDecode) (payloadType : UInt8) (unpackedData : Bytes) : ℕ :=
  if payloadType = OPUS_PAYLOADTYPE then
    if (opus_decode unpackedData (OPUS_CHANNELS * OPUS_FRAMESIZE)).ret ≤ 0 then 0 else 1920
  else unpackedData.length

theorem deliver_opus_nil (opus_decode : OpusDecode) {r : Receiver} (jitterBuffer : SimpleJB)
    (h : r.payloadType = OPUS_PAYLOADTYPE) :
    r.deliver opus_decode jitterBuffer [] = .error .outOfRange := by
  rw [deliver, if_pos h, AudioDecoder.decode_nil, error_bind]

theorem deliver_ok (opus_decode : OpusDecode) {r : Receiver} (jitterBuffer : SimpleJB)
    {data : Bytes} (h : r.payloadType = OPUS_PAYLOADTYPE → data ≠ []) :
    ∃ frame decoder, r.deliver opus_decode jitterBuffer data =
        .ok ({ r with decoder }, jitterBuffer.add frame) ∧
      frame.length = frameLength opus_decode r.payloadType data := by
  by_cases hpt : r.payloadType = OPUS_PAYLOADTYPE
  · obtain ⟨decoded, d', hdecode, hlength⟩ := r.decoder.decode_of_ne_nil opus_decode (h hpt)
    refine ⟨decoded, d', ?_, ?_⟩
    · rw [deliver, if_pos hpt, hdecode, ok_bind]
      rfl
    · rw [hlength, frameLength, if_pos hpt]
      rfl
  · refine ⟨data, r.decoder, ?_, ?_⟩
    · rw [deliver, if_neg hpt, pure_eq_ok]
    · rw [frameLength, if_neg hpt]

section
variable {r : Receiver} {s : Session} {packet : Bytes} (opus_decode : OpusDecode)
  (jitterBuffer : SimpleJB)

theorem receive_throws (hs : r.depacker = s.toDepacker)
    (h : ¬ s.Readable r.payloadType packet) :
    r.receive opus_decode jitterBuffer packet = .error .outOfRange := by
  rw [receive_eq, hs, Session.handle_of_not_readable h, error_bind]

theorem receive_rejects (hs : r.depacker = s.toDepacker) (h : s.Readable r.payloadType packet)
    (hnone : (s.receive r.payloadType packet).1 = none) :
    r.receive opus_decode jitterBuffer packet =
      .ok ({ r with depacker := (s.receive r.payloadType packet).2.toDepacker },
        jitterBuffer) := by
  rw [receive_eq, hs, Session.handle_of_readable h, hnone, ok_bind]
  rfl

theorem receive_accepts (hs : r.depacker = s.toDepacker) (h : s.Readable r.payloadType packet)
    {data : Bytes} (hsome : (s.receive r.payloadType packet).1 = some data) :
    r.receive opus_decode jitterBuffer packet =
      deliver opus_decode
        { r with depacker := (s.receive r.payloadType packet).2.toDepacker } jitterBuffer data := by
  rw [receive_eq, hs, Session.handle_of_readable h, hsome, ok_bind]

end

/-- All that a turn without a fault can do. -/
theorem receive_cases {opus_decode : OpusDecode} {r r' : Receiver}
    {jitterBuffer jitterBuffer' : SimpleJB} {packet : Bytes}
    (h : r.receive opus_decode jitterBuffer packet = .ok (r', jitterBuffer')) :
    ∃ payload, r.depacker.handle r.payloadType packet = .ok (payload, r'.depacker) ∧
      r'.payloadType = r.payloadType ∧
      (payload = none ∧ jitterBuffer' = jitterBuffer ∨
        ∃ data frame, payload = some data ∧
          frame.length = frameLength opus_decode r.payloadType data ∧
          jitterBuffer' = jitterBuffer.add frame) := by
  rw [receive_eq] at h
  cases hhandle : r.depacker.handle r.payloadType packet with
  | error e => simp [hhandle] at h
  | ok handled =>
    obtain ⟨payload, depacker⟩ := handled
    rw [hhandle, ok_bind] at h
    cases payload with
    | none =>
      obtain ⟨rfl, rfl⟩ := Prod.mk.inj (Except.ok.inj h)
      exact ⟨none, rfl, rfl, .inl ⟨rfl, rfl⟩⟩
    | some data =>
      simp only at h
      have hdata : r.payloadType = OPUS_PAYLOADTYPE → data ≠ [] := by
        rintro hpt rfl
        rw [deliver_opus_nil opus_decode jitterBuffer (by exact hpt)] at h
        cases h
      obtain ⟨frame, decoder, hdeliver, hlength⟩ := deliver_ok opus_decode jitterBuffer
        (r := { r with depacker }) hdata
      rw [hdeliver] at h
      obtain ⟨rfl, rfl⟩ := Prod.mk.inj (Except.ok.inj h)
      exact ⟨some data, rfl, rfl, .inr ⟨data, frame, rfl, hlength, rfl⟩⟩

end Receiver

end Voip
