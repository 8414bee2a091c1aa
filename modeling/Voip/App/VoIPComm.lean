import Voip.Audio.Opus
import Voip.Audio.SoundCard
import Voip.Jitter.SimpleJB
import Voip.Rtp.Packer

/-! `VoIPComm` as the sound card sees it: the application that `process` is called on. -/

namespace Voip

structure Sender where
  sentPackets : UInt32
  sent : List Bytes
  deriving DecidableEq, Repr

namespace Sender

def new : Sender := ⟨0, []⟩

def send (s : Sender) (data : Bytes) : Sender := ⟨s.sentPackets + 1, s.sent ++ [data]⟩

end Sender

structure VoIPComm where
  isOpus : Bool
  isLoopback : Bool
  isUDP : Bool
  isInitialized : Bool
  jitterBuffer : SimpleJB
  packer : RtpPacker
  encoder : AudioEncoder
  sender : Sender
  deriving DecidableEq

namespace VoIPComm

def new (packer : RtpPacker) : VoIPComm where
  isOpus := false
  isLoopback := false
  isUDP := false
  isInitialized := false
  jitterBuffer := .new
  packer
  encoder := .new
  sender := .new

variable (opus_encode : OpusEncode)

/-- The first half of `processUDP`: the captured bytes go out, encoded if need be. -/
def transmit (c : VoIPComm) (input : AudioBuffer) : Except Fault VoIPComm := do
  if c.isOpus then
    let (encodedData, encoder) ← c.encoder.encode opus_encode input.data []
    let (packet, packer) := c.packer.pack encodedData
    pure { c with encoder, packer, sender := c.sender.send packet }
  else
    let (packet, packer) := c.packer.pack input.data
    pure { c with packer, sender := c.sender.send packet }

/-- The second half: a packet is played if there is one, and else the output stays as it is. -/
def playFront (c : VoIPComm) (output : AudioBuffer) : AudioBuffer × VoIPComm :=
  if c.jitterBuffer.hasData then
    let (data, jitterBuffer) := c.jitterBuffer.getFrontData output.data
    ({ output with data }, { c with jitterBuffer })
  else (output, c)

def processLoopback (output input : AudioBuffer) : AudioBuffer := output.assign input

def processUDP (c : VoIPComm) (output input : AudioBuffer) :
    Except Fault (AudioBuffer × VoIPComm) := do
  let c ← c.transmit opus_encode input
  pure (c.playFront output)

def process (c : VoIPComm) (output input : AudioBuffer) :
    Except Fault ((Int32 × AudioBuffer) × VoIPComm) := do
  if c.isLoopback then pure ((0, processLoopback output input), c)
  else if c.isUDP then
    let (output, c) ← c.processUDP opus_encode output input
    pure ((0, output), c)
  else pure ((0, output), c)

def SameModes (c c' : VoIPComm) : Prop :=
  c'.isOpus = c.isOpus ∧ c'.isLoopback = c.isLoopback ∧ c'.isUDP = c.isUDP

/-- The samples of one Opus frame are read out of the input whatever its size is. -/
def TooShort (c : VoIPComm) (bytes : ℕ) : Prop :=
  c.isLoopback = false ∧ c.isUDP = true ∧ c.isOpus = true ∧ bytes < 1920

instance (c : VoIPComm) (bytes : ℕ) : Decidable (c.TooShort bytes) :=
  inferInstanceAs (Decidable (_ ∧ _))

/-- What becomes of the library's result in Opus mode: a packet, even if there is nothing in it. -/
def sendEncoded (c : VoIPComm) (result : OpusResult UInt8) : VoIPComm :=
  let (encodedData, encoder) := c.encoder.finish result []
  let (packet, packer) := c.packer.pack encodedData
  { c with encoder, packer, sender := c.sender.send packet }

theorem transmit_opus {c : VoIPComm} {input : AudioBuffer} (hopus : c.isOpus = true)
    (h : 1920 ≤ input.size) :
    c.transmit opus_encode input =
      .ok (c.sendEncoded (opus_encode (Base.pcmSamples (fun i => input.data.getD i 0) 960)
        c.encoder.framesize 1276)) := by
  rw [transmit, if_pos hopus, AudioEncoder.encode_eq_finish,
    AudioEncoder.readSamples_eq (n := OPUS_CHANNELS * OPUS_FRAMESIZE) h]
  rfl

theorem transmit_raw {c : VoIPComm} (hraw : c.isOpus = false) (input : AudioBuffer) :
    c.transmit opus_encode input =
      .ok { c with
        packer := (c.packer.pack input.data).2
        sender := c.sender.send (c.packer.pack input.data).1 } := by
  rw [transmit, if_neg (ne_true_of_eq_false hraw)]
  rfl

theorem sent_sendEncoded (c : VoIPComm) (result : OpusResult UInt8) :
    (c.sendEncoded result).sender.sent =
      c.sender.sent ++ [(c.packer.pack (c.encoder.finish result []).1).1] := rfl

theorem transmit_ok {c : VoIPComm} {input : AudioBuffer}
    (h : c.isOpus = true → 1920 ≤ input.size) :
    ∃ c', c.transmit opus_encode input = .ok c' ∧ SameModes c c' ∧
      c'.jitterBuffer = c.jitterBuffer := by
  by_cases hopus : c.isOpus = true
  · exact ⟨_, transmit_opus opus_encode hopus (h hopus), ⟨rfl, rfl, rfl⟩, rfl⟩
  · rw [Bool.not_eq_true] at hopus
    exact ⟨_, transmit_raw opus_encode hopus input, ⟨rfl, rfl, rfl⟩, rfl⟩

theorem transmit_throws {c : VoIPComm} {input : AudioBuffer} (hopus : c.isOpus = true)
    (h : input.size < 1920) : c.transmit opus_encode input = .error .outOfRange := by
  rw [transmit, if_pos hopus, c.encoder.encode_of_lt opus_encode [] h, error_bind]

theorem playFront_eq (c : VoIPComm) (output : AudioBuffer) :
    c.playFront output =
      ({ output with data := (c.jitterBuffer.getFrontData output.data).1 },
        { c with jitterBuffer := (c.jitterBuffer.getFrontData output.data).2 }) := by
  obtain ⟨_, _, _, _, ⟨dataBuffer⟩, _⟩ := c
  cases dataBuffer <;> rfl

theorem processUDP_mode {c : VoIPComm} (hloop : c.isLoopback = false) (hudp : c.isUDP = true)
    (output input : AudioBuffer) :
    c.process opus_encode output input = (do
      let c ← c.transmit opus_encode input
      pure ((0, (c.playFront output).1), (c.playFront output).2)) := by
  rw [process, hloop, hudp, if_neg Bool.false_ne_true, if_pos rfl, processUDP]
  cases c.transmit opus_encode input <;> rfl

theorem process_ok {c : VoIPComm} {input : AudioBuffer} (h : ¬ c.TooShort input.size)
    (output : AudioBuffer) :
    ∃ output' c', c.process opus_encode output input = .ok ((0, output'), c') ∧ SameModes c c' ∧
      output'.size = if c.isLoopback then input.size else output.size := by
  by_cases hloop : c.isLoopback = true
  · refine ⟨input, c, ?_, ⟨rfl, rfl, rfl⟩, (if_pos hloop).symm⟩
    rw [process, if_pos hloop]
    rfl
  · rw [if_neg hloop]
    rw [Bool.not_eq_true] at hloop
    by_cases hudp : c.isUDP = true
    · obtain ⟨c', htransmit, hmodes, -⟩ := transmit_ok opus_encode
        fun hopus => Nat.le_of_not_lt fun hshort => h ⟨hloop, hudp, hopus, hshort⟩
      rw [processUDP_mode opus_encode hloop hudp, htransmit, ok_bind]
      rw [playFront_eq]
      exact ⟨_, _, rfl, hmodes, c'.jitterBuffer.length_getFrontData output.data⟩
    · refine ⟨output, c, ?_, ⟨rfl, rfl, rfl⟩, rfl⟩
      rw [process, hloop, if_neg Bool.false_ne_true, if_neg hudp]
      rfl

theorem process_throws {c : VoIPComm} {input : AudioBuffer} (h : c.TooShort input.size)
    (output : AudioBuffer) : c.process opus_encode output input = .error .outOfRange := by
  obtain ⟨hloop, hudp, hopus, hshort⟩ := h
  rw [processUDP_mode opus_encode hloop hudp, transmit_throws opus_encode hopus hshort, error_bind]

end VoIPComm

end Voip
