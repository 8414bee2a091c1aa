import Voip.Base.Overwrite
import Voip.Base.Pcm
import Voip.Basic

/-! `AudioEncoder` and `AudioDecoder`, the program's wrappers around libopus. What a call of the
library returns and writes is a parameter of the call. -/

namespace Voip

/-- What a library call returns, and what it has written from the start of the buffer it was
given. -/
structure OpusResult (β : Type) where
  ret : Int
  written : List β
  deriving DecidableEq, Repr

/-- What a caller is to take from it: nothing if the call has failed. -/
def OpusResult.produced {β : Type} (result : OpusResult β) : List β :=
  if result.ret ≤ 0 then [] else result.written

abbrev OpusEncode := List Int16 → Int32 → ℕ → OpusResult UInt8

abbrev OpusDecode := Bytes → ℕ → OpusResult Int16

/-- As `opus.h` has it: an error, or the length of what has been written, which `max_data_bytes`
bounds. -/
def OpusEncode.Lawful (opus_encode : OpusEncode) : Prop :=
  ∀ samples frame_size max_data_bytes,
    let result := opus_encode samples frame_size max_data_bytes
    result.ret ≤ 0 ∨ result.ret ≤ max_data_bytes ∧ (result.written.length : Int) = result.ret

/-- As `opus.h` has it: an error, or as many samples of each of the two channels as have been
written, of which `frame_size` bounds the number. -/
def OpusDecode.Lawful (opus_decode : OpusDecode) : Prop :=
  ∀ data frame_size,
    let result := opus_decode data frame_size
    result.ret ≤ 0 ∨ result.ret ≤ frame_size ∧ (result.written.length : Int) = 2 * result.ret

/-! ## Encoder -/

structure AudioEncoder where
  framesize : Int32
  out : Bytes
  out_length : out.length = OPUS_MAX_SIZE
  deriving DecidableEq

namespace AudioEncoder

/-- The constructor leaves `out` uninitialised, which is taken for zeros. -/
def new : AudioEncoder := ⟨0, List.replicate OPUS_MAX_SIZE 0, List.length_replicate⟩

def init (e : AudioEncoder) (framesize : Int32) : AudioEncoder := { e with framesize }

/-- The first `n` samples of the input, each read through `at` with its high byte first. -/
def readSamples (inputData : Bytes) : ℕ → Except Fault (List Int16)
  | 0 => .ok []
  | i + 1 => do
    let samples ← readSamples inputData i
    let high ← vecAt inputData (2 * i + 1)
    let low ← vecAt inputData (2 * i)
    pure (samples ++ [(high.toUInt16 <<< 8 ||| low.toUInt16).toInt16])

def encode (opus_encode : OpusEncode) (e : AudioEncoder) (inputData outputData : Bytes) :
    Except Fault (Bytes × AudioEncoder) := do
  let samples ← readSamples inputData (OPUS_CHANNELS * OPUS_FRAMESIZE)
  let result := opus_encode samples e.framesize 1276
  let e := { e with
    out := Base.copyTo result.written e.out
    out_length := (Base.length_copyTo ..).trans e.out_length }
  if result.ret ≤ 0 then pure (outputData, e)
  else pure (e.out.take result.ret.toNat ++ outputData, e)

theorem readSamples_eq {inputData : Bytes} {n : ℕ} (h : 2 * n ≤ inputData.length) :
    readSamples inputData n = .ok (Base.pcmSamples (fun i => inputData.getD i 0) n) := by
  induction n with
  | zero => rfl
  | succ n ih =>
    rw [readSamples, ih (by omega), ok_bind, vecAt_of_lt (by omega), ok_bind,
      vecAt_of_lt (by omega), ok_bind, pure_eq_ok, Base.pcmSamples_succ, ← Base.be16_toInt16]
    rfl

theorem readSamples_of_lt {inputData : Bytes} {n : ℕ} (h : inputData.length < 2 * n) :
    readSamples inputData n = .error .outOfRange := by
  induction n with
  | zero => omega
  | succ n ih =>
    by_cases hn : inputData.length < 2 * n
    · rw [readSamples, ih hn, error_bind]
    · rw [readSamples, readSamples_eq (Nat.le_of_not_lt hn), ok_bind, vecAt_of_le (by omega),
        error_bind]

/-- What `encode` makes of the library's result. -/
def finish (e : AudioEncoder) (result : OpusResult UInt8) (outputData : Bytes) :
    Bytes × AudioEncoder :=
  let e := { e with
    out := Base.copyTo result.written e.out
    out_length := (Base.length_copyTo ..).trans e.out_length }
  (if result.ret ≤ 0 then outputData else e.out.take result.ret.toNat ++ outputData, e)

/-- One block of samples is read, and it is what the library is called with. -/
theorem encode_eq_finish (opus_encode : OpusEncode) (e : AudioEncoder)
    (inputData outputData : Bytes) :
    e.encode opus_encode inputData outputData = (do
      let samples ← readSamples inputData (OPUS_CHANNELS * OPUS_FRAMESIZE)
      pure (e.finish (opus_encode samples e.framesize 1276) outputData)) := by
  rw [encode]
  congr 1
  funext samples
  dsimp only [finish]
  split_ifs <;> rfl

theorem finish_produced (e : AudioEncoder) {result : OpusResult UInt8}
    (h : result.ret ≤ 0 ∨ result.ret ≤ OPUS_MAX_SIZE ∧
      (result.written.length : Int) = result.ret) :
    (e.finish result []).1 = result.produced := by
  dsimp only [finish, OpusResult.produced]
  split_ifs with hret
  · rfl
  · obtain ⟨hmax, hlength⟩ := h.resolve_left hret
    have hfits : result.written.length ≤ e.out.length := by
      rw [e.out_length]
      omega
    rw [List.append_nil, ← hlength, Int.toNat_natCast, Base.copyTo_of_le hfits, List.take_left]

theorem encode_of_lt (opus_encode : OpusEncode) (e : AudioEncoder) {inputData : Bytes}
    (outputData : Bytes) (h : inputData.length < 1920) :
    e.encode opus_encode inputData outputData = .error .outOfRange := by
  rw [encode, readSamples_of_lt (n := OPUS_CHANNELS * OPUS_FRAMESIZE) h, error_bind]

end AudioEncoder

/-! ## Decoder -/

structure AudioDecoder where
  out : List Int16
  out_length : out.length = OPUS_CHANNELS * OPUS_FRAMESIZE
  deriving DecidableEq

def sampleBytes (samples : List Int16) : Bytes :=
  samples.flatMap fun s : Int16 =>
    [(s &&& 0xFF).toUInt16.toUInt8, ((s >>> 8) &&& 0xFF).toUInt16.toUInt8]

theorem sampleBytes_eq (samples : List Int16) : sampleBytes samples = Base.pcmBytes samples := by
  simp only [sampleBytes, Base.masks_eq_leBytes, Base.pcmBytes]

namespace AudioDecoder

def new : AudioDecoder :=
  ⟨List.replicate (OPUS_CHANNELS * OPUS_FRAMESIZE) 0, List.length_replicate⟩

def decode (opus_decode : OpusDecode) (d : AudioDecoder) (inputData outputData : Bytes) :
    Except Fault (Bytes × AudioDecoder) := do
  let _ ← vecAt inputData 0
  let result := opus_decode inputData (OPUS_CHANNELS * OPUS_FRAMESIZE)
  let d : AudioDecoder := {
    out := Base.copyTo result.written d.out
    out_length := (Base.length_copyTo ..).trans d.out_length }
  if result.ret ≤ 0 then pure (outputData, d)
  -- the whole of `out`, however few samples the library says it has written
  else pure (sampleBytes d.out ++ outputData, d)

theorem decode_nil (opus_decode : OpusDecode) (d : AudioDecoder) (outputData : Bytes) :
    d.decode opus_decode [] outputData = .error .outOfRange := rfl

/-- The member array after a call. -/
def keep (d : AudioDecoder) (result : OpusResult Int16) : AudioDecoder where
  out := Base.copyTo result.written d.out
  out_length := (Base.length_copyTo ..).trans d.out_length

theorem decode_eq (opus_decode : OpusDecode) (d : AudioDecoder) {inputData : Bytes}
    (h : inputData ≠ []) :
    d.decode opus_decode inputData [] =
      .ok (if (opus_decode inputData 960).ret ≤ 0 then []
        else Base.pcmBytes (d.keep (opus_decode inputData 960)).out,
        d.keep (opus_decode inputData 960)) := by
  have hread : vecAt inputData 0 = .ok (inputData.getD 0 0) :=
    vecAt_of_lt (List.length_pos_of_ne_nil h)
  rw [decode, hread, ok_bind]
  change (if (opus_decode inputData 960).ret ≤ 0 then _ else _) = _
  split_ifs with hret
  · rfl
  · rw [List.append_nil, sampleBytes_eq]
    rfl

/-- A call that goes through adds a whole frame or nothing. -/
theorem decode_of_ne_nil (opus_decode : OpusDecode) (d : AudioDecoder) {inputData : Bytes}
    (h : inputData ≠ []) :
    ∃ decoded d', d.decode opus_decode inputData [] = .ok (decoded, d') ∧
      decoded.length = if (opus_decode inputData 960).ret ≤ 0 then 0 else 1920 := by
  refine ⟨_, _, d.decode_eq opus_decode h, ?_⟩
  split_ifs with hret
  · rfl
  · rw [Base.length_pcmBytes, AudioDecoder.out_length]
    rfl

end AudioDecoder

end Voip
