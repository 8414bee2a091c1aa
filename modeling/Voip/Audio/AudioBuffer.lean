import Voip.Basic

/-! `util::AudioBuffer`: a vector of bytes beside the shape that its size should follow from. -/

namespace Voip

inductive SampleFormat where
  | UNKNOWN
  | INT16
  | FLOAT32
  deriving DecidableEq, Repr

def SampleFormat.bits : SampleFormat → UInt32
  | UNKNOWN => 0
  | INT16 => 16
  | FLOAT32 => 32

structure AudioBuffer where
  frameSize : UInt32
  nChannels : UInt32
  sampleRate : UInt32
  format : SampleFormat
  data : Bytes
  deriving DecidableEq, Repr

namespace AudioBuffer

def new : AudioBuffer :=
  { frameSize := 0, nChannels := 0, sampleRate := 0, format := .UNKNOWN, data := [] }

/-- The constructor from a shape, where the format is `FLOAT32` unless it is given. The product is a
`uint32_t`, in bits before it is in bytes. -/
def ofShape (fs nch sr : UInt32) (fmt : SampleFormat) : AudioBuffer :=
  { frameSize := fs, nChannels := nch, sampleRate := sr, format := fmt,
    data := List.replicate (fs * nch * fmt.bits / 8).toNat 0 }

def copy (rhs : AudioBuffer) : AudioBuffer :=
  { frameSize := rhs.frameSize, nChannels := rhs.nChannels, sampleRate := rhs.sampleRate,
    format := rhs.format, data := rhs.data }

def size (b : AudioBuffer) : ℕ := b.data.length

-- `operator=`; the size is taken over with the rest
def assign (_b rhs : AudioBuffer) : AudioBuffer :=
  { frameSize := rhs.frameSize, nChannels := rhs.nChannels, sampleRate := rhs.sampleRate,
    format := rhs.format, data := rhs.data }

def setSamplerate (b : AudioBuffer) (sr : UInt32) : AudioBuffer := { b with sampleRate := sr }

/-- The size of a buffer in `uint32_t` arithmetic. -/
def bufferSize (fs nch : UInt32) (fmt : SampleFormat) : UInt32 := fs * nch * (fmt.bits / 8)

/-- The vector is cleared before it is resized, so all its bytes are new zeros. -/
def setFsChFmt (b : AudioBuffer) (fs nch : UInt32) (fmt : SampleFormat) : AudioBuffer :=
  { b with
    frameSize := fs
    nChannels := nch
    format := fmt
    data := List.replicate (bufferSize fs nch fmt).toNat 0 }

@[simp] theorem size_setFsChFmt (b : AudioBuffer) (fs nch : UInt32) (fmt : SampleFormat) :
    (b.setFsChFmt fs nch fmt).size = (bufferSize fs nch fmt).toNat :=
  List.length_replicate

theorem data_setFsChFmt (b : AudioBuffer) (fs nch : UInt32) (fmt : SampleFormat) :
    (b.setFsChFmt fs nch fmt).data = List.replicate (b.setFsChFmt fs nch fmt).size 0 := by
  rw [size_setFsChFmt]
  rfl

/-- The bytes of `fs` frames of `nch` channels, counted without overflow. -/
def frameBytes (fs nch : UInt32) (fmt : SampleFormat) : ℕ :=
  fs.toNat * nch.toNat * (fmt.bits.toNat / 8)

theorem bufferSize_toNat_mod (fs nch : UInt32) (fmt : SampleFormat) :
    (bufferSize fs nch fmt).toNat = frameBytes fs nch fmt % UInt32.size := by
  have hbits : (fmt.bits / 8).toNat = fmt.bits.toNat / 8 := UInt32.toNat_div ..
  rw [bufferSize, UInt32.toNat_mul, UInt32.toNat_mul, hbits, Nat.mod_mul_mod, ← frameBytes]

theorem bufferSize_toNat {fs nch : UInt32} {fmt : SampleFormat}
    (h : frameBytes fs nch fmt < UInt32.size) :
    (bufferSize fs nch fmt).toNat = frameBytes fs nch fmt := by
  rw [bufferSize_toNat_mod, Nat.mod_eq_of_lt h]

theorem bufferSize_toNat_eq_iff (fs nch : UInt32) (fmt : SampleFormat) :
    (bufferSize fs nch fmt).toNat = frameBytes fs nch fmt ↔
      frameBytes fs nch fmt < UInt32.size := by
  refine ⟨fun h => ?_, bufferSize_toNat⟩
  rw [← h]
  exact UInt32.toNat_lt _

end AudioBuffer

end Voip
