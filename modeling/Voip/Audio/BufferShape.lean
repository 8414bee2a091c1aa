import Voip.Audio.AudioBuffer
import Voip.Base.Objects

/-! The size of an audio buffer against its shape. `setFsChFmt` divides the sample's bits by eight
before it multiplies, the constructor after, so that its product wraps eight times as early. -/

namespace Voip.AudioBuffer

open Base

inductive Arguments where
  | none
  | shape (fs nch sr : UInt32) (fmt : SampleFormat)
  deriving DecidableEq, Repr

inductive Method where
  | setSamplerate (sr : UInt32)
  | setFsChFmt (fs nch : UInt32) (fmt : SampleFormat)
  deriving DecidableEq, Repr

def objectClass : ObjectClass AudioBuffer Arguments Method where
  construct
    | .none => new
    | .shape fs nch sr fmt => ofShape fs nch sr fmt
  copy := copy
  assign := assign
  apply
    | .setSamplerate sr, b => b.setSamplerate sr
    | .setFsChFmt fs nch fmt, b => b.setFsChFmt fs nch fmt

/-- The buffer holds just the bytes of its frames. -/
def InShape (b : AudioBuffer) : Prop := b.size = frameBytes b.frameSize b.nChannels b.format

/-- The product of the constructor, in bits and without overflow, fits in 32 bits. -/
def BitsFit : Arguments → Prop
  | .none => True
  | .shape fs nch _ fmt => fs.toNat * nch.toNat * fmt.bits.toNat < UInt32.size

/-- The size in bytes fits in 32 bits. -/
def BytesFit (fs nch : UInt32) (fmt : SampleFormat) : Prop := frameBytes fs nch fmt < UInt32.size

def Fits : Operation Arguments Method → Prop
  | .construct (.shape fs nch _ fmt) => BytesFit fs nch fmt
  | .apply _ (.setFsChFmt fs nch fmt) => BytesFit fs nch fmt
  | _ => True

def ConstructFits : Operation Arguments Method → Prop
  | .construct args => BitsFit args
  | _ => True

instance (fs nch : UInt32) (fmt : SampleFormat) : Decidable (BytesFit fs nch fmt) :=
  inferInstanceAs (Decidable (_ < _))

instance : DecidablePred Fits
  | .construct .none => inferInstanceAs (Decidable True)
  | .construct (.shape ..) => inferInstanceAs (Decidable (BytesFit ..))
  | .copy _ => inferInstanceAs (Decidable True)
  | .assign _ _ => inferInstanceAs (Decidable True)
  | .apply _ (.setSamplerate _) => inferInstanceAs (Decidable True)
  | .apply _ (.setFsChFmt ..) => inferInstanceAs (Decidable (BytesFit ..))

instance : DecidablePred ConstructFits
  | .construct .none => inferInstanceAs (Decidable True)
  | .construct (.shape ..) => inferInstanceAs (Decidable (_ < _))
  | .copy _ => inferInstanceAs (Decidable True)
  | .assign _ _ => inferInstanceAs (Decidable True)
  | .apply _ _ => inferInstanceAs (Decidable True)

theorem bits_eq (fs nch : UInt32) (fmt : SampleFormat) :
    fs.toNat * nch.toNat * fmt.bits.toNat = 8 * frameBytes fs nch fmt := by
  have hbits : fmt.bits.toNat = 8 * (fmt.bits.toNat / 8) := by cases fmt <;> rfl
  rw [frameBytes, Nat.mul_left_comm, ← hbits]

theorem size_ofShape (fs nch sr : UInt32) (fmt : SampleFormat) :
    (ofShape fs nch sr fmt).size = 8 * frameBytes fs nch fmt % UInt32.size / 8 := by
  have hproduct : (fs * nch * fmt.bits).toNat = 8 * frameBytes fs nch fmt % UInt32.size := by
    rw [UInt32.toNat_mul, UInt32.toNat_mul, Nat.mod_mul_mod, bits_eq]
  rw [size, ofShape, List.length_replicate, UInt32.toNat_div, hproduct]
  rfl

theorem size_ofShape_eq_iff (fs nch sr : UInt32) (fmt : SampleFormat) :
    (ofShape fs nch sr fmt).size = frameBytes fs nch fmt ↔ BitsFit (.shape fs nch sr fmt) := by
  rw [size_ofShape, BitsFit, bits_eq]
  change 8 * _ % 4294967296 / 8 = _ ↔ 8 * _ < 4294967296
  omega

theorem data_ofShape_eq_iff (fs nch sr : UInt32) (fmt : SampleFormat) :
    (ofShape fs nch sr fmt).data = List.replicate (frameBytes fs nch fmt) 0 ↔
      BitsFit (.shape fs nch sr fmt) := by
  rw [← size_ofShape_eq_iff, size]
  constructor
  · intro hdata
    rw [hdata, List.length_replicate]
  · intro hsize
    rw [← hsize, ofShape, List.length_replicate]

theorem data_setFsChFmt_of_fits {fs nch : UInt32} {fmt : SampleFormat} (h : BytesFit fs nch fmt)
    (b : AudioBuffer) :
    (b.setFsChFmt fs nch fmt).data = List.replicate (frameBytes fs nch fmt) 0 := by
  rw [data_setFsChFmt, size_setFsChFmt, bufferSize_toNat h]

theorem inShape_construct_iff (args : Arguments) :
    InShape (objectClass.construct args) ↔ BitsFit args := by
  cases args with
  | none => exact iff_of_true rfl trivial
  | shape fs nch sr fmt => exact size_ofShape_eq_iff fs nch sr fmt

theorem inShape_apply_iff (method : Method) (b : AudioBuffer) (h : InShape b) :
    InShape (objectClass.apply method b) ↔ match method with
      | .setSamplerate _ => True
      | .setFsChFmt fs nch fmt => BytesFit fs nch fmt := by
  cases method with
  | setSamplerate sr => exact iff_of_true h trivial
  | setFsChFmt fs nch fmt =>
    have hsize : (b.setFsChFmt fs nch fmt).size = (bufferSize fs nch fmt).toNat :=
      size_setFsChFmt ..
    change (b.setFsChFmt fs nch fmt).size = frameBytes fs nch fmt ↔ BytesFit fs nch fmt
    rw [hsize]
    exact bufferSize_toNat_eq_iff fs nch fmt

/-- Of the two ways to shape a buffer, the constructor gives it the size of its shape just where the
size in bits fits in 32 bits too, and so for all that is made of it. -/
theorem inShape_iff (fs nch sr : UInt32) (fmt : SampleFormat) (b : AudioBuffer)
    (ops : List (Operation Arguments Method)) :
    ((ofShape fs nch sr fmt).data = List.replicate (frameBytes fs nch fmt) 0 ↔
        BitsFit (.shape fs nch sr fmt)) ∧
      (BytesFit fs nch fmt →
        (b.setFsChFmt fs nch fmt).data = List.replicate (frameBytes fs nch fmt) 0) ∧
      ((∀ op ∈ ops, Fits op) →
        (Throughout objectClass.step
            (fun buffers op => ∀ b ∈ (objectClass.step buffers op).2, InShape b) [] ops ↔
          ∀ op ∈ ops, ConstructFits op)) := by
  refine ⟨data_ofShape_eq_iff fs nch sr fmt, fun h => data_setFsChFmt_of_fits h b, ?_⟩
  intro hfits
  rw [ObjectClass.throughout_forall_iff inShape_construct_iff (fun _ h => h) (fun _ _ h => h)
    inShape_apply_iff ops (List.forall_mem_nil _)]
  refine throughout_iff_forall (fun buffers op hop => ?_) []
  cases op with
  | construct args => exact Iff.rfl
  | copy source => exact Iff.rfl
  | assign target source => exact Iff.rfl
  | apply target method =>
    refine iff_of_true (fun b _ => ?_) trivial
    cases method with
    | setSamplerate sr => trivial
    | setFsChFmt fs nch fmt => exact hfits _ hop

theorem inShape_iff_copied :
    Throughout objectClass.step
      (fun buffers op => ∀ b ∈ (objectClass.step buffers op).2, InShape b) []
      [.construct (.shape 512 2 44100 .INT16), .copy 0, .apply 1 (.setFsChFmt 480 1 .FLOAT32),
        .assign 0 1] :=
  ((inShape_iff 512 2 44100 .INT16 .new _).2.2 (by decide)).mpr (by decide)

/-- A mono buffer of 2^28 frames is made empty; set to the same shape it is not. -/
theorem inShape_overflow :
    frameBytes 268435456 1 .INT16 = 536870912 ∧
      (ofShape 268435456 1 44100 .INT16).size = 0 ∧
      (new.setFsChFmt 268435456 1 .INT16).size = 536870912 := by
  refine ⟨rfl, ?_, ?_⟩
  · rw [size_ofShape]
    rfl
  · rw [size_setFsChFmt]
    rfl

end Voip.AudioBuffer
