import Voip.Audio.AudioBuffer

/-! `util::SoundCard`: the buffers it sets up in `init` and hands through the application in every
callback. RtAudio and the devices behind it are what a call of `init` is told by them. -/

namespace Voip

structure StreamParameters where
  deviceId : UInt32
  nChannels : UInt32
  firstChannel : UInt32
  deriving DecidableEq, Repr

structure SoundCardImpl where
  inputParameters : StreamParameters
  outputParameters : StreamParameters
  sr : UInt32
  fs : UInt32
  fmt : SampleFormat
  inputBuffer : AudioBuffer
  outputBuffer : AudioBuffer
  initialized : Bool
  running : Bool
  deriving DecidableEq, Repr

structure RtAudio where
  defaultInputDevice : UInt32
  defaultOutputDevice : UInt32
  openStream : Option UInt32
  deriving DecidableEq, Repr

/-- What a callback copies out of `inBuf` and into `outBuf`, and its return value. -/
structure CallbackResult where
  fromIn : Bytes
  toOut : Bytes
  retval : Int32
  deriving DecidableEq, Repr

namespace SoundCardImpl

def new : SoundCardImpl where
  inputParameters := ⟨0, 0, 0⟩
  outputParameters := ⟨0, 0, 0⟩
  sr := 0
  fs := 0
  fmt := .UNKNOWN
  inputBuffer := .new
  outputBuffer := .new
  initialized := false
  running := false

def setFs (card : SoundCardImpl) (fs inCh outCh : UInt32) : SoundCardImpl :=
  { card with
    fs
    inputBuffer := card.inputBuffer.setFsChFmt fs inCh card.fmt
    outputBuffer := card.outputBuffer.setFsChFmt fs outCh card.fmt }

def init (card : SoundCardImpl) (audio : RtAudio) (inDev outDev : Int32)
    (inCh outCh sr fs : UInt32) (sampleFormat : SampleFormat) : Bool × SoundCardImpl :=
  if inCh = 0 ∨ outCh = 0 ∨ sr = 0 ∨ fs = 0 ∨ sampleFormat = .UNKNOWN then (false, card) else
  let inDev := if inDev < 0 then audio.defaultInputDevice else inDev.toUInt32
  let outDev := if outDev < 0 then audio.defaultOutputDevice else outDev.toUInt32
  let card := { card with
    inputParameters := { deviceId := inDev, nChannels := inCh, firstChannel := 0 }
    outputParameters := { deviceId := outDev, nChannels := outCh, firstChannel := 0 }
    sr
    fmt := sampleFormat
    inputBuffer := card.inputBuffer.setSamplerate sr
    outputBuffer := card.outputBuffer.setSamplerate sr }
  let card := card.setFs fs inCh outCh
  -- the switch over the format has no case left that it does not know
  match audio.openStream with
  | none => (false, card)
  | some expectedFramesize =>
    let card :=
      if expectedFramesize ≠ card.fs then card.setFs expectedFramesize inCh outCh else card
    (true, { card with initialized := true })

/-- The head of the callback: a new frame count reshapes both buffers. -/
def adapt (card : SoundCardImpl) (nFrames : UInt32) : SoundCardImpl :=
  if nFrames ≠ card.fs then
    card.setFs nFrames card.inputParameters.nChannels card.outputParameters.nChannels
  else card

/-- The input buffer filled from `inBuf`, the memory from the driver's pointer on. -/
def capture (card : SoundCardImpl) (inBuf : ℕ → UInt8) : AudioBuffer :=
  { card.inputBuffer with data := (List.range card.inputBuffer.size).map inBuf }

/-- Both copies are as long as their buffer is at that moment. -/
def callback {σ : Type}
    (process : σ → AudioBuffer → AudioBuffer → Except Fault ((Int32 × AudioBuffer) × σ))
    (card : SoundCardImpl) (app : σ) (inBuf : ℕ → UInt8) (nFrames : UInt32) :
    Except Fault (CallbackResult × (SoundCardImpl × σ)) := do
  let card := card.adapt nFrames
  let input := card.capture inBuf
  let ((retval, output), app) ← process app card.outputBuffer input
  let result := { fromIn := input.data, toOut := output.data, retval }
  pure (result, ({ card with inputBuffer := input, outputBuffer := output }, app))

@[simp] theorem size_capture (card : SoundCardImpl) (inBuf : ℕ → UInt8) :
    (card.capture inBuf).size = card.inputBuffer.size := by
  simp only [capture, AudioBuffer.size, List.length_map, List.length_range]

/-- The buffers have the sizes that the stream's frame size asks for. -/
structure Shaped (inCh outCh : UInt32) (fmt : SampleFormat) (card : SoundCardImpl) : Prop where
  input_channels : card.inputParameters.nChannels = inCh
  output_channels : card.outputParameters.nChannels = outCh
  fmt_eq : card.fmt = fmt
  input_size : card.inputBuffer.size = (AudioBuffer.bufferSize card.fs inCh fmt).toNat
  output_size : card.outputBuffer.size = (AudioBuffer.bufferSize card.fs outCh fmt).toNat

theorem shaped_setFs {card : SoundCardImpl} {inCh outCh : UInt32} {fmt : SampleFormat}
    (hin : card.inputParameters.nChannels = inCh) (hout : card.outputParameters.nChannels = outCh)
    (hfmt : card.fmt = fmt) (fs : UInt32) : Shaped inCh outCh fmt (card.setFs fs inCh outCh) := by
  subst hfmt
  exact ⟨hin, hout, rfl, AudioBuffer.size_setFsChFmt .., AudioBuffer.size_setFsChFmt ..⟩

theorem shaped_adapt {card : SoundCardImpl} {inCh outCh : UInt32} {fmt : SampleFormat}
    (h : Shaped inCh outCh fmt card) (nFrames : UInt32) :
    Shaped inCh outCh fmt (card.adapt nFrames) ∧ (card.adapt nFrames).fs = nFrames := by
  by_cases hn : nFrames = card.fs
  · rw [adapt, if_neg (not_not.mpr hn)]
    exact ⟨h, hn.symm⟩
  · rw [adapt, if_pos hn, h.input_channels, h.output_channels]
    exact ⟨shaped_setFs h.input_channels h.output_channels h.fmt_eq nFrames, rfl⟩

/-- A callback keeps the shape if the application keeps the size of the output. -/
theorem shaped_callback {card : SoundCardImpl} {inCh outCh : UInt32} {fmt : SampleFormat}
    (h : Shaped inCh outCh fmt card) (inBuf : ℕ → UInt8) {output : AudioBuffer}
    (houtput : output.size = card.outputBuffer.size) :
    Shaped inCh outCh fmt
      { card with inputBuffer := card.capture inBuf, outputBuffer := output } :=
  ⟨h.input_channels, h.output_channels, h.fmt_eq,
    (card.size_capture inBuf).trans h.input_size, houtput.trans h.output_size⟩

/-- The arguments that `init` turns down before it does anything. -/
def Rejected (inCh outCh sr fs : UInt32) (sampleFormat : SampleFormat) : Prop :=
  inCh = 0 ∨ outCh = 0 ∨ sr = 0 ∨ fs = 0 ∨ sampleFormat = .UNKNOWN

instance (inCh outCh sr fs : UInt32) (sampleFormat : SampleFormat) :
    Decidable (Rejected inCh outCh sr fs sampleFormat) :=
  inferInstanceAs (Decidable (_ ∨ _))

/-- What `init` writes down of its other arguments, but for the shape of the buffers. -/
def configured (card : SoundCardImpl) (audio : RtAudio) (inDev outDev : Int32)
    (inCh outCh sr : UInt32) (sampleFormat : SampleFormat) : SoundCardImpl :=
  { card with
    inputParameters :=
      { deviceId := if inDev < 0 then audio.defaultInputDevice else inDev.toUInt32
        nChannels := inCh, firstChannel := 0 }
    outputParameters :=
      { deviceId := if outDev < 0 then audio.defaultOutputDevice else outDev.toUInt32
        nChannels := outCh, firstChannel := 0 }
    sr
    fmt := sampleFormat
    inputBuffer := card.inputBuffer.setSamplerate sr
    outputBuffer := card.outputBuffer.setSamplerate sr }

section
variable {inCh outCh sr fs : UInt32} {fmt : SampleFormat} (card : SoundCardImpl) (audio : RtAudio)
  (inDev outDev : Int32)

theorem init_of_rejected (h : Rejected inCh outCh sr fs fmt) :
    card.init audio inDev outDev inCh outCh sr fs fmt = (false, card) := if_pos h

/-- However often the buffers are set up, the last time is for the frame size that is granted. -/
theorem init_eq (h : ¬ Rejected inCh outCh sr fs fmt) :
    card.init audio inDev outDev inCh outCh sr fs fmt =
      match audio.openStream with
      | none => (false, (card.configured audio inDev outDev inCh outCh sr fmt).setFs fs inCh outCh)
      | some granted => (true, { (card.configured audio inDev outDev inCh outCh sr fmt).setFs
          granted inCh outCh with initialized := true }) := by
  rw [Rejected] at h
  rw [init, if_neg h]
  cases audio.openStream with
  | none => rfl
  | some granted =>
    by_cases hfs : granted = fs
    · subst hfs
      simp only [setFs, ne_eq, not_true_eq_false, if_false]
      rfl
    · simp only [setFs, ne_eq, hfs, not_false_eq_true, if_true]
      rfl

end

section
variable {card card' : SoundCardImpl} {audio : RtAudio} {inDev outDev : Int32}
  {inCh outCh sr fs : UInt32} {fmt : SampleFormat}
  (h : card.init audio inDev outDev inCh outCh sr fs fmt = (true, card'))
include h

theorem init_cases :
    fmt ≠ .UNKNOWN ∧ ∃ (c : SoundCardImpl) (granted : UInt32),
      c.inputParameters.nChannels = inCh ∧ c.outputParameters.nChannels = outCh ∧ c.fmt = fmt ∧
        card' = { c.setFs granted inCh outCh with initialized := true } := by
  by_cases hvalid : Rejected inCh outCh sr fs fmt
  · rw [init_of_rejected card audio inDev outDev hvalid] at h
    cases h
  · refine ⟨fun hunknown => hvalid (.inr (.inr (.inr (.inr hunknown)))), ?_⟩
    rw [init_eq card audio inDev outDev hvalid] at h
    cases hopen : audio.openStream with
    | none => simp [hopen] at h
    | some granted =>
      rw [hopen] at h
      obtain ⟨-, rfl⟩ := Prod.mk.inj h
      exact ⟨_, _, rfl, rfl, rfl, rfl⟩

theorem shaped_init : Shaped inCh outCh fmt card' := by
  obtain ⟨-, c, granted, hin, hout, hfmt, rfl⟩ := init_cases h
  have hshaped := shaped_setFs hin hout hfmt granted
  exact ⟨hshaped.input_channels, hshaped.output_channels, hshaped.fmt_eq, hshaped.input_size,
    hshaped.output_size⟩

theorem init_output :
    card'.outputBuffer.data = List.replicate card'.outputBuffer.size 0 := by
  obtain ⟨-, c, granted, -, -, -, rfl⟩ := init_cases h
  exact AudioBuffer.data_setFsChFmt ..

theorem init_format : fmt ≠ .UNKNOWN := (init_cases h).1

end

end SoundCardImpl

end Voip
