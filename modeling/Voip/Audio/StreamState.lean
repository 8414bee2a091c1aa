import Voip.Audio.SoundCard
import Voip.Base.Machine

/-! `SoundCard` beside the stream of RtAudio that it opens, starts and stops. Any call of RtAudio
may throw, and then leaves the stream as it is; the sound card's own fields have changed by
then. -/

namespace Voip

open Base AudioBuffer

/-- An open stream as it was opened, with the frame size that was granted. -/
structure RtStream where
  inputChannels : UInt32
  outputChannels : UInt32
  format : SampleFormat
  bufferFrames : UInt32
  isRunning : Bool
  deriving DecidableEq, Repr

inductive RtAudioError where
  | invalidUse
  | systemError
  deriving DecidableEq, Repr

namespace RtStream

/-! The calls of RtAudio as its header documents them. No frame size granted is an error. -/

def openStream (stream : Option RtStream) (granted : Option UInt32)
    (outputChannels inputChannels : UInt32) (format : SampleFormat) :
    Except RtAudioError (UInt32 × Option RtStream) :=
  if stream.isSome then .error .invalidUse else
  match granted with
  | none => .error .systemError
  | some bufferFrames => .ok (bufferFrames,
      some { inputChannels, outputChannels, format, bufferFrames, isRunning := false })

def startStream (stream : Option RtStream) (throws : Bool) :
    Except RtAudioError (Option RtStream) :=
  match stream with
  | none => .error .invalidUse
  | some s => if throws then .error .systemError else .ok (some { s with isRunning := true })

def stopStream (stream : Option RtStream) (throws : Bool) :
    Except RtAudioError (Option RtStream) :=
  match stream with
  | none => .error .invalidUse
  | some s => if throws then .error .systemError else .ok (some { s with isRunning := false })

def closeStream (throws : Bool) : Except RtAudioError (Option RtStream) :=
  if throws then .error .systemError else .ok none

end RtStream

structure SoundCard where
  impl : SoundCardImpl
  stream : Option RtStream
  deriving DecidableEq, Repr

inductive SoundCardCall where
  | init (audio : RtAudio) (inDev outDev : Int32) (inCh outCh sr fs : UInt32)
      (sampleFormat : SampleFormat)
  | start (throws : Bool)
  | stop (stopThrows closeThrows : Bool)
  deriving DecidableEq, Repr

namespace SoundCard

def new : SoundCard := ⟨.new, none⟩

/-- `openStream` is called with arguments that are not rejected, and what it does is kept just if
`init` returns true. -/
def init (card : SoundCard) (audio : RtAudio) (inDev outDev : Int32) (inCh outCh sr fs : UInt32)
    (sampleFormat : SampleFormat) : Bool × SoundCard :=
  match RtStream.openStream card.stream audio.openStream outCh inCh sampleFormat with
  | .error _ =>
    let (ok, impl) := card.impl.init { audio with openStream := none } inDev outDev inCh outCh sr fs
      sampleFormat
    (ok, { card with impl })
  | .ok (granted, stream) =>
    let (ok, impl) := card.impl.init { audio with openStream := some granted } inDev outDev inCh
      outCh sr fs sampleFormat
    (ok, { impl, stream := if ok then stream else card.stream })

def start (card : SoundCard) (throws : Bool) : Bool × SoundCard :=
  if !card.impl.initialized then (false, card) else
  match RtStream.startStream card.stream throws with
  | .error _ => (false, card)
  | .ok stream => (true, { impl := { card.impl with running := true }, stream })

def stop (card : SoundCard) (stopThrows closeThrows : Bool) : Bool × SoundCard :=
  if !card.impl.running then (false, card) else
  let card :=
    match RtStream.stopStream card.stream stopThrows with
    | .error _ => card
    | .ok stream =>
      if stream.isSome then
        match RtStream.closeStream closeThrows with
        | .error _ => { card with stream }
        | .ok stream => { impl := { card.impl with initialized := false }, stream }
      else { card with stream }
  -- behind the handler as well
  (true, { card with impl := { card.impl with running := false } })

def step (card : SoundCard) : SoundCardCall → Bool × SoundCard
  | .init audio inDev outDev inCh outCh sr fs sampleFormat =>
    card.init audio inDev outDev inCh outCh sr fs sampleFormat
  | .start throws => card.start throws
  | .stop stopThrows closeThrows => card.stop stopThrows closeThrows

/-! ## Agreement -/

/-- A buffer for one side of the stream. -/
structure BufferOf (s : RtStream) (ch : UInt32) (b : AudioBuffer) : Prop where
  channels : b.nChannels = ch
  format : b.format = s.format
  frameSize : b.frameSize = s.bufferFrames
  size : b.size = frameBytes s.bufferFrames ch s.format

structure Agrees (card : SoundCard) : Prop where
  initialized : card.impl.initialized = card.stream.isSome
  running : card.impl.running = card.stream.any RtStream.isRunning
  inputBuffer : ∀ s ∈ card.stream, BufferOf s s.inputChannels card.impl.inputBuffer
  outputBuffer : ∀ s ∈ card.stream, BufferOf s s.outputChannels card.impl.outputBuffer

def SameShape (b b' : AudioBuffer) : Prop :=
  b'.nChannels = b.nChannels ∧ b'.format = b.format ∧ b'.frameSize = b.frameSize ∧
    b'.size = b.size

/-- The flags are as they were, and while the stream is open the buffers are too. -/
def Unchanged (card card' : SoundCard) : Prop :=
  card'.impl.initialized = card.impl.initialized ∧ card'.impl.running = card.impl.running ∧
    (card.stream.isSome = true →
      SameShape card.impl.inputBuffer card'.impl.inputBuffer ∧
        SameShape card.impl.outputBuffer card'.impl.outputBuffer)

/-- What is asked of every call. -/
def AgreesAfter (card : SoundCard) (call : SoundCardCall) : Prop :=
  (card.step call).2.Agrees ∧
    ∀ audio inDev outDev inCh outCh sr fs sampleFormat,
      call = .init audio inDev outDev inCh outCh sr fs sampleFormat → (card.step call).1 = false →
      card.Unchanged (card.step call).2

/-- An open stream is only initialised again as it is, a new one has buffers of less than 2^32
bytes, and a running stream is stopped without an error. -/
def Careful (card : SoundCard) : SoundCardCall → Prop
  | .init audio _ _ inCh outCh sr fs sampleFormat =>
    SoundCardImpl.Rejected inCh outCh sr fs sampleFormat ∨ match card.stream with
      | none => ∀ granted ∈ audio.openStream,
        frameBytes granted inCh sampleFormat < UInt32.size ∧
          frameBytes granted outCh sampleFormat < UInt32.size
      | some s => inCh = s.inputChannels ∧ outCh = s.outputChannels ∧ sampleFormat = s.format ∧
        fs = s.bufferFrames
  | .start _ => True
  | .stop stopThrows _ => card.stream.any RtStream.isRunning = true → stopThrows = false

theorem bufferOf_setFsChFmt_iff (s : RtStream) (ch : UInt32) (b : AudioBuffer) (fs nch : UInt32)
    (fmt : SampleFormat) :
    BufferOf s ch (b.setFsChFmt fs nch fmt) ↔
      (nch = ch ∧ fmt = s.format ∧ fs = s.bufferFrames) ∧
        frameBytes s.bufferFrames ch s.format < UInt32.size := by
  constructor
  · rintro ⟨hchannels, hformat, hframes, hsize⟩
    rw [size_setFsChFmt] at hsize
    cases hchannels
    cases hformat
    cases hframes
    exact ⟨⟨rfl, rfl, rfl⟩, (bufferSize_toNat_eq_iff ..).mp hsize⟩
  · rintro ⟨⟨rfl, rfl, rfl⟩, hfits⟩
    exact ⟨rfl, rfl, rfl, (size_setFsChFmt ..).trans (bufferSize_toNat hfits)⟩

/-- The invariant: the open stream's buffers are also small enough to be set up again. -/
structure Sound (card : SoundCard) : Prop extends Agrees card where
  fits : ∀ s ∈ card.stream, frameBytes s.bufferFrames s.inputChannels s.format < UInt32.size ∧
    frameBytes s.bufferFrames s.outputChannels s.format < UInt32.size

theorem sound_new : Sound new := ⟨⟨rfl, rfl, nofun, nofun⟩, nofun⟩

theorem unchanged_of_agrees {card card' : SoundCard} (h : card.Agrees) (h' : card'.Agrees)
    (hstream : card'.stream = card.stream) : card.Unchanged card' := by
  refine ⟨?_, ?_, fun hopen => ?_⟩
  · rw [h'.initialized, h.initialized, hstream]
  · rw [h'.running, h.running, hstream]
  · obtain ⟨s, hs⟩ := Option.isSome_iff_exists.mp hopen
    have hs' : card'.stream = some s := hstream.trans hs
    have hin := h.inputBuffer s hs
    have hin' := h'.inputBuffer s hs'
    have hout := h.outputBuffer s hs
    have hout' := h'.outputBuffer s hs'
    exact ⟨⟨hin'.channels.trans hin.channels.symm, hin'.format.trans hin.format.symm,
        hin'.frameSize.trans hin.frameSize.symm, hin'.size.trans hin.size.symm⟩,
      ⟨hout'.channels.trans hout.channels.symm, hout'.format.trans hout.format.symm,
        hout'.frameSize.trans hout.frameSize.symm, hout'.size.trans hout.size.symm⟩⟩

/-! ## `init` -/

section
variable {card : SoundCard} {audio : RtAudio} (inDev outDev : Int32)
  {inCh outCh sr fs : UInt32} {fmt : SampleFormat}

theorem init_of_rejected (h : SoundCardImpl.Rejected inCh outCh sr fs fmt) :
    card.init audio inDev outDev inCh outCh sr fs fmt = (false, card) := by
  rw [init]
  cases RtStream.openStream card.stream audio.openStream outCh inCh fmt with
  | error e => simp only [SoundCardImpl.init_of_rejected card.impl _ inDev outDev h]
  | ok opened =>
    simp only [SoundCardImpl.init_of_rejected card.impl _ inDev outDev h, Bool.false_eq_true,
      if_false]

theorem init_of_throws (h : ¬ SoundCardImpl.Rejected inCh outCh sr fs fmt)
    (hthrows : card.stream.isSome = true ∨ audio.openStream = none) :
    card.init audio inDev outDev inCh outCh sr fs fmt =
      (false, { card with impl :=
        (card.impl.configured audio inDev outDev inCh outCh sr fmt).setFs fs inCh outCh }) := by
  have hopen : ∃ e, RtStream.openStream card.stream audio.openStream outCh inCh fmt =
      .error e := by
    unfold RtStream.openStream
    by_cases hsome : card.stream.isSome = true
    · exact ⟨_, if_pos hsome⟩
    · rw [if_neg hsome, hthrows.resolve_left hsome]
      exact ⟨_, rfl⟩
  obtain ⟨e, hopen⟩ := hopen
  rw [init, hopen]
  simp only [SoundCardImpl.init_eq card.impl _ inDev outDev h]
  rfl

theorem init_of_granted (h : ¬ SoundCardImpl.Rejected inCh outCh sr fs fmt)
    (hclosed : card.stream = none) {granted : UInt32} (hgranted : audio.openStream = some granted) :
    card.init audio inDev outDev inCh outCh sr fs fmt =
      (true, {
        impl := { (card.impl.configured audio inDev outDev inCh outCh sr fmt).setFs granted inCh
          outCh with initialized := true }
        stream := some ⟨inCh, outCh, fmt, granted, false⟩ }) := by
  unfold init RtStream.openStream
  rw [hclosed, hgranted]
  simp only [Option.isSome_none, Bool.false_eq_true, if_false,
    SoundCardImpl.init_eq card.impl _ inDev outDev h]
  rfl

/-- A failed `init` of an open stream leaves buffers of the shape that was asked for. -/
theorem agrees_init_open_iff (h : Sound card)
    (hvalid : ¬ SoundCardImpl.Rejected inCh outCh sr fs fmt) {s : RtStream}
    (hs : card.stream = some s) :
    (card.init audio inDev outDev inCh outCh sr fs fmt).2.Agrees ↔
      inCh = s.inputChannels ∧ outCh = s.outputChannels ∧ fmt = s.format ∧ fs = s.bufferFrames := by
  have hfits := h.fits s hs
  rw [init_of_throws inDev outDev hvalid (.inl (Option.isSome_iff_exists.mpr ⟨s, hs⟩))]
  constructor
  · intro hagrees
    obtain ⟨⟨hin, hfmt, hfs⟩, -⟩ := (bufferOf_setFsChFmt_iff ..).mp (hagrees.inputBuffer s hs)
    obtain ⟨⟨hout, -, -⟩, -⟩ := (bufferOf_setFsChFmt_iff ..).mp (hagrees.outputBuffer s hs)
    exact ⟨hin, hout, hfmt, hfs⟩
  · rintro ⟨hin, hout, hfmt, hfs⟩
    refine ⟨h.initialized, h.running, fun s' hs' => ?_, fun s' hs' => ?_⟩
    · obtain rfl := Option.some.inj (hs.symm.trans hs')
      exact (bufferOf_setFsChFmt_iff ..).mpr ⟨⟨hin, hfmt, hfs⟩, hfits.1⟩
    · obtain rfl := Option.some.inj (hs.symm.trans hs')
      exact (bufferOf_setFsChFmt_iff ..).mpr ⟨⟨hout, hfmt, hfs⟩, hfits.2⟩

theorem agrees_init_granted_iff (h : Sound card)
    (hvalid : ¬ SoundCardImpl.Rejected inCh outCh sr fs fmt) (hclosed : card.stream = none)
    {granted : UInt32} (hgranted : audio.openStream = some granted) :
    (card.init audio inDev outDev inCh outCh sr fs fmt).2.Agrees ↔
      frameBytes granted inCh fmt < UInt32.size ∧ frameBytes granted outCh fmt < UInt32.size := by
  have hrunning : card.impl.running = false := by rw [h.running, hclosed]; rfl
  rw [init_of_granted inDev outDev hvalid hclosed hgranted]
  constructor
  · intro hagrees
    exact ⟨((bufferOf_setFsChFmt_iff ..).mp (hagrees.inputBuffer _ rfl)).2,
      ((bufferOf_setFsChFmt_iff ..).mp (hagrees.outputBuffer _ rfl)).2⟩
  · rintro ⟨hin, hout⟩
    refine ⟨rfl, hrunning, ?_, ?_⟩
    · rintro _ ⟨⟩
      exact (bufferOf_setFsChFmt_iff ..).mpr ⟨⟨rfl, rfl, rfl⟩, hin⟩
    · rintro _ ⟨⟩
      exact (bufferOf_setFsChFmt_iff ..).mpr ⟨⟨rfl, rfl, rfl⟩, hout⟩

theorem agrees_init_closed (h : Sound card) (hvalid : ¬ SoundCardImpl.Rejected inCh outCh sr fs fmt)
    (hclosed : card.stream = none) (hthrows : audio.openStream = none) :
    (card.init audio inDev outDev inCh outCh sr fs fmt).2.Agrees := by
  have hnone : ∀ s, s ∉ card.stream := by
    rw [hclosed]
    exact nofun
  rw [init_of_throws inDev outDev hvalid (.inr hthrows)]
  exact ⟨h.initialized, h.running, fun s hs => absurd hs (hnone s),
    fun s hs => absurd hs (hnone s)⟩

theorem agrees_init_iff (h : Sound card) :
    (card.init audio inDev outDev inCh outCh sr fs fmt).2.Agrees ↔
      Careful card (.init audio inDev outDev inCh outCh sr fs fmt) := by
  by_cases hvalid : SoundCardImpl.Rejected inCh outCh sr fs fmt
  · rw [init_of_rejected inDev outDev hvalid]
    exact iff_of_true h.toAgrees (.inl hvalid)
  · rw [Careful, or_iff_right hvalid]
    cases hs : card.stream with
    | some s => exact agrees_init_open_iff inDev outDev h hvalid hs
    | none =>
      cases hopen : audio.openStream with
      | none => exact iff_of_true (agrees_init_closed inDev outDev h hvalid hs hopen) nofun
      | some granted =>
        rw [agrees_init_granted_iff inDev outDev h hvalid hs hopen]
        simp only [Option.mem_some_iff, forall_eq']

variable (card) in
/-- Only a stream that is newly opened is another one. -/
theorem stream_init (audio : RtAudio) (inCh outCh sr fs : UInt32) (fmt : SampleFormat) :
    (card.init audio inDev outDev inCh outCh sr fs fmt).2.stream = card.stream ∨
      (card.init audio inDev outDev inCh outCh sr fs fmt).1 = true ∧
        ∃ granted ∈ audio.openStream, card.stream = none ∧
          (card.init audio inDev outDev inCh outCh sr fs fmt).2.stream =
            some ⟨inCh, outCh, fmt, granted, false⟩ := by
  by_cases hvalid : SoundCardImpl.Rejected inCh outCh sr fs fmt
  · rw [init_of_rejected inDev outDev hvalid]
    exact .inl rfl
  · by_cases hthrows : card.stream.isSome = true ∨ audio.openStream = none
    · rw [init_of_throws inDev outDev hvalid hthrows]
      exact .inl rfl
    · obtain ⟨hclosed, hopen⟩ := not_or.mp hthrows
      obtain ⟨granted, hgranted⟩ := Option.ne_none_iff_exists'.mp hopen
      have hnone := Option.not_isSome_iff_eq_none.mp hclosed
      rw [init_of_granted inDev outDev hvalid hnone hgranted]
      exact .inr ⟨rfl, granted, hgranted, hnone, rfl⟩

theorem sound_init (h : Sound card)
    (hcareful : Careful card (.init audio inDev outDev inCh outCh sr fs fmt)) :
    Sound (card.init audio inDev outDev inCh outCh sr fs fmt).2 := by
  refine ⟨(agrees_init_iff inDev outDev h).mpr hcareful, ?_⟩
  rcases stream_init card inDev outDev audio inCh outCh sr fs fmt with
    hsame | ⟨hok, granted, hgranted, hclosed, hnew⟩
  · rw [hsame]
    exact h.fits
  · rw [hnew]
    rintro _ ⟨⟩
    rw [Careful, hclosed] at hcareful
    refine hcareful.resolve_left (fun hrejected => ?_) granted hgranted
    rw [init_of_rejected inDev outDev hrejected] at hok
    cases hok

end

/-! ## `start` and `stop` -/

/-- A stream that starts or stops running is the same stream. -/
theorem sound_of_running {card : SoundCard} (h : Sound card) {s : RtStream}
    (hs : card.stream = some s) (running : Bool) :
    Sound ⟨{ card.impl with running }, some { s with isRunning := running }⟩ := by
  have hinitialized := h.initialized
  rw [hs] at hinitialized
  have hin := h.inputBuffer s hs
  have hout := h.outputBuffer s hs
  refine ⟨⟨hinitialized, rfl, ?_, ?_⟩, ?_⟩
  · rintro _ ⟨⟩
    exact ⟨hin.channels, hin.format, hin.frameSize, hin.size⟩
  · rintro _ ⟨⟩
    exact ⟨hout.channels, hout.format, hout.frameSize, hout.size⟩
  · rintro _ ⟨⟩
    exact h.fits s hs

theorem sound_start {card : SoundCard} (h : Sound card) (throws : Bool) :
    Sound (card.start throws).2 := by
  have hinitialized := h.initialized
  cases hs : card.stream with
  | none =>
    rw [hs] at hinitialized
    rw [start, hinitialized]
    exact h
  | some s =>
    rw [hs] at hinitialized
    cases throws with
    | true =>
      rw [start, hinitialized, hs]
      exact h
    | false =>
      rw [start, hinitialized, hs]
      exact sound_of_running h hs true

section
variable {card : SoundCard} (h : Sound card)
include h

theorem stop_of_not_running (hrunning : card.stream.any RtStream.isRunning = false)
    (stopThrows closeThrows : Bool) : card.stop stopThrows closeThrows = (false, card) := by
  rw [stop, h.running, hrunning]
  rfl

theorem stop_of_running {s : RtStream} (hs : card.stream = some s) (hrunning : s.isRunning = true)
    (stopThrows closeThrows : Bool) :
    card.stop stopThrows closeThrows = (true,
      if stopThrows then ⟨{ card.impl with running := false }, some s⟩
      else if closeThrows then
        ⟨{ card.impl with running := false }, some { s with isRunning := false }⟩
      else ⟨{ card.impl with initialized := false, running := false }, none⟩) := by
  have hflag : card.impl.running = true := by
    rw [h.running, hs]
    exact hrunning
  rw [stop, hflag, hs]
  cases stopThrows with
  | true =>
    simp only [RtStream.stopStream, ← hs]
    rfl
  | false => cases closeThrows <;> rfl

/-- Behind a call that could not stop the stream the flag says that it has been stopped. -/
theorem agrees_stop_iff (stopThrows closeThrows : Bool) :
    (card.stop stopThrows closeThrows).2.Agrees ↔
      Careful card (.stop stopThrows closeThrows) := by
  rw [Careful]
  cases hany : card.stream.any RtStream.isRunning with
  | false =>
    rw [stop_of_not_running h hany]
    exact iff_of_true h.toAgrees nofun
  | true =>
    obtain ⟨s, hs, hrunning⟩ := (Option.any_eq_true ..).mp hany
    rw [stop_of_running h hs hrunning]
    cases stopThrows with
    | true =>
      refine iff_of_false (fun hagrees => ?_) (fun hnot => ?_)
      · have hflag : false = s.isRunning := hagrees.running
        rw [hrunning] at hflag
        cases hflag
      · cases hnot rfl
    | false =>
      refine iff_of_true ?_ fun _ => rfl
      cases closeThrows with
      | true => exact (sound_of_running h hs false).toAgrees
      | false => exact ⟨rfl, rfl, nofun, nofun⟩

theorem sound_stop {stopThrows closeThrows : Bool}
    (hcareful : Careful card (.stop stopThrows closeThrows)) :
    Sound (card.stop stopThrows closeThrows).2 := by
  refine ⟨(agrees_stop_iff h stopThrows closeThrows).mpr hcareful, ?_⟩
  cases hany : card.stream.any RtStream.isRunning with
  | false =>
    rw [stop_of_not_running h hany]
    exact h.fits
  | true =>
    obtain ⟨s, hs, hrunning⟩ := (Option.any_eq_true ..).mp hany
    rw [stop_of_running h hs hrunning, hcareful hany]
    cases closeThrows with
    | true => exact (sound_of_running h hs false).fits
    | false => exact nofun

/-! ## Runs -/

theorem agreesAfter_iff (call : SoundCardCall) : card.AgreesAfter call ↔ card.Careful call := by
  cases call with
  | init audio inDev outDev inCh outCh sr fs fmt =>
    rw [← agrees_init_iff inDev outDev h]
    refine and_iff_left_of_imp fun hagrees => ?_
    intro audio' inDev' outDev' inCh' outCh' sr' fs' fmt' _ hfails
    refine unchanged_of_agrees h.toAgrees hagrees ?_
    have hcases := stream_init card inDev outDev audio inCh outCh sr fs fmt
    refine hcases.resolve_right fun hopened => ?_
    exact Bool.false_ne_true (hfails.symm.trans hopened.1)
  | start throws => exact iff_of_true ⟨(sound_start h throws).toAgrees, nofun⟩ trivial
  | stop stopThrows closeThrows =>
    rw [← agrees_stop_iff h]
    exact and_iff_left nofun

theorem sound_step {call : SoundCardCall} (hcareful : card.Careful call) :
    Sound (card.step call).2 := by
  cases call with
  | init audio inDev outDev inCh outCh sr fs fmt => exact sound_init inDev outDev h hcareful
  | start throws => exact sound_start h throws
  | stop stopThrows closeThrows => exact sound_stop h hcareful

end

/-- The sound card agrees with its stream after every call just where all of them are careful. -/
theorem agrees_iff_careful (calls : List SoundCardCall) :
    Throughout step AgreesAfter new calls ↔ Throughout step Careful new calls :=
  throughout_iff Sound (fun _ call h => agreesAfter_iff h call)
    (fun _ _ h hcareful => sound_step h hcareful) calls sound_new

/-- A second `init` with another format fails and leaves its buffers behind, and so does an error of
`stopStream` the flag of a stream that runs on. -/
theorem agrees_failures :
    ¬ Throughout step AgreesAfter new
        [.init ⟨0, 1, some 512⟩ (-1) (-1) 2 2 44100 512 .INT16,
          .init ⟨0, 1, some 512⟩ (-1) (-1) 1 1 44100 256 .INT16] ∧
      ¬ Throughout step AgreesAfter new
        [.init ⟨0, 1, some 512⟩ (-1) (-1) 2 2 44100 512 .INT16, .start false,
          .stop true false] := by
  refine ⟨fun h => ?_, fun h => ?_⟩
  · have hchannels := (h.2.1.1.inputBuffer _ rfl).channels
    exact absurd hchannels (by decide)
  · have hrunning := h.2.2.1.1.running
    exact absurd hrunning (by decide)

end SoundCard

end Voip
