import Voip.App.Playout
import Voip.App.Receiver

/-! The whole program in a call: the sound card and the application on one side, the receive thread
on the other, and the jitter buffer between them. -/

namespace Voip

open Base

structure System where
  playout : Playout
  receiver : Receiver
  deriving DecidableEq

inductive SystemEvent where
  | receive (opus_decode : OpusDecode) (packet : Bytes)
  | callback (opus_encode : OpusEncode) (inBuf : ℕ → UInt8) (nFrames : UInt32)

namespace System

/-! ## Start of a call -/

def new (packer : RtpPacker) : System where
  playout := { card := .new, app := .new packer }
  receiver := .init 0 .new

def udpParameters (payloadType : UInt32) : Option (UInt32 × UInt32 × UInt32) :=
  if payloadType = 10 then some (2, 44100, 512)
  else if payloadType = 11 then some (1, 44100, 512)
  else if payloadType = OPUS_PAYLOADTYPE.toUInt32 then
    some (UInt32.ofNat OPUS_CHANNELS, OPUS_SAMPLERATE, UInt32.ofNat OPUS_FRAMESIZE)
  else none

def initUDP (s : System) (audio : RtAudio) (inDev outDev : Int32)
    (inCh outCh sampleRate framesize : UInt32) (payloadType : UInt8) : Bool × System :=
  if s.playout.app.isInitialized then (false, s) else
  let (ok, card) :=
    s.playout.card.init audio inDev outDev inCh outCh sampleRate framesize .INT16
  if ok then
    let app := { s.playout.app with
      packer := s.playout.app.packer.init payloadType
      jitterBuffer := .new
      isInitialized := true }
    -- the depacker is new as well: the receive thread makes it when it starts
    (true, { playout := { card, app }, receiver := .init payloadType s.receiver.decoder })
  else (false, { s with playout := { s.playout with card } })

/-- The UDP branch of `init`. Without a result the program exits. -/
def startUDP (s : System) (audio : RtAudio) (inDev outDev : Int32) (payloadType : UInt32) :
    Option System := do
  let (channels, sampleRate, frameSize) ← udpParameters payloadType
  let s := { s with playout := { s.playout with app := { s.playout.app with isUDP := true } } }
  let (ok, s) := s.initUDP audio inDev outDev channels channels sampleRate frameSize
    payloadType.toUInt8
  if !ok then none
  else if payloadType = OPUS_PAYLOADTYPE.toUInt32 then
    let app := { s.playout.app with
      encoder := s.playout.app.encoder.init frameSize.toInt32
      isOpus := true }
    some { s with playout := { s.playout with app } }
  else some s

/-- What the command line comes to. `exits` is the parser's own end of the program, which it makes
of every error it meets; an exception is left to `init`. -/
structure Arguments where
  listDevices : Bool
  loopBack : Bool
  inDev : Int32
  outDev : Int32
  inCh : UInt32
  outCh : UInt32
  fs : UInt32
  s : UInt32
  payloadType : UInt32
  destIp : String
  deriving DecidableEq, Repr

inductive Parsed where
  | exits (status : Int32)
  | throws
  | values (args : Arguments)
  deriving DecidableEq, Repr

def initLoopback (s : System) (audio : RtAudio) (inDev outDev : Int32)
    (inCh outCh sampleRate framesize : UInt32) : Bool × System :=
  if s.playout.app.isInitialized then (false, s) else
  let (ok, card) :=
    s.playout.card.init audio inDev outDev inCh outCh sampleRate framesize .INT16
  if ok then
    (true, { s with playout := { card, app := { s.playout.app with isInitialized := true } } })
  else (false, { s with playout := { s.playout with card } })

/-- An error is the status that the program exits with. -/
def init (s : System) (audio : RtAudio) : Parsed → Except Int32 (Bool × System)
  | .exits status => .error status
  | .throws => .ok (false, s)
  | .values args =>
    if args.listDevices then .error 0
    else if args.loopBack ∧ args.destIp ≠ "" then .error (-1)
    else if args.loopBack then
      let app := { s.playout.app with isLoopback := true }
      let (ok, s) := initLoopback { s with playout := { s.playout with app } } audio args.inDev
        args.outDev args.inCh args.outCh args.s args.fs
      if !ok then .error (-1) else .ok (true, s)
    else if args.destIp ≠ "" then
      match s.startUDP audio args.inDev args.outDev args.payloadType with
      | none => .error (-1)
      | some s => .ok (true, s)
    else .error (-1)

theorem initUDP_cases {s s' : System} {audio : RtAudio} {inDev outDev : Int32}
    {inCh outCh sampleRate framesize : UInt32} {payloadType : UInt8}
    (h : s.initUDP audio inDev outDev inCh outCh sampleRate framesize payloadType = (true, s')) :
    s.playout.card.init audio inDev outDev inCh outCh sampleRate framesize .INT16 =
        (true, s'.playout.card) ∧
      s'.playout.app = { s.playout.app with
        packer := s.playout.app.packer.init payloadType
        jitterBuffer := .new
        isInitialized := true } := by
  rw [initUDP] at h
  split at h
  · cases h
  · generalize s.playout.card.init audio inDev outDev inCh outCh sampleRate framesize .INT16 =
      result at h
    obtain ⟨ok, card⟩ := result
    cases ok with
    | false => cases h
    | true =>
      obtain ⟨-, rfl⟩ := Prod.mk.inj h
      exact ⟨rfl, rfl⟩

/-- All that the UDP branch does where it comes through. -/
theorem startUDP_cases {s s' : System} {audio : RtAudio} {inDev outDev : Int32}
    {payloadType : UInt32} (h : s.startUDP audio inDev outDev payloadType = some s') :
    ∃ channels sampleRate frameSize,
      udpParameters payloadType = some (channels, sampleRate, frameSize) ∧
      s.playout.card.init audio inDev outDev channels channels sampleRate frameSize .INT16 =
        (true, s'.playout.card) ∧
      s'.playout.app = { s.playout.app with
        isUDP := true
        packer := s.playout.app.packer.init payloadType.toUInt8
        jitterBuffer := .new
        isInitialized := true
        encoder :=
          if payloadType = OPUS_PAYLOADTYPE.toUInt32 then
            s.playout.app.encoder.init frameSize.toInt32
          else s.playout.app.encoder
        isOpus :=
          if payloadType = OPUS_PAYLOADTYPE.toUInt32 then true else s.playout.app.isOpus } := by
  rw [startUDP] at h
  obtain ⟨⟨channels, sampleRate, frameSize⟩, hparameters, h⟩ := Option.bind_eq_some_iff.mp h
  refine ⟨channels, sampleRate, frameSize, hparameters, ?_⟩
  dsimp only at h
  generalize hinit : initUDP _ audio inDev outDev channels channels sampleRate frameSize
    payloadType.toUInt8 = result at h
  obtain ⟨ok, s₁⟩ := result
  cases ok with
  | false => cases h
  | true =>
    obtain ⟨hcard, happ⟩ := initUDP_cases hinit
    rw [if_neg (show ¬ (!true) = true by decide)] at h
    by_cases hopus : payloadType = OPUS_PAYLOADTYPE.toUInt32
    · rw [if_pos hopus] at h
      cases h
      refine ⟨hcard, ?_⟩
      dsimp only
      rw [happ, if_pos hopus, if_pos hopus]
    · rw [if_neg hopus] at h
      cases h
      refine ⟨hcard, ?_⟩
      rw [happ, if_neg hopus, if_neg hopus]

theorem startUDP_app {packer : RtpPacker} {audio : RtAudio} {inDev outDev : Int32}
    {payloadType : UInt32} {s : System}
    (h : (new packer).startUDP audio inDev outDev payloadType = some s) :
    s.playout.app.isLoopback = false ∧ s.playout.app.isUDP = true ∧
      s.playout.app.jitterBuffer = .new := by
  obtain ⟨channels, sampleRate, frameSize, -, -, happ⟩ := startUDP_cases h
  rw [happ]
  exact ⟨rfl, rfl, rfl⟩

theorem initLoopback_app {s s' : System} {audio : RtAudio} {inDev outDev : Int32}
    {inCh outCh sampleRate framesize : UInt32}
    (h : s.initLoopback audio inDev outDev inCh outCh sampleRate framesize = (true, s')) :
    s'.playout.app = { s.playout.app with isInitialized := true } := by
  rw [initLoopback] at h
  split at h
  · cases h
  · generalize s.playout.card.init audio inDev outDev inCh outCh sampleRate framesize .INT16 =
      result at h
    obtain ⟨ok, card⟩ := result
    cases ok with
    | false => cases h
    | true =>
      obtain ⟨-, rfl⟩ := Prod.mk.inj h
      rfl

/-- Where the program goes on, either a mode has been set up or an exception came through. -/
theorem init_cases {packer : RtpPacker} {audio : RtAudio} {parsed : Parsed} {ok : Bool}
    {s : System} (h : (new packer).init audio parsed = .ok (ok, s)) :
    (parsed = .throws ∧ ok = false) ∨ ∃ args, parsed = .values args ∧ ok = true ∧
      s.playout.app.isInitialized = true ∧ s.playout.app.isUDP = !args.loopBack := by
  cases parsed with
  | exits status => cases h
  | throws =>
    obtain ⟨rfl, -⟩ := Prod.mk.inj (Except.ok.inj h)
    exact .inl ⟨rfl, rfl⟩
  | values args =>
    refine .inr ⟨args, rfl, ?_⟩
    simp only [init] at h
    split_ifs at h with hlist hboth hloop hfail hip
    · obtain ⟨rfl, rfl⟩ := Prod.mk.inj (Except.ok.inj h)
      rw [Bool.not_eq_true', Bool.not_eq_false] at hfail
      rw [initLoopback_app (Prod.ext hfail rfl), hloop]
      exact ⟨rfl, rfl, rfl⟩
    · cases hstart : (new packer).startUDP audio args.inDev args.outDev args.payloadType with
      | none =>
        rw [hstart] at h
        cases h
      | some s' =>
        rw [hstart] at h
        obtain ⟨rfl, rfl⟩ := Prod.mk.inj (Except.ok.inj h)
        obtain ⟨channels, sampleRate, frameSize, -, -, happ⟩ := startUDP_cases hstart
        rw [Bool.not_eq_true] at hloop
        rw [happ, hloop]
        exact ⟨rfl, rfl, rfl⟩

/-! ## Steps -/

def step (s : System) : SystemEvent → Except Fault (Option CallbackResult × System)
  | .receive opus_decode packet => do
    let (receiver, jitterBuffer) ←
      s.receiver.receive opus_decode s.playout.app.jitterBuffer packet
    let app := { s.playout.app with jitterBuffer }
    pure (none, { playout := { s.playout with app }, receiver })
  | .callback opus_encode inBuf nFrames => do
    let (result, playout) ← s.playout.step (.callback opus_encode inBuf nFrames)
    pure (result, { s with playout })

/-- To the playout, a turn of the receive loop is nothing or an `add`. -/
theorem step_receive_cases {s s' : System} {opus_decode : OpusDecode} {packet : Bytes}
    {o : Option CallbackResult} (h : s.step (.receive opus_decode packet) = .ok (o, s')) :
    s'.receiver.payloadType = s.receiver.payloadType ∧
      (s'.playout = s.playout ∨ ∃ data frame,
        s.receiver.depacker.handle s.receiver.payloadType packet =
          .ok (some data, s'.receiver.depacker) ∧
        frame.length = Receiver.frameLength opus_decode s.receiver.payloadType data ∧
        s.playout.step (.add frame) = .ok (none, s'.playout)) := by
  cases hreceive : s.receiver.receive opus_decode s.playout.app.jitterBuffer packet with
  | error e => simp [step, hreceive] at h
  | ok r =>
    obtain ⟨receiver, jitterBuffer⟩ := r
    simp only [step, hreceive, ok_bind, pure_eq_ok, Except.ok.injEq, Prod.mk.injEq] at h
    obtain ⟨-, rfl⟩ := h
    obtain ⟨payload, hhandle, hpt, hcases⟩ := Receiver.receive_cases hreceive
    refine ⟨hpt, ?_⟩
    rcases hcases with ⟨-, rfl⟩ | ⟨data, frame, rfl, hlength, rfl⟩
    · exact .inl rfl
    · exact .inr ⟨data, frame, hhandle, hlength, rfl⟩

theorem step_callback {s s' : System} {opus_encode : OpusEncode} {inBuf : ℕ → UInt8}
    {nFrames : UInt32} {o : Option CallbackResult}
    (h : s.step (.callback opus_encode inBuf nFrames) = .ok (o, s')) :
    s.playout.step (.callback opus_encode inBuf nFrames) = .ok (o, s'.playout) ∧
      s'.receiver = s.receiver := by
  cases hstep : s.playout.step (.callback opus_encode inBuf nFrames) with
  | error e => simp [step, hstep] at h
  | ok r =>
    obtain ⟨result, playout⟩ := r
    simp only [step, hstep, ok_bind, pure_eq_ok, Except.ok.injEq, Prod.mk.injEq] at h
    obtain ⟨rfl, rfl⟩ := h
    exact ⟨rfl, rfl⟩

end System

end Voip
