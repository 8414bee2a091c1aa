import Voip.App.System

/-! The length of what is played is settled in four places: by the sender of a datagram, by its
payload type, by the decoder, and by the callback's frame count. Nothing but luck brings them
together; where it does, every frame fits. -/

namespace Voip.System

open Base

/-- A callback that finds a packet finds one of the output buffer's size, and outputs no other
byte. -/
def FrameExact (s : System) : SystemEvent → Prop
  | .receive .. => True
  | .callback opus_encode inBuf nFrames =>
    ∀ packet rest, s.playout.app.jitterBuffer.dataBuffer = packet :: rest →
      packet.length = (s.playout.card.adapt nFrames).outputBuffer.size ∧
        ∀ o s', s.step (.callback opus_encode inBuf nFrames) = .ok (o, s') →
          ∃ result, o = some result ∧ result.toOut = packet

/-- An accepted datagram yields a frame of the output buffer's size, and a callback that finds a
packet does not change that size. -/
def Fitting (s : System) : SystemEvent → Prop
  | .receive opus_decode packet =>
    ∀ data d, s.receiver.depacker.handle s.receiver.payloadType packet = .ok (some data, d) →
      Receiver.frameLength opus_decode s.receiver.payloadType data =
        s.playout.card.outputBuffer.size
  | .callback _ _ nFrames =>
    s.playout.app.jitterBuffer.dataBuffer = [] ∨
      (s.playout.card.adapt nFrames).outputBuffer.size = s.playout.card.outputBuffer.size

/-- In UDP mode, with nothing to play but whole frames. -/
structure FullFrames (p : Playout) : Prop where
  isLoopback : p.app.isLoopback = false
  isUDP : p.app.isUDP = true
  length_eq : ∀ packet ∈ p.app.jitterBuffer.dataBuffer,
    packet.length = p.card.outputBuffer.size

theorem fullFrames_add {p p' : Playout} (hp : FullFrames p) {frame : Bytes}
    (hframe : frame.length = p.card.outputBuffer.size) {o : Option CallbackResult}
    (h : p.step (.add frame) = .ok (o, p')) : FullFrames p' := by
  obtain ⟨-, rfl⟩ := Prod.mk.inj (Except.ok.inj h)
  refine ⟨hp.isLoopback, hp.isUDP, fun packet hpacket => ?_⟩
  rcases List.mem_append.mp hpacket with hold | hnew
  · split_ifs at hold with hfull
    · cases hold
    · exact hp.length_eq packet hold
  · rw [List.mem_singleton.mp hnew]
    exact hframe

theorem fullFrames_callback {p p' : Playout} (hp : FullFrames p) {opus_encode : OpusEncode}
    {inBuf : ℕ → UInt8} {nFrames : UInt32}
    (hsize : p.app.jitterBuffer.dataBuffer = [] ∨
      (p.card.adapt nFrames).outputBuffer.size = p.card.outputBuffer.size)
    {o : Option CallbackResult} (h : p.step (.callback opus_encode inBuf nFrames) = .ok (o, p')) :
    FullFrames p' := by
  obtain ⟨result, -, hmodes, -, houtput, hbuffer, -⟩ :=
    p.step_callback_cases _ _ _ hp.isLoopback hp.isUDP h
  refine ⟨hmodes.2.1.trans hp.isLoopback, hmodes.2.2.trans hp.isUDP, ?_⟩
  have hlength : p'.card.outputBuffer.size = (p.card.adapt nFrames).outputBuffer.size := by
    rw [AudioBuffer.size, houtput, SimpleJB.length_getFrontData]
    rfl
  rw [hbuffer, hlength]
  intro packet hpacket
  have hold := SimpleJB.mem_of_mem_getFrontData hpacket
  rcases hsize with hnil | hsize
  · rw [hnil] at hold
    cases hold
  · rw [hsize]
    exact hp.length_eq packet hold

theorem fullFrames_step {s s' : System} {e : SystemEvent} {o : Option CallbackResult}
    (hs : FullFrames s.playout) (hfit : Fitting s e) (h : s.step e = .ok (o, s')) :
    FullFrames s'.playout := by
  cases e with
  | receive opus_decode packet =>
    obtain ⟨-, hsame | ⟨data, frame, hhandle, hlength, hadd⟩⟩ := step_receive_cases h
    · rw [hsame]
      exact hs
    · exact fullFrames_add hs (hlength.trans (hfit data _ hhandle)) hadd
  | callback opus_encode inBuf nFrames =>
    exact fullFrames_callback hs hfit (step_callback h).1

theorem frameExact_of_fullFrames {s : System} {e : SystemEvent} (hs : FullFrames s.playout)
    (hfit : Fitting s e) : FrameExact s e := by
  cases e with
  | receive opus_decode packet => trivial
  | callback opus_encode inBuf nFrames =>
    intro packet rest hbuffer
    have hlength : packet.length = (s.playout.card.adapt nFrames).outputBuffer.size := by
      rcases hfit with hnil | hsize
      · rw [hnil] at hbuffer
        cases hbuffer
      · rw [hsize]
        exact hs.length_eq packet (hbuffer ▸ List.mem_cons_self ..)
    refine ⟨hlength, fun o s' h => ?_⟩
    obtain ⟨result, ho, -, -, houtput, -, htoOut⟩ :=
      s.playout.step_callback_cases _ _ _ hs.isLoopback hs.isUDP (step_callback h).1
    refine ⟨result, ho, ?_⟩
    rw [htoOut, houtput, SimpleJB.getFrontData_cons hbuffer]
    exact copyTo_of_length_eq hlength

/-- In a call whose steps are all fitting, every frame is exact. -/
theorem frameExact_of_fitting {packer : RtpPacker} {audio : RtAudio} {inDev outDev : Int32}
    {payloadType : UInt32} {s : System}
    (hstart : (new packer).startUDP audio inDev outDev payloadType = some s)
    {events : List SystemEvent} (h : Along step Fitting s events) :
    Along step FrameExact s events := by
  obtain ⟨hloop, hudp, hbuffer⟩ := startUDP_app hstart
  refine along_of_along (fun s => FullFrames s.playout) ?_ ?_ ⟨hloop, hudp, ?_⟩ h
  · exact fun s e o s' hs hfit hstep => fullFrames_step hs hfit hstep
  · exact fun s e hs hfit => frameExact_of_fullFrames hs hfit
  · rw [hbuffer]
    exact nofun

theorem frameExact_of_fitting_raw :
    ∃ s, (new (.new 1 0 7)).startUDP ⟨0, 1, some 2⟩ (-1) (-1) 10 = some s ∧
      Along step FrameExact s
        [.receive (fun _ _ => ⟨0, []⟩)
          [0x80, 10, 0, 1, 0, 0, 0, 0, 0, 0, 0, 9, 1, 2, 3, 4, 5, 6, 7, 8],
          .callback (fun _ _ _ => ⟨0, []⟩) (fun _ => 0) 2] := by
  have hstart : ∃ s, (new (.new 1 0 7)).startUDP ⟨0, 1, some 2⟩ (-1) (-1) 10 = some s := ⟨_, rfl⟩
  obtain ⟨s, hstart⟩ := hstart
  refine ⟨s, hstart, frameExact_of_fitting hstart ?_⟩
  cases hstart
  refine ⟨fun data d hhandle => ?_, fun o s' hstep => ⟨?_, fun _ _ _ => trivial⟩⟩
  · cases hhandle
    rfl
  · cases hstep
    exact .inr rfl

/-- A datagram of thirteen bytes makes a frame of one. -/
theorem frameExact_short :
    ∃ s, (new (.new 1 0 7)).startUDP ⟨0, 1, some 2⟩ (-1) (-1) 10 = some s ∧
      ¬ Along step FrameExact s
        [.receive (fun _ _ => ⟨0, []⟩) [0x80, 10, 0, 1, 0, 0, 0, 0, 0, 0, 0, 9, 1],
          .callback (fun _ _ _ => ⟨0, []⟩) (fun _ => 0) 2] := by
  refine ⟨_, rfl, fun h => ?_⟩
  have hcallback := (h.2 _ _ rfl).1 _ _ rfl
  exact absurd hcallback.1 (by decide)

end Voip.System
