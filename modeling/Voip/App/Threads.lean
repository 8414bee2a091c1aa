import Voip.App.Lifecycle
import Voip.App.RawFrames
import Voip.Audio.StreamState
import Voip.Net.BufferReuse

/-! The three threads of a call in UDP mode: the main thread, from where `init` has come back to the
end of `main`, the receive loop and the callbacks of the sound card. They are taken as coarse as the
ends of the objects need; a stop that ends the callbacks comes back when none is running. -/

namespace Voip

open Base

/-- What the threads use, and the main thread destroys. -/
inductive Owned where
  | jitterBuffer
  | encoder
  | sender
  | receiver
  | buffers
  deriving DecidableEq, Repr

/-- The statements of `exec` behind `init`, with `Receiver::stop` in two, and the destructors of
`VoIPComm` and of its members, the last of which closes the stream behind its buffers. -/
inductive Statement where
  | receiverStart
  | soundcardStart
  | getKey
  | soundcardStop
  | clearRunning
  | join
  | senderStop
  | deleteJitterBuffer
  | destroyEncoder
  | destroySender
  | destroyReceiver
  | destroyBuffers
  | destroyStream
  deriving DecidableEq, Repr

def Statement.destroys : Statement → List Owned
  | deleteJitterBuffer => [.jitterBuffer]
  | destroyEncoder => [.encoder]
  | destroySender => [.sender]
  | destroyReceiver => [.receiver]
  | destroyBuffers => [.buffers]
  | _ => []

inductive LoopAt where
  | notStarted
  | testing
  | reading
  | handling
  | finished
  deriving DecidableEq, Repr

def LoopAt.active : LoopAt → Bool
  | notStarted => false
  | finished => false
  | _ => true

/-- What the loop still does once its flag is clear. -/
def LoopAt.reads : LoopAt → ℕ
  | reading => 1
  | _ => 0

def LoopAt.handles : LoopAt → ℕ
  | reading => 1
  | handling => 1
  | _ => 0

/-- Which calls of RtAudio throw, and whether a stop that throws leaves the callbacks running: that
depends on the API. -/
structure Outcomes where
  startThrows : Bool
  stopThrows : Bool
  stillRuns : Bool
  closeThrows : Bool
  deriving DecidableEq, Repr

namespace Outcomes

/-- No callback comes behind the stop. -/
def Halts (out : Outcomes) : Prop :=
  out.startThrows = true ∨ out.stopThrows = false ∨ out.stillRuns = false

theorem not_halts_iff (out : Outcomes) :
    ¬ out.Halts ↔ out.startThrows = false ∧ out.stopThrows = true ∧ out.stillRuns = true := by
  simp only [Halts, not_or, Bool.not_eq_true, Bool.not_eq_false]

end Outcomes

def SoundCard.halt (card : SoundCard) : SoundCard :=
  { card with stream := card.stream.map fun s => { s with isRunning := false } }

/-- `soundcard` has the flags and the stream; its buffers change with the callbacks, in `system`. -/
structure Program where
  main : List Statement
  loop : LoopAt
  thread : ReceiveThread
  soundcard : SoundCard
  senderSocket : UdpSocket
  endpoint : Endpoint
  system : System
  destroyed : List Owned

inductive Act where
  | main
  | test
  | read (os : SysRecv)
  | handle (opus_decode : OpusDecode)
  | callback (opus_encode : OpusEncode) (inBuf : ℕ → UInt8) (nFrames : UInt32)

namespace Act

def isRead : Act → Bool
  | read _ => true
  | _ => false

def isHandle : Act → Bool
  | handle _ => true
  | _ => false

end Act

inductive Trouble where
  | notNext
  | dangling
  | thread (fault : ThreadFault)
  | fault (fault : Fault)
  deriving DecidableEq, Repr

def Trouble.misuse : Trouble → Bool
  | dangling => true
  | thread _ => true
  | _ => false

namespace Program

def statements : List Statement :=
  [.receiverStart, .soundcardStart, .getKey, .soundcardStop, .clearRunning, .join, .senderStop,
    .deleteJitterBuffer, .destroyEncoder, .destroySender, .destroyReceiver, .destroyBuffers,
    .destroyStream]

/-- Behind `init`, with the stream open and every object made. -/
def start (s : System) (addr : Ipv4SocketAddress) : Program where
  main := statements
  loop := .notStarted
  thread := .new
  soundcard :=
    { impl := s.playout.card
      stream := some
        { inputChannels := s.playout.card.inputParameters.nChannels
          outputChannels := s.playout.card.outputParameters.nChannels
          format := s.playout.card.fmt
          bufferFrames := s.playout.card.fs
          isRunning := false } }
  senderSocket := { UdpSocket.new with isOpen := true }
  endpoint := ⟨⟨true, false⟩, addr, .alloc 2060 0⟩
  system := s
  destroyed := []

def streaming (p : Program) : Bool := p.soundcard.stream.any RtStream.isRunning

/-- What a callback uses. -/
def callbackUses (p : Program) : List Owned :=
  [.buffers, .sender, .jitterBuffer] ++ if p.system.playout.app.isOpus then [.encoder] else []

def intact (p : Program) (used : List Owned) : Bool := used.all fun x => x ∉ p.destroyed

variable (plat : Platform) (out : Outcomes)

def run (p : Program) : Statement → Except Trouble Program
  | .receiverStart =>
    match p.thread.start with
    | .ok thread => .ok { p with thread, loop := .testing }
    | .error f => .error (.thread f)
  | .soundcardStart => .ok { p with soundcard := (p.soundcard.start out.startThrows).2 }
  | .getKey => .ok p
  | .soundcardStop =>
    let card := (p.soundcard.stop out.stopThrows out.closeThrows).2
    .ok { p with soundcard := if out.stillRuns then card else card.halt }
  | .clearRunning => .ok { p with thread := { p.thread with running := false } }
  | .join =>
    -- waits for the end of the loop
    if p.loop = .finished then
      match p.thread.stop with
      | .ok thread => .ok { p with thread }
      | .error f => .error (.thread f)
    else .error .notNext
  | .senderStop => .ok { p with senderSocket := p.senderSocket.close.2 }
  | .destroyReceiver =>
    match p.thread.destroy with
    | .ok () => .ok p
    | .error f => .error (.thread f)
  | .destroyStream => .ok { p with soundcard := { p.soundcard with stream := none } }
  | .deleteJitterBuffer => .ok p
  | .destroyEncoder => .ok p
  | .destroySender => .ok p
  | .destroyBuffers => .ok p

/-- One step of a thread; the answer is what it does to the system, if anything. A statement, a
callback and a turn of the loop behind its read are one step each: how the lock of the jitter buffer
lets the last two overlap is not seen here. -/
def step (p : Program) : Act → Except Trouble (Option SystemEvent × Program)
  | .main =>
    match p.main with
    | [] => .error .notNext
    | statement :: main => do
      let p ← p.run out statement
      pure (none, { p with main, destroyed := p.destroyed ++ statement.destroys })
  | .test =>
    if p.loop ≠ .testing then .error .notNext
    else if !p.intact [.receiver] then .error .dangling
    else .ok (none, { p with loop := if p.thread.running then .reading else .finished })
  | .read os =>
    if p.loop ≠ .reading then .error .notNext
    else .ok (none, { p with loop := .handling, endpoint := p.endpoint.receive plat os })
  | .handle opus_decode =>
    if p.loop ≠ .handling then .error .notNext
    else if !p.intact [.receiver, .jitterBuffer] then .error .dangling
    else
      let event := SystemEvent.receive opus_decode p.endpoint.data.toList
      match p.system.step event with
      | .ok (_, system) => .ok (some event, { p with loop := .testing, system })
      | .error f => .error (.fault f)
  | .callback opus_encode inBuf nFrames =>
    if !p.streaming then .error .notNext
    else if !p.intact p.callbackUses then .error .dangling
    else
      let event := SystemEvent.callback opus_encode inBuf nFrames
      match p.system.step event with
      | .ok (_, system) => .ok (some event, { p with system })
      | .error f => .error (.fault f)

/-- Every act is the next one of its thread, as far as the run goes. -/
def Schedule (p : Program) (acts : List Act) : Prop :=
  Along (step plat out) (fun p a => p.step plat out a ≠ .error .notNext) p acts

/-- Nothing is ever used that has been destroyed, and no `std::thread` wrongly. -/
def Safe (p : Program) (acts : List Act) : Prop :=
  Along (step plat out) (fun p a => ∀ e, p.step plat out a = .error e → e.misuse = false) p acts

variable {plat out} {p p' q : Program} {k : ℕ} {statement : Statement} {a : Act}
  {o : Option SystemEvent} {e : Trouble}

/-! ## Where the main thread stands -/

/-- `k` statements have been carried out. The thread is there from the first of them to `join`, the
loop is not active beyond that, and its flag is clear from the statement in front of it on. -/
structure Stands (k : ℕ) (p : Program) : Prop where
  main : p.main = statements.drop k
  destroyed : p.destroyed = (statements.take k).flatMap Statement.destroys
  loop : p.loop.active = true → k ≤ 5
  running : p.thread.running = decide (k < 5)
  joinable : p.thread.self.joinable = decide (0 < k ∧ k < 6)

/-- The stream only runs between the two calls of the sound card. -/
structure At (out : Outcomes) (k : ℕ) (p : Program) : Prop extends Stands k p where
  flag : p.streaming = true → p.soundcard.impl.running = true
  started : p.streaming = true → out.startThrows = false
  streaming : p.streaming = true → k = 2 ∨ k = 3

theorem getElem?_statements (h : statements[k]? = some statement) : k = statement.ctorIdx := by
  obtain ⟨hk, rfl⟩ := List.getElem?_eq_some_iff.mp h
  revert k
  decide

theorem Stands.getElem? (hp : Stands k p) {rest : List Statement}
    (hmain : p.main = statement :: rest) : statements[k]? = some statement := by
  rw [← List.head?_drop, ← hp.main, hmain, List.head?_cons]

theorem streaming_halt (card : SoundCard) : card.halt.stream.any RtStream.isRunning = false := by
  obtain ⟨impl, _ | s⟩ := card <;> rfl

section
variable {card : SoundCard}
  (hflag : card.stream.any RtStream.isRunning = true → card.impl.running = true)
include hflag

theorem streaming_start {throws : Bool}
    (h : (card.start throws).2.stream.any RtStream.isRunning = true) :
    (card.start throws).2.impl.running = true ∧
      (card.stream.any RtStream.isRunning = true ∨ throws = false) := by
  rw [SoundCard.start] at h ⊢
  by_cases hinit : (!card.impl.initialized) = true
  · rw [if_pos hinit] at h ⊢
    exact ⟨hflag h, .inl h⟩
  · rw [if_neg hinit] at h ⊢
    cases hstart : RtStream.startStream card.stream throws with
    | error e =>
      rw [hstart] at h
      exact ⟨hflag h, .inl h⟩
    | ok stream =>
      refine ⟨rfl, .inr ?_⟩
      cases throws with
      | false => rfl
      | true =>
        cases hstream : card.stream with
        | none => rw [hstream] at hstart; cases hstart
        | some s => rw [hstream] at hstart; cases hstart

theorem streaming_stop {stopThrows closeThrows : Bool}
    (h : (card.stop stopThrows closeThrows).2.stream.any RtStream.isRunning = true) :
    card.stream.any RtStream.isRunning = true ∧ stopThrows = true := by
  rw [SoundCard.stop] at h
  by_cases hrunning : (!card.impl.running) = true
  · rw [if_pos hrunning] at h
    rw [hflag h] at hrunning
    cases hrunning
  · rw [if_neg hrunning] at h
    obtain ⟨impl, _ | s⟩ := card
    · cases h
    · cases stopThrows with
      | true => exact ⟨h, rfl⟩
      | false => cases closeThrows <;> cases h

end

/-- All that a statement can do. -/
theorem run_cases (h : p.run out statement = .ok q) :
    ∃ thread soundcard senderSocket,
      q = { p with
        loop := if statement = .receiverStart then .testing else p.loop
        thread, soundcard, senderSocket } ∧
      (statement = .join → p.loop = .finished) ∧
      thread.running = (p.thread.running && statement ≠ .clearRunning && statement ≠ .join) ∧
      thread.self.joinable =
        (statement = .receiverStart || p.thread.self.joinable && statement ≠ .join) ∧
      (statement = .soundcardStart ∧ soundcard = (p.soundcard.start out.startThrows).2 ∨
        statement = .soundcardStop ∧ soundcard =
          (let card := (p.soundcard.stop out.stopThrows out.closeThrows).2
          if out.stillRuns then card else card.halt) ∨
        statement = .destroyStream ∧ soundcard.stream = none ∨
        statement ≠ .soundcardStop ∧ soundcard = p.soundcard) := by
  obtain ⟨main, loop, ⟨⟨joinable⟩, running, socket⟩, soundcard, senderSocket, endpoint, system,
    destroyed⟩ := p
  cases statement with
  | receiverStart =>
    cases joinable with
    | true => cases h
    | false =>
      cases h
      exact ⟨_, _, _, rfl, nofun, by cases running <;> rfl, rfl, by simp⟩
  | join =>
    rw [run] at h
    split_ifs at h with hfinished
    cases joinable with
    | true =>
      cases h
      exact ⟨_, _, _, rfl, fun _ => hfinished, by cases running <;> rfl, rfl, by simp⟩
    | false => cases h
  | destroyReceiver =>
    rw [run] at h
    split at h
    · cases h
      exact ⟨_, _, _, rfl, nofun, by cases running <;> rfl, by cases joinable <;> rfl, by simp⟩
    · cases h
  | _ =>
    cases h
    exact ⟨_, _, _, rfl, nofun, by cases running <;> rfl, by cases joinable <;> rfl, by simp⟩

theorem run_destroyed (h : p.run out statement = .ok q) : q.destroyed = p.destroyed := by
  obtain ⟨thread, soundcard, senderSocket, rfl, -⟩ := run_cases h
  rfl

/-- Only the first statement makes the loop active, and at `join` it is no more. -/
theorem run_loop (h : p.run out statement = .ok q) (hactive : q.loop.active = true) :
    statement = .receiverStart ∨ p.loop.active = true ∧ statement ≠ .join := by
  obtain ⟨thread, soundcard, senderSocket, rfl, hjoin, -⟩ := run_cases h
  by_cases hstart : statement = .receiverStart
  · exact .inl hstart
  · dsimp only at hactive
    rw [if_neg hstart] at hactive
    refine .inr ⟨hactive, fun hst => ?_⟩
    rw [hjoin hst] at hactive
    cases hactive

theorem run_streaming (hflag : p.streaming = true → p.soundcard.impl.running = true)
    (h : p.run out statement = .ok q) (hstreaming : q.streaming = true) :
    statement = .soundcardStop ∧ p.streaming = true ∧ out.stopThrows = true ∧
        out.stillRuns = true ∨
      statement ≠ .soundcardStop ∧ q.soundcard.impl.running = true ∧
        (p.streaming = true ∨ statement = .soundcardStart ∧ out.startThrows = false) := by
  obtain ⟨thread, soundcard, senderSocket, rfl, -, -, -, hcard⟩ := run_cases h
  rcases hcard with ⟨rfl, rfl⟩ | ⟨rfl, rfl⟩ | ⟨rfl, hnone⟩ | ⟨hother, rfl⟩
  · obtain ⟨hrunning, hcause⟩ := streaming_start hflag hstreaming
    exact .inr ⟨nofun, hrunning, hcause.imp_right fun h => ⟨rfl, h⟩⟩
  · refine .inl ⟨rfl, ?_⟩
    simp only [streaming] at hstreaming
    cases hruns : out.stillRuns with
    | false =>
      rw [hruns, if_neg Bool.false_ne_true, streaming_halt] at hstreaming
      cases hstreaming
    | true =>
      rw [hruns, if_pos rfl] at hstreaming
      obtain ⟨hbefore, hthrows⟩ := streaming_stop hflag hstreaming
      exact ⟨hbefore, hthrows, rfl⟩
  · simp only [streaming, hnone] at hstreaming
    cases hstreaming
  · exact .inr ⟨hother, hflag hstreaming, .inl hstreaming⟩

/-- All that one step can do. -/
theorem step_cases (h : p.step plat out a = .ok (o, p')) :
    (a = .main ∧ ∃ statement rest q, p.main = statement :: rest ∧ p.run out statement = .ok q ∧
        o = none ∧
        p' = { q with main := rest, destroyed := p.destroyed ++ statement.destroys }) ∨
      (a = .test ∧ p.loop = .testing ∧ o = none ∧
        p' = { p with loop := if p.thread.running then .reading else .finished }) ∨
      (∃ os, a = .read os ∧ p.loop = .reading ∧ o = none ∧
        p' = { p with loop := .handling, endpoint := p.endpoint.receive plat os }) ∨
      (∃ opus_decode r system, a = .handle opus_decode ∧ p.loop = .handling ∧
        o = some (.receive opus_decode p.endpoint.data.toList) ∧
        p.system.step (.receive opus_decode p.endpoint.data.toList) = .ok (r, system) ∧
        p' = { p with loop := .testing, system }) ∨
      ∃ event r system, (∃ opus_encode inBuf nFrames, a = .callback opus_encode inBuf nFrames ∧
          event = .callback opus_encode inBuf nFrames) ∧ p.streaming = true ∧ o = some event ∧
        p.system.step event = .ok (r, system) ∧ p' = { p with system } := by
  cases a with
  | main =>
    cases hmain : p.main with
    | nil => simp only [step, hmain, reduceCtorEq] at h
    | cons statement rest =>
      cases hrun : p.run out statement with
      | error e => simp [step, hmain, hrun, bind, Except.bind] at h
      | ok q =>
        simp only [step, hmain, hrun, bind, Except.bind, pure, Except.pure, Except.ok.injEq,
          Prod.mk.injEq] at h
        obtain ⟨rfl, rfl⟩ := h
        exact .inl ⟨rfl, statement, rest, q, rfl, hrun, rfl, run_destroyed hrun ▸ rfl⟩
  | test =>
    rw [step] at h
    split_ifs at h with hloop hgone hrunning
    · obtain ⟨rfl, rfl⟩ := Prod.mk.inj (Except.ok.inj h)
      exact .inr (.inl ⟨rfl, not_not.mp hloop, rfl, by rw [if_pos hrunning]⟩)
    · obtain ⟨rfl, rfl⟩ := Prod.mk.inj (Except.ok.inj h)
      exact .inr (.inl ⟨rfl, not_not.mp hloop, rfl, by rw [if_neg hrunning]⟩)
  | read os =>
    rw [step] at h
    split_ifs at h with hloop
    obtain ⟨rfl, rfl⟩ := Prod.mk.inj (Except.ok.inj h)
    exact .inr (.inr (.inl ⟨os, rfl, not_not.mp hloop, rfl, rfl⟩))
  | handle opus_decode =>
    rw [step] at h
    split_ifs at h with hloop hgone
    dsimp only at h
    cases hsystem : p.system.step (.receive opus_decode p.endpoint.data.toList) with
    | error f => rw [hsystem] at h; cases h
    | ok r =>
      rw [hsystem] at h
      obtain ⟨rfl, rfl⟩ := Prod.mk.inj (Except.ok.inj h)
      exact .inr (.inr (.inr (.inl
        ⟨opus_decode, r.1, r.2, rfl, not_not.mp hloop, rfl, hsystem, rfl⟩)))
  | callback opus_encode inBuf nFrames =>
    rw [step] at h
    split_ifs at h with hstreaming hgone
    dsimp only at h
    cases hsystem : p.system.step (.callback opus_encode inBuf nFrames) with
    | error f => rw [hsystem] at h; cases h
    | ok r =>
      rw [hsystem] at h
      obtain ⟨rfl, rfl⟩ := Prod.mk.inj (Except.ok.inj h)
      exact .inr (.inr (.inr (.inr
        ⟨_, r.1, r.2, ⟨opus_encode, inBuf, nFrames, rfl, rfl⟩, by simpa using hstreaming, rfl,
          hsystem, rfl⟩)))

section
variable {rest : List Statement} (hmain : p.main = statement :: rest)
  (hrun : p.run out statement = .ok q)
include hmain hrun

theorem stands_main (hp : Stands k p) :
    Stands (k + 1) { q with main := rest, destroyed := p.destroyed ++ statement.destroys } := by
  have hdrop := hp.main.symm.trans hmain
  have hk := hp.getElem? hmain
  obtain ⟨thread, soundcard, senderSocket, hq, -, hrunning, hjoinable, -⟩ := run_cases hrun
  refine ⟨?_, ?_, fun hactive => ?_, ?_, ?_⟩
  · rw [← List.tail_drop, hdrop, List.tail_cons]
  · rw [hp.destroyed, List.take_add_one, hk, List.flatMap_append]
    exact congrArg _ (List.append_nil _).symm
  · rcases run_loop hrun hactive with rfl | ⟨hbefore, hother⟩
    · rw [getElem?_statements hk]
      decide
    · refine Nat.lt_of_le_of_ne (hp.loop hbefore) ?_
      rintro rfl
      exact hother (Option.some.inj hk).symm
  · obtain rfl := getElem?_statements hk
    rw [hq, hrunning, hp.running]
    cases statement <;> rfl
  · obtain rfl := getElem?_statements hk
    rw [hq, hjoinable, hp.joinable]
    cases statement <;> rfl

theorem at_main (hout : out.Halts) (hp : At out k p) :
    At out (k + 1) { q with main := rest, destroyed := p.destroyed ++ statement.destroys } := by
  have hk := hp.getElem? hmain
  -- a stop that throws is only reached where the start has thrown as well
  have hstreaming (h : q.streaming = true) :
      q.soundcard.impl.running = true ∧ out.startThrows = false ∧ (k + 1 = 2 ∨ k + 1 = 3) := by
    rcases run_streaming hp.flag hrun h with
      ⟨-, hbefore, hthrows, hruns⟩ | ⟨hother, hrunning, hcause⟩
    · exact absurd hout (out.not_halts_iff.mpr ⟨hp.started hbefore, hthrows, hruns⟩)
    · refine ⟨hrunning, ?_⟩
      rcases hcause with hbefore | ⟨rfl, hstart⟩
      · refine ⟨hp.started hbefore, ?_⟩
        rcases hp.streaming hbefore with rfl | rfl
        · exact .inr rfl
        · exact absurd (Option.some.inj hk).symm hother
      · exact ⟨hstart, .inl (congrArg (· + 1) (getElem?_statements hk))⟩
  exact ⟨stands_main hmain hrun hp.toStands, fun h => (hstreaming h).1,
    fun h => (hstreaming h).2.1, fun h => (hstreaming h).2.2⟩

end

/-- Nothing that a step asks for is gone while another thread can step. -/
theorem intact_of_le (hp : At out k p) (hk : k ≤ 7) (used : List Owned) : p.intact used = true := by
  have hnone : ∀ k ≤ 7, (statements.take k).flatMap Statement.destroys = [] := by decide
  have hdestroyed : p.destroyed = [] := hp.destroyed.trans (hnone k hk)
  simp only [intact, hdestroyed, List.not_mem_nil, not_false_eq_true, decide_true,
    List.all_eq_true, implies_true]

theorem run_misuse (hp : Stands k p) (hk : statements[k]? = some statement)
    (h : p.run out statement = .error e) : e.misuse = false := by
  obtain rfl := getElem?_statements hk
  have hthread := hp.joinable
  have hrunning := hp.running
  obtain ⟨main, loop, ⟨⟨joinable⟩, running, socket⟩, soundcard, senderSocket, endpoint, system,
    destroyed⟩ := p
  obtain rfl : joinable = _ := hthread
  obtain rfl : running = _ := hrunning
  cases statement with
  | receiverStart => cases h
  | join =>
    rw [run] at h
    split_ifs at h
    · cases h
    · cases h; rfl
  | destroyReceiver => cases h
  | _ => cases h

theorem step_misuse (hp : At out k p) (a : Act) (h : p.step plat out a = .error e) :
    e.misuse = false := by
  cases a with
  | main =>
    cases hmain : p.main with
    | nil => simp only [step, hmain, Except.error.injEq] at h; exact h ▸ rfl
    | cons statement rest =>
      cases hrun : p.run out statement with
      | error f =>
        simp only [step, hmain, hrun, bind, Except.bind, Except.error.injEq] at h
        exact h ▸ run_misuse hp.toStands (hp.getElem? hmain) hrun
      | ok q => simp [step, hmain, hrun, bind, Except.bind, pure, Except.pure] at h
  | test =>
    rw [step] at h
    split_ifs at h with hloop hgone
    · cases h; rfl
    · have hactive := hp.loop (by rw [not_not.mp hloop]; rfl)
      rw [intact_of_le hp (hactive.trans (by decide))] at hgone
      cases hgone
  | read os =>
    rw [step] at h
    split_ifs at h
    cases h; rfl
  | handle opus_decode =>
    rw [step] at h
    split_ifs at h with hloop hgone
    · cases h; rfl
    · have hactive := hp.loop (by rw [not_not.mp hloop]; rfl)
      rw [intact_of_le hp (hactive.trans (by decide))] at hgone
      cases hgone
    · dsimp only at h
      split at h <;> cases h
      rfl
  | callback opus_encode inBuf nFrames =>
    rw [step] at h
    split_ifs at h with hstreaming hgone
    · cases h; rfl
    · have hk : k ≤ 7 := by
        rcases hp.streaming (by simpa using hstreaming) with rfl | rfl <;> decide
      rw [intact_of_le hp hk] at hgone
      cases hgone
    · dsimp only at h
      split at h <;> cases h
      rfl

/-- Beside the main thread nothing changes what it has, and no loop begins. -/
theorem step_main_or (h : p.step plat out a = .ok (o, p')) :
    (∃ statement rest q, p.main = statement :: rest ∧ p.run out statement = .ok q ∧
        p' = { q with main := rest, destroyed := p.destroyed ++ statement.destroys }) ∨
      p'.main = p.main ∧ p'.destroyed = p.destroyed ∧ p'.thread = p.thread ∧
        p'.soundcard = p.soundcard ∧ (p'.loop.active = true → p.loop.active = true) := by
  rcases step_cases h with ⟨-, statement, rest, q, hmain, hrun, -, rfl⟩ | ⟨-, hloop, -, rfl⟩ |
    ⟨os, -, hloop, -, rfl⟩ | ⟨opus_decode, r, system, -, hloop, -, -, rfl⟩ |
    ⟨event, r, system, -, -, -, -, rfl⟩
  · exact .inl ⟨statement, rest, q, hmain, hrun, rfl⟩
  · exact .inr ⟨rfl, rfl, rfl, rfl, fun _ => hloop ▸ rfl⟩
  · exact .inr ⟨rfl, rfl, rfl, rfl, fun _ => hloop ▸ rfl⟩
  · exact .inr ⟨rfl, rfl, rfl, rfl, fun _ => hloop ▸ rfl⟩
  · exact .inr ⟨rfl, rfl, rfl, rfl, id⟩

theorem Stands.of_same (hp : Stands k p) (hmain : p'.main = p.main)
    (hdestroyed : p'.destroyed = p.destroyed) (hthread : p'.thread = p.thread)
    (hloop : p'.loop.active = true → p.loop.active = true) : Stands k p' where
  main := hmain.trans hp.main
  destroyed := hdestroyed.trans hp.destroyed
  loop := fun h => hp.loop (hloop h)
  running := hthread ▸ hp.running
  joinable := hthread ▸ hp.joinable

theorem stands_step (hp : Stands k p) (h : p.step plat out a = .ok (o, p')) :
    ∃ k', Stands k' p' := by
  rcases step_main_or h with
    ⟨statement, rest, q, hmain, hrun, rfl⟩ | ⟨hmain, hdestroyed, hthread, -, hloop⟩
  · exact ⟨k + 1, stands_main hmain hrun hp⟩
  · exact ⟨k, hp.of_same hmain hdestroyed hthread hloop⟩

theorem at_step (hout : out.Halts) (hp : At out k p) (h : p.step plat out a = .ok (o, p')) :
    ∃ k', At out k' p' := by
  rcases step_main_or h with
    ⟨statement, rest, q, hmain, hrun, rfl⟩ | ⟨hmain, hdestroyed, hthread, hcard, hloop⟩
  · exact ⟨k + 1, at_main hmain hrun hout hp⟩
  · refine ⟨k, hp.toStands.of_same hmain hdestroyed hthread hloop, ?_, ?_, ?_⟩
    · rw [streaming, hcard]
      exact hp.flag
    · rw [streaming, hcard]
      exact hp.started
    · rw [streaming, hcard]
      exact hp.streaming

theorem at_start (out : Outcomes) (s : System) (addr : Ipv4SocketAddress) :
    At out 0 (start s addr) where
  main := rfl
  destroyed := rfl
  loop := nofun
  running := rfl
  joinable := rfl
  flag := nofun
  started := nofun
  streaming := nofun

theorem safe_of_halts (hout : out.Halts) {s : System} {addr : Ipv4SocketAddress} {acts : List Act}
    (h : Schedule plat out (start s addr) acts) : Safe plat out (start s addr) acts := by
  refine along_of_along (fun p => ∃ k, At out k p) ?_ ?_ ⟨0, at_start out s addr⟩ h
  · rintro p a o p' ⟨k, hp⟩ - hstep
    exact at_step hout hp hstep
  · rintro p a ⟨k, hp⟩ - e he
    exact step_misuse hp a he

/-! ## A callback behind the end -/

/-- The program as far as its jitter buffer has gone. -/
def ending : List Act := [.main, .main, .main, .main, .main, .test, .main, .main, .main]

theorem drive_ending {s : System} (hinit : s.playout.card.initialized = true)
    (hout : ¬ out.Halts) (plat : Platform) (addr : Ipv4SocketAddress) :
    ∃ os p, drive (step plat out) (start s addr) ending = .ok (os, p) ∧ p.streaming = true ∧
      p.destroyed = [.jitterBuffer] := by
  obtain ⟨startThrows, stopThrows, stillRuns, closeThrows⟩ := out
  obtain ⟨rfl, rfl, rfl⟩ := (Outcomes.not_halts_iff _).mp hout
  obtain ⟨⟨⟨inputParameters, outputParameters, sr, fs, fmt, inputBuffer, outputBuffer, initialized,
    running⟩, app⟩, receiver⟩ := s
  obtain rfl : initialized = true := hinit
  exact ⟨_, _, rfl, rfl, rfl⟩

theorem not_safe_of_not_halts {s : System} (hinit : s.playout.card.initialized = true)
    (hout : ¬ out.Halts) (plat : Platform) (addr : Ipv4SocketAddress) :
    ∃ acts, Schedule plat out (start s addr) acts ∧ ¬ Safe plat out (start s addr) acts := by
  obtain ⟨os, p, hdrive, hstreaming, hdestroyed⟩ := drive_ending hinit hout plat addr
  have hgone : p.intact p.callbackUses = false := by
    simp [intact, callbackUses, hdestroyed]
  have hlast : p.step plat out (.callback (fun _ _ _ => ⟨0, []⟩) (fun _ => 0) 0) =
      .error .dangling := by
    rw [step, hstreaming, hgone]
    rfl
  refine ⟨ending ++ [.callback (fun _ _ _ => ⟨0, []⟩) (fun _ => 0) 0], ?_, ?_⟩
  · refine (along_append_iff hdrive _).mpr ⟨along_of_drive ?_ hdrive, ?_⟩
    · intro p a r hok herror
      cases hok.symm.trans herror
    · rw [along_cons_error hlast, hlast]
      exact nofun
  · intro hsafe
    have hend := ((along_append_iff hdrive _).mp hsafe).2
    rw [along_cons_error hlast] at hend
    cases hend _ hlast

/-! ## Main results -/

/-- In every order of the threads' steps nothing is used behind its end, just if the sound card's
start has thrown or its stop has ended the callbacks. -/
theorem safe_iff {packer : RtpPacker} {audio : RtAudio} {inDev outDev : Int32}
    {payloadType : UInt32} {s : System}
    (hstart : (System.new packer).startUDP audio inDev outDev payloadType = some s)
    (plat : Platform) (out : Outcomes) (addr : Ipv4SocketAddress) :
    (∀ acts, Schedule plat out (start s addr) acts → Safe plat out (start s addr) acts) ↔
      out.Halts := by
  refine ⟨fun hsafe => ?_, fun hout acts => safe_of_halts hout⟩
  obtain ⟨channels, sampleRate, frameSize, -, hcard, -⟩ := System.startUDP_cases hstart
  obtain ⟨-, c, granted, -, -, -, hinit⟩ := SoundCardImpl.init_cases hcard
  by_contra hout
  obtain ⟨acts, hschedule, hunsafe⟩ := not_safe_of_not_halts (by rw [hinit]) hout plat addr
  exact hunsafe (hsafe acts hschedule)

theorem safe_iff_quiet :
    ∃ s, (System.new (.new 1 8 7)).startUDP ⟨0, 1, some 512⟩ (-1) (-1) 11 = some s ∧
      ∀ acts, Schedule .posix ⟨false, false, false, false⟩ (start s ⟨⟨0, 0, 0⟩, 0, false⟩) acts →
        Safe .posix ⟨false, false, false, false⟩ (start s ⟨⟨0, 0, 0⟩, 0, false⟩) acts := by
  obtain ⟨s, hstart⟩ := System.exists_startUDP_raw (.new 1 8 7) 512 (.inr rfl)
  exact ⟨s, hstart, (safe_iff hstart .posix _ _).mpr (.inr (.inl rfl))⟩

/-- Once the flag is clear it stays so, and the loop goes on to its end. -/
theorem stopping_step (hp : Stands k p) (hk : 5 ≤ k) (h : p.step plat out a = .ok (o, p')) :
    (∃ k' ≥ 5, Stands k' p') ∧ a.isRead.toNat + p'.loop.reads = p.loop.reads ∧
      a.isHandle.toNat + p'.loop.handles = p.loop.handles := by
  have hrunning : p.thread.running = false := by rw [hp.running, decide_eq_false (by omega)]
  rcases step_cases h with ⟨rfl, statement, rest, q, hmain, hrun, -, rfl⟩ | ⟨rfl, hloop, -, rfl⟩ |
    ⟨os, rfl, hloop, -, rfl⟩ | ⟨opus_decode, r, system, rfl, hloop, -, -, rfl⟩ |
    ⟨event, r, system, ⟨opus_encode, inBuf, nFrames, rfl, -⟩, -, -, -, rfl⟩
  · refine ⟨⟨k + 1, by omega, stands_main hmain hrun hp⟩, ?_⟩
    have hother : statement ≠ .receiverStart := by
      rintro rfl
      have hzero := getElem?_statements (hp.getElem? hmain)
      exact absurd hzero (by simp only [Statement.ctorIdx]; omega)
    obtain ⟨thread, soundcard, senderSocket, rfl, -⟩ := run_cases hrun
    simp only [if_neg hother]
    exact ⟨Nat.zero_add _, Nat.zero_add _⟩
  · refine ⟨⟨k, hk, hp.of_same rfl rfl rfl fun _ => hloop ▸ rfl⟩, ?_⟩
    rw [hloop, hrunning]
    exact ⟨rfl, rfl⟩
  · refine ⟨⟨k, hk, hp.of_same rfl rfl rfl fun _ => hloop ▸ rfl⟩, ?_⟩
    rw [hloop]
    exact ⟨rfl, rfl⟩
  · refine ⟨⟨k, hk, hp.of_same rfl rfl rfl fun _ => hloop ▸ rfl⟩, ?_⟩
    rw [hloop]
    exact ⟨rfl, rfl⟩
  · exact ⟨⟨k, hk, hp.of_same rfl rfl rfl id⟩, Nat.zero_add _, Nat.zero_add _⟩

theorem stands_drive {acts : List Act} {os : List (Option SystemEvent)} {s : System}
    {addr : Ipv4SocketAddress} (h : drive (step plat out) (start s addr) acts = .ok (os, p)) :
    ∃ k, Stands k p := by
  refine drive_preserves (fun p => ∃ k, Stands k p) ?_ ⟨0, (at_start out s addr).toStands⟩ h
  rintro p a o p' ⟨k, hp⟩ hstep
  exact stands_step hp hstep

/-- Behind a clear flag the loop reads once more just if it was waiting for a datagram, and the main
thread gets past the join only when it has. -/
theorem reads_of_stopped {s : System} {addr : Ipv4SocketAddress} {acts later : List Act}
    {os os' : List (Option SystemEvent)}
    (hacts : drive (step plat out) (start s addr) acts = .ok (os, p))
    (hcleared : p.thread.running = false)
    (hlater : drive (step plat out) p later = .ok (os', p')) :
    later.countP Act.isRead + p'.loop.reads = p.loop.reads ∧
      later.countP Act.isHandle + p'.loop.handles = p.loop.handles ∧
      (.join ∉ p'.main → p'.loop.active = false) := by
  obtain ⟨k, hp⟩ := stands_drive hacts
  have hk : 5 ≤ k := by
    rw [hp.running] at hcleared
    exact Nat.le_of_not_lt (of_decide_eq_false hcleared)
  have hinv : ∃ k ≥ 5, Stands k p := ⟨k, hk, hp⟩
  refine ⟨?_, ?_, fun hjoin => ?_⟩
  · refine countP_of_drive (fun p => ∃ k ≥ 5, Stands k p) Act.isRead (fun p => p.loop.reads)
      ?_ hinv hlater
    rintro p a o p' ⟨k, hk, hp⟩ hstep
    obtain ⟨hp', hreads, -⟩ := stopping_step hp hk hstep
    exact ⟨hp', hreads⟩
  · refine countP_of_drive (fun p => ∃ k ≥ 5, Stands k p) Act.isHandle (fun p => p.loop.handles)
      ?_ hinv hlater
    rintro p a o p' ⟨k, hk, hp⟩ hstep
    obtain ⟨hp', -, hhandles⟩ := stopping_step hp hk hstep
    exact ⟨hp', hhandles⟩
  · have hend : ∃ k, Stands k p' := by
      refine drive_preserves (fun p => ∃ k, Stands k p) ?_ ⟨k, hp⟩ hlater
      rintro p a o p' ⟨k, hp⟩ hstep
      exact stands_step hp hstep
    obtain ⟨k', hp'⟩ := hend
    by_contra hactive
    rw [Bool.not_eq_false] at hactive
    have hk' := hp'.loop hactive
    have hahead : ∀ k ≤ 5, Statement.join ∈ statements.drop k := by decide
    exact hjoin (hp'.main ▸ hahead k' hk')

/-- The key comes while the loop waits: one more read is made, here one that fails, and what it has
left in the vector is still to be handled. -/
theorem reads_of_stopped_one :
    ∃ os p os' p',
      drive (step .posix ⟨false, false, false, false⟩)
          (start (.new (.new 1 8 7)) ⟨⟨0, 0, 0⟩, 0, false⟩)
          [.main, .test, .main, .main, .main, .main] = .ok (os, p) ∧
        drive (step .posix ⟨false, false, false, false⟩) p [.read .error] = .ok (os', p') ∧
        p'.loop.reads = 0 ∧ p'.loop.handles = 1 := by
  have hwaits : ∃ os p,
      drive (step .posix ⟨false, false, false, false⟩)
          (start (.new (.new 1 8 7)) ⟨⟨0, 0, 0⟩, 0, false⟩)
          [.main, .test, .main, .main, .main, .main] = .ok (os, p) ∧
        p.loop = .reading ∧ p.thread.running = false := ⟨_, _, rfl, rfl, rfl⟩
  obtain ⟨os, p, hacts, hloop, hcleared⟩ := hwaits
  have hread : ∃ p', p.step .posix ⟨false, false, false, false⟩ (.read .error) = .ok (none, p') :=
    ⟨_, if_neg (not_not.mpr hloop)⟩
  obtain ⟨p', hread⟩ := hread
  have hlater : drive (step .posix ⟨false, false, false, false⟩) p [.read .error] =
      .ok ([none], p') := drive_cons_of_ok hread rfl
  obtain ⟨hreads, hhandles, -⟩ := reads_of_stopped hacts hcleared hlater
  rw [hloop] at hreads hhandles
  exact ⟨os, p, _, p', hacts, hlater, Nat.add_left_cancel hreads,
    (Nat.zero_add _).symm.trans hhandles⟩

end Program

end Voip
