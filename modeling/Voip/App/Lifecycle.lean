import Voip.App.System
import Voip.Net.Socket

/-! The life of a receiver and of its thread. One flag tells the loop to go on and the destructor
that there is a thread to stop; it is true before there is one, and a stop makes it false for
good. -/

namespace Voip

open Base

/-! ## The thread -/

/-- A wrong use of a `std::thread`. The first throws, the others end the program. -/
inductive ThreadFault where
  | joinNotJoinable
  | assignJoinable
  | destroyJoinable
  deriving DecidableEq, Repr

structure Thread where
  joinable : Bool
  deriving DecidableEq, Repr

namespace Thread

def assign (self other : Thread) : Except ThreadFault Thread :=
  if self.joinable then .error .assignJoinable else .ok other

def join (self : Thread) : Except ThreadFault Thread :=
  if self.joinable then .ok ⟨false⟩ else .error .joinNotJoinable

def destroy (self : Thread) : Except ThreadFault Unit :=
  if self.joinable then .error .destroyJoinable else .ok ()

end Thread

/-- The members of `Receiver` that its thread depends on. Nothing opens the socket: the one that
the loop reads from is its own. -/
structure ReceiveThread where
  self : Thread
  running : Bool
  socket : UdpSocket
  deriving DecidableEq, Repr

inductive ReceiverCall where
  | start
  | stop
  deriving DecidableEq, Repr

namespace ReceiveThread

def new : ReceiveThread := ⟨⟨false⟩, true, .new⟩

def start (r : ReceiveThread) : Except ThreadFault ReceiveThread := do
  let self ← r.self.assign ⟨true⟩
  pure { r with self }

def stop (r : ReceiveThread) : Except ThreadFault ReceiveThread := do
  let r := { r with running := false }
  let self ← r.self.join
  pure { r with self, socket := if r.socket.isOpen then r.socket.close.2 else r.socket }

/-- The destructor, and after its body that of the thread. -/
def destroy (r : ReceiveThread) : Except ThreadFault Unit := do
  let r ← if r.running then r.stop else pure r
  r.self.destroy

def step (r : ReceiveThread) : ReceiverCall → Except ThreadFault (Unit × ReceiveThread)
  | .start => do
    let r ← r.start
    pure ((), r)
  | .stop => do
    let r ← r.stop
    pure ((), r)

/-- The call is no fault, and a thread that it starts finds its loop's condition true. -/
def Fine (r : ReceiveThread) (call : ReceiverCall) : Prop :=
  ∃ r', r.step call = .ok ((), r') ∧ (call = .start → r'.running = true)

/-- The calls are fine one after the other, and after them so is the destruction. -/
def Sound (r : ReceiveThread) (calls : List ReceiverCall) : Prop :=
  Along step Fine r calls ∧ ∀ os r', drive step r calls = .ok (os, r') → r'.destroy = .ok ()

theorem sound_nil (r : ReceiveThread) : Sound r [] ↔ r.destroy = .ok () := by
  constructor
  · intro h
    exact h.2 [] r rfl
  · intro h
    refine ⟨trivial, ?_⟩
    intro os r' hdrive
    obtain ⟨-, rfl⟩ := Prod.mk.inj (Except.ok.inj hdrive)
    exact h

theorem sound_cons {r r' : ReceiveThread} {call : ReceiverCall} (h : r.step call = .ok ((), r'))
    (calls : List ReceiverCall) :
    Sound r (call :: calls) ↔ (call = .start → r'.running = true) ∧ Sound r' calls := by
  have hfine : Fine r call ↔ (call = .start → r'.running = true) := by
    constructor
    · rintro ⟨t, ht, hrunning⟩
      obtain ⟨-, rfl⟩ := Prod.mk.inj (Except.ok.inj (h.symm.trans ht))
      exact hrunning
    · intro hrunning
      exact ⟨r', h, hrunning⟩
  rw [Sound, Sound, along_cons_ok h, forall_drive_cons_iff h, hfine, and_assoc]

theorem not_sound_cons {r : ReceiveThread} {call : ReceiverCall} {fault : ThreadFault}
    (h : r.step call = .error fault) (calls : List ReceiverCall) : ¬ Sound r (call :: calls) := by
  rintro ⟨⟨⟨r', hok, -⟩, -⟩, -⟩
  rw [h] at hok
  cases hok

/-! ## Any sequence of calls -/

def started : ReceiveThread := { new with self := ⟨true⟩ }

def stopped : ReceiveThread := { new with running := false }

/-- A receiver that has been stopped is good for nothing but its destruction. -/
theorem sound_stopped_iff (calls : List ReceiverCall) : Sound stopped calls ↔ calls = [] := by
  cases calls with
  | nil =>
    rw [sound_nil]
    exact iff_of_true rfl rfl
  | cons call calls =>
    refine iff_of_false ?_ (List.cons_ne_nil _ _)
    cases call with
    | start =>
      have hstep : stopped.step .start = .ok ((), { stopped with self := ⟨true⟩ }) := rfl
      rw [sound_cons hstep]
      rintro ⟨hrunning, -⟩
      cases hrunning rfl
    | stop =>
      have hstep : stopped.step .stop = .error .joinNotJoinable := rfl
      exact not_sound_cons hstep calls

theorem sound_started_iff (calls : List ReceiverCall) :
    Sound started calls ↔ calls = [] ∨ calls = [.stop] := by
  cases calls with
  | nil =>
    rw [sound_nil]
    exact iff_of_true rfl (.inl rfl)
  | cons call calls =>
    cases call with
    | start =>
      have hstep : started.step .start = .error .assignJoinable := rfl
      refine iff_of_false (not_sound_cons hstep calls) ?_
      simp
    | stop =>
      have hstep : started.step .stop = .ok ((), stopped) := rfl
      rw [sound_cons hstep, sound_stopped_iff]
      simp

theorem sound_new_iff (calls : List ReceiverCall) :
    Sound new calls ↔ calls = [.start] ∨ calls = [.start, .stop] := by
  cases calls with
  | nil =>
    -- the destructor takes the flag for a thread
    rw [sound_nil]
    refine iff_of_false ?_ (by simp)
    exact nofun
  | cons call calls =>
    cases call with
    | start =>
      have hstep : new.step .start = .ok ((), started) := rfl
      rw [sound_cons hstep, sound_started_iff]
      simp [started, new]
    | stop =>
      have hstep : new.step .stop = .error .joinNotJoinable := rfl
      refine iff_of_false (not_sound_cons hstep calls) ?_
      simp

def alternating (n : ℕ) : List ReceiverCall :=
  (List.range n).map fun i => if i % 2 = 0 then .start else .stop

theorem length_alternating (n : ℕ) : (alternating n).length = n := by
  rw [alternating, List.length_map, List.length_range]

theorem sound_alternating_iff (n : ℕ) : Sound new (alternating n) ↔ n = 1 ∨ n = 2 := by
  rw [sound_new_iff]
  constructor
  · rintro (h | h)
    · exact .inl (length_alternating n ▸ congrArg List.length h)
    · exact .inr (length_alternating n ▸ congrArg List.length h)
  · rintro (rfl | rfl)
    · exact .inl rfl
    · exact .inr rfl

end ReceiveThread

/-! ## The calls that the program makes -/

inductive ExecCall where
  | receiver (call : ReceiverCall)
  | soundcardStart
  | soundcardStop
  | senderStop
  deriving DecidableEq, Repr

/-- A run of `exec` that comes back to its caller. -/
structure Executed where
  calls : List ExecCall
  status : Int32
  system : System

def Executed.receiverCalls (run : Executed) : List ReceiverCall :=
  run.calls.filterMap fun
    | .receiver call => some call
    | _ => none

namespace System

def exec (s : System) (audio : RtAudio) (parsed : Parsed) : Except Int32 Executed := do
  let (ok, s) ← s.init audio parsed
  if !ok then pure ⟨[], -1, s⟩
  else if s.playout.app.isInitialized then
    let started := if s.playout.app.isUDP then [.receiver .start] else []
    let stopped := if s.playout.app.isUDP then [.receiver .stop, .senderStop] else []
    -- between the two calls of the sound card it waits for a key
    pure ⟨started ++ [.soundcardStart, .soundcardStop] ++ stopped, 0, s⟩
  else .error (-1)

theorem exec_cases {packer : RtpPacker} {audio : RtAudio} {parsed : Parsed} {run : Executed}
    (h : (new packer).exec audio parsed = .ok run) :
    (parsed = .throws ∧ run.receiverCalls = []) ∨ ∃ args, parsed = .values args ∧
      run.receiverCalls = if args.loopBack then [] else [.start, .stop] := by
  rw [exec] at h
  cases hinit : (new packer).init audio parsed with
  | error status =>
    rw [hinit] at h
    cases h
  | ok result =>
    obtain ⟨ok, s⟩ := result
    rw [hinit, ok_bind] at h
    rcases init_cases hinit with ⟨hthrows, rfl⟩ | ⟨args, hvalues, rfl, hready, hudp⟩
    · obtain rfl := Except.ok.inj h
      exact .inl ⟨hthrows, rfl⟩
    · refine .inr ⟨args, hvalues, ?_⟩
      dsimp only at h
      rw [hready, hudp] at h
      obtain rfl := Except.ok.inj h
      cases args.loopBack <;> rfl

end System

def udpArguments : System.Arguments where
  listDevices := false
  loopBack := false
  inDev := -1
  outDev := -1
  inCh := 1
  outCh := 1
  fs := 512
  s := 44100
  payloadType := 10
  destIp := "127.0.0.1"

def loopbackArguments : System.Arguments := { udpArguments with loopBack := true, destIp := "" }

/-- Of the sequences that begin with a start and alternate, one start is too few if it is missing
and one too many if it is repeated. `exec` makes it in UDP mode and in no other. -/
theorem receiver_sound_iff (n : ℕ) (packer : RtpPacker) (audio : RtAudio)
    (parsed : System.Parsed) (run : Executed) :
    (ReceiveThread.Sound .new (ReceiveThread.alternating n) ↔ n = 1 ∨ n = 2) ∧
      ((System.new packer).exec audio parsed = .ok run →
        (ReceiveThread.Sound .new run.receiverCalls ↔
          ∃ args, parsed = .values args ∧ args.loopBack = false)) := by
  refine ⟨ReceiveThread.sound_alternating_iff n, ?_⟩
  intro h
  rw [ReceiveThread.sound_new_iff]
  rcases System.exec_cases h with ⟨rfl, hcalls⟩ | ⟨args, rfl, hcalls⟩
  · rw [hcalls]
    simp
  · rw [hcalls]
    cases hloop : args.loopBack <;> simp [hloop]

theorem receiver_sound_iff_udp :
    ReceiveThread.Sound .new (ReceiveThread.alternating 2) ∧
      ∃ run, (System.new (.new 1 0 7)).exec ⟨0, 1, some 512⟩ (.values udpArguments) = .ok run ∧
        ReceiveThread.Sound .new run.receiverCalls := by
  have hexec : ∃ run, (System.new (.new 1 0 7)).exec ⟨0, 1, some 512⟩ (.values udpArguments) =
      .ok run := ⟨_, rfl⟩
  obtain ⟨run, hrun⟩ := hexec
  obtain ⟨hcalls, hprogram⟩ := receiver_sound_iff 2 _ _ _ run
  exact ⟨hcalls.mpr (.inr rfl), run, hrun, (hprogram hrun).mpr ⟨udpArguments, rfl, rfl⟩⟩

/-- No call at all, a second start, and loopback mode. -/
theorem receiver_unsound :
    ¬ ReceiveThread.Sound .new (ReceiveThread.alternating 0) ∧
      ¬ ReceiveThread.Sound .new (ReceiveThread.alternating 3) ∧
      ∃ run, (System.new (.new 1 0 7)).exec ⟨0, 1, some 512⟩
          (.values loopbackArguments) = .ok run ∧
        ¬ ReceiveThread.Sound .new run.receiverCalls := by
  simp only [ReceiveThread.sound_new_iff]
  have hexec : ∃ run, (System.new (.new 1 0 7)).exec ⟨0, 1, some 512⟩
      (.values loopbackArguments) = .ok run := ⟨_, rfl⟩
  obtain ⟨run, hrun⟩ := hexec
  refine ⟨by decide, by decide, run, hrun, ?_⟩
  obtain rfl := Except.ok.inj hrun
  decide

end Voip
