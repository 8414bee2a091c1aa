import Voip.App.Peer

/-! Two programs in a call with each other, and a network that may lose, delay, repeat and reorder
every datagram that has ever been sent. -/

namespace Voip

open Base AudioBuffer

inductive Side where
  | caller
  | callee
  deriving DecidableEq, Repr

def Side.other : Side → Side
  | caller => callee
  | callee => caller

@[simp] theorem Side.other_other (side : Side) : side.other.other = side := by cases side <;> rfl

theorem Side.other_ne (side : Side) : side.other ≠ side := by cases side <;> nofun

theorem Side.eq_other_of_ne {side side' : Side} (h : side' ≠ side) : side' = side.other := by
  cases side <;> cases side' <;> first | rfl | exact absurd rfl h

/-- `arrive side i` is the arrival of the datagram that the other side has sent after `i` others. -/
inductive CallEvent where
  | callback (side : Side) (opus_encode : OpusEncode) (inBuf : ℕ → UInt8) (nFrames : UInt32)
  | arrive (side : Side) (i : ℕ) (sender : SockaddrIn) (opus_decode : OpusDecode)

abbrev Call := Side → Peer

namespace Call

variable (plat : Side → Platform)

/-- What has not been sent cannot arrive. -/
def step (c : Call) : CallEvent → Except Fault (Option (Side × Playback) × Call)
  | .callback side opus_encode inBuf nFrames => do
    let (playback, peer) ← (c side).step (plat side) (.callback opus_encode inBuf nFrames)
    pure (playback.map fun playback => (side, playback), Function.update c side peer)
  | .arrive side i sender opus_decode =>
    match (c side.other).sent[i]? with
    | none => pure (none, c)
    | some packet => do
      let (_, peer) ← (c side).step (plat side) (.read (.received sender packet) opus_decode)
      pure (none, Function.update c side peer)

def start (s : Side → System) (addr : Side → Ipv4SocketAddress) : Call :=
  fun side => .listening (s side) (addr side)

/-- The bytes of a callback's frames on one side. -/
def captured (ch : UInt32) (side : Side) : CallEvent → Option Bytes
  | .callback side' _ inBuf nFrames =>
    if side' = side then some ((List.range (frameBytes nFrames ch .INT16)).map inBuf) else none
  | .arrive .. => none

def frames : CallEvent → Option UInt32
  | .callback _ _ _ nFrames => some nFrames
  | .arrive .. => none

/-- Each packet has one frame that was captured, and nothing is buffered or shown that the other
side has not captured. -/
structure Conversing (pt : UInt8) (ch n : UInt32) (own others : List Bytes) (p : Peer) : Prop
    extends RawPeer pt ch n p where
  session : ∃ s : Session, p.system.receiver.depacker = s.toDepacker
  payloads : p.sent.map (List.drop 12) = own
  lengths : ∀ packet ∈ p.sent, packet.length = 12 + frameBytes n ch .INT16
  buffered : ∀ frame ∈ p.buffered, frame ∈ others
  shown : p.system.playout.card.outputBuffer.data ∈ others ∨
    p.system.playout.card.outputBuffer.data =
      List.replicate p.system.playout.card.outputBuffer.size 0
  others_length : ∀ frame ∈ others, frame.length = frameBytes n ch .INT16

variable {pt : UInt8} {ch n : UInt32} {own others : List Bytes} {p : Peer} {plat : Side → Platform}

theorem conversing_captured (hp : Conversing pt ch n own others p) {frame : Bytes}
    (hframe : frame.length = frameBytes n ch .INT16) :
    Conversing pt ch n own (others ++ [frame]) p := by
  refine ⟨hp.toRawPeer, hp.session, hp.payloads, hp.lengths, ?_, ?_, ?_⟩
  · exact fun frame hframe => List.mem_append_left _ (hp.buffered frame hframe)
  · exact hp.shown.imp_left fun h => List.mem_append_left _ h
  · intro frame' hmem
    rcases List.mem_append.mp hmem with hold | hnew
    · exact hp.others_length frame' hold
    · rw [List.mem_singleton.mp hnew, hframe]

variable (plat) in
theorem conversing_read (hp : Conversing pt ch n own others p) (hpt : pt ≠ OPUS_PAYLOADTYPE)
    (hn : frameBytes n ch .INT16 ≤ 2048) {packet : Bytes}
    (hlength : packet.length = 12 + frameBytes n ch .INT16) (hpayload : packet.drop 12 ∈ others)
    (side : Side) (sender : SockaddrIn) (opus_decode : OpusDecode) :
    ∃ p', p.step (plat side) (.read (.received sender packet) opus_decode) = .ok (none, p') ∧
      Conversing pt ch n own others p' := by
  obtain ⟨s, hs⟩ := hp.session
  obtain ⟨p', hstep, hraw, hdepacker, hplayout⟩ :=
    Peer.step_read (plat side) hp.toRawPeer hpt hn hs hlength sender opus_decode
  have hsent : p'.sent = p.sent := by
    rw [Peer.sent, hplayout, Playout.sender_hear, Peer.sent]
  refine ⟨p', hstep, hraw, ⟨_, hdepacker⟩, hsent ▸ hp.payloads, hsent ▸ hp.lengths, ?_, ?_,
    hp.others_length⟩
  · intro frame hframe
    rw [Peer.buffered, hplayout] at hframe
    rcases Playout.mem_hear hframe with hold | hnew
    · exact hp.buffered frame hold
    · rwa [Session.payload_of_receive hnew]
  · rw [hplayout, Playout.card_hear]
    exact hp.shown

/-- A callback captures a frame and plays one of the other side, or silence. -/
theorem conversing_callback (hp : Conversing pt ch n own others p)
    (hn : frameBytes n ch .INT16 ≤ 2048) (side : Side) (opus_encode : OpusEncode)
    (inBuf : ℕ → UInt8) :
    ∃ playback p', p.step (plat side) (.callback opus_encode inBuf n) =
        .ok (some playback, p') ∧
      Conversing pt ch n (own ++ [(List.range (frameBytes n ch .INT16)).map inBuf]) others p' ∧
      (playback.result.toOut ∈ others ∨
        playback.result.toOut = List.replicate (frameBytes n ch .INT16) 0) := by
  have hsize : frameBytes n ch .INT16 < UInt32.size := Nat.lt_of_le_of_lt hn (by decide)
  obtain ⟨result, p', hstep, hraw, hreceiver, hsent, -, hbuffered, htoOut, houtput⟩ :=
    Peer.step_callback hp.toRawPeer hn (fun frame h => hp.others_length frame (hp.buffered frame h))
      opus_encode inBuf
  have hout := (Playout.sizes_adapt hp.call.shaped hsize hsize).2
  have hplayed : result.toOut ∈ others ∨
      result.toOut = List.replicate (frameBytes n ch .INT16) 0 := by
    cases hqueue : p.buffered with
    | cons frame rest =>
      rw [htoOut, hqueue]
      exact .inl (hp.buffered frame (hqueue ▸ List.mem_cons_self ..))
    | nil =>
      rw [htoOut, hqueue, List.head?_nil, Option.getD_none]
      by_cases hfs : n = p.system.playout.card.fs
      · rw [SoundCardImpl.adapt, if_neg (not_not.mpr hfs)] at hout ⊢
        rw [← hout]
        exact hp.shown
      · rw [← hout]
        rw [SoundCardImpl.adapt, if_pos hfs]
        exact .inr (AudioBuffer.data_setFsChFmt ..)
  refine ⟨⟨_, result⟩, p', hstep, ?_, hplayed⟩
  refine ⟨hraw, ?_, ?_, ?_, ?_, ?_, hp.others_length⟩
  · rw [hreceiver]
    exact hp.session
  · rw [hsent, List.map_append, hp.payloads, List.map_singleton, RtpPacker.drop_pack]
  · rw [hsent]
    intro packet hpacket
    rcases List.mem_append.mp hpacket with hold | hnew
    · exact hp.lengths packet hold
    · rw [List.mem_singleton.mp hnew, RtpPacker.pack_length, List.length_map, List.length_range]
  · rw [hbuffered]
    exact fun frame hframe => hp.buffered frame (List.mem_of_mem_tail hframe)
  · rw [AudioBuffer.size, houtput]
    refine hplayed.imp_right fun hsilent => ?_
    rw [hsilent, List.length_replicate]

/-! ## Nothing is heard that was not said -/

/-- Both sides converse. -/
def Sound (pt : UInt8) (ch n : UInt32) (past : List CallEvent) (c : Call) : Prop :=
  ∀ side, Conversing pt ch n (past.filterMap (captured ch side))
    (past.filterMap (captured ch side.other)) (c side)

/-- The frames of both sound cards have one and the same size. -/
def OneSize (n : UInt32) (e : CallEvent) : Prop := ∀ nFrames ∈ frames e, nFrames = n

def Plays (ch n : UInt32) (past : List CallEvent) (o : Option (Side × Playback)) : Prop :=
  ∀ side playback, o = some (side, playback) →
    playback.result.toOut ∈ past.filterMap (captured ch side.other) ∨
      playback.result.toOut = List.replicate (frameBytes n ch .INT16) 0

theorem filterMap_captured_callback (past : List CallEvent) (side side' : Side)
    (opus_encode : OpusEncode) (inBuf : ℕ → UInt8) :
    (past ++ [CallEvent.callback side opus_encode inBuf n]).filterMap (captured ch side') =
      past.filterMap (captured ch side') ++ if side = side' then
        [(List.range (frameBytes n ch .INT16)).map inBuf] else [] := by
  rw [List.filterMap_append]
  by_cases h : side = side'
  · simp [captured, h]
  · simp [captured, h]

theorem filterMap_captured_arrive (past : List CallEvent) (side side' : Side) (i : ℕ)
    (sender : SockaddrIn) (opus_decode : OpusDecode) :
    (past ++ [CallEvent.arrive side i sender opus_decode]).filterMap (captured ch side') =
      past.filterMap (captured ch side') := by
  rw [List.filterMap_append]
  exact List.append_nil _

theorem sound_callback {past : List CallEvent} {c : Call} (hc : Sound pt ch n past c)
    (hn : frameBytes n ch .INT16 ≤ 2048) (side : Side) (opus_encode : OpusEncode)
    (inBuf : ℕ → UInt8) :
    ∃ o c', step plat c (.callback side opus_encode inBuf n) = .ok (o, c') ∧
      Sound pt ch n (past ++ [CallEvent.callback side opus_encode inBuf n]) c' ∧
      Plays ch n (past ++ [CallEvent.callback side opus_encode inBuf n]) o := by
  obtain ⟨playback, p', hstep, hp', hplayed⟩ :=
    conversing_callback (hc side) hn side opus_encode inBuf
  refine ⟨some (side, playback), Function.update c side p', ?_, fun side' => ?_, ?_⟩
  · rw [step, hstep]
    rfl
  · rw [filterMap_captured_callback, filterMap_captured_callback]
    by_cases h : side' = side
    · subst h
      rw [Function.update_self, if_pos rfl, if_neg (Side.other_ne side').symm, List.append_nil]
      exact hp'
    · obtain rfl := Side.eq_other_of_ne h
      rw [Function.update_of_ne h, if_neg (Ne.symm h), List.append_nil, Side.other_other,
        if_pos rfl]
      have hother := hc side.other
      rw [Side.other_other] at hother
      exact conversing_captured hother (by rw [List.length_map, List.length_range])
  · intro side' playback' ho
    obtain ⟨rfl, rfl⟩ := Prod.mk.inj (Option.some.inj ho)
    rw [filterMap_captured_callback, if_neg (Side.other_ne side).symm, List.append_nil]
    exact hplayed

theorem sound_arrive {past : List CallEvent} {c : Call} (hc : Sound pt ch n past c)
    (hpt : pt ≠ OPUS_PAYLOADTYPE) (hn : frameBytes n ch .INT16 ≤ 2048) (side : Side) (i : ℕ)
    (sender : SockaddrIn) (opus_decode : OpusDecode) :
    ∃ o c', step plat c (.arrive side i sender opus_decode) = .ok (o, c') ∧
      Sound pt ch n (past ++ [CallEvent.arrive side i sender opus_decode]) c' ∧
      Plays ch n (past ++ [CallEvent.arrive side i sender opus_decode]) o := by
  simp only [Sound, filterMap_captured_arrive]
  cases hpacket : (c side.other).sent[i]? with
  | none =>
    refine ⟨none, c, ?_, hc, nofun⟩
    rw [step, hpacket]
    rfl
  | some packet =>
    have hmem := List.mem_of_getElem? hpacket
    have hpayload : packet.drop 12 ∈ past.filterMap (captured ch side.other) := by
      rw [← (hc side.other).payloads]
      exact List.mem_map_of_mem hmem
    obtain ⟨p', hstep, hp'⟩ := conversing_read plat (hc side) hpt hn
      ((hc side.other).lengths packet hmem) hpayload side sender opus_decode
    refine ⟨none, Function.update c side p', ?_, fun side' => ?_, nofun⟩
    · rw [step, hpacket]
      simp only [hstep, ok_bind, pure_eq_ok]
    · by_cases h : side' = side
      · subst h
        rw [Function.update_self]
        exact hp'
      · rw [Function.update_of_ne h]
        exact hc side'

variable (plat) in
theorem sound_step {past : List CallEvent} {c : Call} {e : CallEvent} (hpt : pt ≠ OPUS_PAYLOADTYPE)
    (hn : frameBytes n ch .INT16 ≤ 2048) (hc : Sound pt ch n past c) (he : OneSize n e) :
    ∃ o c', step plat c e = .ok (o, c') ∧ Sound pt ch n (past ++ [e]) c' ∧
      Plays ch n (past ++ [e]) o := by
  cases e with
  | callback side opus_encode inBuf nFrames =>
    obtain rfl := he nFrames rfl
    exact sound_callback hc hn side opus_encode inBuf
  | arrive side i sender opus_decode => exact sound_arrive hc hpt hn side i sender opus_decode

theorem toUInt8_ne_opus {payloadType : UInt32} (hpt : payloadType = 10 ∨ payloadType = 11) :
    payloadType.toUInt8 ≠ OPUS_PAYLOADTYPE := by
  rcases hpt with rfl | rfl <;> decide

theorem conversing_listening {packer : RtpPacker} {audio : RtAudio} {inDev outDev : Int32}
    {payloadType : UInt32} {s : System} (hpt : payloadType = 10 ∨ payloadType = 11)
    (hstart : (System.new packer).startUDP audio inDev outDev payloadType = some s)
    (hn : frameBytes n (rawChannels payloadType) .INT16 ≤ 2048) (addr : Ipv4SocketAddress) :
    Conversing payloadType.toUInt8 (rawChannels payloadType) n [] [] (.listening s addr) := by
  obtain ⟨hcall, hsender, -⟩ := System.startUDP_raw hpt hstart
  have hreceiver := System.startUDP_receiver hstart
  have hsent : (Peer.listening s addr).sent = [] := congrArg Sender.sent hsender
  obtain ⟨channels, sampleRate, frameSize, -, hcard, -⟩ := System.startUDP_cases hstart
  constructor
  · refine ⟨hcall, congrArg Receiver.payloadType hreceiver, ⟨rfl, Nat.le_of_eq ?_⟩, ?_⟩
    · exact (RawVector.capacity_alloc 2060 (0 : UInt8)).symm
    · exact Nat.add_le_add_left hn 12
  · exact ⟨.fresh, congrArg Receiver.depacker hreceiver⟩
  · rw [hsent]
    rfl
  · rw [hsent]
    exact nofun
  · intro frame hframe
    rw [Peer.buffered, Peer.listening, (System.startUDP_app hstart).2.2] at hframe
    cases hframe
  · exact .inr (SoundCardImpl.init_output hcard)
  · exact nofun

section
variable {packer : Side → RtpPacker} {audio : Side → RtAudio} {inDev outDev : Side → Int32}
  {payloadType : UInt32} {s : Side → System}
  (hpt : payloadType = 10 ∨ payloadType = 11)
  (hstart : ∀ side, (System.new (packer side)).startUDP (audio side) (inDev side) (outDev side)
    payloadType = some (s side))
  (plat : Side → Platform) (addr : Side → Ipv4SocketAddress)
  (hn : frameBytes n (rawChannels payloadType) .INT16 ≤ 2048) {events : List CallEvent}
  (h : ∀ e ∈ events, OneSize n e)
include hpt hstart hn

theorem sound_start :
    Sound payloadType.toUInt8 (rawChannels payloadType) n [] (start s addr) :=
  fun side => conversing_listening hpt (hstart side) hn (addr side)

include h

end

def noAddress : Ipv4SocketAddress := ⟨⟨0, 0, 0⟩, 0, false⟩

/-- The caller says one frame, which comes to the other side twice. -/
def monologue : List CallEvent :=
  [.callback .caller (fun _ _ _ => ⟨0, []⟩) (fun _ => 42) 2,
    .arrive .callee 0 ⟨2, 0, 0⟩ fun _ _ => ⟨0, []⟩, .arrive .callee 0 ⟨2, 0, 0⟩ fun _ _ => ⟨0, []⟩,
    .callback .callee (fun _ _ _ => ⟨0, []⟩) (fun _ => 0) 2]

end Call

end Voip
