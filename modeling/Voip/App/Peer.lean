import Voip.App.RawFrames
import Voip.Net.BufferReuse

/-! One program in a call, from the datagram that the system hands to its receive loop to the one
that its sender hands to the system. -/

namespace Voip

open Base AudioBuffer

/-- What a vector of `size` bytes comes to hold of a datagram. -/
def clip (size : ℕ) (datagram : Bytes) : Bytes :=
  datagram.take size ++ List.replicate (datagram.length - size) 0

@[simp] theorem length_clip (size : ℕ) (datagram : Bytes) :
    (clip size datagram).length = datagram.length := by
  rw [clip, List.length_append, List.length_take, List.length_replicate]
  omega

theorem clip_of_le {size : ℕ} {datagram : Bytes} (h : datagram.length ≤ size) :
    clip size datagram = datagram := by
  rw [clip, List.take_of_length_le h, Nat.sub_eq_zero_of_le h]
  exact List.append_nil _

theorem clip_eq_self_iff (size : ℕ) (datagram : Bytes) :
    clip size datagram = datagram ↔ ∀ b ∈ datagram.drop size, b = 0 :=
  RawVector.take_append_replicate_eq_iff size datagram 0

theorem drop_clip {size n : ℕ} (h : n ≤ size) (datagram : Bytes) :
    (clip size datagram).drop n = clip (size - n) (datagram.drop n) := by
  rw [clip, clip, List.length_drop, List.drop_append, List.drop_take, List.drop_replicate,
    List.length_take]
  congr 2
  omega

theorem getD_clip {size i : ℕ} (h : i < size) (datagram : Bytes) :
    (clip size datagram).getD i 0 = datagram.getD i 0 := by
  by_cases hi : i < datagram.length
  · have hlt : i < (clip size datagram).length := (length_clip ..).symm ▸ hi
    have htake : i < (datagram.take size).length := by
      rw [List.length_take]
      omega
    rw [List.getD_eq_getElem _ _ hlt, List.getD_eq_getElem _ _ hi]
    simp only [clip, List.getElem_append_left htake, List.getElem_take]
  · have hle : (clip size datagram).length ≤ i := (length_clip ..).symm ▸ Nat.le_of_not_lt hi
    rw [List.getD_eq_default _ _ hle, List.getD_eq_default _ _ (Nat.le_of_not_lt hi)]

/-- A header that fits into the vector is the datagram's own. -/
theorem Session.receive_clip (pt : UInt8) (s : Session) {size : ℕ} (h : 12 ≤ size)
    (datagram : Bytes) :
    s.receive pt (clip size datagram) =
      ((s.receive pt datagram).1.map (clip (size - 12)), (s.receive pt datagram).2) := by
  have hget (i : ℕ) (hi : i < 12) : (clip size datagram).getD i 0 = datagram.getD i 0 :=
    getD_clip (Nat.lt_of_lt_of_le hi h) datagram
  have hseq : headerSequenceNumber (clip size datagram) = headerSequenceNumber datagram := by
    rw [headerSequenceNumber, hget 2 (by decide), hget 3 (by decide)]
    rfl
  have hssrc : headerSSRC (clip size datagram) = headerSSRC datagram := by
    rw [headerSSRC, hget 8 (by decide), hget 9 (by decide), hget 10 (by decide),
      hget 11 (by decide)]
    rfl
  have haddressed : Addressed pt (clip size datagram) ↔ Addressed pt datagram := by
    rw [Addressed, headerVersion, headerPayloadType, hget 0 (by decide), hget 1 (by decide)]
    rfl
  unfold receive
  by_cases ha : Addressed pt datagram
  · rw [if_pos (haddressed.mpr ha), if_pos ha, hseq, hssrc, drop_clip h]
    cases s with
    | fresh => rfl
    | bound last ssrc =>
      dsimp only
      split_ifs <;> rfl
  · rw [if_neg (mt haddressed.mp ha), if_neg ha]
    rfl

theorem Endpoint.toList_receive_clip (plat : Platform) {e : Endpoint} (h : e.Ready)
    (sender : SockaddrIn) {datagram : Bytes} (hne : datagram ≠ []) (hlen : datagram.length ≤ 2060) :
    (e.receive plat (.received sender datagram)).data.toList = clip e.data.size datagram ∧
      (e.receive plat (.received sender datagram)).data.size = datagram.length := by
  rw [(receive_received plat h sender hlen).2, if_neg hne, RawVector.size_resize,
    RawVector.toList_write_resize _ (Nat.le_trans hlen h.2)]
  exact ⟨rfl, rfl⟩

theorem Endpoint.toList_receive (plat : Platform) {e : Endpoint} (h : e.Ready)
    (sender : SockaddrIn) {packet : Bytes} (hne : packet ≠ []) (hlen : packet.length ≤ 2060)
    (hsize : packet.length ≤ e.data.size) :
    (e.receive plat (.received sender packet)).data.toList = packet := by
  rw [(toList_receive_clip plat h sender hne hlen).1, clip_of_le hsize]

/-- The program, with the socket and the vector of its receive loop. -/
structure Peer where
  system : System
  endpoint : Endpoint

inductive PeerEvent where
  | read (os : SysRecv) (opus_decode : OpusDecode)
  | callback (opus_encode : OpusEncode) (inBuf : ℕ → UInt8) (nFrames : UInt32)

/-- What a callback does, and whether it has found a packet; where it has not, it says so on the
console. -/
structure Playback where
  hadData : Bool
  result : CallbackResult
  deriving DecidableEq, Repr

namespace Peer

/-- The receive loop in front of its first read: the socket is open, the vector has 2060 bytes. -/
def listening (system : System) (addr : Ipv4SocketAddress) : Peer where
  system
  endpoint := ⟨⟨true, false⟩, addr, .alloc 2060 0⟩

def sent (p : Peer) : List Bytes := p.system.playout.app.sender.sent

def buffered (p : Peer) : List Bytes := p.system.playout.app.jitterBuffer.dataBuffer

def step (plat : Platform) (p : Peer) : PeerEvent → Except Fault (Option Playback × Peer)
  | .read os opus_decode => do
    let endpoint := p.endpoint.receive plat os
    let (_, system) ← p.system.step (.receive opus_decode endpoint.data.toList)
    pure (none, { system, endpoint })
  | .callback opus_encode inBuf nFrames => do
    let hadData := p.system.playout.app.jitterBuffer.hasData
    let (result, system) ← p.system.step (.callback opus_encode inBuf nFrames)
    pure (result.map fun result => ⟨hadData, result⟩, { p with system })

end Peer

namespace System

theorem initUDP_receiver {s s' : System} {audio : RtAudio} {inDev outDev : Int32}
    {inCh outCh sampleRate framesize : UInt32} {payloadType : UInt8}
    (h : s.initUDP audio inDev outDev inCh outCh sampleRate framesize payloadType = (true, s')) :
    s'.receiver = .init payloadType s.receiver.decoder := by
  rw [initUDP] at h
  split at h
  · cases h
  · generalize s.playout.card.init audio inDev outDev inCh outCh sampleRate framesize .INT16 =
      result at h
    obtain ⟨ok, card⟩ := result
    cases ok with
    | false => cases h
    | true =>
      obtain ⟨-, rfl⟩ := Prod.mk.inj h
      rfl

theorem startUDP_receiver {packer : RtpPacker} {audio : RtAudio} {inDev outDev : Int32}
    {payloadType : UInt32} {s : System}
    (h : (new packer).startUDP audio inDev outDev payloadType = some s) :
    s.receiver = .init payloadType.toUInt8 .new := by
  rw [startUDP] at h
  obtain ⟨⟨channels, sampleRate, frameSize⟩, -, h⟩ := Option.bind_eq_some_iff.mp h
  dsimp only at h
  generalize hinit : initUDP _ audio inDev outDev channels channels sampleRate frameSize
    payloadType.toUInt8 = result at h
  obtain ⟨ok, s₁⟩ := result
  cases ok with
  | false => cases h
  | true =>
    have hreceiver := initUDP_receiver hinit
    rw [if_neg (show ¬ (!true) = true by decide)] at h
    split_ifs at h
    · cases h
      exact hreceiver
    · cases h
      exact hreceiver

end System

theorem SimpleJB.dataBuffer_getFrontData (jb : SimpleJB) (out : Bytes) :
    (jb.getFrontData out).2.dataBuffer = jb.dataBuffer.tail := by
  obtain ⟨_ | ⟨frame, rest⟩⟩ := jb <;> rfl

namespace Playout

/-- What the receive loop passes on goes into the jitter buffer. -/
def hear (p : Playout) : Option Bytes → Playout
  | none => p
  | some data => { p with app := { p.app with jitterBuffer := p.app.jitterBuffer.add data } }

variable (p : Playout) (payload : Option Bytes)

@[simp] theorem card_hear : (p.hear payload).card = p.card := by cases payload <;> rfl

@[simp] theorem sender_hear : (p.hear payload).app.sender = p.app.sender := by
  cases payload <;> rfl

@[simp] theorem packer_hear : (p.hear payload).app.packer = p.app.packer := by
  cases payload <;> rfl

theorem mem_hear {p : Playout} {payload : Option Bytes} {frame : Bytes}
    (h : frame ∈ (p.hear payload).app.jitterBuffer.dataBuffer) :
    frame ∈ p.app.jitterBuffer.dataBuffer ∨ payload = some frame := by
  cases payload with
  | none => exact .inl h
  | some data =>
    rcases List.mem_append.mp h with hold | hnew
    · split_ifs at hold with hfull
      · cases hold
      · exact .inl hold
    · exact .inr (congrArg some (List.mem_singleton.mp hnew).symm)

end Playout

/-- Raw, a vector with a whole header never stops the receive loop. -/
theorem System.step_receive_raw {sys : System} {s : Session}
    (hpt : sys.receiver.payloadType ≠ OPUS_PAYLOADTYPE)
    (hs : sys.receiver.depacker = s.toDepacker) {vector : Bytes} (hlength : 12 ≤ vector.length)
    (opus_decode : OpusDecode) :
    sys.step (.receive opus_decode vector) =
      .ok (none, ⟨sys.playout.hear (s.receive sys.receiver.payloadType vector).1,
        { sys.receiver with
          depacker := (s.receive sys.receiver.payloadType vector).2.toDepacker }⟩) := by
  have hreadable := s.readable_of_header sys.receiver.payloadType hlength
  cases hpayload : (s.receive sys.receiver.payloadType vector).1 with
  | none =>
    rw [step, Receiver.receive_rejects opus_decode _ hs hreadable hpayload]
    rfl
  | some data =>
    rw [step, Receiver.receive_accepts opus_decode _ hs hreadable hpayload, Receiver.deliver,
      if_neg (by exact hpt)]
    rfl

/-- A raw call with the same frame count in every callback, whose packets the receive loop can read
whole. -/
structure RawPeer (payloadType : UInt8) (ch nFrames : UInt32) (p : Peer) : Prop where
  call : RawCall ch p.system.playout
  payloadType : p.system.receiver.payloadType = payloadType
  ready : p.endpoint.Ready
  room : 12 + frameBytes nFrames ch .INT16 ≤ p.endpoint.data.size

namespace Peer

variable {plat : Platform} {pt : UInt8} {ch n : UInt32} {p : Peer}

theorem rawPeer_hear {endpoint : Endpoint} (hp : RawPeer pt ch n p) (receiver : Receiver)
    (hpt : receiver.payloadType = pt) (hready : endpoint.Ready)
    (hroom : 12 + frameBytes n ch .INT16 ≤ endpoint.data.size) (payload : Option Bytes) :
    RawPeer pt ch n ⟨⟨p.system.playout.hear payload, receiver⟩, endpoint⟩ := by
  refine ⟨?_, hpt, hready, hroom⟩
  cases payload with
  | none => exact hp.call
  | some data => exact ⟨hp.call.shaped, hp.call.isOpus, hp.call.isLoopback, hp.call.isUDP⟩

variable (plat) in
/-- A packet is read as far as the vector goes. -/
theorem step_read_clip (hpt : p.system.receiver.payloadType ≠ OPUS_PAYLOADTYPE)
    (hready : p.endpoint.Ready) (hroom : 12 ≤ p.endpoint.data.size) {s : Session}
    (hs : p.system.receiver.depacker = s.toDepacker) {packet : Bytes} (hlong : 12 ≤ packet.length)
    (hshort : packet.length ≤ 2060) (sender : SockaddrIn) (opus_decode : OpusDecode) :
    p.step plat (.read (.received sender packet) opus_decode) =
      .ok (none, ⟨⟨p.system.playout.hear
          ((s.receive p.system.receiver.payloadType packet).1.map
            (clip (p.endpoint.data.size - 12))),
        { p.system.receiver with
          depacker := (s.receive p.system.receiver.payloadType packet).2.toDepacker }⟩,
        p.endpoint.receive plat (.received sender packet)⟩) := by
  have hne : packet ≠ [] := List.ne_nil_of_length_pos (by omega)
  have hlist := (Endpoint.toList_receive_clip plat hready sender hne hshort).1
  have hlength : 12 ≤ (clip p.endpoint.data.size packet).length := (length_clip ..).symm ▸ hlong
  have hstep := System.step_receive_raw hpt hs hlength opus_decode
  rw [Session.receive_clip _ s hroom] at hstep
  rw [step, hlist, hstep, ok_bind]
  rfl

variable (plat) in
/-- A packet of the usual size is read whole, whatever has been read before it. -/
theorem step_read (hp : RawPeer pt ch n p) (hpt : pt ≠ OPUS_PAYLOADTYPE)
    (hn : frameBytes n ch .INT16 ≤ 2048) {s : Session}
    (hs : p.system.receiver.depacker = s.toDepacker) {packet : Bytes}
    (hlength : packet.length = 12 + frameBytes n ch .INT16) (sender : SockaddrIn)
    (opus_decode : OpusDecode) :
    ∃ p', p.step plat (.read (.received sender packet) opus_decode) = .ok (none, p') ∧
      RawPeer pt ch n p' ∧
      p'.system.receiver.depacker = (s.receive pt packet).2.toDepacker ∧
      p'.system.playout = p.system.playout.hear (s.receive pt packet).1 := by
  obtain rfl : p.system.receiver.payloadType = pt := hp.payloadType
  have hne : packet ≠ [] := List.ne_nil_of_length_pos (by omega)
  have hlist := Endpoint.toList_receive plat hp.ready sender hne (by omega)
    (hlength.trans_le hp.room)
  obtain ⟨hready, hdata⟩ := Endpoint.receive_received plat hp.ready sender
    (show packet.length ≤ 2060 by omega)
  have hroom : 12 + frameBytes n ch .INT16 ≤
      (p.endpoint.receive plat (.received sender packet)).data.size := by
    rw [hdata, if_neg hne, RawVector.size_resize, hlength]
  have hstep := System.step_receive_raw hpt hs (show 12 ≤ packet.length by omega) opus_decode
  refine ⟨_, ?_, rawPeer_hear hp { p.system.receiver with
    depacker := (s.receive p.system.receiver.payloadType packet).2.toDepacker }
    rfl hready hroom _, rfl, rfl⟩
  rw [step, hlist, hstep, ok_bind]
  rfl

/-- A callback plays the packet at the front, or once more what the output buffer holds. -/
theorem step_callback (hp : RawPeer pt ch n p) (hn : frameBytes n ch .INT16 ≤ 2048)
    (hframes : ∀ frame ∈ p.buffered, frame.length = frameBytes n ch .INT16)
    (opus_encode : OpusEncode) (inBuf : ℕ → UInt8) :
    ∃ result p', p.step plat (.callback opus_encode inBuf n) =
        .ok (some ⟨p.system.playout.app.jitterBuffer.hasData, result⟩, p') ∧
      RawPeer pt ch n p' ∧ p'.system.receiver = p.system.receiver ∧
      p'.sent = p.sent ++ [(p.system.playout.app.packer.pack
        ((List.range (frameBytes n ch .INT16)).map inBuf)).1] ∧
      p'.system.playout.app.packer = (p.system.playout.app.packer.pack
        ((List.range (frameBytes n ch .INT16)).map inBuf)).2 ∧
      p'.buffered = p.buffered.tail ∧
      result.toOut =
        p.buffered.head?.getD (p.system.playout.card.adapt n).outputBuffer.data ∧
      p'.system.playout.card.outputBuffer.data = result.toOut := by
  have hsize : frameBytes n ch .INT16 < UInt32.size := Nat.lt_of_le_of_lt hn (by decide)
  obtain ⟨result, q, hstep, hcall, hsent, hpacker⟩ :=
    Playout.step_callback_raw hp.call opus_encode inBuf hsize
  obtain ⟨result', hresult, -, -, houtput, hbuffer, htoOut⟩ :=
    p.system.playout.step_callback_cases _ _ _ hp.call.isLoopback hp.call.isUDP hstep
  obtain rfl := Option.some.inj hresult
  have hout := (Playout.sizes_adapt hp.call.shaped hsize hsize).2
  refine ⟨result, { p with system := { p.system with playout := q } }, ?_,
    ⟨hcall, hp.payloadType, hp.ready, hp.room⟩, rfl, hsent, hpacker, ?_, ?_, htoOut.symm⟩
  · rw [step, System.step, hstep]
    rfl
  · exact (congrArg SimpleJB.dataBuffer hbuffer).trans (SimpleJB.dataBuffer_getFrontData ..)
  · rw [htoOut, houtput]
    cases hqueue : p.buffered with
    | nil =>
      rw [SimpleJB.getFrontData, show p.system.playout.app.jitterBuffer.dataBuffer = [] from hqueue]
      rfl
    | cons frame rest =>
      have hfront : p.system.playout.app.jitterBuffer.dataBuffer = frame :: rest := hqueue
      have hlength := hframes frame (hqueue ▸ List.mem_cons_self ..)
      rw [SimpleJB.getFrontData_cons hfront]
      exact copyTo_of_length_eq (hlength.trans hout.symm)

end Peer

end Voip
