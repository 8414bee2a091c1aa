import Mathlib.Data.List.Chain
import Voip.App.Peer
import Voip.Rtp.Counters
import Voip.Rtp.Lossless

/-! Raw frames of any size, on their way to the peer. The sound card follows the driver's frame
count, whatever it is; the packer steps its timestamp by 512, and the receive loop reads 2060 bytes
into the one vector that it has. -/

namespace Voip

open Base AudioBuffer

/-! ## In time -/

/-- A packet lies as many frames behind the one before it as it has itself. -/
def InTime (before packet : UInt32 × Bytes) : Prop :=
  Rtp.timestamp packet.2 = (Rtp.timestamp before.2 + packet.1.toNat) % 4294967296

/-- Every packet behind the first has 512 frames, and one more where the timestamp leaves out a
value. -/
def Paced (timestamp : UInt32) (counts : List UInt32) : Prop :=
  ∀ k n, counts[k + 1]? = some n →
    n.toNat = if ReachesLastAt 4294967295 512 timestamp.toNat (k + 1) then 513 else 512

theorem isChain_inTime_iff {p : RtpPacker} (hpt : p.payloadType = 10 ∨ p.payloadType = 11)
    {counts : List UInt32} {payloads : List Bytes} (hlength : counts.length = payloads.length) :
    (counts.zip (p.packAll payloads)).IsChain InTime ↔ Paced p.timestamp counts := by
  have hknown : RtpPacker.Known p.payloadType := hpt.elim .inl fun h => .inr (.inl h)
  have hincrement : RtpPacker.increment p.payloadType = 512 := by
    rcases hpt with h | h <;> rw [h] <;> rfl
  have hstep (k : ℕ) (n : UInt32) :=
    RtpPacker.timestamp_packet_succ_iff (fun i => payloads.getD i []) hknown k n
  rw [RtpPacker.packAll_eq, List.isChain_iff_getElem]
  simp only [List.getElem_zip, List.getElem_map, List.getElem_range, InTime, hstep, hincrement]
  constructor
  · intro h k n hn
    obtain ⟨hk, rfl⟩ := List.getElem?_eq_some_iff.mp hn
    exact h k (by simpa [← hlength] using hk)
  · intro h k hk
    have hlt : k + 1 < counts.length := by simpa [← hlength] using hk
    exact h k _ (List.getElem?_eq_getElem hlt)

/-! ## Whole -/

/-- What a frame has behind the length of the frame before it is zero. -/
def ZeroBeyond (before frame : Bytes) : Prop := ∀ b ∈ frame.drop before.length, b = 0

theorem SimpleJB.add_inj {jb : SimpleJB} {data data' : Bytes} :
    jb.add data = jb.add data' ↔ data = data' := by
  simp [add]

theorem SimpleJB.ne_add (jb : SimpleJB) (data : Bytes) : jb ≠ jb.add data := by
  intro h
  have hlength := congrArg (fun jb => jb.dataBuffer.length) h
  simp only [add, List.length_append, List.length_singleton] at hlength
  split_ifs at hlength with hfull
  · exact absurd (hfull.symm.trans hlength) (by decide)
  · omega

theorem Playout.hear_eq_add_iff (p : Playout) (payload : Option Bytes) (frame : Bytes) :
    (p.hear payload).app.jitterBuffer = p.app.jitterBuffer.add frame ↔ payload = some frame := by
  cases payload with
  | none => exact iff_of_false (SimpleJB.ne_add _ frame) nofun
  | some data =>
    rw [Option.some.injEq]
    exact SimpleJB.add_inj

namespace Peer

/-- Read in turn, whatever callbacks come between the reads, the packets bring just these frames
into the jitter buffer. -/
def Delivers (plat : Platform) : Peer → List Bytes → List Bytes → Prop
  | _, [], [] => True
  | p, frame :: frames, packet :: packets =>
    packet.length ≤ 2060 ∧ ∀ playout sender opus_decode, ∃ p',
      step plat ⟨{ p.system with playout }, p.endpoint⟩
          (.read (.received sender packet) opus_decode) = .ok (none, p') ∧
        p'.system.playout.app.jitterBuffer = playout.app.jitterBuffer.add frame ∧
        Delivers plat p' frames packets
  | _, _, _ => False

/-- The receive loop in front of a read; the packet before it carried the frame `before`. -/
structure Reads (pt : UInt8) (s : Session) (before : Bytes) (p : Peer) : Prop where
  payloadType : p.system.receiver.payloadType = pt
  depacker : p.system.receiver.depacker = s.toDepacker
  ready : p.endpoint.Ready
  size : p.endpoint.data.size = 12 + before.length

variable {plat : Platform} {pt : UInt8} {s : Session} {before : Bytes} {p : Peer}

variable (plat) in
theorem reads_step (hpt : pt ≠ OPUS_PAYLOADTYPE) (hp : Reads pt s before p) (packer : RtpPacker)
    {frame : Bytes} (hframe : frame.length ≤ 2048) (playout : Playout) (sender : SockaddrIn)
    (opus_decode : OpusDecode) :
    ∃ p', step plat ⟨{ p.system with playout }, p.endpoint⟩
        (.read (.received sender (packer.pack frame).1) opus_decode) = .ok (none, p') ∧
      Reads pt (s.receive pt (packer.pack frame).1).2 frame p' ∧
      p'.system.playout =
        playout.hear ((s.receive pt (packer.pack frame).1).1.map (clip before.length)) := by
  obtain rfl := hp.payloadType
  have hlength := packer.pack_length frame
  have hlong : 12 ≤ (packer.pack frame).1.length := by omega
  have hshort : (packer.pack frame).1.length ≤ 2060 := by omega
  have hne : (packer.pack frame).1 ≠ [] := List.ne_nil_of_length_pos (by omega)
  have hroom : 12 ≤ p.endpoint.data.size := hp.size.symm ▸ Nat.le_add_right ..
  have hstep := step_read_clip plat (p := ⟨{ p.system with playout }, p.endpoint⟩) hpt hp.ready
    hroom hp.depacker hlong hshort sender opus_decode
  refine ⟨_, hstep, ⟨rfl, rfl, ?_, ?_⟩, ?_⟩
  · exact (Endpoint.receive_received plat hp.ready sender hshort).1
  · exact (Endpoint.toList_receive_clip plat hp.ready sender hne hshort).2.trans hlength
  · rw [hp.size, Nat.add_sub_cancel_left]

/-- The frame gets through just where the session accepts its packet and the vector holds it. -/
theorem map_clip_receive_pack_iff (pt : UInt8) (s : Session) (packer : RtpPacker)
    (before frame : Bytes) :
    (s.receive pt (packer.pack frame).1).1.map (clip before.length) = some frame ↔
      (s.receive pt (packer.pack frame).1).1 = some frame ∧ ZeroBeyond before frame := by
  cases hpayload : (s.receive pt (packer.pack frame).1).1 with
  | none => exact iff_of_false nofun fun h => nomatch h.1
  | some data =>
    obtain rfl : data = frame :=
      (Session.payload_of_receive hpayload).trans (packer.drop_pack frame)
    rw [Option.map_some, Option.some.injEq, clip_eq_self_iff]
    exact (and_iff_right rfl).symm

variable (plat) in
/-- The packets of a packer bring all its frames just where they fit into the read, the vector holds
each of them, and the session accepts them. -/
theorem delivers_packAll_iff (hpt : pt ≠ OPUS_PAYLOADTYPE) (hp : Reads pt s before p)
    (packer : RtpPacker) (frames : List Bytes) :
    Delivers plat p frames (packer.packAll frames) ↔
      (∀ frame ∈ frames, frame.length ≤ 2048) ∧ (before :: frames).IsChain ZeroBeyond ∧
        (answers (Session.receive pt) s (packer.packAll frames)).1 = frames.map some := by
  induction frames generalizing p s before packer with
  | nil => exact iff_of_true trivial ⟨nofun, .singleton before, rfl⟩
  | cons frame frames ih =>
    have hlength := packer.pack_length frame
    rw [RtpPacker.packAll, Delivers, List.forall_mem_cons, List.isChain_cons_cons, answers,
      List.map_cons, List.cons.injEq]
    by_cases hframe : frame.length ≤ 2048
    · have hstep := reads_step plat hpt hp packer hframe
      have hthrough := map_clip_receive_pack_iff pt s packer before frame
      constructor
      · rintro ⟨-, hall⟩
        obtain ⟨p', hread, hadded, hdelivers⟩ := hall p.system.playout ⟨2, 0, 0⟩ fun _ _ => ⟨0, []⟩
        obtain ⟨p'', hread', hp'', hhear⟩ :=
          hstep p.system.playout ⟨2, 0, 0⟩ fun _ _ => ⟨0, []⟩
        obtain ⟨-, rfl⟩ := Prod.mk.inj (Except.ok.inj (hread.symm.trans hread'))
        rw [hhear, Playout.hear_eq_add_iff, hthrough] at hadded
        obtain ⟨hframes, hchain, hanswers⟩ := (ih hp'' _).mp hdelivers
        exact ⟨⟨hframe, hframes⟩, ⟨hadded.2, hchain⟩, hadded.1, hanswers⟩
      · rintro ⟨⟨-, hframes⟩, ⟨hbeyond, hchain⟩, hanswer, hanswers⟩
        refine ⟨by omega, fun playout sender opus_decode => ?_⟩
        obtain ⟨p', hread, hp', hhear⟩ := hstep playout sender opus_decode
        refine ⟨p', hread, ?_, (ih hp' _).mpr ⟨hframes, hchain, hanswers⟩⟩
        rw [hhear, Playout.hear_eq_add_iff]
        exact hthrough.mpr ⟨hanswer, hbeyond⟩
    -- the packet is longer than the read
    · refine iff_of_false (fun h => ?_) fun h => hframe h.1.1
      have hshort := h.1
      omega

/-- A peer that has just been started has its whole vector to read into. -/
theorem reads_listening {packer : RtpPacker} {audio : RtAudio} {inDev outDev : Int32}
    {payloadType : UInt32} {s : System}
    (hstart : (System.new packer).startUDP audio inDev outDev payloadType = some s)
    (addr : Ipv4SocketAddress) :
    Reads payloadType.toUInt8 .fresh (List.replicate 2048 0) (listening s addr) where
  payloadType := congrArg Receiver.payloadType (System.startUDP_receiver hstart)
  depacker := congrArg Receiver.depacker (System.startUDP_receiver hstart)
  ready := ⟨rfl, (RawVector.capacity_alloc ..).ge⟩
  size := by
    rw [List.length_replicate]
    rfl

end Peer

theorem isChain_zeroBeyond_iff {frames : List Bytes} (h : ∀ frame ∈ frames, frame.length ≤ 2048) :
    (List.replicate 2048 0 :: frames).IsChain ZeroBeyond ↔ frames.IsChain ZeroBeyond := by
  cases frames with
  | nil => exact iff_of_true (.singleton _) .nil
  | cons frame frames =>
    rw [List.isChain_cons_cons]
    refine and_iff_right ?_
    rw [ZeroBeyond, List.length_replicate, List.drop_of_length_le (h frame (List.mem_cons_self ..))]
    exact List.forall_mem_nil _

/-! ## Main results -/

namespace Playout

theorem length_rawCaptured (ch : UInt32) (events : List PlayoutEvent) :
    (events.filterMap (rawCaptured ch)).map List.length =
      (events.filterMap frames).map fun n => frameBytes n ch .INT16 := by
  induction events with
  | nil => rfl
  | cons e events ih =>
    cases e with
    | add data => exact ih
    | callback opus_encode inBuf nFrames =>
      refine congrArg₂ List.cons ?_ ih
      rw [List.length_map, List.length_range]

/-- The peer's jitter buffer gets the bytes of every callback's frames, in packets that lie these
frames apart. -/
def WholeInTime (plat : Platform) (peer : Peer) (ch : UInt32) (p : Playout)
    (events : List PlayoutEvent) : Prop :=
  ∃ os p', drive step p events = .ok (os, p') ∧
    peer.Delivers plat (events.filterMap (rawCaptured ch)) p'.app.sender.sent ∧
    ((events.filterMap frames).zip p'.app.sender.sent).IsChain InTime

theorem wholeInTime_iff_of_packedSoFar (plat : Platform) {peer : Peer} {ch : UInt32}
    {packer : RtpPacker} {p : Playout} (hp : PackedSoFar ch packer [] p)
    (hpt : packer.payloadType = 10 ∨ packer.payloadType = 11)
    (hpeer : Peer.Reads packer.payloadType .fresh (List.replicate 2048 0) peer)
    {events : List PlayoutEvent} (hfits : ∀ e ∈ events, FitsDatagram ch e) :
    WholeInTime plat peer ch p events ↔
      (∀ n ∈ events.filterMap frames, frameBytes n ch .INT16 ≤ 2048) ∧
        (events.filterMap (rawCaptured ch)).IsChain ZeroBeyond ∧
        ((events.filterMap frames).length ≤ 1 ∨
          packer.seqNumber.toNat + (events.filterMap frames).length ≤ 65535) ∧
        Paced packer.timestamp (events.filterMap frames) := by
  obtain ⟨os, p', hdrive, hsent⟩ := drive_packedSoFar hp hfits
  have hraw : packer.payloadType ≠ OPUS_PAYLOADTYPE ∧
      packer.payloadType &&& 0x7f = packer.payloadType := by
    rcases hpt with h | h <;> rw [h] <;> decide
  have hlengths := length_rawCaptured ch events
  have hcount := congrArg List.length hlengths
  rw [List.length_map, List.length_map] at hcount
  have hdelivers := Peer.delivers_packAll_iff plat hraw.1 hpeer packer
    (events.filterMap (rawCaptured ch))
  rw [Session.answers_fresh_iff packer hraw.2, hcount] at hdelivers
  have hbytes := List.forall_mem_map (f := List.length) (P := (· ≤ 2048))
    (l := events.filterMap (rawCaptured ch))
  rw [hlengths, List.forall_mem_map] at hbytes
  have htime := isChain_inTime_iff hpt hcount.symm
  rw [← hsent] at hdelivers htime
  have hproperty : WholeInTime plat peer ch p events ↔
      peer.Delivers plat (events.filterMap (rawCaptured ch)) p'.app.sender.sent ∧
        Paced packer.timestamp (events.filterMap frames) := by
    rw [← htime]
    constructor
    · rintro ⟨os', p'', hdrive', hboth⟩
      obtain ⟨-, rfl⟩ := Prod.mk.inj (Except.ok.inj (hdrive.symm.trans hdrive'))
      exact hboth
    · exact fun hboth => ⟨os, p', hdrive, hboth⟩
  rw [hproperty, hdelivers, hbytes, and_assoc, and_assoc]
  refine and_congr_right fun hshort => and_congr_left fun _ => ?_
  exact isChain_zeroBeyond_iff hshort

/-- Frames of any size arrive whole and in time just where they fit into the read, no packet needs
more of the vector than the one before it has left, the sequence number does not wrap, and the
counts are those that the packer steps by. -/
theorem wholeInTime_iff {packer packer' : RtpPacker} {audio audio' : RtAudio}
    {inDev outDev inDev' outDev' : Int32} {payloadType : UInt32} {s peer : System}
    (hpt : payloadType = 10 ∨ payloadType = 11)
    (hstart : (System.new packer).startUDP audio inDev outDev payloadType = some s)
    (hpeer : (System.new packer').startUDP audio' inDev' outDev' payloadType = some peer)
    (plat : Platform) (addr : Ipv4SocketAddress) {events : List PlayoutEvent}
    (hfits : ∀ e ∈ events, FitsDatagram (rawChannels payloadType) e) :
    WholeInTime plat (.listening peer addr) (rawChannels payloadType) s.playout events ↔
      (∀ n ∈ events.filterMap frames, frameBytes n (rawChannels payloadType) .INT16 ≤ 2048) ∧
        (events.filterMap (rawCaptured (rawChannels payloadType))).IsChain ZeroBeyond ∧
        ((events.filterMap frames).length ≤ 1 ∨
          packer.seqNumber.toNat + (events.filterMap frames).length ≤ 65535) ∧
        Paced packer.timestamp (events.filterMap frames) := by
  have htype : (packer.init payloadType.toUInt8).payloadType = payloadType.toUInt8 := by
    rcases hpt with rfl | rfl <;> rfl
  refine wholeInTime_iff_of_packedSoFar plat (packedSoFar_start hpt hstart) ?_ ?_ hfits
  · rw [htype]
    rcases hpt with rfl | rfl
    · exact .inl rfl
    · exact .inr rfl
  · rw [htype]
    exact Peer.reads_listening hpeer addr

def said (n : UInt32) : PlayoutEvent := .callback (fun _ _ _ => ⟨-1, []⟩) (fun _ => 42) n

theorem fitsDatagram_said {ch : UInt32} {counts : List UInt32}
    (h : ∀ n ∈ counts, 12 + frameBytes n ch .INT16 ≤ 65507) :
    ∀ e ∈ counts.map said, FitsDatagram ch e := by
  rw [List.forall_mem_map]
  rintro n hn _ ⟨⟩
  exact h n hn

theorem rawCaptured_said (ch : UInt32) (counts : List UInt32) :
    (counts.map said).filterMap (rawCaptured ch) =
      counts.map fun n => List.replicate (frameBytes n ch .INT16) 42 := by
  induction counts with
  | nil => rfl
  | cons n counts ih =>
    have hframe : (List.range (frameBytes n ch .INT16)).map (fun _ => (42 : UInt8)) =
        List.replicate (frameBytes n ch .INT16) 42 := by
      rw [List.map_const', List.length_range]
    exact congrArg₂ List.cons hframe ih

/-- A long first packet, and a second one that needs less of the vector. -/
theorem wholeInTime_iff_mono :
    ∃ s, (System.new (.new 1 8 7)).startUDP ⟨0, 1, some 600⟩ (-1) (-1) 11 = some s ∧
      WholeInTime .posix (.listening s ⟨⟨0, 0, 0⟩, 0, false⟩) 1 s.playout
        ([600, 512].map said) := by
  obtain ⟨s, hstart⟩ := System.exists_startUDP_raw (.new 1 8 7) 600 (.inr rfl)
  have hcounts : ([600, 512].map said).filterMap frames = [600, 512] := rfl
  have hfits : ∀ e ∈ [600, 512].map said, FitsDatagram 1 e := by
    refine fitsDatagram_said ?_
    rw [List.forall_mem_cons, List.forall_mem_singleton]
    decide
  refine ⟨s, hstart,
    (wholeInTime_iff (.inr rfl) hstart hstart .posix ⟨⟨0, 0, 0⟩, 0, false⟩ hfits).mpr
      ⟨?_, ?_, ?_, ?_⟩⟩
  · rw [hcounts, List.forall_mem_cons, List.forall_mem_singleton]
    decide
  · rw [rawCaptured_said]
    refine .cons_cons ?_ (.singleton _)
    rw [ZeroBeyond, List.drop_of_length_le]
    · exact List.forall_mem_nil _
    · rw [List.length_replicate, List.length_replicate]
      decide
  · exact .inr (by decide)
  · rw [hcounts]
    rintro k n hn
    cases k with
    | zero =>
      cases hn
      decide
    | succ k => cases hn

/-- A packet of 1024 frames is cut off, packets of 256 frames each are timed as if they had twice as
many, and behind one of 256 frames the half of one with 512 is lost. -/
theorem wholeInTime_other :
    ∃ s, (System.new (.new 1 8 7)).startUDP ⟨0, 1, some 512⟩ (-1) (-1) 10 = some s ∧
      ¬ WholeInTime .posix (.listening s ⟨⟨0, 0, 0⟩, 0, false⟩) 2 s.playout ([1024].map said) ∧
      ¬ WholeInTime .posix (.listening s ⟨⟨0, 0, 0⟩, 0, false⟩) 2 s.playout
        ([256, 256].map said) ∧
      ¬ WholeInTime .posix (.listening s ⟨⟨0, 0, 0⟩, 0, false⟩) 2 s.playout
        ([256, 512].map said) := by
  obtain ⟨s, hstart⟩ := System.exists_startUDP_raw (.new 1 8 7) 512 (.inl rfl)
  have hiff (counts : List UInt32) (h : ∀ n ∈ counts, 12 + frameBytes n 2 .INT16 ≤ 65507) :=
    wholeInTime_iff_of_packedSoFar .posix (packedSoFar_start (.inl rfl) hstart) (.inl rfl)
      (Peer.reads_listening hstart ⟨⟨0, 0, 0⟩, 0, false⟩) (fitsDatagram_said h)
  refine ⟨s, hstart, fun h => ?_, fun h => ?_, fun h => ?_⟩
  · have hshort := ((hiff [1024] (List.forall_mem_singleton.mpr (by decide))).mp h).1
    exact absurd (hshort 1024 (List.mem_singleton.mpr rfl)) (by decide)
  · have hfits : ∀ n ∈ [256, 256], 12 + frameBytes n 2 .INT16 ≤ 65507 := by
      rw [List.forall_mem_cons, List.forall_mem_singleton]
      decide
    have hpaced := ((hiff [256, 256] hfits).mp h).2.2.2
    exact absurd (hpaced 0 256 rfl) (by decide)
  · have hfits : ∀ n ∈ [256, 512], 12 + frameBytes n 2 .INT16 ≤ 65507 := by
      rw [List.forall_mem_cons, List.forall_mem_singleton]
      decide
    have hchain := ((hiff [256, 512] hfits).mp h).2.1
    rw [rawCaptured_said, List.map_cons, List.map_cons, List.isChain_cons_cons, ZeroBeyond,
      List.length_replicate, List.drop_replicate] at hchain
    have hlost := hchain.1 42 (List.mem_replicate.mpr ⟨by decide, rfl⟩)
    exact absurd hlost (by decide)

end Playout

end Voip
