import Voip.App.Call
import Voip.Base.Backlog
import Voip.Rtp.Counters

/-! A call as one side hears it, whatever the network does: the packets that are accepted pass
through a backlog of ten, which every callback of the sound card lets one out of. -/

namespace Voip

open Base AudioBuffer

/-- The sequence number of the packet that is packed after `i` others. -/
def RtpPacker.number (seqNumber : UInt16) (i : ℕ) : ℕ :=
  if i = 0 then seqNumber.toNat else (seqNumber.toNat + i) % 65535

namespace RtpPacker

theorem toNat_number (seqNumber : UInt16) (i : ℕ) :
    (UInt16.ofNat (number seqNumber i)).toNat = number seqNumber i := by
  have hlt : number seqNumber i < 65536 := by
    rw [number]
    split_ifs
    · exact seqNumber.toNat_lt
    · exact (Nat.mod_lt _ (by decide)).trans (by decide)
  rw [UInt16.toNat_ofNat', Nat.mod_eq_of_lt hlt]

theorem getElem?_packAll {p : RtpPacker} {frames : List Bytes} {i : ℕ} {packet : Bytes}
    (h : (p.packAll frames)[i]? = some packet) :
    (headerSequenceNumber packet).toNat = number p.seqNumber i ∧
      packet.drop 12 = frames.getD i [] := by
  rw [packAll_eq, List.getElem?_map] at h
  obtain ⟨j, hj, rfl⟩ := Option.map_eq_some_iff.mp h
  obtain ⟨hi, rfl⟩ := List.getElem?_eq_some_iff.mp hj
  rw [List.getElem_range]
  constructor
  · rw [headerSequenceNumber_toNat]
    cases i with
    | zero => exact sequenceNumber_packet_zero ..
    | succ i => exact sequenceNumber_packet_succ ..
  · exact drop_pack ..

end RtpPacker

/-- Where a session stands behind the packet `last` of the packer's, if any. -/
def Session.behind (p : RtpPacker) : Option ℕ → Session
  | none => .fresh
  | some j => .bound (UInt16.ofNat (RtpPacker.number p.seqNumber j)) p.ssrc

/-- The packet `i` is accepted behind the packet `last`. -/
def Follows (seqNumber : UInt16) (last : Option ℕ) (i : ℕ) : Prop :=
  ∀ j ∈ last, RtpPacker.number seqNumber i = RtpPacker.number seqNumber j + 1

instance (seqNumber : UInt16) (last : Option ℕ) (i : ℕ) : Decidable (Follows seqNumber last i) :=
  inferInstanceAs (Decidable (∀ j ∈ last, _))

theorem follows_some_iff (seqNumber : UInt16) (j i : ℕ) :
    Follows seqNumber (some j) i ↔
      RtpPacker.number seqNumber i = RtpPacker.number seqNumber j + 1 := by
  simp only [Follows, Option.mem_def, Option.some.injEq, forall_eq']

theorem Session.receive_packAll {p : RtpPacker} {frames : List Bytes} {i : ℕ} {packet : Bytes}
    (hpt : p.payloadType.toNat < 128) (h : (p.packAll frames)[i]? = some packet)
    (last : Option ℕ) :
    (behind p last).receive p.payloadType packet =
      (if Follows p.seqNumber last i then some (frames.getD i []) else none,
        behind p (some i)) := by
  obtain ⟨hnumber, hdrop⟩ := RtpPacker.getElem?_packAll h
  obtain ⟨-, hssrc, hversion, htype⟩ := RtpPacker.of_mem_packAll (List.mem_of_getElem? h)
  have haddressed : Addressed p.payloadType packet :=
    ⟨hversion, htype.trans (RtpPacker.mask_payloadType_eq hpt)⟩
  have hheader : headerSequenceNumber packet = UInt16.ofNat (RtpPacker.number p.seqNumber i) := by
    rw [← hnumber, UInt16.ofNat_toNat]
  cases last with
  | none =>
    have hfollows : Follows p.seqNumber none i := nofun
    rw [behind, receive, if_pos haddressed, if_pos hfollows, hdrop, hheader, hssrc, behind]
  | some j =>
    rw [behind, receive, if_pos haddressed]
    simp only [hheader, RtpPacker.toNat_number, hssrc, hdrop, and_true, behind, follows_some_iff]

/-- What one side has sent, and what it would send if it captured these frames as well. -/
def Peer.packed (p : Peer) (frames : List Bytes) : List Bytes :=
  p.sent ++ p.system.playout.app.packer.packAll frames

namespace Call

def arrival (side : Side) : CallEvent → Option ℕ
  | .callback .. => none
  | .arrive side' i _ _ => if side' = side then some i else none

/-- What one event lets into the jitter buffer or out of it, behind the arrival `last`. -/
def passages (seqNumber : UInt16) (side : Side) (last : Option ℕ) : CallEvent → List (Passage ℕ)
  | .callback side' _ _ _ => if side' = side then [.leave] else []
  | .arrive side' i _ _ => if side' = side ∧ Follows seqNumber last i then [.enter i] else []

def traffic (seqNumber : UInt16) (side : Side) : Option ℕ → List CallEvent → List (Passage ℕ)
  | _, [] => []
  | last, e :: events =>
    passages seqNumber side last e ++ traffic seqNumber side ((arrival side e).or last) events

/-- What arrives has been captured by then. -/
def Causal (ch : UInt32) (side : Side) (events : List CallEvent) : Prop :=
  ∀ k e, events[k]? = some e → ∀ i ∈ arrival side e,
    i < ((events.take k).filterMap (captured ch side.other)).length

/-- What a callback of one side has played out of the jitter buffer. -/
def playback (side : Side) : Option (Side × Playback) → Option Bytes
  | none => none
  | some (side', p) => if side' = side ∧ p.hadData = true then some p.result.toOut else none

variable {plat : Side → Platform} {pt : UInt8} {ch n : UInt32}

/-- All that one step can do in a call with frames of one size. -/
theorem step_cases {past : List CallEvent} {c c' : Call} {e : CallEvent}
    {o : Option (Side × Playback)} (hpt : pt ≠ OPUS_PAYLOADTYPE)
    (hn : frameBytes n ch .INT16 ≤ 2048) (hc : Sound pt ch n past c) (he : OneSize n e)
    (h : step plat c e = .ok (o, c')) :
    (∃ side opus_encode inBuf playback p', e = .callback side opus_encode inBuf n ∧
        o = some (side, playback) ∧ c' = Function.update c side p' ∧
        p'.system.receiver = (c side).system.receiver ∧
        (∀ frames, p'.packed frames = (c side).packed
          ((List.range (frameBytes n ch .INT16)).map inBuf :: frames)) ∧
        p'.buffered = (c side).buffered.tail ∧
        (if playback.hadData then some playback.result.toOut else none) =
          (c side).buffered.head?) ∨
      ∃ side i sender opus_decode, e = .arrive side i sender opus_decode ∧ o = none ∧
        ((c side.other).sent[i]? = none ∧ c' = c ∨
          ∃ packet p', (c side.other).sent[i]? = some packet ∧ c' = Function.update c side p' ∧
            (∀ frames, p'.packed frames = (c side).packed frames) ∧
            ∀ s : Session, (c side).system.receiver.depacker = s.toDepacker →
              p'.system.receiver.depacker = (s.receive pt packet).2.toDepacker ∧
                p'.system.playout = (c side).system.playout.hear (s.receive pt packet).1) := by
  cases e with
  | callback side opus_encode inBuf nFrames =>
    obtain rfl := he nFrames rfl
    left
    have hp := hc side
    obtain ⟨result, p', hstep, -, hreceiver, hsent, hpacker, hbuffered, htoOut, -⟩ :=
      Peer.step_callback hp.toRawPeer hn
        (fun frame h => hp.others_length frame (hp.buffered frame h)) opus_encode inBuf
    rw [step, hstep] at h
    obtain ⟨rfl, rfl⟩ := Prod.mk.inj (Except.ok.inj h)
    refine ⟨side, opus_encode, inBuf, _, p', rfl, rfl, rfl, hreceiver, ?_, hbuffered, ?_⟩
    · intro frames
      rw [Peer.packed, hsent, hpacker, List.append_assoc]
      rfl
    · rw [htoOut, SimpleJB.hasData, Peer.buffered]
      cases (c side).system.playout.app.jitterBuffer.dataBuffer with
      | nil => rfl
      | cons frame rest => rfl
  | arrive side i sender opus_decode =>
    refine .inr ⟨side, i, sender, opus_decode, rfl, ?_⟩
    cases hpacket : (c side.other).sent[i]? with
    | none =>
      rw [step, hpacket] at h
      obtain ⟨rfl, rfl⟩ := Prod.mk.inj (Except.ok.inj h)
      exact ⟨rfl, .inl ⟨rfl, rfl⟩⟩
    | some packet =>
      have hlength := (hc side.other).lengths packet (List.mem_of_getElem? hpacket)
      obtain ⟨s, hs⟩ := (hc side).session
      obtain ⟨p', hstep, -, hdepacker, hplayout⟩ := Peer.step_read (plat side)
        (hc side).toRawPeer hpt hn hs hlength sender opus_decode
      rw [step, hpacket] at h
      simp only [hstep, ok_bind, pure_eq_ok, Except.ok.injEq, Prod.mk.injEq] at h
      obtain ⟨rfl, rfl⟩ := h
      refine ⟨rfl, .inr ⟨packet, p', rfl, rfl, ?_, ?_⟩⟩
      · intro frames
        rw [Peer.packed, Peer.sent, hplayout, Playout.sender_hear, Playout.packer_hear]
        rfl
      · intro s' hs'
        obtain rfl := Session.toDepacker_injective (hs.symm.trans hs')
        exact ⟨hdepacker, hplayout⟩

theorem packed_step {past : List CallEvent} {c c' : Call} {e : CallEvent}
    {o : Option (Side × Playback)} (hpt : pt ≠ OPUS_PAYLOADTYPE)
    (hn : frameBytes n ch .INT16 ≤ 2048) (hc : Sound pt ch n past c) (he : OneSize n e)
    (h : step plat c e = .ok (o, c')) (side : Side) (frames : List Bytes) :
    (c' side).packed frames = (c side).packed ((captured ch side e).toList ++ frames) := by
  obtain ⟨x, -, inBuf, -, p', rfl, -, rfl, -, hpacked, -⟩ |
    ⟨x, -, -, -, rfl, -, ⟨-, rfl⟩ | ⟨-, p', -, rfl, hpacked, -⟩⟩ := step_cases hpt hn hc he h
  · by_cases hx : x = side
    · subst hx
      rw [Function.update_self, hpacked, captured, if_pos rfl]
      rfl
    · rw [Function.update_of_ne (Ne.symm hx), captured, if_neg hx]
      rfl
  · rfl
  · by_cases hx : x = side
    · subst hx
      rw [Function.update_self, hpacked]
      rfl
    · rw [Function.update_of_ne (Ne.symm hx)]
      rfl

/-- With these events to come, the session is behind `last` and the frames of `queue` wait. -/
structure Hears (ch : UInt32) (p : RtpPacker) (frames : List Bytes) (side : Side)
    (events : List CallEvent) (last : Option ℕ) (queue : List ℕ) (c : Call) : Prop where
  session : (c side).system.receiver.depacker = (Session.behind p last).toDepacker
  packed : (c side.other).packed (events.filterMap (captured ch side.other)) = p.packAll frames
  buffered : (c side).buffered = queue.map fun i => frames.getD i []

section
variable {p : RtpPacker} {frames : List Bytes} {side : Side} {events past : List CallEvent}
  {last : Option ℕ} {queue : List ℕ} {c c' : Call}

/-- The packet that arrives is the one of the frame captured after `i` others. -/
theorem Hears.getElem?_packAll {i : ℕ} (hears : Hears ch p frames side events last queue c)
    {packet : Bytes} (h : (c side.other).sent[i]? = some packet) :
    (p.packAll frames)[i]? = some packet := by
  obtain ⟨hi, -⟩ := List.getElem?_eq_some_iff.mp h
  rw [← hears.packed, Peer.packed, List.getElem?_append_left hi, h]

theorem buffered_hear {playout : Playout} (i : ℕ) (follows : Prop) [Decidable follows]
    (h : playout.app.jitterBuffer.dataBuffer = queue.map fun i => frames.getD i []) :
    (playout.hear (if follows then some (frames.getD i []) else none)).app.jitterBuffer.dataBuffer =
      (Backlog.waiting BUFFER_MAX_PACKETS queue (if follows then [.enter i] else [])).map
        fun i => frames.getD i [] := by
  by_cases hfollows : follows
  · rw [if_pos hfollows, if_pos hfollows, Backlog.waiting_enter, Playout.hear, SimpleJB.add, h,
      List.length_map]
    by_cases hfull : queue.length = BUFFER_MAX_PACKETS
    · rw [if_pos hfull, if_pos hfull]
      rfl
    · rw [if_neg hfull, if_neg hfull]
      change _ = (queue ++ [i]).map _
      rw [List.map_append]
      rfl
  · rw [if_neg hfollows, if_neg hfollows]
    exact h

/-- A step of the call is a step of the backlog, as one side hears it. -/
theorem hears_step {e : CallEvent} {o : Option (Side × Playback)} (hp : p.payloadType.toNat < 128)
    (hpt : p.payloadType ≠ OPUS_PAYLOADTYPE) (hn : frameBytes n ch .INT16 ≤ 2048)
    (hc : Sound p.payloadType ch n past c) (he : OneSize n e)
    (hears : Hears ch p frames side (e :: events) last queue c)
    (hcausal : ∀ i ∈ arrival side e, i < (past.filterMap (captured ch side.other)).length)
    (h : step plat c e = .ok (o, c')) :
    (playback side o).toList =
        (Backlog.left BUFFER_MAX_PACKETS queue (passages p.seqNumber side last e)).map
          (fun i => frames.getD i []) ∧
      Hears ch p frames side events ((arrival side e).or last)
        (Backlog.waiting BUFFER_MAX_PACKETS queue (passages p.seqNumber side last e)) c' := by
  have hpacked : (c' side.other).packed (events.filterMap (captured ch side.other)) =
      p.packAll frames := by
    rw [packed_step hpt hn hc he h, ← hears.packed, List.filterMap_cons]
    cases captured ch side.other e <;> rfl
  obtain ⟨x, opus_encode, inBuf, played, p', rfl, rfl, rfl, hreceiver, -, htail, hhead⟩ |
    ⟨x, i, sender, opus_decode, rfl, rfl, harrive⟩ := step_cases hpt hn hc he h
  · by_cases hx : x = side
    · subst hx
      have hqueue := hears.buffered
      rw [passages, if_pos rfl]
      refine ⟨?_, ?_, hpacked, ?_⟩
      · rw [playback, Backlog.left_leave]
        simp only [true_and, hhead, hqueue]
        cases queue <;> rfl
      · rw [Function.update_self, hreceiver, hears.session]
        rfl
      · rw [Function.update_self, htail, hqueue, ← List.map_tail]
        rfl
    · rw [passages, if_neg hx]
      refine ⟨?_, ?_, hpacked, ?_⟩
      · rw [playback, if_neg (mt And.left hx)]
        rfl
      · rw [Function.update_of_ne (Ne.symm hx), hears.session]
        rfl
      · rw [Function.update_of_ne (Ne.symm hx), hears.buffered]
        rfl
  · by_cases hx : x = side
    · subst hx
      rcases harrive with ⟨hnone, -⟩ | ⟨packet, p', hpacket, rfl, -, hreceive⟩
      · have hsent := hcausal i (if_pos rfl)
        rw [← (hc x.other).payloads, List.length_map] at hsent
        exact absurd hnone (by rw [List.getElem?_eq_getElem hsent]; nofun)
      · obtain ⟨hdepacker, hplayout⟩ := hreceive _ hears.session
        rw [Session.receive_packAll hp (hears.getElem?_packAll hpacket)] at hdepacker hplayout
        rw [passages, arrival, if_pos rfl]
        simp only [true_and]
        refine ⟨?_, ?_, hpacked, ?_⟩
        · split_ifs <;> rfl
        · rw [Function.update_self, hdepacker]
          rfl
        · rw [Function.update_self, Peer.buffered, hplayout]
          exact buffered_hear i _ hears.buffered
    · have hx' : c' side = c side := by
        rcases harrive with ⟨-, rfl⟩ | ⟨-, p', -, rfl, -, -⟩
        · rfl
        · exact Function.update_of_ne (Ne.symm hx) ..
      rw [passages, if_neg (mt And.left hx), arrival, if_neg hx, Option.none_or]
      refine ⟨rfl, ?_, hpacked, ?_⟩
      · rw [hx', hears.session]
      · rw [hx', hears.buffered]
        rfl

/-- What one side plays, and what it has waiting, is what the backlog lets out and holds. -/
theorem drive_traffic {os : List (Option (Side × Playback))} (hp : p.payloadType.toNat < 128)
    (hpt : p.payloadType ≠ OPUS_PAYLOADTYPE) (hn : frameBytes n ch .INT16 ≤ 2048)
    (hc : Sound p.payloadType ch n past c) (he : ∀ e ∈ events, OneSize n e)
    (hears : Hears ch p frames side events last queue c)
    (hcausal : ∀ k e, events[k]? = some e → ∀ i ∈ arrival side e,
      i < ((past ++ events.take k).filterMap (captured ch side.other)).length)
    (h : drive (step plat) c events = .ok (os, c')) :
    os.filterMap (playback side) =
        (Backlog.left BUFFER_MAX_PACKETS queue (traffic p.seqNumber side last events)).map
          (fun i => frames.getD i []) ∧
      (c' side).buffered =
        (Backlog.waiting BUFFER_MAX_PACKETS queue (traffic p.seqNumber side last events)).map
          (fun i => frames.getD i []) := by
  have hrefines := Backlog.drive_refines (c := BUFFER_MAX_PACKETS)
    (playback side) (fun i => frames.getD i []) (fun last e => (arrival side e).or last)
    (passages p.seqNumber side) (traffic p.seqNumber side) (fun _ => rfl) (fun _ _ _ => rfl)
    (fun events last queue c => ∃ past, Sound p.payloadType ch n past c ∧
      (∀ e ∈ events, OneSize n e) ∧
      (∀ k e, events[k]? = some e → ∀ i ∈ arrival side e,
        i < ((past ++ events.take k).filterMap (captured ch side.other)).length) ∧
      Hears ch p frames side events last queue c) ?_ ⟨past, hc, he, hcausal, hears⟩ h
  · obtain ⟨hleft, _, _, -, -, -, hears'⟩ := hrefines
    exact ⟨hleft, hears'.buffered⟩
  rintro e events last queue c o c' ⟨past, hc, he, hcausal, hears⟩ hstep
  obtain ⟨hfirst, hlater⟩ := List.forall_mem_cons.mp he
  obtain ⟨o', c₁, hstep', hc₁, -⟩ := sound_step plat hpt hn hc hfirst
  obtain ⟨rfl, rfl⟩ := Prod.mk.inj (Except.ok.inj (hstep.symm.trans hstep'))
  have hnow : ∀ i ∈ arrival side e, i < (past.filterMap (captured ch side.other)).length := by
    simpa using hcausal 0 e rfl
  obtain ⟨hplayed, hears₁⟩ := hears_step hp hpt hn hc hfirst hears hnow hstep
  exact ⟨hplayed, past ++ [e], hc₁, hlater,
    fun k e' hk => by simpa using hcausal (k + 1) e' hk, hears₁⟩

end

/-! ## A network that loses nothing -/

def callback (side : Side) : CallEvent → Option UInt32
  | .callback side' _ _ nFrames => if side' = side then some nFrames else none
  | .arrive .. => none

def passage (side : Side) : CallEvent → Option (Passage ℕ)
  | .callback side' _ _ _ => if side' = side then some .leave else none
  | .arrive side' i _ _ => if side' = side then some (.enter i) else none

def accepted (seqNumber : UInt16) : Option ℕ → List ℕ → List ℕ
  | _, [] => []
  | last, i :: is =>
    (if Follows seqNumber last i then [i] else []) ++ accepted seqNumber (some i) is

theorem accepted_sublist (seqNumber : UInt16) (last : Option ℕ) (is : List ℕ) :
    (accepted seqNumber last is).Sublist is := by
  induction is generalizing last with
  | nil => exact List.Sublist.refl []
  | cons i is ih =>
    rw [accepted]
    split_ifs
    · exact (ih (some i)).cons_cons i
    · exact (ih (some i)).cons i

theorem accepted_cons_iff (seqNumber : UInt16) (last : Option ℕ) (i : ℕ) (is : List ℕ) :
    accepted seqNumber last (i :: is) = i :: is ↔
      Follows seqNumber last i ∧ accepted seqNumber (some i) is = is := by
  rw [accepted]
  by_cases hfollows : Follows seqNumber last i
  · rw [if_pos hfollows, List.singleton_append, List.cons.injEq, and_iff_right rfl,
      and_iff_right hfollows]
  · rw [if_neg hfollows, List.nil_append]
    refine iff_of_false (fun h => ?_) (fun h => hfollows h.1)
    have hle := (accepted_sublist seqNumber (some i) is).length_le
    rw [h, List.length_cons] at hle
    exact Nat.not_succ_le_self _ hle

theorem entries_traffic (seqNumber : UInt16) (side : Side) (last : Option ℕ)
    (events : List CallEvent) :
    Passage.entries (traffic seqNumber side last events) =
      accepted seqNumber last (events.filterMap (arrival side)) := by
  induction events generalizing last with
  | nil => rfl
  | cons e events ih =>
    rw [traffic, Passage.entries_append, ih]
    cases e with
    | callback side' opus_encode inBuf nFrames =>
      rw [passages]
      split_ifs <;> rfl
    | arrive side' i sender opus_decode =>
      by_cases hside : side' = side
      · have harrival : arrival side (.arrive side' i sender opus_decode) = some i := if_pos hside
        rw [passages, List.filterMap_cons_some harrival, harrival, accepted, Option.some_or]
        simp only [hside, true_and]
        split_ifs <;> rfl
      · have harrival : arrival side (.arrive side' i sender opus_decode) = none := if_neg hside
        rw [passages, List.filterMap_cons_none harrival, harrival, Option.none_or,
          if_neg (mt And.left hside)]
        rfl

/-- Where every packet is accepted, the events alone say what passes. -/
theorem traffic_of_accepted {seqNumber : UInt16} {side : Side} {last : Option ℕ}
    {events : List CallEvent}
    (h : accepted seqNumber last (events.filterMap (arrival side)) =
      events.filterMap (arrival side)) :
    traffic seqNumber side last events = events.filterMap (passage side) := by
  induction events generalizing last with
  | nil => rfl
  | cons e events ih =>
    cases e with
    | callback side' opus_encode inBuf nFrames =>
      rw [traffic, arrival, Option.none_or, ih h, passages, List.filterMap_cons, passage]
      by_cases hside : side' = side
      · rw [if_pos hside, if_pos hside]
        rfl
      · rw [if_neg hside, if_neg hside]
        rfl
    | arrive side' i sender opus_decode =>
      rw [traffic, passages, List.filterMap_cons, passage]
      by_cases hside : side' = side
      · have harrival : arrival side (.arrive side' i sender opus_decode) = some i := if_pos hside
        rw [List.filterMap_cons_some harrival, accepted_cons_iff] at h
        obtain ⟨hfollows, hrest⟩ := h
        rw [harrival, Option.some_or, ih hrest, if_pos ⟨hside, hfollows⟩, if_pos hside]
        rfl
      · have harrival : arrival side (.arrive side' i sender opus_decode) = none := if_neg hside
        rw [List.filterMap_cons_none harrival] at h
        rw [harrival, Option.none_or, ih h, if_neg (mt And.left hside), if_neg hside]
        rfl

/-- All that has come is accepted just where each number is one more than the last. -/
theorem accepted_eq_iff (seqNumber : UInt16) (is : List ℕ) :
    accepted seqNumber none is = is ↔ is.IsChain fun j i =>
      RtpPacker.number seqNumber i = RtpPacker.number seqNumber j + 1 := by
  cases is with
  | nil => exact iff_of_true rfl .nil
  | cons j is =>
    rw [accepted_cons_iff, and_iff_right (show Follows seqNumber none j from nofun)]
    induction is generalizing j with
    | nil => exact iff_of_true rfl (.singleton j)
    | cons i is ih =>
      rw [accepted_cons_iff, List.isChain_cons_cons, ih i]
      exact and_congr_left fun _ => follows_some_iff ..

/-- The number behind 65534 is 0. -/
theorem accepted_range_iff (seqNumber : UInt16) (k : ℕ) :
    accepted seqNumber none (List.range k) = List.range k ↔
      k ≤ 1 ∨ seqNumber.toNat + k ≤ 65535 := by
  have hlt := seqNumber.toNat_lt
  rw [accepted_eq_iff, List.isChain_iff_getElem]
  simp only [List.length_range, List.getElem_range, RtpPacker.number, Nat.succ_ne_zero, if_false]
  constructor
  · intro h
    by_contra hlong
    -- the packet behind 65534, or the second one where the first has 65535
    have hnext := h (65534 - seqNumber.toNat) (by omega)
    split_ifs at hnext <;> omega
  · intro h i hi
    rw [Nat.mod_eq_of_lt (by omega)]
    split_ifs with hzero
    · rw [hzero]
    · rw [Nat.mod_eq_of_lt (by omega), Nat.add_assoc]

theorem entries_passage (side : Side) (events : List CallEvent) :
    Passage.entries (events.filterMap (passage side)) = events.filterMap (arrival side) := by
  rw [Passage.entries, List.filterMap_filterMap]
  congr 1
  funext e
  cases e with
  | callback side' opus_encode inBuf nFrames =>
    rw [passage]
    split_ifs <;> rfl
  | arrive side' i sender opus_decode =>
    rw [passage, arrival]
    split_ifs <;> rfl

theorem exits_passage (side : Side) (events : List CallEvent) :
    Passage.exits (events.filterMap (passage side)) =
      (events.filterMap (callback side)).length := by
  induction events with
  | nil => rfl
  | cons e events ih =>
    rw [List.filterMap_cons, List.filterMap_cons]
    cases e with
    | callback side' opus_encode inBuf nFrames =>
      rw [passage, callback]
      split_ifs
      · exact (Passage.exits_leave _).trans (congrArg (· + 1) ih)
      · exact ih
    | arrive side' i sender opus_decode =>
      rw [passage, callback]
      split_ifs
      · exact ih
      · exact ih

theorem causal_le {side : Side} {events : List CallEvent} {k : ℕ} (h : Causal ch side events)
    (hperfect : events.filterMap (arrival side) = List.range k) :
    k ≤ (events.filterMap (captured ch side.other)).length := by
  cases k with
  | zero => exact Nat.zero_le _
  | succ k =>
    have hmem : k ∈ events.filterMap (arrival side) := hperfect ▸ List.self_mem_range_succ
    obtain ⟨e, he, hk⟩ := List.mem_filterMap.mp hmem
    obtain ⟨j, hj⟩ := List.getElem?_of_mem he
    exact (h j e hj k hk).trans_le ((List.take_sublist j events).filterMap _).length_le

theorem take_eq_map_range {frames : List Bytes} {k : ℕ} (h : k ≤ frames.length) :
    frames.take k = (List.range k).map fun i => frames.getD i [] := by
  refine List.ext_getElem (by simp [h]) fun i hi hi' => ?_
  rw [List.length_take] at hi
  rw [List.getElem_take, List.getElem_map, List.getElem_range,
    List.getD_eq_getElem _ _ (by omega)]

theorem tolerable_iff (side : Side) (events : List CallEvent) (m : ℕ) :
    Passage.Tolerable m 0 (events.filterMap (passage side)) ↔ ∀ w, w <:+: events →
      (w.filterMap (arrival side)).length ≤ (w.filterMap (callback side)).length + m := by
  simp only [Passage.tolerable_filterMap_iff, entries_passage, exits_passage]

theorem heard_all_iff {side : Side} {events : List CallEvent} {k : ℕ} {seqNumber : UInt16}
    (hperfect : events.filterMap (arrival side) = List.range k) (frame frame' : ℕ → Bytes) :
    (Backlog.left BUFFER_MAX_PACKETS [] (traffic seqNumber side none events) ++
          Backlog.waiting BUFFER_MAX_PACKETS [] (traffic seqNumber side none events)).map frame =
        (List.range k).map frame' ↔
      ((k ≤ 1 ∨ seqNumber.toNat + k ≤ 65535) ∧ ∀ w, w <:+: events →
        (w.filterMap (arrival side)).length ≤
          (w.filterMap (callback side)).length + BUFFER_MAX_PACKETS) ∧
      ∀ i < k, frame i = frame' i := by
  have hentries := entries_traffic seqNumber side none events
  have hheard := Backlog.sublist_entered (c := BUFFER_MAX_PACKETS) (q := [])
    (traffic seqNumber side none events)
  have hconserved := Backlog.conserved_iff (c := BUFFER_MAX_PACKETS) (q := [])
    (traffic seqNumber side none events) (by decide) (Nat.zero_le _)
  have haccepted := accepted_sublist seqNumber none (List.range k)
  rw [hperfect] at hentries
  rw [List.nil_append, hentries] at hheard hconserved
  constructor
  · intro hall
    have hlength := congrArg List.length hall
    rw [List.length_map, List.length_map] at hlength
    have hnumbers := haccepted.eq_of_length_le (hlength ▸ hheard.length_le)
    rw [hnumbers] at hheard hconserved
    have hwhole := hheard.eq_of_length hlength
    have htolerable := hconserved.mp hwhole
    rw [traffic_of_accepted (hperfect ▸ hnumbers)] at htolerable
    refine ⟨⟨(accepted_range_iff ..).mp hnumbers, (tolerable_iff ..).mp htolerable⟩, ?_⟩
    rw [hwhole, List.map_inj_left] at hall
    exact fun i hi => hall i (List.mem_range.mpr hi)
  · rintro ⟨⟨hnumbers, hwindows⟩, hframes⟩
    have hnumbers := (accepted_range_iff ..).mpr hnumbers
    have htolerable := (tolerable_iff ..).mpr hwindows
    rw [← traffic_of_accepted (hperfect ▸ hnumbers)] at htolerable
    rw [hconserved.mpr htolerable, hnumbers]
    exact List.map_congr_left fun i hi => hframes i (List.mem_range.mp hi)

/-! ## What is heard -/

section
variable {packer : Side → RtpPacker} {audio : Side → RtAudio} {inDev outDev : Side → Int32}
  {payloadType : UInt32} {s : Side → System}
  (hpt : payloadType = 10 ∨ payloadType = 11)
  (hstart : ∀ side, (System.new (packer side)).startUDP (audio side) (inDev side) (outDev side)
    payloadType = some (s side))
  (plat : Side → Platform) (addr : Side → Ipv4SocketAddress)
  (hn : frameBytes n (rawChannels payloadType) .INT16 ≤ 2048) {events : List CallEvent}
  (h : ∀ e ∈ events, OneSize n e)
include hpt hstart hn h

theorem exists_drive : ∃ os c', drive (step plat) (start s addr) events = .ok (os, c') := by
  obtain ⟨os, c', hrun, -⟩ := drive_of_history
    (Sound payloadType.toUInt8 (rawChannels payloadType) n) (OneSize n)
    (fun _ _ _ hc he => by
      obtain ⟨o, c', hstep, hc', -⟩ := sound_step plat (toUInt8_ne_opus hpt) hn hc he
      exact ⟨o, c', hstep, hc'⟩) h (sound_start hpt hstart addr hn)
  exact ⟨os, c', hrun⟩

variable {plat addr}

theorem drive_start_traffic {os : List (Option (Side × Playback))} {c' : Call} {side : Side}
    (hcausal : Causal (rawChannels payloadType) side events)
    (hrun : drive (step plat) (start s addr) events = .ok (os, c')) :
    os.filterMap (playback side) =
        (Backlog.left BUFFER_MAX_PACKETS []
          (traffic (packer side.other).seqNumber side none events)).map
          (fun i => (events.filterMap (captured (rawChannels payloadType) side.other)).getD i []) ∧
      (c' side).buffered =
        (Backlog.waiting BUFFER_MAX_PACKETS []
          (traffic (packer side.other).seqNumber side none events)).map
          fun i =>
            (events.filterMap (captured (rawChannels payloadType) side.other)).getD i [] := by
  have hsmall : payloadType.toUInt8.toNat < 128 := by rcases hpt with rfl | rfl <;> decide
  refine drive_traffic (p := (packer side.other).init payloadType.toUInt8) hsmall
    (toUInt8_ne_opus hpt) hn (sound_start hpt hstart addr hn) h ⟨?_, ?_, ?_⟩ hcausal hrun
  · exact congrArg Receiver.depacker (System.startUDP_receiver (hstart side))
  · obtain ⟨-, hsender, hpacker⟩ := System.startUDP_raw hpt (hstart side.other)
    rw [start, Peer.packed, Peer.sent, Peer.listening, hsender, hpacker]
    rfl
  · exact congrArg SimpleJB.dataBuffer (System.startUDP_app (hstart side)).2.2

variable (plat addr)

/-- The call refines the backlog: both sides play just what it lets out of their traffic, and what
it still holds is what they have waiting. -/
theorem plays_traffic (hcausal : ∀ side, Causal (rawChannels payloadType) side events) :
    ∃ os c', drive (step plat) (start s addr) events = .ok (os, c') ∧
      ∀ side,
        let frame := fun i =>
          (events.filterMap (captured (rawChannels payloadType) side.other)).getD i []
        let passed := traffic (packer side.other).seqNumber side none events
        os.filterMap (playback side) = (Backlog.left BUFFER_MAX_PACKETS [] passed).map frame ∧
          (c' side).buffered = (Backlog.waiting BUFFER_MAX_PACKETS [] passed).map frame := by
  obtain ⟨os, c', hrun⟩ := exists_drive hpt hstart plat addr hn h
  exact ⟨os, c', hrun, fun side => drive_start_traffic hpt hstart hn h (hcausal side) hrun⟩

/-- A network that neither loses nor repeats nor reorders: all that has come is heard in its turn
just where the numbers have not begun anew, and in no stretch of the call more than ten packets
come beyond the callbacks. -/
theorem plays_all_iff {side : Side} {k : ℕ}
    (hcausal : Causal (rawChannels payloadType) side events)
    (hperfect : events.filterMap (arrival side) = List.range k) :
    ∃ os c', drive (step plat) (start s addr) events = .ok (os, c') ∧
      (os.filterMap (playback side) ++ (c' side).buffered =
          (events.filterMap (captured (rawChannels payloadType) side.other)).take k ↔
        (k ≤ 1 ∨ (packer side.other).seqNumber.toNat + k ≤ 65535) ∧
          ∀ w, w <:+: events → (w.filterMap (arrival side)).length ≤
            (w.filterMap (callback side)).length + BUFFER_MAX_PACKETS) := by
  obtain ⟨os, c', hrun⟩ := exists_drive hpt hstart plat addr hn h
  obtain ⟨hleft, hwaiting⟩ := drive_start_traffic hpt hstart hn h hcausal hrun
  have hk := causal_le hcausal hperfect
  refine ⟨os, c', hrun, ?_⟩
  rw [hleft, hwaiting, ← List.map_append, take_eq_map_range hk]
  exact (heard_all_iff hperfect _ _).trans (and_iff_left fun i hi => rfl)

end

theorem causal_monologue (side : Side) : Causal 1 side monologue := by
  rintro (_ | _ | _ | _ | k) e he i hi
  · cases he; cases hi
  · cases he; cases side <;> cases hi; decide
  · cases he; cases side <;> cases hi; decide
  · cases he; cases hi
  · cases he

/-- The frame is heard once, and its copy is not. -/
theorem plays_traffic_monologue :
    ∃ s, (System.new (.new 1 8 7)).startUDP ⟨0, 1, some 512⟩ (-1) (-1) 11 = some s ∧
      ∃ os c', drive (step fun _ => .posix) (start (fun _ => s) fun _ => noAddress) monologue =
          .ok (os, c') ∧
        os.filterMap (playback .callee) = [[42, 42, 42, 42]] ∧ (c' .callee).buffered = [] := by
  obtain ⟨s, hstart⟩ := System.exists_startUDP_raw (.new 1 8 7) 512 (.inr rfl)
  have hsizes : ∀ e ∈ monologue, OneSize 2 e := by simp [monologue, OneSize, frames]
  obtain ⟨os, c', hrun, hplays⟩ := plays_traffic (.inr rfl) (fun _ => hstart) (fun _ => .posix)
    (fun _ => noAddress) (by decide) hsizes causal_monologue
  exact ⟨s, hstart, os, c', hrun, (hplays .callee).1, (hplays .callee).2⟩

/-- The caller says two frames, and both come. -/
def report : List CallEvent :=
  [.callback .caller (fun _ _ _ => ⟨0, []⟩) (fun _ => 42) 2,
    .arrive .callee 0 ⟨2, 0, 0⟩ fun _ _ => ⟨0, []⟩,
    .callback .caller (fun _ _ _ => ⟨0, []⟩) (fun _ => 43) 2,
    .callback .callee (fun _ _ _ => ⟨0, []⟩) (fun _ => 0) 2,
    .arrive .callee 1 ⟨2, 0, 0⟩ fun _ _ => ⟨0, []⟩]

theorem plays_all_iff_report :
    ∃ s, (System.new (.new 1 8 7)).startUDP ⟨0, 1, some 512⟩ (-1) (-1) 11 = some s ∧
      ∃ os c', drive (step fun _ => .posix) (start (fun _ => s) fun _ => noAddress) report =
          .ok (os, c') ∧
        os.filterMap (playback .callee) ++ (c' .callee).buffered =
          [[42, 42, 42, 42], [43, 43, 43, 43]] := by
  obtain ⟨s, hstart⟩ := System.exists_startUDP_raw (.new 1 8 7) 512 (.inr rfl)
  have hsizes : ∀ e ∈ report, OneSize 2 e := by simp [report, OneSize, frames]
  have hcausal : Causal 1 .callee report := by
    rintro (_ | _ | _ | _ | _ | k) e he i hi
    · cases he; cases hi
    · cases he; cases hi; decide
    · cases he; cases hi
    · cases he; cases hi
    · cases he; cases hi; decide
    · cases he
  obtain ⟨os, c', hrun, hall⟩ := plays_all_iff (.inr rfl) (fun _ => hstart) (fun _ => .posix)
    (fun _ => noAddress) (by decide) hsizes hcausal (k := 2) rfl
  refine ⟨s, hstart, os, c', hrun, hall.mpr ⟨.inr (by decide), fun w hw => ?_⟩⟩
  have hfew := (List.length_filterMap_le (arrival .callee) w).trans hw.length_le
  exact hfew.trans (Nat.le_add_left_of_le (show 5 ≤ BUFFER_MAX_PACKETS by decide))

end Call

end Voip
