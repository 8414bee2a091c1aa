import Voip.App.Conversation
import Voip.App.OpusFailure
import Voip.App.OpusPath

/-! An Opus call as one side hears it. The vector of its receive loop is as long as the packet
before, and what is behind that of a longer packet comes to the decoder as zeros. -/

namespace Voip

open Base

namespace OpusResult

/-- The decoder has written a whole frame. -/
def Whole (result : OpusResult Int16) : Prop := 0 < result.ret ∧ result.written.length = 960

def frame (result : OpusResult Int16) : Bytes := pcmBytes result.written

theorem length_frame {result : OpusResult Int16} (h : result.Whole) :
    result.frame.length = 1920 := by
  rw [frame, length_pcmBytes, h.2]

theorem decoded_of_whole (d : AudioDecoder) {result : OpusResult Int16} (h : result.Whole) :
    d.decoded result = result.frame := by
  have hout : (d.keep result).out = result.written :=
    copyTo_of_length_eq (h.2.trans d.out_length.symm)
  rw [AudioDecoder.decoded, hout, if_neg (Int.not_le.mpr h.1), frame]

end OpusResult

/-- A codec of one byte for a frame that begins in silence, and of two for any other. -/
def Codec.terse : Codec where
  E s := if s.head? = some 0 then [1] else [1, 7]
  D payload := List.replicate 960 (payload.getD 1 0).toUInt16.toInt16
  length_E s _ := by split_ifs <;> decide
  length_D _ := List.length_replicate

theorem Codec.terse_E (b : UInt8) :
    terse.E (pcmSamples (fun _ => b) 960) = if leSample b b = 0 then [1] else [1, 7] := by
  have hhead : (pcmSamples (fun _ => b) 960).head? = some (leSample b b) := by
    rw [pcmSamples, List.head?_map, List.head?_range]
    rfl
  simp only [terse, hhead, Option.some.injEq]

namespace Call

/-- What the encoder makes of what a callback of one side has captured. -/
def encoded (side : Side) : CallEvent → Option Bytes
  | .callback side' opus_encode inBuf _ =>
    if side' = side then some (opus_encode (pcmSamples inBuf 960) 480 1276).written else none
  | .arrive .. => none

/-- A callback has ten milliseconds, and the library encodes them. -/
def Encodes : CallEvent → Prop
  | .callback _ opus_encode inBuf nFrames =>
    let result := opus_encode (pcmSamples inBuf 960) 480 1276
    nFrames = 480 ∧ 0 < result.ret ∧ result.ret ≤ OPUS_MAX_SIZE ∧
      (result.written.length : Int) = result.ret
  | .arrive .. => True

/-- The room for a payload behind the arrival `last`. -/
def room (payloads : List Bytes) : Option ℕ → ℕ
  | none => 2048
  | some j => (payloads.getD j []).length

/-- What a decoder makes of the payload `i` behind the arrival `last`. -/
def decode (payloads : List Bytes) (last : Option ℕ) (i : ℕ) (opus_decode : OpusDecode) :
    OpusResult Int16 :=
  opus_decode (clip (room payloads last) (payloads.getD i [])) 960

theorem decode_of_le {payloads : List Bytes} {last : Option ℕ} {i : ℕ}
    (h : (payloads.getD i []).length ≤ room payloads last) (opus_decode : OpusDecode) :
    decode payloads last i opus_decode = opus_decode (payloads.getD i []) 960 := by
  rw [decode, clip_of_le h]

/-- The passages of one event, with what the packets are decoded to. -/
def decodePassages (payloads : List Bytes) (seqNumber : UInt16) (side : Side) (last : Option ℕ) :
    CallEvent → List (Passage (OpusResult Int16))
  | .callback side' _ _ _ => if side' = side then [.leave] else []
  | .arrive side' i _ opus_decode => if side' = side ∧ Follows seqNumber last i then
    [.enter (decode payloads last i opus_decode)] else []

def decodeTraffic (payloads : List Bytes) (seqNumber : UInt16) (side : Side) :
    Option ℕ → List CallEvent → List (Passage (OpusResult Int16))
  | _, [] => []
  | last, e :: events =>
    decodePassages payloads seqNumber side last e ++
      decodeTraffic payloads seqNumber side ((arrival side e).or last) events

variable {plat : Side → Platform} {c c' : Call} {e : CallEvent} {o : Option (Side × Playback)}

theorem succeeds_of_encodes (he : Encodes e) : ∀ head ∈ capture e, head.Succeeds := by
  intro head hhead
  cases e with
  | callback side opus_encode inBuf nFrames =>
    obtain ⟨rfl, hpos, -⟩ := he
    obtain rfl := Option.some.inj hhead
    exact ⟨show 1920 ≤ capturedBytes 480 by decide, hpos⟩
  | arrive side i sender opus_decode => cases hhead

/-- All that one step can do in an Opus call whose encoders do not fail. -/
theorem opus_step_cases (hc : Audible c) (he : Encodes e) (h : step plat c e = .ok (o, c')) :
    (∃ side opus_encode inBuf nFrames playback p', e = .callback side opus_encode inBuf nFrames ∧
        o = some (side, playback) ∧ c' = Function.update c side p' ∧
        p'.system.receiver = (c side).system.receiver ∧ p'.endpoint = (c side).endpoint ∧
        p'.sent.length = (c side).sent.length + 1 ∧
        (∀ payloads, p'.packed payloads = (c side).packed
          ((opus_encode (pcmSamples inBuf 960) 480 1276).written :: payloads)) ∧
        p'.buffered = (c side).buffered.tail ∧
        ((∀ frame ∈ (c side).buffered, frame.length = 1920) →
          (if playback.hadData then some playback.result.toOut else none) =
            (c side).buffered.head?)) ∨
      ∃ side i sender opus_decode, e = .arrive side i sender opus_decode ∧ o = none ∧
        ((c side.other).sent[i]? = none ∧ c' = c ∨
          ∃ packet p', (c side.other).sent[i]? = some packet ∧ c' = Function.update c side p' ∧
            12 < packet.length ∧ p'.sent = (c side).sent ∧
            (∀ payloads, p'.packed payloads = (c side).packed payloads) ∧
            p'.endpoint.data.size = packet.length ∧
            ∀ s : Session, (c side).system.receiver.depacker = s.toDepacker →
              p'.system.receiver.depacker =
                (s.receive OPUS_PAYLOADTYPE packet).2.toDepacker ∧
              p'.system.playout = (c side).system.playout.hear
                ((s.receive OPUS_PAYLOADTYPE packet).1.map fun data =>
                  (c side).system.receiver.decoder.decoded
                    (opus_decode (clip ((c side).endpoint.data.size - 12) data) 960))) := by
  cases e with
  | callback side opus_encode inBuf nFrames =>
    obtain ⟨rfl, hpos, hmax, hlength⟩ := he
    left
    obtain ⟨result, p', hstep, -, hreceiver, hendpoint, hsent, hpacker, hbuffered, htoOut⟩ :=
      Peer.step_callback_opus (plat side) (hc side).toOpusPeer opus_encode inBuf
        (show 1920 ≤ capturedBytes 480 by decide)
    have hfinish := ((c side).system.playout.app.encoder.finish_produced
      (.inr ⟨hmax, hlength⟩)).trans (if_neg (Int.not_le.mpr hpos))
    rw [hfinish] at hsent hpacker
    rw [step, hstep] at h
    obtain ⟨rfl, rfl⟩ := Prod.mk.inj (Except.ok.inj h)
    refine ⟨side, opus_encode, inBuf, 480, _, p', rfl, rfl, rfl, hreceiver, hendpoint, ?_, ?_,
      hbuffered, ?_⟩
    · rw [hsent, List.length_append, List.length_singleton]
    · intro payloads
      rw [Peer.packed, hsent, hpacker, List.append_assoc]
      rfl
    · intro hwhole
      rw [SimpleJB.hasData]
      cases hqueue : (c side).buffered with
      | nil =>
        rw [show (c side).system.playout.app.jitterBuffer.dataBuffer = [] from hqueue]
        rfl
      | cons frame rest =>
        have hlength := hwhole frame (hqueue ▸ List.mem_cons_self ..)
        rw [show (c side).system.playout.app.jitterBuffer.dataBuffer = frame :: rest from hqueue,
          htoOut frame (by rw [hqueue]; rfl) hlength]
        rfl
  | arrive side i sender opus_decode =>
    refine .inr ⟨side, i, sender, opus_decode, rfl, ?_⟩
    cases hpacket : (c side.other).sent[i]? with
    | none =>
      rw [step, hpacket] at h
      obtain ⟨rfl, rfl⟩ := Prod.mk.inj (Except.ok.inj h)
      exact ⟨rfl, .inl ⟨rfl, rfl⟩⟩
    | some packet =>
      obtain ⟨hlong, hshort⟩ := (hc side.other).sent packet (List.mem_of_getElem? hpacket)
      obtain ⟨s, hs⟩ := (hc side).session
      obtain ⟨p', hstep, -, hsize, hdepacker, hplayout⟩ := Peer.step_read_opus (plat side)
        (hc side).toOpusPeer hs hlong hshort sender opus_decode
      rw [step, hpacket] at h
      simp only [hstep, ok_bind, pure_eq_ok, Except.ok.injEq, Prod.mk.injEq] at h
      obtain ⟨rfl, rfl⟩ := h
      have hsent : p'.sent = (c side).sent := by
        rw [Peer.sent, hplayout, Playout.sender_hear, Peer.sent]
      refine ⟨rfl, .inr ⟨packet, p', rfl, rfl, hlong, hsent, ?_, hsize, ?_⟩⟩
      · intro payloads
        rw [Peer.packed, hsent, hplayout, Playout.packer_hear]
        rfl
      · intro s' hs'
        obtain rfl := Session.toDepacker_injective (hs.symm.trans hs')
        exact ⟨hdepacker, hplayout⟩

theorem opus_packed_step (hc : Audible c) (he : Encodes e) (h : step plat c e = .ok (o, c'))
    (side : Side) (payloads : List Bytes) :
    (c' side).packed payloads = (c side).packed ((encoded side e).toList ++ payloads) ∧
      (c' side).sent.length = (c side).sent.length + (encoded side e).toList.length := by
  obtain ⟨x, opus_encode, inBuf, -, -, p', rfl, -, rfl, -, -, hsent, hpacked, -⟩ |
    ⟨x, -, -, -, rfl, -, ⟨-, rfl⟩ | ⟨-, p', -, rfl, -, hsent, hpacked, -⟩⟩ :=
      opus_step_cases hc he h
  · by_cases hx : x = side
    · subst hx
      rw [Function.update_self, hpacked, hsent, encoded, if_pos rfl]
      exact ⟨rfl, rfl⟩
    · rw [Function.update_of_ne (Ne.symm hx), encoded, if_neg hx]
      exact ⟨rfl, rfl⟩
  · exact ⟨rfl, rfl⟩
  · by_cases hx : x = side
    · subst hx
      rw [Function.update_self, hpacked, hsent]
      exact ⟨rfl, rfl⟩
    · rw [Function.update_of_ne (Ne.symm hx)]
      exact ⟨rfl, rfl⟩

/-- With these events to come, the session and the vector are behind the arrival `last`, and the
frames of `queue` wait. -/
structure Decodes (p : RtpPacker) (payloads : List Bytes) (side : Side) (events : List CallEvent)
    (last : Option ℕ) (queue : List (OpusResult Int16)) (c : Call) : Prop where
  session : (c side).system.receiver.depacker = (Session.behind p last).toDepacker
  size : (c side).endpoint.data.size = 12 + room payloads last
  packed : (c side.other).packed (events.filterMap (encoded side.other)) = p.packAll payloads
  buffered : (c side).buffered = queue.map OpusResult.frame
  whole : ∀ result ∈ queue, result.Whole

section
variable {p : RtpPacker} {payloads : List Bytes} {side : Side} {events : List CallEvent}
  {last : Option ℕ} {queue : List (OpusResult Int16)}

theorem Decodes.getElem?_packAll {i : ℕ} (hd : Decodes p payloads side events last queue c)
    {packet : Bytes} (h : (c side.other).sent[i]? = some packet) :
    (p.packAll payloads)[i]? = some packet := by
  obtain ⟨hi, -⟩ := List.getElem?_eq_some_iff.mp h
  rw [← hd.packed, Peer.packed, List.getElem?_append_left hi, h]

theorem Decodes.length_buffered (hd : Decodes p payloads side events last queue c) :
    ∀ frame ∈ (c side).buffered, frame.length = 1920 := by
  rw [hd.buffered]
  intro frame hframe
  obtain ⟨result, hresult, rfl⟩ := List.mem_map.mp hframe
  exact OpusResult.length_frame (hd.whole result hresult)

theorem buffered_decoded {playout : Playout} {result : OpusResult Int16} (d : AudioDecoder)
    (h : playout.app.jitterBuffer.dataBuffer = queue.map OpusResult.frame) (hwhole : result.Whole) :
    (playout.hear (some (d.decoded result))).app.jitterBuffer.dataBuffer =
      (Backlog.waiting BUFFER_MAX_PACKETS queue [.enter result]).map OpusResult.frame := by
  rw [Playout.hear, SimpleJB.add, h, OpusResult.decoded_of_whole d hwhole, List.length_map]
  change _ = ((if queue.length = BUFFER_MAX_PACKETS then [] else queue) ++ [result]).map _
  rw [List.map_append, apply_ite (List.map OpusResult.frame)]
  rfl

theorem whole_waiting {fs : List (Passage (OpusResult Int16))}
    (hqueue : ∀ result ∈ queue, result.Whole) (hfs : ∀ result ∈ Passage.entries fs, result.Whole) :
    ∀ result ∈ Backlog.waiting BUFFER_MAX_PACKETS queue fs, result.Whole := by
  intro result hresult
  have hentered := (Backlog.sublist_entered (c := BUFFER_MAX_PACKETS) (q := queue) fs).subset
    (List.mem_append_right _ hresult)
  exact (List.mem_append.mp hentered).elim (hqueue result) (hfs result)

/-- A step of an Opus call is a step of the backlog, as one side hears it. -/
theorem decodes_step (hpt : p.payloadType = OPUS_PAYLOADTYPE) (hc : Audible c) (he : Encodes e)
    (hd : Decodes p payloads side (e :: events) last queue c)
    (hcausal : ∀ i ∈ arrival side e, i < (c side.other).sent.length)
    (hwhole : ∀ result ∈ Passage.entries (decodePassages payloads p.seqNumber side last e),
      result.Whole)
    (h : step plat c e = .ok (o, c')) :
    (playback side o).toList = (Backlog.left BUFFER_MAX_PACKETS queue
        (decodePassages payloads p.seqNumber side last e)).map OpusResult.frame ∧
      Decodes p payloads side events ((arrival side e).or last)
        (Backlog.waiting BUFFER_MAX_PACKETS queue
          (decodePassages payloads p.seqNumber side last e)) c' := by
  have hpacked : (c' side.other).packed (events.filterMap (encoded side.other)) =
      p.packAll payloads := by
    rw [(opus_packed_step hc he h _ _).1, ← hd.packed, List.filterMap_cons]
    cases encoded side.other e <;> rfl
  have hwaiting := whole_waiting hd.whole hwhole
  obtain ⟨x, opus_encode, inBuf, nFrames, played, p', rfl, rfl, rfl, hreceiver, hendpoint, -, -,
      htail, hhead⟩ |
    ⟨x, i, sender, opus_decode, rfl, rfl, harrive⟩ := opus_step_cases hc he h
  · by_cases hx : x = side
    · subst hx
      have hqueue := hd.buffered
      rw [decodePassages, if_pos rfl] at hwaiting ⊢
      refine ⟨?_, ?_, ?_, hpacked, ?_, hwaiting⟩
      · rw [playback, Backlog.left_leave]
        simp only [true_and, hhead hd.length_buffered, hqueue]
        cases queue <;> rfl
      · rw [Function.update_self, hreceiver, hd.session]
        rfl
      · rw [Function.update_self, hendpoint, hd.size]
        rfl
      · rw [Function.update_self, htail, hqueue, ← List.map_tail]
        rfl
    · rw [decodePassages, if_neg hx] at hwaiting ⊢
      refine ⟨?_, ?_, ?_, hpacked, ?_, hwaiting⟩
      · rw [playback, if_neg (mt And.left hx)]
        rfl
      · rw [Function.update_of_ne (Ne.symm hx), hd.session]
        rfl
      · rw [Function.update_of_ne (Ne.symm hx), hd.size]
        rfl
      · rw [Function.update_of_ne (Ne.symm hx), hd.buffered]
        rfl
  · by_cases hx : x = side
    · subst hx
      rcases harrive with ⟨hnone, -⟩ | ⟨packet, p', hpacket, rfl, hlong, -, -, hsize, hreceive⟩
      · have hsent := hcausal i (if_pos rfl)
        exact absurd hnone (by
          rw [List.getElem?_eq_getElem hsent]
          exact Option.some_ne_none _)
      · obtain ⟨hdepacker, hplayout⟩ := hreceive _ hd.session
        have hin := hd.getElem?_packAll hpacket
        have hdrop := (RtpPacker.getElem?_packAll hin).2
        rw [← hpt, Session.receive_packAll (by rw [hpt]; decide) hin] at hdepacker hplayout
        rw [hd.size, Nat.add_sub_cancel_left] at hplayout
        refine ⟨?_, ?_, ?_, hpacked, ?_, hwaiting⟩
        · rw [decodePassages]
          split_ifs <;> rfl
        · rw [Function.update_self, hdepacker, arrival, if_pos rfl]
          rfl
        · rw [Function.update_self, hsize, arrival, if_pos rfl, Option.some_or, room, ← hdrop,
            List.length_drop]
          omega
        · rw [Function.update_self, Peer.buffered, hplayout]
          by_cases hfollows : Follows p.seqNumber last i
          · have hpassages : decodePassages payloads p.seqNumber x last
                (.arrive x i sender opus_decode) = [.enter (decode payloads last i opus_decode)] :=
              if_pos ⟨rfl, hfollows⟩
            rw [hpassages] at hwhole ⊢
            rw [if_pos hfollows]
            exact buffered_decoded _ hd.buffered (hwhole _ (List.mem_singleton.mpr rfl))
          · rw [decodePassages, if_neg (mt And.right hfollows), if_neg hfollows]
            exact hd.buffered
    · have hx' : c' side = c side := by
        rcases harrive with ⟨-, rfl⟩ | ⟨-, p', -, rfl, -⟩
        · rfl
        · exact Function.update_of_ne (Ne.symm hx) ..
      rw [decodePassages, if_neg (mt And.left hx)] at hwaiting ⊢
      rw [arrival, if_neg hx, Option.none_or]
      refine ⟨rfl, ?_, ?_, hpacked, ?_, hwaiting⟩
      · rw [hx', hd.session]
      · rw [hx', hd.size]
      · rw [hx', hd.buffered]
        rfl

/-- What one side plays, and what it has waiting, is what the backlog lets out and holds. -/
theorem drive_decodeTraffic {os : List (Option (Side × Playback))}
    (hpt : p.payloadType = OPUS_PAYLOADTYPE) (hc : Audible c) (he : ∀ e ∈ events, Encodes e)
    (hd : Decodes p payloads side events last queue c)
    (hcausal : ∀ j e, events[j]? = some e → ∀ i ∈ arrival side e,
      i < (c side.other).sent.length + ((events.take j).filterMap (encoded side.other)).length)
    (hwhole : ∀ result ∈ Passage.entries (decodeTraffic payloads p.seqNumber side last events),
      result.Whole)
    (h : drive (step plat) c events = .ok (os, c')) :
    os.filterMap (playback side) = (Backlog.left BUFFER_MAX_PACKETS queue
        (decodeTraffic payloads p.seqNumber side last events)).map OpusResult.frame ∧
      (c' side).buffered = (Backlog.waiting BUFFER_MAX_PACKETS queue
        (decodeTraffic payloads p.seqNumber side last events)).map OpusResult.frame := by
  have hrefines := Backlog.drive_refines (c := BUFFER_MAX_PACKETS)
    (playback side) OpusResult.frame (fun last e => (arrival side e).or last)
    (decodePassages payloads p.seqNumber side) (decodeTraffic payloads p.seqNumber side)
    (fun _ => rfl) (fun _ _ _ => rfl)
    (fun events last queue c => Audible c ∧ (∀ e ∈ events, Encodes e) ∧
      (∀ j e, events[j]? = some e → ∀ i ∈ arrival side e,
        i < (c side.other).sent.length +
          ((events.take j).filterMap (encoded side.other)).length) ∧
      (∀ result ∈ Passage.entries (decodeTraffic payloads p.seqNumber side last events),
        result.Whole) ∧
      Decodes p payloads side events last queue c) ?_ ⟨hc, he, hcausal, hwhole, hd⟩ h
  · obtain ⟨hleft, _, -, -, -, -, hd'⟩ := hrefines
    exact ⟨hleft, hd'.buffered⟩
  rintro e events last queue c o c' ⟨hc, he, hcausal, hwhole, hd⟩ hstep
  obtain ⟨hfirst, hlater⟩ := List.forall_mem_cons.mp he
  obtain ⟨o', c₁, hstep', hc₁⟩ := audible_step hc plat (succeeds_of_encodes hfirst)
  obtain ⟨rfl, rfl⟩ := Prod.mk.inj (Except.ok.inj (hstep.symm.trans hstep'))
  rw [decodeTraffic, Passage.entries_append] at hwhole
  obtain ⟨hnow, hthen⟩ := List.forall_mem_append.mp hwhole
  obtain ⟨hplayed, hd₁⟩ := decodes_step hpt hc hfirst hd (hcausal 0 e rfl) hnow hstep
  have hsent := (opus_packed_step hc hfirst hstep side.other []).2
  refine ⟨hplayed, hc₁, hlater, fun j e' hj i hi => ?_, hthen, hd₁⟩
  have hlt := hcausal (j + 1) e' hj i hi
  rw [List.take_succ_cons, List.filterMap_cons] at hlt
  cases hencoded : encoded side.other e with
  | none =>
    rw [hencoded] at hlt hsent
    exact hsent ▸ hlt
  | some payload =>
    rw [hencoded] at hlt hsent
    refine hlt.trans_eq ?_
    rw [hsent, List.length_cons, Option.toList_some, List.length_singleton]
    omega

end

/-! ## A network that loses nothing -/

/-- What has come before the packet `i`. -/
def before : ℕ → Option ℕ
  | 0 => none
  | i + 1 => some i

def decoder (side : Side) : CallEvent → Option OpusDecode
  | .callback .. => none
  | .arrive side' _ _ opus_decode => if side' = side then some opus_decode else none

theorem isSome_encoded (ch : UInt32) (side : Side) (e : CallEvent) :
    (encoded side e).isSome = (captured ch side e).isSome := by
  cases e with
  | callback side' opus_encode inBuf nFrames =>
    rw [encoded, captured]
    split_ifs <;> rfl
  | arrive side' i sender opus_decode => rfl

theorem isSome_decoder (side : Side) (e : CallEvent) :
    (decoder side e).isSome = (arrival side e).isSome := by
  cases e with
  | callback side' opus_encode inBuf nFrames => rfl
  | arrive side' i sender opus_decode =>
    rw [decoder, arrival]
    split_ifs <;> rfl

theorem length_encoded (ch : UInt32) (side : Side) (events : List CallEvent) :
    (events.filterMap (encoded side)).length = (events.filterMap (captured ch side)).length := by
  simp only [List.length_filterMap_eq_countP, isSome_encoded ch]

theorem length_decoder (side : Side) (events : List CallEvent) :
    (events.filterMap (decoder side)).length = (events.filterMap (arrival side)).length := by
  simp only [List.length_filterMap_eq_countP, isSome_decoder]

def noDecoder : OpusDecode := fun _ _ => ⟨0, []⟩

/-- Where the packets come in order, the events alone say what each is decoded to. -/
theorem decodeTraffic_of_range {payloads : List Bytes} {seqNumber : UInt16} {side : Side}
    {events : List CallEvent} {decoders : List OpusDecode} {j n : ℕ}
    (h : events.filterMap (arrival side) = List.range' j n)
    (hdecoders : events.filterMap (decoder side) = decoders.drop j) :
    decodeTraffic payloads seqNumber side (before j) events =
      (traffic seqNumber side (before j) events).map
        (Passage.map fun i => decode payloads (before i) i (decoders.getD i noDecoder)) := by
  induction events generalizing j n with
  | nil => rfl
  | cons e events ih =>
    rw [decodeTraffic, traffic, List.map_append]
    cases e with
    | callback side' opus_encode inBuf nFrames =>
      rw [decodePassages, passages, arrival, Option.none_or, ih h hdecoders]
      split_ifs <;> rfl
    | arrive side' i sender opus_decode =>
      by_cases hside : side' = side
      · have harrival : arrival side (.arrive side' i sender opus_decode) = some i := if_pos hside
        have hdecoder : decoder side (.arrive side' i sender opus_decode) = some opus_decode :=
          if_pos hside
        rw [List.filterMap_cons_some harrival] at h
        rw [List.filterMap_cons_some hdecoder] at hdecoders
        obtain ⟨rfl, -, hrest⟩ := List.range'_eq_cons_iff.mp h.symm
        have hget : decoders.getD j noDecoder = opus_decode := by
          rw [List.getD_eq_getElem?_getD, ← Nat.add_zero j, ← List.getElem?_drop, ← hdecoders]
          rfl
        have htail : events.filterMap (decoder side) = decoders.drop (j + 1) := by
          rw [← List.tail_drop, ← hdecoders, List.tail_cons]
        rw [harrival, Option.some_or, show some j = before (j + 1) from rfl, ih hrest htail,
          decodePassages, passages]
        split_ifs
        · rw [List.map_singleton, Passage.map, hget]
        · rfl
      · have harrival : arrival side (.arrive side' i sender opus_decode) = none := if_neg hside
        have hdecoder : decoder side (.arrive side' i sender opus_decode) = none := if_neg hside
        rw [List.filterMap_cons_none harrival] at h
        rw [List.filterMap_cons_none hdecoder] at hdecoders
        rw [harrival, Option.none_or, ih h hdecoders, decodePassages, passages,
          if_neg (mt And.left hside), if_neg (mt And.left hside)]
        rfl

theorem zipWith_eq_map_range {decoders : List OpusDecode} {payloads : List Bytes} {n : ℕ}
    (hdecoders : decoders.length = n) (hpayloads : n ≤ payloads.length)
    (f : OpusDecode → Bytes → Bytes) :
    List.zipWith f decoders payloads =
      (List.range n).map fun i => f (decoders.getD i noDecoder) (payloads.getD i []) := by
  refine List.ext_getElem ?_ fun i hi hi' => ?_
  · rw [List.length_zipWith, List.length_map, List.length_range, hdecoders,
      Nat.min_eq_left hpayloads]
  · rw [List.length_map, List.length_range] at hi'
    rw [List.getElem_zipWith, List.getElem_map, List.getElem_range,
      List.getD_eq_getElem _ _ (hi'.trans_eq hdecoders.symm),
      List.getD_eq_getElem _ _ (hi'.trans_le hpayloads)]

theorem length_encoded_le {side : Side} {events : List CallEvent} (h : ∀ e ∈ events, Encodes e)
    (i : ℕ) : ((events.filterMap (encoded side)).getD i []).length ≤ OPUS_MAX_SIZE := by
  rcases Nat.lt_or_ge i (events.filterMap (encoded side)).length with hi | hi
  · rw [List.getD_eq_getElem _ _ hi]
    obtain ⟨e, he, hpayload⟩ := List.mem_filterMap.mp (List.getElem_mem hi)
    cases e with
    | callback side' opus_encode inBuf nFrames =>
      obtain ⟨-, -, hmax, hlength⟩ := h _ he
      rw [encoded] at hpayload
      split_ifs at hpayload
      rw [← Option.some.inj hpayload]
      omega
    | arrive side' i sender opus_decode => cases hpayload
  · rw [List.getD_eq_default _ _ hi]
    exact Nat.zero_le _

/-! ## What is heard -/

section
variable {packer : Side → RtpPacker} {audio : Side → RtAudio} {inDev outDev : Side → Int32}
  {s : Side → System}
  (hstart : ∀ side, (System.new (packer side)).startUDP (audio side) (inDev side) (outDev side)
    100 = some (s side))
  (plat : Side → Platform) (addr : Side → Ipv4SocketAddress) {events : List CallEvent}
  (h : ∀ e ∈ events, Encodes e)
include hstart

theorem audible_start : Audible (start s addr) := by
  intro side
  obtain ⟨hpeer, hsent, hfresh⟩ := opusPeer_listening (hstart side) (addr side)
  refine ⟨hpeer, ⟨.fresh, hfresh⟩, ?_⟩
  rw [start, hsent]
  exact List.forall_mem_nil _

theorem decodes_start (side : Side) (events : List CallEvent) :
    Decodes ((packer side.other).init OPUS_PAYLOADTYPE)
      (events.filterMap (encoded side.other)) side events none [] (start s addr) := by
  have hsent := (opusPeer_listening (hstart side.other) (addr side.other)).2.1
  obtain ⟨channels, sampleRate, frameSize, -, -, happ⟩ := System.startUDP_cases (hstart side.other)
  refine ⟨?_, rfl, ?_, ?_, nofun⟩
  · exact congrArg Receiver.depacker (System.startUDP_receiver (hstart side))
  · rw [start, Peer.packed, hsent, List.nil_append]
    exact congrArg (fun app : VoIPComm =>
      app.packer.packAll (events.filterMap (encoded side.other))) happ
  · exact congrArg SimpleJB.dataBuffer (System.startUDP_app (hstart side)).2.2

include h

theorem exists_drive_opus : ∃ os c', drive (step plat) (start s addr) events = .ok (os, c') := by
  obtain ⟨os, c', hrun, -⟩ := drive_of_invariant Audible Encodes
    (fun c e hc he => audible_step hc plat (succeeds_of_encodes he)) h (audible_start hstart addr)
  exact ⟨os, c', hrun⟩

variable {plat addr}

theorem drive_start_decodeTraffic {os : List (Option (Side × Playback))} {c' : Call} {side : Side}
    (hcausal : Causal 2 side events)
    (hwhole : ∀ result ∈ Passage.entries (decodeTraffic (events.filterMap (encoded side.other))
      (packer side.other).seqNumber side none events), result.Whole)
    (hrun : drive (step plat) (start s addr) events = .ok (os, c')) :
    let passed := decodeTraffic (events.filterMap (encoded side.other))
      (packer side.other).seqNumber side none events
    os.filterMap (playback side) =
        (Backlog.left BUFFER_MAX_PACKETS [] passed).map OpusResult.frame ∧
      (c' side).buffered =
        (Backlog.waiting BUFFER_MAX_PACKETS [] passed).map OpusResult.frame := by
  refine drive_decodeTraffic (p := (packer side.other).init OPUS_PAYLOADTYPE) rfl
    (audible_start hstart addr) h (decodes_start hstart addr side events) (fun j e he i hi => ?_)
    hwhole hrun
  rw [length_encoded 2]
  exact (hcausal j e he i hi).trans_le (Nat.le_add_left ..)

variable (plat addr)

/-- An Opus call refines the backlog: both sides play just what it lets out of their traffic. Of a
packet longer than the one that came before it, the decoder has zeros for the end. -/
theorem opus_plays_traffic (hcausal : ∀ side, Causal 2 side events)
    (hwhole : ∀ side : Side, ∀ result ∈ Passage.entries (decodeTraffic
      (events.filterMap (encoded side.other)) (packer side.other).seqNumber side none events),
      result.Whole) :
    ∃ os c', drive (step plat) (start s addr) events = .ok (os, c') ∧
      ∀ side,
        let passed := decodeTraffic (events.filterMap (encoded side.other))
          (packer side.other).seqNumber side none events
        os.filterMap (playback side) =
            (Backlog.left BUFFER_MAX_PACKETS [] passed).map OpusResult.frame ∧
          (c' side).buffered =
            (Backlog.waiting BUFFER_MAX_PACKETS [] passed).map OpusResult.frame := by
  obtain ⟨os, c', hrun⟩ := exists_drive_opus hstart plat addr h
  exact ⟨os, c', hrun,
    fun side => drive_start_decodeTraffic hstart h (hcausal side) (hwhole side) hrun⟩

/-- A network that neither loses nor repeats nor reorders: each packet is heard as its decoder has
it just where the raw frames would be, and no packet comes to anything else when it ends in zeros
behind the length of the one before. -/
theorem opus_plays_all_iff {side : Side} {n : ℕ} (hcausal : Causal 2 side events)
    (hperfect : events.filterMap (arrival side) = List.range n) :
    let payloads := events.filterMap (encoded side.other)
    let decoders := events.filterMap (decoder side)
    (∀ result ∈ Passage.entries
        (decodeTraffic payloads (packer side.other).seqNumber side none events), result.Whole) →
      ∃ os c', drive (step plat) (start s addr) events = .ok (os, c') ∧
        (os.filterMap (playback side) ++ (c' side).buffered =
            List.zipWith (fun opus_decode payload => (opus_decode payload 960).frame)
              decoders payloads ↔
          ((n ≤ 1 ∨ (packer side.other).seqNumber.toNat + n ≤ 65535) ∧
            ∀ w, w <:+: events → (w.filterMap (arrival side)).length ≤
              (w.filterMap (callback side)).length + BUFFER_MAX_PACKETS) ∧
          ∀ i opus_decode, decoders[i + 1]? = some opus_decode →
            let payload := payloads.getD (i + 1) []
            (opus_decode (clip (payloads.getD i []).length payload) 960).written =
              (opus_decode payload 960).written) := by
  intro payloads decoders hwhole
  obtain ⟨os, c', hrun⟩ := exists_drive_opus hstart plat addr h
  obtain ⟨hleft, hwaiting⟩ := drive_start_decodeTraffic hstart h hcausal hwhole hrun
  have hpayloads : n ≤ payloads.length := by
    rw [length_encoded 2]
    exact causal_le hcausal hperfect
  have hdecoders : decoders.length = n := by
    rw [length_decoder, hperfect, List.length_range]
  have htraffic : decodeTraffic payloads (packer side.other).seqNumber side (before 0) events = _ :=
    decodeTraffic_of_range (hperfect.trans List.range_eq_range') (Eq.refl (decoders.drop 0))
  refine ⟨os, c', hrun, ?_⟩
  rw [hleft, hwaiting, show none = before 0 from rfl, htraffic, ← List.map_nil,
    Backlog.left_map, Backlog.waiting_map, ← List.map_append, ← List.map_append,
    List.map_map, zipWith_eq_map_range hdecoders hpayloads]
  refine (heard_all_iff hperfect _ _).trans (and_congr_right' ?_)
  constructor
  · intro hheard i opus_decode hget
    have hlt : i + 1 < n := hdecoders ▸ (List.getElem?_eq_some_iff.mp hget).1
    have hdecoder : decoders.getD (i + 1) noDecoder = opus_decode := by
      rw [List.getD_eq_getElem?_getD, hget, Option.getD_some]
    have hframe := pcmBytes_injective (hheard (i + 1) hlt)
    rw [hdecoder] at hframe
    exact hdecoder ▸ hframe
  · intro hends i hi
    cases i with
    | zero =>
      have hmax : OPUS_MAX_SIZE ≤ 2048 := by decide
      have hroom : (payloads.getD 0 []).length ≤ room payloads none :=
        (length_encoded_le h 0).trans hmax
      exact congrArg OpusResult.frame (decode_of_le hroom _)
    | succ i =>
      have hlt := hi.trans_eq hdecoders.symm
      rw [Function.comp_apply, List.getD_eq_getElem _ _ hlt]
      exact congrArg pcmBytes (hends i _ (List.getElem?_eq_getElem hlt))

end

theorem encodes_codec (k : Codec) (side : Side) (inBuf : ℕ → UInt8) :
    Encodes (.callback side k.opus_encode inBuf 480) := by
  obtain ⟨hpos, hmax⟩ := k.length_E _ (length_pcmSamples inBuf 960)
  exact ⟨rfl, Int.natCast_pos.mpr hpos, Int.ofNat_le.mpr hmax, rfl⟩

theorem whole_codec (k : Codec) (data : Bytes) (frame_size : ℕ) :
    (k.opus_decode data frame_size).Whole :=
  ⟨show (0 : Int) < 480 by decide, k.length_D data⟩

/-- Whatever comes to a codec that never fails, it decodes. -/
theorem whole_decodeTraffic {k : Codec} {side : Side} {events : List CallEvent}
    (h : ∀ e ∈ events, ∀ opus_decode ∈ decoder side e, opus_decode = k.opus_decode)
    (payloads : List Bytes) (seqNumber : UInt16) (last : Option ℕ) :
    ∀ result ∈ Passage.entries (decodeTraffic payloads seqNumber side last events),
      result.Whole := by
  induction events generalizing last with
  | nil => exact nofun
  | cons e events ih =>
    obtain ⟨hfirst, hlater⟩ := List.forall_mem_cons.mp h
    rw [decodeTraffic, Passage.entries_append]
    refine List.forall_mem_append.mpr ⟨?_, ih hlater _⟩
    cases e with
    | callback side' opus_encode inBuf nFrames =>
      rw [decodePassages]
      split_ifs <;> exact nofun
    | arrive side' i sender opus_decode =>
      rw [decodePassages]
      split_ifs with hpasses
      · intro result hresult
        obtain rfl := List.mem_singleton.mp hresult
        rw [decode, hfirst opus_decode (if_pos hpasses.1)]
        exact whole_codec ..
      · exact nofun

/-- The caller says two frames, and both come. -/
def remark (k : Codec) : List CallEvent :=
  [.callback .caller k.opus_encode (fun _ => 0) 480,
    .callback .caller k.opus_encode (fun _ => 42) 480,
    .arrive .callee 0 ⟨2, 0, 0⟩ k.opus_decode, .arrive .callee 1 ⟨2, 0, 0⟩ k.opus_decode,
    .callback .callee k.opus_encode (fun _ => 0) 480,
    .callback .callee k.opus_encode (fun _ => 0) 480]

theorem encodes_remark (k : Codec) : ∀ e ∈ remark k, Encodes e := by
  simp only [remark, List.forall_mem_cons]
  exact ⟨encodes_codec .., encodes_codec .., trivial, trivial, encodes_codec .., encodes_codec ..,
    nofun⟩

theorem causal_remark (k : Codec) (side : Side) : Causal 2 side (remark k) := by
  rintro (_ | _ | _ | _ | _ | _ | j) e he i hi
  · cases he; cases hi
  · cases he; cases hi
  · cases he; cases side <;> cases hi; exact Nat.succ_pos 1
  · cases he; cases side <;> cases hi; exact Nat.lt_succ_self 1
  · cases he; cases hi
  · cases he; cases hi
  · cases he

theorem whole_remark (k : Codec) (payloads : List Bytes) (seqNumber : UInt16) (side : Side) :
    ∀ result ∈ Passage.entries (decodeTraffic payloads seqNumber side none (remark k)),
      result.Whole := by
  refine whole_decodeTraffic (k := k) ?_ _ _ _
  simp only [remark, List.forall_mem_cons]
  cases side <;> simp [decoder]

theorem encoded_remark :
    (remark Codec.terse).filterMap (encoded .caller) = [[1], [1, 7]] := by
  have hpayloads (k : Codec) : (remark k).filterMap (encoded .caller) =
      [k.E (pcmSamples (fun _ => 0) 960), k.E (pcmSamples (fun _ => 42) 960)] := rfl
  rw [hpayloads, Codec.terse_E, Codec.terse_E]
  decide

/-- Of the second packet the decoder has the length, and not the last byte. -/
theorem opus_plays_traffic_remark :
    ∃ s, (System.new (.new 1 0 7)).startUDP ⟨0, 1, some 480⟩ (-1) (-1) 100 = some s ∧
      ∃ os c', drive (step fun _ => .posix) (start (fun _ => s) fun _ => noAddress)
          (remark Codec.terse) = .ok (os, c') ∧
        os.filterMap (playback .callee) =
          [(Codec.terse.opus_decode [1] 960).frame,
            (Codec.terse.opus_decode [1, 0] 960).frame] := by
  obtain ⟨s, hstart⟩ := System.exists_startUDP_opus
  obtain ⟨os, c', hrun, hplays⟩ := opus_plays_traffic (fun _ => hstart) (fun _ => .posix)
    (fun _ => noAddress) (encodes_remark Codec.terse)
    (causal_remark Codec.terse) fun side => whole_remark Codec.terse _ _ side
  refine ⟨s, hstart, os, c', hrun, (hplays .callee).1.trans ?_⟩
  rw [Side.other, encoded_remark]
  rfl

theorem opus_plays_all_iff_remark :
    ∃ s, (System.new (.new 1 0 7)).startUDP ⟨0, 1, some 480⟩ (-1) (-1) 100 = some s ∧
      ∃ os c', drive (step fun _ => .posix) (start (fun _ => s) fun _ => noAddress)
          (remark Codec.terse) = .ok (os, c') ∧
        os.filterMap (playback .callee) ++ (c' .callee).buffered ≠
          [(Codec.terse.opus_decode [1] 960).frame,
            (Codec.terse.opus_decode [1, 7] 960).frame] := by
  obtain ⟨s, hstart⟩ := System.exists_startUDP_opus
  obtain ⟨os, c', hrun, hall⟩ := opus_plays_all_iff (fun _ => hstart) (fun _ => .posix)
    (fun _ => noAddress) (encodes_remark Codec.terse) (causal_remark Codec.terse .callee)
    (n := 2) rfl (whole_remark Codec.terse _ _ .callee)
  refine ⟨s, hstart, os, c', hrun, fun hheard => ?_⟩
  rw [Side.other, encoded_remark] at hall
  have hends := (hall.mp hheard).2 0 Codec.terse.opus_decode rfl
  exact absurd (List.replicate_inj.mp hends).2 (by decide)

end Call

end Voip
