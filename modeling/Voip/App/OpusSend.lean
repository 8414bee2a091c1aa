import Voip.App.OpusCall
import Voip.Rtp.Header

/-! What goes out in Opus mode. A failed encode leaves no trace but an empty vector, and that is
sent like any other. -/

namespace Voip

open Base

/-- The bytes of a call that has not failed. -/
def OpusResult.successful {β : Type} (result : OpusResult β) : Option (List β) :=
  if result.ret ≤ 0 then none else some result.written

namespace Playout

/-- What the library answers to the block of a callback. -/
def encoded : PlayoutEvent → Option (OpusResult UInt8)
  | .add _ => none
  | .callback opus_encode inBuf _ => some (opus_encode (pcmSamples inBuf 960) 480 1276)

def results (events : List PlayoutEvent) : List (OpusResult UInt8) := events.filterMap encoded

/-- Callbacks of ten milliseconds, and a library that keeps to its contract. -/
def TenMilliseconds : PlayoutEvent → Prop
  | .add _ => True
  | .callback opus_encode _ nFrames => nFrames = 480 ∧ opus_encode.Lawful

/-- The payloads are the successful encodes in order, and none is empty. -/
structure SendsEncoded (sent : List Bytes) (results : List (OpusResult UInt8)) : Prop where
  payloads : sent.map (List.drop 12) = results.filterMap OpusResult.successful
  nonempty : ∀ packet ∈ sent, 12 < packet.length

/-- In fact there is a packet for every encode. -/
structure SentSoFar (past : List PlayoutEvent) (p : Playout) : Prop extends OpusCall p where
  payloads : p.app.sender.sent.map (List.drop 12) = (results past).map OpusResult.produced
  header : ∀ packet ∈ p.app.sender.sent, 12 ≤ packet.length

theorem sentSoFar_step {past : List PlayoutEvent} {p : Playout} {e : PlayoutEvent}
    (hp : SentSoFar past p) (he : TenMilliseconds e) :
    ∃ o p', p.step e = .ok (o, p') ∧ SentSoFar (past ++ [e]) p' := by
  cases e with
  | add data =>
    obtain ⟨p', hstep, hcall, hsender⟩ := step_add_opus hp.toOpusCall data
    refine ⟨none, p', hstep, hcall, ?_, ?_⟩
    · rw [hsender, hp.payloads, results, results, List.filterMap_append, List.map_append]
      exact (List.append_nil _).symm
    · rw [hsender]
      exact hp.header
  | callback opus_encode inBuf nFrames =>
    obtain ⟨rfl, hlawful⟩ := he
    obtain ⟨result, p', hstep, hcall, hsender⟩ :=
      step_callback_opus hp.toOpusCall inBuf 480 opus_encode (by decide)
    have hproduced := p.app.encoder.finish_produced
      (hlawful (pcmSamples inBuf 960) 480 1276)
    refine ⟨some result, p', hstep, hcall, ?_, ?_⟩
    · rw [hsender, VoIPComm.sent_sendEncoded, List.map_append, hp.payloads, results, results,
        List.filterMap_append, List.map_append, List.map_singleton, RtpPacker.drop_pack, hproduced]
      rfl
    · rw [hsender, VoIPComm.sent_sendEncoded]
      intro packet hpacket
      rcases List.mem_append.mp hpacket with hold | hnew
      · exact hp.header packet hold
      · rw [List.mem_singleton.mp hnew, RtpPacker.pack_length]
        omega

theorem length_of_mem_results {events : List PlayoutEvent}
    (h : ∀ e ∈ events, TenMilliseconds e) {result : OpusResult UInt8}
    (hresult : result ∈ results events) (hpos : 0 < result.ret) :
    (result.written.length : Int) = result.ret := by
  obtain ⟨e, he, hencoded⟩ := List.mem_filterMap.mp hresult
  cases e with
  | add data => cases hencoded
  | callback opus_encode inBuf nFrames =>
    cases hencoded
    exact (((h _ he).2 (pcmSamples inBuf 960) 480 1276).resolve_left (by omega)).2

theorem successful_of_pos {rs : List (OpusResult UInt8)} (h : ∀ result ∈ rs, 0 < result.ret) :
    rs.filterMap OpusResult.successful = rs.map OpusResult.produced := by
  rw [← List.filterMap_eq_map]
  apply List.filterMap_congr
  intro result hresult
  have hret : ¬ result.ret ≤ 0 := Int.not_le.mpr (h result hresult)
  rw [OpusResult.successful, if_neg hret, Function.comp_apply, OpusResult.produced, if_neg hret]

theorem pos_of_sendsEncoded {events : List PlayoutEvent} {p : Playout} (hp : SentSoFar events p)
    (h : SendsEncoded p.app.sender.sent (results events)) :
    ∀ result ∈ results events, 0 < result.ret := by
  have hcount := congrArg List.length (hp.payloads.symm.trans h.payloads)
  rw [List.length_map, eq_comm, List.filterMap_length_eq_length] at hcount
  intro result hresult
  by_contra hret
  have hsome := hcount result hresult
  rw [OpusResult.successful, if_pos (Int.not_lt.mp hret)] at hsome
  cases hsome

theorem sendsEncoded_of_pos {events : List PlayoutEvent} {p : Playout} (hp : SentSoFar events p)
    (h : ∀ e ∈ events, TenMilliseconds e) (hpos : ∀ result ∈ results events, 0 < result.ret) :
    SendsEncoded p.app.sender.sent (results events) where
  payloads := hp.payloads.trans (successful_of_pos hpos).symm
  nonempty packet hpacket := by
    have hpayload := List.mem_map_of_mem (f := List.drop 12) hpacket
    rw [hp.payloads] at hpayload
    obtain ⟨result, hresult, hproduced⟩ := List.mem_map.mp hpayload
    have hret := hpos result hresult
    have hlength := length_of_mem_results h hresult hret
    rw [OpusResult.produced, if_neg (by omega)] at hproduced
    have hdrop := congrArg List.length hproduced
    rw [List.length_drop] at hdrop
    omega

section
variable {packer : RtpPacker} {audio : RtAudio} {inDev outDev : Int32} {s : System}
  (hstart : (System.new packer).startUDP audio inDev outDev 100 = some s)
  {events : List PlayoutEvent} (h : ∀ e ∈ events, TenMilliseconds e)
include hstart h

theorem drive_sentSoFar :
    ∃ os p', drive step s.playout events = .ok (os, p') ∧ SentSoFar events p' := by
  obtain ⟨hcall, hsender⟩ := System.startUDP_opus hstart
  have hsent : SentSoFar [] s.playout := by
    refine ⟨hcall, ?_, ?_⟩
    · rw [hsender]
      rfl
    · rw [hsender]
      exact nofun
  exact drive_of_history SentSoFar TenMilliseconds (fun _ _ _ hp he => sentSoFar_step hp he) h
    hsent

/-- What is sent is what has been encoded just where no encode has failed. -/
theorem sendsEncoded_iff :
    ∃ os p', drive step s.playout events = .ok (os, p') ∧
      (SendsEncoded p'.app.sender.sent (results events) ↔
        ∀ result ∈ results events, 0 < result.ret) := by
  obtain ⟨os, p', hrun, hp'⟩ := drive_sentSoFar hstart h
  exact ⟨os, p', hrun, pos_of_sendsEncoded hp', sendsEncoded_of_pos hp' h⟩

end

/-- Every block becomes the same byte. -/
def oneByte : OpusEncode := fun _ _ max_data_bytes =>
  if max_data_bytes = 0 then ⟨-2, []⟩ else ⟨1, [42]⟩

theorem oneByte_lawful : oneByte.Lawful := by
  intro samples frame_size max_data_bytes
  rw [oneByte]
  split_ifs with hmax
  · exact .inl (by decide)
  · exact .inr ⟨Int.ofNat_le.mpr (Nat.one_le_iff_ne_zero.mpr hmax), rfl⟩

theorem sendsEncoded_iff_one :
    ∃ s, (System.new (.new 1 0 7)).startUDP ⟨0, 1, some 480⟩ (-1) (-1) 100 = some s ∧
      ∃ os p', drive step s.playout [.callback oneByte (fun _ => 0) 480] = .ok (os, p') ∧
        p'.app.sender.sent.map (List.drop 12) = [[42]] := by
  obtain ⟨s, hstart⟩ := System.exists_startUDP_opus
  have hevents : ∀ e ∈ [PlayoutEvent.callback oneByte (fun _ => 0) 480], TenMilliseconds e := by
    rintro e he
    rw [List.mem_singleton.mp he]
    exact ⟨rfl, oneByte_lawful⟩
  obtain ⟨os, p', hrun, hiff⟩ := sendsEncoded_iff hstart hevents
  refine ⟨s, hstart, os, p', hrun, (hiff.mpr fun result hresult => ?_).payloads⟩
  rw [List.mem_singleton.mp hresult]
  exact Int.one_pos

def failing : OpusEncode := fun _ _ _ => ⟨-1, []⟩

theorem failing_lawful : failing.Lawful := fun _ _ _ => .inl (by rw [failing]; decide)

/-- A packet without a payload goes out for an encode that has failed. -/
theorem sendsEncoded_failed :
    ∃ s, (System.new (.new 1 0 7)).startUDP ⟨0, 1, some 480⟩ (-1) (-1) 100 = some s ∧
      ∃ os p', drive step s.playout [.callback failing (fun _ => 0) 480] = .ok (os, p') ∧
        ¬ SendsEncoded p'.app.sender.sent (results [.callback failing (fun _ => 0) 480]) := by
  obtain ⟨s, hstart⟩ := System.exists_startUDP_opus
  have hevents : ∀ e ∈ [PlayoutEvent.callback failing (fun _ => 0) 480], TenMilliseconds e := by
    rintro e he
    rw [List.mem_singleton.mp he]
    exact ⟨rfl, failing_lawful⟩
  obtain ⟨os, p', hrun, hp'⟩ := drive_sentSoFar hstart hevents
  refine ⟨s, hstart, os, p', hrun, fun h => ?_⟩
  exact absurd (pos_of_sendsEncoded hp' h _ (List.mem_singleton.mpr rfl)) (by decide)

end Playout

end Voip
