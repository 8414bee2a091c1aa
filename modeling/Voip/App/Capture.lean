import Voip.App.OpusCall
import Voip.Base.Chunks

/-! What is captured and what is encoded. The sound card follows the driver to any frame count;
the encoder reads one block of 480 frames a callback, no more and no less. -/

namespace Voip.Playout

open Base

def captured : PlayoutEvent → Option (List Int16)
  | .add _ => none
  | .callback _ inBuf nFrames => some (pcmSamples inBuf (2 * nFrames.toNat))

/-- A step with the block of samples that `encode` passes to the library in it. -/
def record (p : Playout) : PlayoutEvent → Except Fault (Option (List Int16) × Playout)
  | .add data => do
    let (_, p) ← p.step (.add data)
    pure (none, p)
  | .callback opus_encode inBuf nFrames => do
    let samples ← AudioEncoder.readSamples ((p.card.adapt nFrames).capture inBuf).data
      (OPUS_CHANNELS * OPUS_FRAMESIZE)
    let (_, p) ← p.step (.callback opus_encode inBuf nFrames)
    pure (some samples, p)

/-- No callback throws, and the blocks are the captured samples in order, but for less than a block
at the end. -/
def EncodesAll (p : Playout) (events : List PlayoutEvent) : Prop :=
  ∃ blocks p', drive record p events = .ok (blocks, p') ∧
    (blocks.filterMap id).flatten <+: (events.filterMap captured).flatten ∧
    (events.filterMap captured).flatten.length < (blocks.filterMap id).flatten.length + 960

def Long (e : PlayoutEvent) : Prop := ∀ nFrames ∈ frames e, 1920 ≤ capturedBytes nFrames

theorem take_captured {inBuf : ℕ → UInt8} {nFrames : UInt32} (h : 1920 ≤ capturedBytes nFrames) :
    (pcmSamples inBuf (2 * nFrames.toNat)).take 960 = pcmSamples inBuf 960 := by
  have hmod := Nat.mod_le (4 * nFrames.toNat) UInt32.size
  rw [capturedBytes_eq] at h
  exact take_pcmSamples inBuf (by omega)

theorem record_of_long {p : Playout} (hp : OpusCall p) {e : PlayoutEvent} (h : Long e) :
    ∃ p', p.record e = .ok ((captured e).map (List.take 960), p') ∧ OpusCall p' := by
  cases e with
  | add data =>
    obtain ⟨p', hstep, hp', -⟩ := step_add_opus hp data
    refine ⟨p', ?_, hp'⟩
    rw [record, hstep]
    rfl
  | callback opus_encode inBuf nFrames =>
    have hlong := h nFrames rfl
    obtain ⟨result, p', hstep, hp', -⟩ := step_callback_opus hp inBuf nFrames opus_encode hlong
    have hread := AudioEncoder.readSamples_eq (n := OPUS_CHANNELS * OPUS_FRAMESIZE)
      (hlong.trans_eq (size_captured hp inBuf nFrames).symm)
    refine ⟨p', ?_, hp'⟩
    rw [record, hread, ok_bind, hstep, captured, Option.map_some, take_captured hlong,
      ← samples_captured hp inBuf nFrames hlong]
    rfl

theorem long_of_record {p p' : Playout} (hp : OpusCall p) {e : PlayoutEvent}
    {o : Option (List Int16)} (h : p.record e = .ok (o, p')) : Long e := by
  cases e with
  | add data => exact nofun
  | callback opus_encode inBuf nFrames =>
    by_contra hlong
    have hshort : capturedBytes nFrames < 1920 := by
      by_contra hle
      exact hlong fun n hn => Option.some.inj hn ▸ Nat.le_of_not_lt hle
    rw [record, AudioEncoder.readSamples_of_lt (n := OPUS_CHANNELS * OPUS_FRAMESIZE)
      ((size_captured hp inBuf nFrames).trans_lt hshort), error_bind] at h
    cases h

/-- All that a step without a fault can be. -/
theorem record_cases {p p' : Playout} (hp : OpusCall p) {e : PlayoutEvent}
    {o : Option (List Int16)} (h : p.record e = .ok (o, p')) : Long e ∧ OpusCall p' := by
  have hlong := long_of_record hp h
  obtain ⟨t, hrecord, ht⟩ := record_of_long hp hlong
  rw [h] at hrecord
  obtain ⟨-, rfl⟩ := Prod.mk.inj (Except.ok.inj hrecord)
  exact ⟨hlong, ht⟩

/-- The block is the argument of the one call of the library. -/
theorem transmit_of_record {p p' : Playout} (hp : OpusCall p) {opus_encode : OpusEncode}
    {inBuf : ℕ → UInt8} {nFrames : UInt32} {block : List Int16}
    (h : p.record (.callback opus_encode inBuf nFrames) = .ok (some block, p')) :
    p.app.transmit opus_encode ((p.card.adapt nFrames).capture inBuf) =
      .ok (p.app.sendEncoded (opus_encode block 480 1276)) := by
  rw [VoIPComm.transmit, if_pos hp.isOpus, AudioEncoder.encode_eq_finish, hp.framesize]
  rw [record] at h
  cases hread : AudioEncoder.readSamples ((p.card.adapt nFrames).capture inBuf).data
      (OPUS_CHANNELS * OPUS_FRAMESIZE) with
  | error e => simp [hread] at h
  | ok samples =>
    cases hstep : p.step (.callback opus_encode inBuf nFrames) with
    | error e => simp [hread, hstep] at h
    | ok next =>
      simp only [hread, hstep, ok_bind, pure_eq_ok, Except.ok.injEq, Prod.mk.injEq,
        Option.some.injEq] at h
      obtain ⟨rfl, -⟩ := h
      rfl

theorem blocks_eq_heads (events : List PlayoutEvent) :
    ((events.map fun e => (captured e).map (List.take 960)).filterMap id).flatten =
      heads 960 (events.filterMap captured) := by
  rw [heads, List.map_filterMap, List.filterMap_map]
  rfl

theorem encodesAll_iff_covers {p : Playout} (hp : OpusCall p) (events : List PlayoutEvent) :
    EncodesAll p events ↔
      (∀ e ∈ events, Long e) ∧ Covers 960 (events.filterMap captured) := by
  have hrun (h : ∀ e ∈ events, Long e) := drive_of_answers OpusCall Long
    (fun e => (captured e).map (List.take 960)) (fun _ _ hs he => record_of_long hs he) h hp
  constructor
  · rintro ⟨blocks, p', hdrive, hcovers⟩
    have hlong := forall_of_drive OpusCall Long (fun _ _ _ _ hs he => record_cases hs he) hp hdrive
    obtain ⟨p'', hdrive'⟩ := hrun hlong
    rw [hdrive] at hdrive'
    obtain ⟨rfl, -⟩ := Prod.mk.inj (Except.ok.inj hdrive')
    rw [blocks_eq_heads] at hcovers
    exact ⟨hlong, hcovers⟩
  · rintro ⟨hlong, hcovers⟩
    obtain ⟨p', hdrive⟩ := hrun hlong
    refine ⟨_, p', hdrive, ?_⟩
    rw [blocks_eq_heads]
    exact hcovers

theorem long_iff (events : List PlayoutEvent) :
    (∀ e ∈ events, Long e) ↔ ∀ n ∈ events.filterMap frames, 1920 ≤ capturedBytes n := by
  constructor
  · intro h n hn
    obtain ⟨e, he, hframes⟩ := List.mem_filterMap.mp hn
    exact h e he n hframes
  · intro h e he n hframes
    exact h n (List.mem_filterMap.mpr ⟨e, he, hframes⟩)

theorem length_captured (events : List PlayoutEvent) :
    (events.filterMap captured).map List.length =
      ((events.filterMap frames).map UInt32.toNat).map (2 * ·) := by
  induction events with
  | nil => rfl
  | cons e events ih =>
    cases e with
    | add data => exact ih
    | callback opus_encode inBuf nFrames =>
      exact congrArg₂ List.cons (length_pcmSamples inBuf (2 * nFrames.toNat)) ih

/-- Any samples at all may be captured with the given frame counts. -/
theorem exists_events (counts : List UInt32) {chunks : List (List Int16)}
    (h : chunks.map List.length = (counts.map UInt32.toNat).map (2 * ·)) :
    ∃ events : List PlayoutEvent,
      events.filterMap frames = counts ∧ events.filterMap captured = chunks := by
  induction counts generalizing chunks with
  | nil => exact ⟨[], rfl, (List.map_eq_nil_iff.mp h).symm⟩
  | cons n counts ih =>
    obtain ⟨c, chunks, rfl, hc, hchunks⟩ := List.map_eq_cons_iff.mp h
    obtain ⟨events, hframes, hcaptured⟩ := ih hchunks
    obtain ⟨inBuf, hinBuf⟩ := exists_pcmSamples c
    refine ⟨.callback (fun _ _ _ => ⟨-1, []⟩) inBuf n :: events, ?_, ?_⟩
    · exact congrArg (List.cons n) hframes
    · exact congrArg₂ List.cons ((congrArg (pcmSamples inBuf) hc.symm).trans hinBuf) hcaptured

theorem long_of_whole {counts : List UInt32} (h : Whole 480 (counts.map UInt32.toNat)) :
    ∀ n ∈ counts, 1920 ≤ capturedBytes n := by
  intro n hn
  have hbounds := bounds_of_whole (by decide) h n.toNat (List.mem_map_of_mem hn)
  rw [capturedBytes_eq, Nat.mod_eq_of_lt (show 4 * n.toNat < 4294967296 by omega)]
  omega

theorem encodesAll_of_whole {p : Playout} (hp : OpusCall p) {events : List PlayoutEvent}
    (h : Whole 480 ((events.filterMap frames).map UInt32.toNat)) : EncodesAll p events := by
  refine (encodesAll_iff_covers hp events).mpr ⟨(long_iff events).mpr (long_of_whole h), ?_⟩
  apply covers_of_whole (by decide)
  rw [length_captured]
  exact (whole_mul_iff (show 0 < 2 by decide) 480 _).mpr h

/-- What is captured may be anything, so frames that are left out are missed somewhere. -/
theorem whole_of_encodesAll {p : Playout} (hp : OpusCall p) {counts : List UInt32}
    (h : ∀ events : List PlayoutEvent, events.filterMap frames = counts → EncodesAll p events) :
    Whole 480 (counts.map UInt32.toNat) := by
  have : Nontrivial Int16 := ⟨0, 1, by decide⟩
  have hchunks (chunks : List (List Int16))
      (hlengths : chunks.map List.length = (counts.map UInt32.toNat).map (2 * ·)) :
      (∀ n ∈ counts, 1920 ≤ capturedBytes n) ∧ Covers 960 chunks := by
    obtain ⟨events, hframes, rfl⟩ := exists_events counts hlengths
    have hencodes := (encodesAll_iff_covers hp events).mp (h events hframes)
    rw [long_iff, hframes] at hencodes
    exact hencodes
  have hlong := (hchunks _ (map_length_replicate _ 0)).1
  have hheads : ∀ n ∈ (counts.map UInt32.toNat).map (2 * ·), 960 ≤ n := by
    rw [List.map_map, List.forall_mem_map]
    intro n hn
    have hbytes := hlong n hn
    have hmod := Nat.mod_le (4 * n.toNat) UInt32.size
    rw [capturedBytes_eq] at hbytes
    show 960 ≤ 2 * n.toNat
    omega
  apply (whole_mul_iff (show 0 < 2 by decide) 480 _).mp
  exact (covers_iff_whole (by decide) hheads).mp fun chunks hlengths =>
    (hchunks chunks hlengths).2

/-- Whatever is captured with the given frame counts is encoded, just where all counts are 480, or
from 480 to 959 at the end. -/
theorem encodesAll_iff_whole {packer : RtpPacker} {audio : RtAudio} {inDev outDev : Int32}
    {s : System} (hstart : (System.new packer).startUDP audio inDev outDev 100 = some s)
    (counts : List UInt32) :
    (∀ events : List PlayoutEvent, events.filterMap frames = counts →
        EncodesAll s.playout events) ↔
      Whole 480 (counts.map UInt32.toNat) := by
  obtain ⟨hcall, -⟩ := System.startUDP_opus hstart
  refine ⟨whole_of_encodesAll hcall, ?_⟩
  rintro h events rfl
  exact encodesAll_of_whole hcall h

theorem encodesAll_iff_whole_two :
    ∃ s, (System.new (.new 1 0 7)).startUDP ⟨0, 1, some 480⟩ (-1) (-1) 100 = some s ∧
      EncodesAll s.playout [.callback (fun _ _ _ => ⟨-1, []⟩) (fun _ => 42) 480,
        .callback (fun _ _ _ => ⟨-1, []⟩) (fun _ => 43) 700] := by
  obtain ⟨s, hstart⟩ := System.exists_startUDP_opus
  exact ⟨s, hstart, (encodesAll_iff_whole hstart [480, 700]).mpr (by decide) _ rfl⟩

/-- 256 frames are too few for a block, and of 1024 more than half are lost. -/
theorem encodesAll_other :
    ∃ s, (System.new (.new 1 0 7)).startUDP ⟨0, 1, some 480⟩ (-1) (-1) 100 = some s ∧
      ¬ EncodesAll s.playout [.callback (fun _ _ _ => ⟨-1, []⟩) (fun _ => 42) 256] ∧
      ¬ EncodesAll s.playout [.callback (fun _ _ _ => ⟨-1, []⟩) (fun _ => 42) 1024] := by
  obtain ⟨s, hstart⟩ := System.exists_startUDP_opus
  obtain ⟨hcall, -⟩ := System.startUDP_opus hstart
  refine ⟨s, hstart, fun h => ?_, fun h => ?_⟩
  · have hlong := ((encodesAll_iff_covers hcall _).mp h).1 _ (List.mem_singleton.mpr rfl) 256 rfl
    exact absurd hlong (by decide)
  · have hcovers := ((encodesAll_iff_covers hcall _).mp h).2
    have hlength : (pcmSamples (fun _ => 42) 2048).length = 2048 := length_pcmSamples _ 2048
    have hlt := (covers_singleton_iff (c := pcmSamples (fun _ => 42) 2048) (by omega)).mp hcovers
    omega

end Voip.Playout
