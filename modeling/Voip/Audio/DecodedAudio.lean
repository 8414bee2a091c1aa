import Voip.Audio.Opus
import Voip.Base.Machine

/-! What reaches the caller of `AudioDecoder::decode`. The member array outlives the call and is
always converted as a whole, so the audio of a call is its own only where the call fills it. -/

namespace Voip

open Base

/-- A call of `decode` on some payload, with a library that keeps to its contract. -/
structure DecodeCall where
  opus_decode : OpusDecode
  lawful : opus_decode.Lawful
  inputData : Bytes
  inputData_ne : inputData ≠ []

def DecodeCall.result (call : DecodeCall) : OpusResult Int16 :=
  call.opus_decode call.inputData (OPUS_CHANNELS * OPUS_FRAMESIZE)

namespace AudioDecoder

def step (d : AudioDecoder) (call : DecodeCall) : Except Fault (Bytes × AudioDecoder) :=
  d.decode call.opus_decode call.inputData []

/-- The samples of a call fit, they and no others are its output, and nothing in it is left from
the calls before. -/
structure Emits (d : AudioDecoder) (call : DecodeCall) : Prop where
  fits : 0 < call.result.ret → call.result.written.length ≤ d.out.length
  output : 0 < call.result.ret → ∃ decoded d', d.step call = .ok (decoded, d') ∧
    decoded = pcmBytes call.result.written ∧ (decoded.length : Int) = 4 * call.result.ret
  fresh : ∀ d₂ : AudioDecoder, (d.step call).map Prod.fst = (d₂.step call).map Prod.fst

theorem step_eq (d : AudioDecoder) (call : DecodeCall) :
    d.step call =
      .ok (if call.result.ret ≤ 0 then [] else pcmBytes (d.keep call.result).out,
        d.keep call.result) :=
  d.decode_eq call.opus_decode call.inputData_ne

theorem step_of_fails (d : AudioDecoder) {call : DecodeCall} (h : call.result.ret ≤ 0) :
    d.step call = .ok ([], d.keep call.result) := by
  rw [step_eq, if_pos h]

theorem length_written {call : DecodeCall} (h : 0 < call.result.ret) :
    (call.result.written.length : Int) = 2 * call.result.ret :=
  ((call.lawful call.inputData (OPUS_CHANNELS * OPUS_FRAMESIZE)).resolve_left (by
    rw [← DecodeCall.result]
    omega)).2

/-- Behind the samples of a short frame stand those that were there before. -/
theorem step_of_fits (d : AudioDecoder) {call : DecodeCall} (h : 0 < call.result.ret)
    (hfits : call.result.written.length ≤ d.out.length) :
    d.step call =
      .ok (pcmBytes (call.result.written ++ d.out.drop call.result.written.length),
        d.keep call.result) := by
  have hout : (d.keep call.result).out =
      call.result.written ++ d.out.drop call.result.written.length := copyTo_of_le hfits
  rw [step_eq, if_neg (by omega), hout]

theorem emits_of_fails (d : AudioDecoder) {call : DecodeCall} (h : call.result.ret ≤ 0) :
    Emits d call where
  fits hpos := absurd h (by omega)
  output hpos := absurd h (by omega)
  fresh d₂ := by rw [step_of_fails d h, step_of_fails d₂ h]; rfl

theorem emits_of_whole (d : AudioDecoder) {call : DecodeCall} (h : call.result.ret = 480) :
    Emits d call := by
  have hpos : 0 < call.result.ret := by omega
  have hlength : call.result.written.length = OPUS_CHANNELS * OPUS_FRAMESIZE := by
    have := length_written hpos
    simp only [OPUS_CHANNELS, OPUS_FRAMESIZE]
    omega
  -- such a frame fills the array, whatever decoder it is
  have hstep (d : AudioDecoder) :
      d.step call = .ok (pcmBytes call.result.written, d.keep call.result) := by
    have hfull : call.result.written.length = d.out.length := by rw [hlength, d.out_length]
    rw [step_of_fits d hpos (Nat.le_of_eq hfull), hfull, List.drop_length, List.append_nil]
  refine ⟨fun _ => ?_, fun _ => ⟨_, _, hstep d, rfl, ?_⟩, fun d₂ => ?_⟩
  · rw [hlength, d.out_length]
  · have := length_written hpos
    rw [length_pcmBytes]
    omega
  · rw [hstep d, hstep d₂]
    rfl

theorem emits_iff (d : AudioDecoder) (call : DecodeCall) :
    Emits d call ↔ call.result.ret ≤ 0 ∨ call.result.ret = 480 := by
  constructor
  · intro h
    by_contra! hret
    obtain ⟨hret, hne⟩ := hret
    have hpos : 0 < call.result.ret := by omega
    have hfits := h.fits hpos
    obtain ⟨decoded, d', hstep, -, hlength⟩ := h.output hpos
    rw [step_of_fits d hpos hfits] at hstep
    obtain ⟨rfl, -⟩ := Prod.mk.inj (Except.ok.inj hstep)
    -- 1920 bytes come out whatever has been written
    rw [length_pcmBytes, List.length_append, List.length_drop,
      Nat.add_sub_cancel' hfits, d.out_length] at hlength
    simp only [OPUS_CHANNELS, OPUS_FRAMESIZE] at hlength
    omega
  · rintro (hfails | hwhole)
    · exact emits_of_fails d hfails
    · exact emits_of_whole d hwhole

/-- A sequence of calls is decoded faithfully just where every frame lasts ten milliseconds. -/
theorem emits_iff_whole (d : AudioDecoder) (calls : List DecodeCall) :
    Along step Emits d calls ↔
      ∀ call ∈ calls, call.result.ret ≤ 0 ∨ call.result.ret = 480 :=
  along_iff_forall (fun d call => ⟨_, _, step_eq d call⟩) emits_iff calls d

/-- A library whose frames have `n` samples per channel, each of them `s`. -/
def steady (n : ℕ) (s : Int16) : OpusDecode := fun _ frame_size =>
  if n ≤ frame_size then ⟨n, List.replicate (2 * n) s⟩ else ⟨-2, []⟩

theorem steady_lawful (n : ℕ) (s : Int16) : (steady n s).Lawful := by
  intro data frame_size
  rw [steady]
  split_ifs with hn
  · refine .inr ⟨Int.ofNat_le.mpr hn, ?_⟩
    rw [List.length_replicate]
    exact Int.natCast_mul 2 n
  · exact .inl (by decide)

/-- Ten milliseconds, and then five: the second half of the second frame is the first frame's. -/
theorem emits_stale :
    ¬ Along step Emits .new
      [⟨steady 480 1, steady_lawful 480 1, [0], List.cons_ne_nil 0 []⟩,
        ⟨steady 240 0, steady_lawful 240 0, [0], List.cons_ne_nil 0 []⟩] := by
  rintro ⟨-, hrest⟩
  have hsecond := (hrest _ _ (step_eq _ _)).1
  rcases (emits_iff _ _).mp hsecond with hfails | hwhole
  · exact absurd hfails (by decide)
  · exact absurd hwhole (by decide)

end AudioDecoder

end Voip
