import Voip.App.Playout

/-! The sizes of what the callbacks copy. The application may replace the output buffer as a
whole, and its size is restored only where the frame count changes. -/

namespace Voip.Playout

open Base AudioBuffer

/-- Byte sizes fit in 32 bits. -/
def Fits (inCh outCh : UInt32) (fmt : SampleFormat) : PlayoutEvent → Prop
  | .add _ => True
  | .callback _ _ nFrames =>
    frameBytes nFrames inCh fmt < UInt32.size ∧ frameBytes nFrames outCh fmt < UInt32.size

/-- A callback copies as many bytes as the stream has on either side, and leaves both buffers with
these sizes; `process` has not changed the one it was given. -/
def Exact (inCh outCh : UInt32) (fmt : SampleFormat) (p : Playout) : PlayoutEvent → Prop
  | .add _ => True
  | .callback opus_encode inBuf nFrames =>
    ∃ result p', p.step (.callback opus_encode inBuf nFrames) = .ok (some result, p') ∧
      result.fromIn.length = frameBytes nFrames inCh fmt ∧
      result.toOut.length = frameBytes nFrames outCh fmt ∧
      p'.card.inputBuffer.size = frameBytes nFrames inCh fmt ∧
      p'.card.outputBuffer.size = frameBytes nFrames outCh fmt ∧
      p'.card.outputBuffer.size = (p.card.adapt nFrames).outputBuffer.size

/-- In loopback mode both sides must have the same size, in Opus mode the input at least one
frame's. -/
def Matching (app : VoIPComm) (inCh outCh : UInt32) (fmt : SampleFormat) : PlayoutEvent → Prop
  | .add _ => True
  | .callback _ _ nFrames =>
    (app.isLoopback = true → inCh = outCh ∨ nFrames = 0) ∧
      ¬ app.TooShort (frameBytes nFrames inCh fmt)

section
variable {inCh outCh : UInt32} {fmt : SampleFormat}

theorem frameBytes_eq_iff (hfmt : fmt ≠ .UNKNOWN) (nFrames : UInt32) :
    frameBytes nFrames inCh fmt = frameBytes nFrames outCh fmt ↔ inCh = outCh ∨ nFrames = 0 := by
  have hpos : 0 < fmt.bits.toNat / 8 := by
    cases fmt with
    | UNKNOWN => exact absurd rfl hfmt
    | INT16 => decide
    | FLOAT32 => decide
  rw [frameBytes, frameBytes, Nat.mul_right_cancel_iff hpos, ← UInt32.toNat_inj,
    ← UInt32.toNat_inj]
  constructor
  · intro h
    rcases Nat.eq_zero_or_pos nFrames.toNat with hn | hn
    · exact .inr hn
    · exact .inl (Nat.eq_of_mul_eq_mul_left hn h)
  · rintro (h | h)
    · rw [h]
    · rw [h, UInt32.toNat_zero, Nat.zero_mul, Nat.zero_mul]

theorem sizes_adapt {card : SoundCardImpl} (hcard : card.Shaped inCh outCh fmt)
    {nFrames : UInt32} (hin : frameBytes nFrames inCh fmt < UInt32.size)
    (hout : frameBytes nFrames outCh fmt < UInt32.size) :
    (card.adapt nFrames).inputBuffer.size = frameBytes nFrames inCh fmt ∧
      (card.adapt nFrames).outputBuffer.size = frameBytes nFrames outCh fmt := by
  obtain ⟨hshaped, hfs⟩ := card.shaped_adapt hcard nFrames
  rw [hshaped.input_size, hshaped.output_size, hfs, bufferSize_toNat hin, bufferSize_toNat hout]
  exact ⟨rfl, rfl⟩

theorem matching_congr {app app' : VoIPComm} (h : app.SameModes app') (e : PlayoutEvent) :
    Matching app' inCh outCh fmt e ↔ Matching app inCh outCh fmt e := by
  cases e with
  | add data => exact Iff.rfl
  | callback opus_encode inBuf nFrames =>
    rw [Matching, Matching, VoIPComm.TooShort, VoIPComm.TooShort, h.1, h.2.1, h.2.2]

theorem step_of_matching {p : Playout} {e : PlayoutEvent} (hcard : p.card.Shaped inCh outCh fmt)
    (hfmt : fmt ≠ .UNKNOWN) (hfits : Fits inCh outCh fmt e)
    (h : Matching p.app inCh outCh fmt e) :
    Exact inCh outCh fmt p e ∧ ∃ o p', p.step e = .ok (o, p') ∧
      p'.card.Shaped inCh outCh fmt ∧ p.app.SameModes p'.app := by
  cases e with
  | add data => exact ⟨trivial, none, _, rfl, hcard, rfl, rfl, rfl⟩
  | callback opus_encode inBuf nFrames =>
    obtain ⟨hin, hout⟩ := sizes_adapt hcard hfits.1 hfits.2
    obtain ⟨hshaped, hfs⟩ := p.card.shaped_adapt hcard nFrames
    have hinput := ((p.card.adapt nFrames).size_capture inBuf).trans hin
    obtain ⟨output, app, hprocess, hmodes, hsize⟩ := VoIPComm.process_ok opus_encode
      (by rw [hinput]; exact h.2) (p.card.adapt nFrames).outputBuffer
    have hstep := step_callback_ok p opus_encode inBuf nFrames hprocess
    have houtput : output.size = frameBytes nFrames outCh fmt := by
      by_cases hloop : p.app.isLoopback = true
      · rw [hsize, if_pos hloop, hinput]
        exact (frameBytes_eq_iff hfmt nFrames).mpr (h.1 hloop)
      · rw [hsize, if_neg hloop, hout]
    have hsame := houtput.trans hout.symm
    exact ⟨⟨_, _, hstep, hinput, houtput, hinput, houtput, hsame⟩,
      _, _, hstep, SoundCardImpl.shaped_callback hshaped inBuf hsame, hmodes⟩

theorem not_exact_of_not_matching {p : Playout} {e : PlayoutEvent}
    (hcard : p.card.Shaped inCh outCh fmt) (hfmt : fmt ≠ .UNKNOWN)
    (hfits : Fits inCh outCh fmt e) (h : ¬ Matching p.app inCh outCh fmt e) :
    ¬ Exact inCh outCh fmt p e := by
  cases e with
  | add data => exact absurd trivial h
  | callback opus_encode inBuf nFrames =>
    obtain ⟨hin, hout⟩ := sizes_adapt hcard hfits.1 hfits.2
    have hinput := ((p.card.adapt nFrames).size_capture inBuf).trans hin
    rintro ⟨result, p', hstep, -, -, -, houtput, -⟩
    by_cases hshort : p.app.TooShort (frameBytes nFrames inCh fmt)
    · have hthrows := VoIPComm.process_throws opus_encode (by rw [hinput]; exact hshort)
        (p.card.adapt nFrames).outputBuffer
      rw [step_callback_error p opus_encode inBuf nFrames hthrows] at hstep
      cases hstep
    · obtain ⟨output, app, hprocess, -, hsize⟩ := VoIPComm.process_ok opus_encode
        (by rw [hinput]; exact hshort) (p.card.adapt nFrames).outputBuffer
      rw [step_callback_ok p opus_encode inBuf nFrames hprocess] at hstep
      obtain ⟨-, rfl⟩ := Prod.mk.inj (Except.ok.inj hstep)
      -- so it is the loopback that has copied a buffer of the other side's size
      refine h ⟨fun hloop => (frameBytes_eq_iff hfmt nFrames).mp ?_, hshort⟩
      rw [← houtput, ← hinput]
      exact ((if_pos hloop).symm.trans hsize.symm)

theorem along_exact_iff (events : List PlayoutEvent) (p : Playout)
    (hcard : p.card.Shaped inCh outCh fmt) (hfmt : fmt ≠ .UNKNOWN)
    (hfits : ∀ e ∈ events, Fits inCh outCh fmt e) :
    Along step (Exact inCh outCh fmt) p events ↔
      ∀ e ∈ events, Matching p.app inCh outCh fmt e := by
  induction events generalizing p with
  | nil => exact iff_of_true trivial nofun
  | cons e events ih =>
    rw [List.forall_mem_cons] at hfits ⊢
    by_cases hmatch : Matching p.app inCh outCh fmt e
    · obtain ⟨hexact, o, p', hstep, hcard', hmodes⟩ :=
        step_of_matching hcard hfmt hfits.1 hmatch
      rw [along_cons_ok hstep, ih p' hcard' hfits.2, and_iff_right hexact, and_iff_right hmatch]
      exact forall₂_congr fun e' _ => matching_congr hmodes e'
    · exact iff_of_false
        (fun h => not_exact_of_not_matching hcard hfmt hfits.1 hmatch h.1) (fun h => hmatch h.1)

end

/-- From a successful `init` on, every callback is exact just where all of them match. -/
theorem exact_iff_matching {card₀ card : SoundCardImpl} {audio : RtAudio} {inDev outDev : Int32}
    {inCh outCh sr fs : UInt32} {fmt : SampleFormat} (app : VoIPComm)
    (hinit : card₀.init audio inDev outDev inCh outCh sr fs fmt = (true, card))
    {events : List PlayoutEvent} (hfits : ∀ e ∈ events, Fits inCh outCh fmt e) :
    Along step (Exact inCh outCh fmt) ⟨card, app⟩ events ↔
      ∀ e ∈ events, Matching app inCh outCh fmt e :=
  along_exact_iff events ⟨card, app⟩ (SoundCardImpl.shaped_init hinit)
    (SoundCardImpl.init_format hinit) hfits

theorem exact_iff_matching_mono :
    (SoundCardImpl.new.init ⟨0, 1, some 2⟩ (-1) (-1) 1 1 44100 2 .INT16).1 = true ∧
      Along step (Exact 1 1 .INT16)
        ⟨(SoundCardImpl.new.init ⟨0, 1, some 2⟩ (-1) (-1) 1 1 44100 2 .INT16).2,
          { VoIPComm.new (.new 1 0 7) with isLoopback := true }⟩
        [.callback (fun _ _ _ => ⟨0, []⟩) (fun _ => 42) 2] := by
  have hinit : SoundCardImpl.new.init ⟨0, 1, some 2⟩ (-1) (-1) 1 1 44100 2 .INT16 =
      (true, (SoundCardImpl.new.init ⟨0, 1, some 2⟩ (-1) (-1) 1 1 44100 2 .INT16).2) := rfl
  refine ⟨rfl, (exact_iff_matching _ hinit ?_).mpr ?_⟩
  · intro e he
    rw [List.mem_singleton.mp he]
    exact ⟨by decide, by decide⟩
  · simp [Matching, VoIPComm.TooShort]

/-- One channel in, two out: the loopback hands the device half of what it asks for, and with the
channels exchanged twice as much. -/
theorem exact_loopback :
    ¬ ∀ inCh outCh : UInt32, ∀ card,
      SoundCardImpl.new.init ⟨0, 1, some 2⟩ (-1) (-1) inCh outCh 44100 2 .INT16 = (true, card) →
      Along step (Exact inCh outCh .INT16)
        ⟨card, { VoIPComm.new (.new 1 0 7) with isLoopback := true }⟩
        [.callback (fun _ _ _ => ⟨0, []⟩) (fun _ => 42) 2] := by
  intro h
  obtain ⟨⟨result, p', hstep, -, hout, -⟩, -⟩ := h 2 1 _ rfl
  obtain ⟨hresult, -⟩ := Prod.mk.inj (Except.ok.inj hstep)
  rw [← Option.some.inj hresult] at hout
  revert hout
  decide

end Voip.Playout
