import Voip.Base.ByteOrder

/-! Signed samples of sixteen bits as bytes, the low byte first. -/

namespace Base

def leSample (low high : UInt8) : Int16 := Int16.ofInt (low.toNat + 256 * high.toNat)

def leBytes (s : Int16) : List UInt8 :=
  [UInt8.ofNat (s.toInt % 256).toNat, UInt8.ofNat (s.toInt / 256 % 256).toNat]

def pcmBytes (samples : List Int16) : List UInt8 := samples.flatMap leBytes

/-- The first `n` samples of a memory of bytes. -/
def pcmSamples (bytes : ℕ → UInt8) (n : ℕ) : List Int16 :=
  (List.range n).map fun i => leSample (bytes (2 * i)) (bytes (2 * i + 1))

theorem toInt_leSample (low high : UInt8) :
    (leSample low high).toInt =
      if high.toNat < 128 then (low.toNat + 256 * high.toNat : Int)
      else low.toNat + 256 * high.toNat - 65536 := by
  have hlow := low.toNat_lt
  have hhigh := high.toNat_lt
  rw [leSample, Int16.toInt_ofInt, Int.bmod_def]
  change (if _ % (65536 : Int) < (65536 + 1) / 2 then _ % (65536 : Int)
    else _ % (65536 : Int) - 65536) = _
  split_ifs <;> omega

theorem leBytes_leSample (low high : UInt8) : leBytes (leSample low high) = [low, high] := by
  have hlow := low.toNat_lt
  have hhigh := high.toNat_lt
  have hfirst : UInt8.ofNat ((leSample low high).toInt % 256).toNat = low := by
    apply UInt8.toNat_inj.mp
    rw [UInt8.toNat_ofNat', toInt_leSample]
    split_ifs <;> omega
  have hsecond : UInt8.ofNat ((leSample low high).toInt / 256 % 256).toNat = high := by
    apply UInt8.toNat_inj.mp
    rw [UInt8.toNat_ofNat', toInt_leSample]
    split_ifs <;> omega
  rw [leBytes, hfirst, hsecond]

theorem leSample_leBytes (s : Int16) :
    leSample (UInt8.ofNat (s.toInt % 256).toNat) (UInt8.ofNat (s.toInt / 256 % 256).toNat) = s := by
  have hle := s.le_toInt
  have hlt := s.toInt_lt
  apply Int16.toInt_inj.mp
  rw [toInt_leSample, UInt8.toNat_ofNat', UInt8.toNat_ofNat']
  split_ifs <;> omega

theorem length_pcmBytes (samples : List Int16) :
    (pcmBytes samples).length = 2 * samples.length := by
  induction samples with
  | nil => rfl
  | cons s samples ih =>
    simp only [pcmBytes, List.flatMap_cons, List.length_append, leBytes, List.length_cons,
      List.length_nil] at ih ⊢
    omega

theorem length_leBytes (s : Int16) : (leBytes s).length = 2 := by
  rw [leBytes, List.length_cons, List.length_singleton]

theorem leBytes_injective : Function.Injective leBytes := by
  intro s t h
  simp only [leBytes, List.cons.injEq, and_true] at h
  rw [← leSample_leBytes s, h.1, h.2, leSample_leBytes]

theorem pcmBytes_injective : Function.Injective pcmBytes := by
  intro samples others h
  have hlength := congrArg List.length h
  rw [length_pcmBytes, length_pcmBytes] at hlength
  induction samples generalizing others with
  | nil => exact (List.eq_nil_of_length_eq_zero (by simpa using hlength.symm)).symm
  | cons s samples ih =>
    obtain ⟨t, others, rfl⟩ := List.exists_cons_of_length_pos (l := others) (by
      rw [List.length_cons] at hlength
      omega)
    rw [pcmBytes, pcmBytes, List.flatMap_cons, List.flatMap_cons] at h
    obtain ⟨hfirst, hrest⟩ := List.append_inj h (by rw [length_leBytes, length_leBytes])
    rw [leBytes_injective hfirst, ih hrest (by simpa using hlength)]

@[simp] theorem length_pcmSamples (bytes : ℕ → UInt8) (n : ℕ) :
    (pcmSamples bytes n).length = n := by
  rw [pcmSamples, List.length_map, List.length_range]

theorem pcmSamples_succ (bytes : ℕ → UInt8) (n : ℕ) :
    pcmSamples bytes (n + 1) =
      pcmSamples bytes n ++ [leSample (bytes (2 * n)) (bytes (2 * n + 1))] := by
  rw [pcmSamples, List.range_succ, List.map_append]
  rfl

theorem take_pcmSamples (bytes : ℕ → UInt8) {m n : ℕ} (h : m ≤ n) :
    (pcmSamples bytes n).take m = pcmSamples bytes m := by
  rw [pcmSamples, ← List.map_take, List.take_range, Nat.min_eq_left h]
  rfl

/-- Every list of samples stands in some memory. -/
theorem exists_pcmSamples (samples : List Int16) :
    ∃ bytes, pcmSamples bytes samples.length = samples := by
  refine ⟨fun i => (leBytes (samples.getD (i / 2) 0)).getD (i % 2) 0,
    List.ext_getElem (length_pcmSamples ..) fun i hi hi' => ?_⟩
  have hlow : 2 * i / 2 = i ∧ 2 * i % 2 = 0 := by omega
  have hhigh : (2 * i + 1) / 2 = i ∧ (2 * i + 1) % 2 = 1 := by omega
  simp only [pcmSamples, List.getElem_map, List.getElem_range, hlow, hhigh,
    List.getD_eq_getElem _ _ hi']
  exact leSample_leBytes samples[i]

theorem pcmSamples_congr {bytes bytes' : ℕ → UInt8} {n : ℕ}
    (h : ∀ i < 2 * n, bytes i = bytes' i) : pcmSamples bytes n = pcmSamples bytes' n := by
  apply List.map_congr_left
  intro i hi
  have hlt := List.mem_range.mp hi
  rw [h (2 * i) (by omega), h (2 * i + 1) (by omega)]

theorem pcmBytes_pcmSamples (bytes : ℕ → UInt8) (n : ℕ) :
    pcmBytes (pcmSamples bytes n) = (List.range (2 * n)).map bytes := by
  induction n with
  | zero => rfl
  | succ n ih =>
    have hlast : pcmBytes [leSample (bytes (2 * n)) (bytes (2 * n + 1))] =
        [bytes (2 * n), bytes (2 * n + 1)] := by
      rw [pcmBytes, List.flatMap_singleton, leBytes_leSample]
    rw [pcmSamples_succ, pcmBytes, List.flatMap_append, ← pcmBytes, ← pcmBytes, ih, hlast,
      Nat.mul_succ, List.range_succ, List.range_succ, List.map_append, List.map_append,
      List.append_assoc]
    rfl

/-! ## The same by shifts and masks -/

theorem be16_toInt16 (low high : UInt8) : (be16 high low).toInt16 = leSample low high := by
  have hlow := low.toNat_lt
  have hhigh := high.toNat_lt
  have hword : be16 high low = UInt16.ofNat (low.toNat + 256 * high.toNat) := by
    apply UInt16.toNat_inj.mp
    rw [be16_toNat, UInt16.toNat_ofNat', Nat.mod_eq_of_lt (by omega)]
    omega
  rw [hword, UInt16.toInt16_ofNat']
  rfl

theorem toNat_toUInt16 (s : Int16) : (s.toUInt16.toNat : Int) = s.toInt % 65536 := by
  change (s.toBitVec.toNat : Int) = s.toBitVec.toInt % 65536
  have hlt := s.toBitVec.isLt
  rw [BitVec.toInt_eq_toNat_cond]
  split_ifs <;> omega

theorem low_byte (s : Int16) :
    (s &&& 0xFF).toUInt16.toUInt8 = UInt8.ofNat (s.toInt % 256).toNat := by
  have hmask : (s &&& 0xFF).toUInt16 = s.toUInt16 &&& 0xFF := rfl
  have hword := toNat_toUInt16 s
  apply UInt8.toNat_inj.mp
  rw [hmask, UInt16.toNat_toUInt8, UInt16.toNat_and, UInt8.toNat_ofNat']
  change (s.toUInt16.toNat &&& (2 ^ 8 - 1)) % 256 = _
  rw [Nat.and_two_pow_sub_one_eq_mod]
  omega

theorem toInt_shiftRight_eight (s : Int16) : (s >>> 8).toInt = s.toInt / 256 := by
  change (s.toBitVec.sshiftRight' 8#16).toInt = s.toBitVec.toInt / 256
  rw [BitVec.toInt_sshiftRight', Int.shiftRight_eq_div_pow]
  rfl

theorem masks_eq_leBytes (s : Int16) :
    [(s &&& 0xFF).toUInt16.toUInt8, ((s >>> 8) &&& 0xFF).toUInt16.toUInt8] = leBytes s := by
  rw [leBytes, low_byte, low_byte, toInt_shiftRight_eight]

end Base
