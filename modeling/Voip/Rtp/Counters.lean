import Voip.Base.Counter
import Voip.Rtp.RoundTrip

/-! The packer's two counters over any number of calls. Both are reduced modulo the largest value of
their type, the one from `int`, the other behind the wrap of its own type. -/

namespace Voip.RtpPacker

open Base

variable (p : RtpPacker) (payloads : ℕ → Bytes)

/-- The packer after `n` calls. -/
def after : ℕ → RtpPacker
  | 0 => p
  | n + 1 => ((after n).pack (payloads n)).2

/-- What the call behind the first `n` returns. -/
def packet (n : ℕ) : Bytes := ((p.after payloads n).pack (payloads n)).1

theorem packAll_map (n k : ℕ) :
    (p.after payloads k).packAll ((List.range n).map fun i => payloads (k + i)) =
      (List.range n).map fun i => p.packet payloads (k + i) := by
  induction n generalizing k with
  | zero => rfl
  | succ n ih =>
    have hrest := ih (k + 1)
    simp only [Nat.add_right_comm k 1, Nat.add_assoc k _ 1] at hrest
    rw [List.range_succ_eq_map, List.map_cons, List.map_cons, List.map_map, List.map_map, packAll]
    exact congrArg (p.packet payloads k :: ·) hrest

theorem packAll_eq (data : List Bytes) :
    p.packAll data = (List.range data.length).map (p.packet fun i => data.getD i []) := by
  have hdata : (List.range data.length).map (fun i => data.getD i []) = data := by
    refine List.ext_getElem (by simp) fun i hi hi' => ?_
    rw [List.getElem_map, List.getElem_range, List.getD_eq_getElem _ _ hi']
  simpa only [Nat.zero_add, hdata, after] using
    p.packAll_map (fun i => data.getD i []) data.length 0

/-! ## Sequence numbers -/

theorem after_seqNumber (n : ℕ) :
    (p.after payloads n).seqNumber.toNat = (fun s => (s + 1) % 65535)^[n] p.seqNumber.toNat := by
  induction n with
  | zero => rfl
  | succ n ih => rw [after, pack_seqNumber_toNat, ih, Function.iterate_succ_apply']

theorem sequenceNumber_packet_zero :
    Rtp.sequenceNumber (p.packet payloads 0) = p.seqNumber.toNat :=
  p.sequenceNumber_pack (payloads 0)

theorem sequenceNumber_packet_succ (n : ℕ) :
    Rtp.sequenceNumber (p.packet payloads (n + 1)) = (p.seqNumber.toNat + (n + 1)) % 65535 := by
  rw [packet, sequenceNumber_pack, after_seqNumber, iterate_add_mod, Nat.mul_one]

theorem sequenceNumber_packet_eq_iff (n : ℕ) :
    Rtp.sequenceNumber (p.packet payloads n) = (p.seqNumber.toNat + n) % 65536 ↔
      n = 0 ∨ (p.seqNumber.toNat + n) % 4294901760 < 65535 := by
  cases n with
  | zero =>
    rw [sequenceNumber_packet_zero, Nat.add_zero, Nat.mod_eq_of_lt p.seqNumber.toNat_lt]
    exact iff_of_true rfl (.inl rfl)
  | succ n =>
    rw [sequenceNumber_packet_succ, or_iff_right (Nat.succ_ne_zero n)]
    exact mod_eq_mod_succ_iff (by decide) _

/-- Only a packer that begins with the largest number ever shows it. -/
theorem sequenceNumber_packet_eq_max_iff (n : ℕ) :
    Rtp.sequenceNumber (p.packet payloads n) = 65535 ↔ n = 0 ∧ p.seqNumber.toNat = 65535 := by
  cases n with
  | zero =>
    rw [sequenceNumber_packet_zero]
    exact (and_iff_right rfl).symm
  | succ n =>
    rw [sequenceNumber_packet_succ]
    exact iff_of_false (Nat.ne_of_lt (Nat.mod_lt _ (by decide))) fun h => Nat.succ_ne_zero n h.1

/-- Such a packer shows 65535, then 1, 2 and so on, and 0 after 65534. -/
theorem sequenceNumber_packet_of_max (hmax : p.seqNumber.toNat = 65535) {n : ℕ}
    (hn : n < 65536) :
    Rtp.sequenceNumber (p.packet payloads n) =
      if n = 0 then 65535 else if n = 65535 then 0 else n := by
  cases n with
  | zero => rw [sequenceNumber_packet_zero, hmax, if_pos rfl]
  | succ n =>
    rw [sequenceNumber_packet_succ, hmax, if_neg (Nat.succ_ne_zero n)]
    split_ifs <;> omega

/-- 65536 packets in a row are numbered differently only if one of them shows the largest number. -/
theorem window_iff (k : ℕ) :
    (∀ x < 65536, ∃! i, i < 65536 ∧ Rtp.sequenceNumber (p.packet payloads (k + i)) = x) ↔
      k = 0 ∧ p.seqNumber.toNat = 65535 := by
  constructor
  · intro h
    obtain ⟨i, ⟨-, hi⟩, -⟩ := h 65535 (by decide)
    obtain ⟨hki, hmax⟩ := (p.sequenceNumber_packet_eq_max_iff payloads (k + i)).mp hi
    exact ⟨Nat.eq_zero_of_add_eq_zero_right hki, hmax⟩
  · rintro ⟨rfl, hmax⟩ x hx
    have hplace : ∀ i < 65536, Rtp.sequenceNumber (p.packet payloads (0 + i)) = x ↔
        i = if x = 65535 then 0 else if x = 0 then 65535 else x := by
      intro i hi
      rw [Nat.zero_add, p.sequenceNumber_packet_of_max payloads hmax hi]
      split_ifs <;> omega
    have hlt : (if x = 65535 then 0 else if x = 0 then 65535 else x) < 65536 := by
      split_ifs <;> omega
    exact ⟨_, ⟨hlt, (hplace _ hlt).mpr rfl⟩, fun i hi => (hplace i hi.1).mp hi.2⟩

/-- Which packets carry the number that counting modulo `2 ^ 16` gives, and which runs of 65536
packets have every number once. -/
theorem consecutive_iff :
    (∀ n, Rtp.sequenceNumber (p.packet payloads n) = (p.seqNumber.toNat + n) % 65536 ↔
        n = 0 ∨ (p.seqNumber.toNat + n) % 4294901760 < 65535) ∧
      ∀ k, (∀ x < 65536, ∃! i, i < 65536 ∧
          Rtp.sequenceNumber (p.packet payloads (k + i)) = x) ↔
        k = 0 ∧ p.seqNumber.toNat = 65535 :=
  ⟨p.sequenceNumber_packet_eq_iff payloads, p.window_iff payloads⟩

/-- A packer that begins with 65534 goes on with 0, and never shows 65535. -/
theorem consecutive_wrap :
    Rtp.sequenceNumber (RtpPacker.packet ⟨65534, 7, 9, 10⟩ (fun _ => [1]) 1) = 0 ∧
      ¬ ∃ i < 65536, Rtp.sequenceNumber (RtpPacker.packet ⟨65534, 7, 9, 10⟩ (fun _ => [1]) i) =
        65535 := by
  refine ⟨by decide, ?_⟩
  rintro ⟨i, -, hi⟩
  exact absurd ((sequenceNumber_packet_eq_max_iff _ _ i).mp hi).2 (by decide)

/-! ## Timestamps -/

/-- How far the timestamp steps, by payload type. -/
def increment (pt : UInt8) : ℕ := if pt = OPUS_PAYLOADTYPE then 480 else 512

def Known (pt : UInt8) : Prop := pt = 10 ∨ pt = 11 ∨ pt = OPUS_PAYLOADTYPE

variable {p}

theorem pack_timestamp (hpt : Known p.payloadType) (data : Bytes) :
    (p.pack data).2.timestamp = if p.payloadType = OPUS_PAYLOADTYPE then
      (p.timestamp + OPUS_TIMESTAMP_INCREMENT) % 4294967295
      else (p.timestamp + 512) % 4294967295 := by
  change ((p.setSequenceNumber []).2.setTimestamp []).2.timestamp = _
  have htype : (p.setSequenceNumber []).2.payloadType = p.payloadType := rfl
  have htime : (p.setSequenceNumber []).2.timestamp = p.timestamp := rfl
  simp only [setTimestamp, htype, htime]
  by_cases hopus : p.payloadType = OPUS_PAYLOADTYPE
  · have hraw : ¬ (p.payloadType = 10 ∨ p.payloadType = 11) := by
      rw [hopus]
      decide
    rw [if_neg hraw, if_pos hopus, if_pos hopus]
  · have hraw : p.payloadType = 10 ∨ p.payloadType = 11 := by
      rcases hpt with h | h | h
      · exact .inl h
      · exact .inr h
      · exact absurd h hopus
    rw [if_pos hraw, if_neg hopus]

theorem pack_timestamp_toNat (hpt : Known p.payloadType) (data : Bytes) :
    (p.pack data).2.timestamp.toNat =
      reducedStep 4294967295 (increment p.payloadType) p.timestamp.toNat := by
  have hstep : ∀ d : UInt32, ((p.timestamp + d) % 4294967295).toNat =
      reducedStep 4294967295 d.toNat p.timestamp.toNat := by
    intro d
    rw [UInt32.toNat_mod, UInt32.toNat_add]
    rfl
  rw [pack_timestamp hpt, increment]
  split_ifs
  · exact hstep 480
  · exact hstep 512

variable (p)

@[simp] theorem after_payloadType (n : ℕ) :
    (p.after payloads n).payloadType = p.payloadType := by
  induction n with
  | zero => rfl
  | succ n ih => rw [after, pack_payloadType, ih]

variable {p}

theorem after_timestamp (hpt : Known p.payloadType) (n : ℕ) :
    (p.after payloads n).timestamp.toNat =
      (reducedStep 4294967295 (increment p.payloadType))^[n] p.timestamp.toNat := by
  induction n with
  | zero => rfl
  | succ n ih =>
    have hknown : Known (p.after payloads n).payloadType :=
      (p.after_payloadType payloads n).symm ▸ hpt
    rw [after, pack_timestamp_toNat hknown, after_payloadType, ih, Function.iterate_succ_apply']

theorem timestamp_packet (hpt : Known p.payloadType) (n : ℕ) :
    Rtp.timestamp (p.packet payloads n) =
      (reducedStep 4294967295 (increment p.payloadType))^[n + 1] p.timestamp.toNat := by
  rw [packet, timestamp_pack, ← after_timestamp payloads hpt (n + 1), after]

/-- The residue from which the largest value is reached. -/
def residue (pt : UInt8) : ℕ := if pt = OPUS_PAYLOADTYPE then 32 else 512

theorem gcd_increment (pt : UInt8) : (increment pt).gcd (4294967295 + 1) = residue pt := by
  rw [increment, residue]
  split_ifs
  · decide
  · decide

theorem one_lt_gcd_increment (pt : UInt8) : 1 < (increment pt).gcd (4294967295 + 1) := by
  rw [gcd_increment, residue]
  split_ifs <;> decide

theorem timestamp_packet_eq_iff (hpt : Known p.payloadType) (n : ℕ) :
    Rtp.timestamp (p.packet payloads n) =
        (p.timestamp.toNat + (n + 1) * increment p.payloadType) % 4294967296 ↔
      ∀ k ≤ n, (p.timestamp.toNat + (k + 1) * increment p.payloadType) % 4294967296 ≠
        4294967295 := by
  have hle : p.timestamp.toNat ≤ 4294967295 := Nat.le_of_lt_succ p.timestamp.toNat_lt
  have hiff := iterate_reducedStep_eq_iff (by decide) hle (one_lt_gcd_increment p.payloadType)
    (n + 1)
  simpa only [timestamp_packet payloads hpt, Nat.lt_succ_iff] using hiff

/-- How far apart the timestamps of two packets in a row are. -/
theorem timestamp_packet_succ_iff (hpt : Known p.payloadType) (k : ℕ) (n : UInt32) :
    Rtp.timestamp (p.packet payloads (k + 1)) =
        (Rtp.timestamp (p.packet payloads k) + n.toNat) % 4294967296 ↔
      n.toNat = if ReachesLastAt 4294967295 (increment p.payloadType) p.timestamp.toNat (k + 1)
        then increment p.payloadType + 1 else increment p.payloadType := by
  have hle : p.timestamp.toNat ≤ 4294967295 := Nat.le_of_lt_succ p.timestamp.toNat_lt
  have hlt : increment p.payloadType < 4294967295 := by
    rw [increment]
    split_ifs <;> decide
  rw [timestamp_packet payloads hpt, timestamp_packet payloads hpt]
  exact iterate_reducedStep_succ_eq_iff hle hlt (one_lt_gcd_increment p.payloadType) (k + 1)
    (Nat.le_of_lt_succ n.toNat_lt)

theorem timestamps_eq_iff (hpt : Known p.payloadType) :
    (∀ n, Rtp.timestamp (p.packet payloads n) =
        (p.timestamp.toNat + (n + 1) * increment p.payloadType) % 4294967296) ↔
      p.timestamp.toNat % residue p.payloadType ≠ residue p.payloadType - 1 := by
  have hle : p.timestamp.toNat ≤ 4294967295 := Nat.le_of_lt_succ p.timestamp.toNat_lt
  have hiff := exists_mod_eq_iff (d := increment p.payloadType) hle
  rw [gcd_increment] at hiff
  rw [ne_eq, ← hiff, not_exists]
  constructor
  · intro h k
    exact (timestamp_packet_eq_iff payloads hpt k).mp (h k) k (Nat.le_refl k)
  · intro h n
    exact (timestamp_packet_eq_iff payloads hpt n).mpr fun k _ => h k

/-- A timestamp is right as long as no sum up to it has come to the largest value, and all of them
are right unless the first one is of the residue that leads there. -/
theorem uniform_iff (hpt : Known p.payloadType) :
    (∀ n, Rtp.timestamp (p.packet payloads n) =
          (p.timestamp.toNat + (n + 1) * increment p.payloadType) % 4294967296 ↔
        ∀ k ≤ n, (p.timestamp.toNat + (k + 1) * increment p.payloadType) % 4294967296 ≠
          4294967295) ∧
      ((∀ n, Rtp.timestamp (p.packet payloads n) =
          (p.timestamp.toNat + (n + 1) * increment p.payloadType) % 4294967296) ↔
        p.timestamp.toNat % residue p.payloadType ≠ residue p.payloadType - 1) :=
  ⟨timestamp_packet_eq_iff payloads hpt, timestamps_eq_iff payloads hpt⟩

theorem uniform_iff_even :
    increment 10 = 512 ∧ ∀ n, Rtp.timestamp (RtpPacker.packet ⟨1, 8, 9, 10⟩ (fun _ => [1]) n) =
      (8 + (n + 1) * increment 10) % 4294967296 := by
  have hknown : Known (⟨1, 8, 9, 10⟩ : RtpPacker).payloadType := .inl rfl
  exact ⟨rfl, (uniform_iff (fun _ => [1]) hknown).2.mpr (by decide)⟩

/-- The sum that comes to the largest value is sent as zero. -/
theorem uniform_wrap :
    Rtp.timestamp (RtpPacker.packet ⟨1, 4294966783, 9, 10⟩ (fun _ => [1]) 0) = 0 ∧
      (4294966783 + (0 + 1) * increment 10) % 4294967296 = 4294967295 := by
  decide

end Voip.RtpPacker
