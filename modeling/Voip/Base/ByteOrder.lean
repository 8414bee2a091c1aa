import Mathlib.Data.Nat.Bitwise

/-! Masked bytes of machine words and their big-endian reassembly, read as plain arithmetic. -/

namespace Base

theorem and_mask_shiftRight (n k : Nat) : (n &&& 255 <<< k) >>> k = n / 2 ^ k % 256 := by
  have hmask : (255 <<< k) >>> k = 255 := by
    simp [Nat.shiftLeft_eq, Nat.shiftRight_eq_div_pow]
  rw [Nat.shiftRight_and_distrib, hmask, Nat.shiftRight_eq_div_pow]
  exact Nat.and_two_pow_sub_one_eq_mod _ 8

theorem or_eq_add {m b k : Nat} (hm : 2 ^ k ∣ m) (hb : b < 2 ^ k) : m ||| b = m + b := by
  obtain ⟨a, rfl⟩ := hm
  exact (Nat.two_pow_add_eq_or_of_lt hb a).symm

/-! ## Two bytes -/

/-- The word whose bytes, highest first, are `a` and `b`. -/
def be16 (a b : UInt8) : UInt16 := a.toUInt16 <<< 8 ||| b.toUInt16

theorem be16_toNat (a b : UInt8) : (be16 a b).toNat = a.toNat * 256 + b.toNat := by
  have ha := a.toNat_lt
  have hb := b.toNat_lt
  simp only [be16, UInt16.toNat_or, UInt16.toNat_shiftLeft, UInt8.toNat_toUInt16]
  change a.toNat <<< 8 % 65536 ||| b.toNat = _
  rw [Nat.shiftLeft_eq, Nat.mod_eq_of_lt (by omega)]
  exact or_eq_add (k := 8) (by omega) hb

theorem be16_masks (n : UInt16) :
    be16 ((n &&& 0xFF00) >>> 8).toUInt8 (n &&& 0x00FF).toUInt8 = n := by
  have hn := n.toNat_lt
  have hhi := and_mask_shiftRight n.toNat 8
  have hlo := and_mask_shiftRight n.toNat 0
  apply UInt16.toNat_inj.mp
  simp only [Nat.shiftLeft_zero, Nat.shiftRight_zero, pow_zero, Nat.div_one] at hlo
  simp only [be16_toNat, UInt16.toNat_toUInt8, UInt16.toNat_shiftRight, UInt16.toNat_and]
  change (n.toNat &&& 255 <<< 8) >>> 8 % 256 * 256 + (n.toNat &&& 255) % 256 = n.toNat
  rw [hhi, hlo]
  omega

/-- The word whose bytes, highest first, are `a`, `b`, `c` and `d`. -/
def be32 (a b c d : UInt8) : UInt32 :=
  a.toUInt32 <<< 24 ||| b.toUInt32 <<< 16 ||| c.toUInt32 <<< 8 ||| d.toUInt32

theorem be32_toNat (a b c d : UInt8) :
    (be32 a b c d).toNat = a.toNat * 16777216 + b.toNat * 65536 + c.toNat * 256 + d.toNat := by
  have ha := a.toNat_lt
  have hb := b.toNat_lt
  have hc := c.toNat_lt
  have hd := d.toNat_lt
  simp only [be32, UInt32.toNat_or, UInt32.toNat_shiftLeft, UInt8.toNat_toUInt32]
  change a.toNat <<< 24 % 4294967296 ||| b.toNat <<< 16 % 4294967296 |||
    c.toNat <<< 8 % 4294967296 ||| d.toNat = _
  simp only [Nat.shiftLeft_eq]
  rw [Nat.mod_eq_of_lt (by omega), Nat.mod_eq_of_lt (by omega), Nat.mod_eq_of_lt (by omega),
    or_eq_add (m := a.toNat * 2 ^ 24) (k := 24) (by omega) (by omega),
    or_eq_add (m := a.toNat * 2 ^ 24 + b.toNat * 2 ^ 16) (k := 16) (by omega) (by omega),
    or_eq_add (k := 8) (by omega) hd]

theorem be32_masks (n : UInt32) :
    be32 ((n &&& 0xFF000000) >>> 24).toUInt8 ((n &&& 0x00FF0000) >>> 16).toUInt8
      ((n &&& 0x0000FF00) >>> 8).toUInt8 (n &&& 0x000000FF).toUInt8 = n := by
  have hn := n.toNat_lt
  have h24 := and_mask_shiftRight n.toNat 24
  have h16 := and_mask_shiftRight n.toNat 16
  have h8 := and_mask_shiftRight n.toNat 8
  have h0 := and_mask_shiftRight n.toNat 0
  apply UInt32.toNat_inj.mp
  simp only [Nat.shiftLeft_zero, Nat.shiftRight_zero, pow_zero, Nat.div_one] at h0
  simp only [be32_toNat, UInt32.toNat_toUInt8, UInt32.toNat_shiftRight, UInt32.toNat_and]
  change (n.toNat &&& 255 <<< 24) >>> 24 % 256 * 16777216 +
    (n.toNat &&& 255 <<< 16) >>> 16 % 256 * 65536 +
    (n.toNat &&& 255 <<< 8) >>> 8 % 256 * 256 + (n.toNat &&& 255) % 256 = n.toNat
  rw [h24, h16, h8, h0]
  omega

end Base
