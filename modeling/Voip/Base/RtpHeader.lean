import Voip.Base.ByteOrder

/-! The fixed header of an RTP packet: twelve bytes, every field in network byte order. -/

namespace Base.Rtp

section
variable (v : List UInt8)

def version : ℕ := (v.getD 0 0).toNat / 64

def payloadType : ℕ := (v.getD 1 0).toNat % 128

def sequenceNumber : ℕ := (v.getD 2 0).toNat * 256 + (v.getD 3 0).toNat

def timestamp : ℕ :=
  (v.getD 4 0).toNat * 16777216 + (v.getD 5 0).toNat * 65536 + (v.getD 6 0).toNat * 256 +
    (v.getD 7 0).toNat

def ssrc : ℕ :=
  (v.getD 8 0).toNat * 16777216 + (v.getD 9 0).toNat * 65536 + (v.getD 10 0).toNat * 256 +
    (v.getD 11 0).toNat

end

theorem sequenceNumber_lt (v : List UInt8) : sequenceNumber v < 65536 := by
  have h2 := (v.getD 2 0).toNat_lt
  have h3 := (v.getD 3 0).toNat_lt
  rw [sequenceNumber]
  omega

/-! ## The fields by masks and shifts -/

theorem mask_version (b : UInt8) : ((b &&& 0xC0) >>> 6).toNat = b.toNat / 64 := by
  have hlt := b.toNat_lt
  have hshift : (b.toNat &&& 192) >>> 6 = (b.toNat / 64) % 4 := by
    rw [Nat.shiftRight_and_distrib, Nat.shiftRight_eq_div_pow]
    exact Nat.and_two_pow_sub_one_eq_mod _ 2
  rw [UInt8.toNat_shiftRight, UInt8.toNat_and]
  change (b.toNat &&& 192) >>> 6 = _
  rw [hshift]
  omega

theorem mask_payloadType (b : UInt8) : (b &&& 0x7f).toNat = b.toNat % 128 := by
  rw [UInt8.toNat_and]
  exact Nat.and_two_pow_sub_one_eq_mod b.toNat 7

/-! ## The payload -/

section
variable (v : List UInt8)

def HasPadding : Prop := (v.getD 0 0).toNat / 32 % 2 = 1

def HasExtension : Prop := (v.getD 0 0).toNat / 16 % 2 = 1

instance : Decidable (HasPadding v) := inferInstanceAs (Decidable (_ = _))

instance : Decidable (HasExtension v) := inferInstanceAs (Decidable (_ = _))

def contributingSources : ℕ := (v.getD 0 0).toNat % 16

/-- The extension has a header of four bytes, with its length in words in the last two. -/
def extensionLength : ℕ :=
  let start := 12 + 4 * contributingSources v
  if HasExtension v then
    4 + 4 * ((v.getD (start + 2) 0).toNat * 256 + (v.getD (start + 3) 0).toNat)
  else 0

def payloadStart : ℕ := 12 + 4 * contributingSources v + extensionLength v

/-- The last byte of a padded packet counts the bytes of the padding, itself among them. -/
def paddingLength : ℕ := if HasPadding v then (v.getD (v.length - 1) 0).toNat else 0

/-- The payload of a packet that has room for all that its first byte announces. -/
def payload : Option (List UInt8) :=
  if payloadStart v + paddingLength v ≤ v.length ∧ (HasPadding v → 0 < paddingLength v) then
    some ((v.drop (payloadStart v)).take (v.length - payloadStart v - paddingLength v))
  else none

/-- The fixed header is followed by the payload and nothing else. -/
def Plain : Prop := ¬ HasPadding v ∧ ¬ HasExtension v ∧ contributingSources v = 0

end

variable {v : List UInt8}

theorem payload_of_plain (h : Plain v) (h12 : 12 ≤ v.length) : payload v = some (v.drop 12) := by
  obtain ⟨hpadding, hextension, hsources⟩ := h
  have hstart : payloadStart v = 12 := by
    rw [payloadStart, hsources, extensionLength, if_neg hextension]
  have hnone : paddingLength v = 0 := if_neg hpadding
  rw [payload, hstart, hnone, if_pos ⟨h12, fun h => absurd h hpadding⟩, Nat.sub_zero,
    List.take_of_length_le (Nat.le_of_eq List.length_drop)]

theorem payload_eq_drop_iff (h12 : 12 ≤ v.length) :
    payload v = some (v.drop 12) ↔ Plain v := by
  refine ⟨fun h => ?_, fun h => payload_of_plain h h12⟩
  rw [payload] at h
  split at h
  · rename_i hroom
    have hlength := congrArg List.length (Option.some.inj h)
    rw [List.length_take, List.length_drop, List.length_drop, payloadStart] at hlength
    have hfits := hroom.1
    rw [payloadStart] at hfits
    refine ⟨fun hpadding => ?_, fun hextension => ?_, by omega⟩
    · have hpos := hroom.2 hpadding
      omega
    · rw [extensionLength, if_pos hextension] at hlength hfits
      omega
  · cases h

/-- Of the first bytes with version 2, one is without any announcement. -/
theorem plain_iff (h : version v = 2) : Plain v ↔ v.getD 0 0 = 0x80 := by
  have hlt := (v.getD 0 0).toNat_lt
  rw [version] at h
  rw [Plain, HasPadding, HasExtension, contributingSources, ← UInt8.toNat_inj]
  change _ ↔ (v.getD 0 0).toNat = 128
  omega

end Base.Rtp
