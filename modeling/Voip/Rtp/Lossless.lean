import Voip.Rtp.Header

/-! A session without loss. The packer counts modulo 65535 and the depacker compares with
`last + 1` in `int`; the two agree up to the first wrap of either counter and no further. -/

namespace Voip

open Base

/-- The loop's answers when every packet of the packer reaches a new depacker, in order. -/
def losslessSession (p : RtpPacker) (payloads : List Bytes) :
    Except Fault (List (Option Bytes)) := do
  let (answered, _) ← drive (RtpDepacker.handle p.payloadType) .new (p.packAll payloads)
  pure answered

namespace Session

theorem receive_pack_fresh {pt : UInt8} {p : RtpPacker} (hp : p.payloadType &&& 0x7f = pt)
    (data : Bytes) :
    receive pt fresh (p.pack data).1 = (some data, bound p.seqNumber p.ssrc) := by
  have ha := (p.addressed_pack data pt).mpr hp
  simp [receive, ha]

theorem receive_pack_bound {pt : UInt8} {p : RtpPacker} (hp : p.payloadType &&& 0x7f = pt)
    (data : Bytes) (last : UInt16) :
    receive pt (bound last p.ssrc) (p.pack data).1 =
      (if p.seqNumber.toNat = last.toNat + 1 then some data else none,
        bound p.seqNumber p.ssrc) := by
  have ha := (p.addressed_pack data pt).mpr hp
  simp [receive, ha]

/-- How far a bound session follows the packer: its next packet has to carry `last + 1`, and no
later step of the counter may be a wrap. -/
theorem answers_packAll_iff (pt : UInt8) (payloads : List Bytes) (last : UInt16) (p : RtpPacker)
    (hp : p.payloadType &&& 0x7f = pt) :
    (answers (receive pt) (bound last p.ssrc) (p.packAll payloads)).1 = payloads.map some ↔
      payloads = [] ∨ p.seqNumber.toNat = last.toNat + 1 ∧
        (payloads.length ≤ 1 ∨ p.seqNumber.toNat + payloads.length ≤ 65535) := by
  induction payloads generalizing last p with
  | nil => simp [RtpPacker.packAll, answers]
  | cons data rest ih =>
    have hnext := ih p.seqNumber (p.pack data).2 (by simpa using hp)
    have hseq := p.pack_seqNumber_toNat data
    rw [RtpPacker.pack_ssrc] at hnext
    simp only [RtpPacker.packAll, answers, receive_pack_bound hp, List.map_cons, List.cons.injEq,
      hnext, reduceCtorEq, false_or, List.length_cons]
    by_cases hs : p.seqNumber.toNat = last.toNat + 1
    · cases rest with
      -- a wrap behind the last packet is not seen by anybody
      | nil => simp [hs]
      | cons data' rest' =>
        simp only [hs, if_true, true_and, reduceCtorEq, false_or, List.length_cons]
        have hlt := p.seqNumber.toNat_lt
        omega
    · simp [hs]

theorem answers_fresh_iff {pt : UInt8} (p : RtpPacker) (hp : p.payloadType &&& 0x7f = pt)
    (payloads : List Bytes) :
    (answers (receive pt) fresh (p.packAll payloads)).1 = payloads.map some ↔
      payloads.length ≤ 1 ∨ p.seqNumber.toNat + payloads.length ≤ 65535 := by
  cases payloads with
  | nil => simp [RtpPacker.packAll, answers]
  | cons data rest =>
    have hnext := answers_packAll_iff pt rest p.seqNumber (p.pack data).2 (by simpa using hp)
    have hseq := p.pack_seqNumber_toNat data
    rw [RtpPacker.pack_ssrc] at hnext
    simp only [RtpPacker.packAll, answers, receive_pack_fresh hp, List.map_cons, List.cons.injEq,
      true_and, hnext, List.length_cons]
    cases rest with
    | nil => simp
    | cons data' rest' =>
      simp only [reduceCtorEq, false_or, List.length_cons]
      have hlt := p.seqNumber.toNat_lt
      omega

end Session

/-- A lossless session arrives whole exactly when the packer's counter does not wrap in it. -/
theorem losslessSession_iff (p : RtpPacker)
    (hpt : p.payloadType = 10 ∨ p.payloadType = 11 ∨ p.payloadType = OPUS_PAYLOADTYPE)
    (payloads : List Bytes) :
    losslessSession p payloads = .ok (payloads.map some) ↔
      payloads.length ≤ 1 ∨ p.seqNumber.toNat + payloads.length ≤ 65535 := by
  have hmask : p.payloadType &&& 0x7f = p.payloadType := by
    rcases hpt with h | h | h <;> rw [h] <;> decide
  have hlong : ∀ v ∈ p.packAll payloads, 12 ≤ v.length :=
    fun v hv => (RtpPacker.of_mem_packAll hv).1
  have hrun := Session.drive_handle p.payloadType .fresh hlong
  rw [← Session.answers_fresh_iff p hmask payloads]
  change (drive _ Session.fresh.toDepacker _ >>= fun r => pure r.1) = _ ↔ _
  rw [hrun]
  simp [bind, Except.bind, pure, Except.pure]

theorem losslessSession_iff_two :
    losslessSession ⟨1, 7, 9, 10⟩ [[1], [2]] = .ok [some [1], some [2]] :=
  (losslessSession_iff ⟨1, 7, 9, 10⟩ (by decide) [[1], [2]]).mpr (by decide)

/-- The packet after number 65534 carries 0 and is rejected. -/
theorem losslessSession_wrap :
    ¬ losslessSession ⟨65534, 7, 9, 10⟩ [[1], [2]] = .ok [some [1], some [2]] := by
  decide

end Voip
