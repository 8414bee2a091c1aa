import Mathlib.Data.List.Sort
import Voip.Rtp.Header

/-! One packer's packets handed to the loop with any loss, duplication and reordering. A packet
is accepted when it arrives directly behind its predecessor, whatever was accepted before, so a
pair delivered again is accepted again. -/

namespace Voip

/-- A sequence number arrives in step if it is `last + 1`, where `last` arrived just before it.
`ReplayAbove last high ns` asks that each one in step exceeds `high`, the one in step before it. -/
def ReplayAbove : ℕ → ℕ → List ℕ → Prop
  | _, _, [] => True
  | last, high, n :: ns =>
    if n = last + 1 then high < n ∧ ReplayAbove n n ns else ReplayAbove n high ns

/-- The first arrival is in step; no later arrival in step goes back to or below an earlier one. -/
def ReplayFree : List ℕ → Prop
  | [] => True
  | n :: ns => ReplayAbove n n ns

instance decidableReplayAbove : (last high : ℕ) → (ns : List ℕ) →
    Decidable (ReplayAbove last high ns)
  | _, _, [] => inferInstanceAs (Decidable True)
  | last, high, n :: ns =>
    if h : n = last + 1 then
      have := decidableReplayAbove n n ns
      decidable_of_iff (high < n ∧ ReplayAbove n n ns) (by simp [ReplayAbove, h])
    else
      have := decidableReplayAbove n high ns
      decidable_of_iff (ReplayAbove n high ns) (by simp [ReplayAbove, h])

instance : DecidablePred ReplayFree
  | [] => inferInstanceAs (Decidable True)
  | n :: ns => inferInstanceAs (Decidable (ReplayAbove n n ns))

def Before (v w : Bytes) : Prop := headerSequenceNumber v < headerSequenceNumber w

instance : DecidableRel Before := fun v w =>
  inferInstanceAs (Decidable (headerSequenceNumber v < headerSequenceNumber w))

theorem before_iff {v w : Bytes} :
    Before v w ↔ (headerSequenceNumber v).toNat < (headerSequenceNumber w).toNat :=
  UInt16.lt_iff_toNat_lt

instance : IsTrans Bytes Before := ⟨fun _ _ _ => UInt16.lt_trans⟩

instance : Std.Irrefl Before := ⟨fun _ => UInt16.lt_irrefl _⟩

instance : Std.Antisymm Before :=
  ⟨fun _ _ h h' => absurd (UInt16.lt_trans h h') (UInt16.lt_irrefl _)⟩

/-- Among packets in numbered order, picking some in order is picking a subsequence. -/
theorem sublist_iff_pairwise_before {vs sent : List Bytes} (hsent : sent.Pairwise Before)
    (hmem : vs ⊆ sent) : vs.Sublist sent ↔ vs.Pairwise Before := by
  constructor
  · intro h
    exact hsent.sublist h
  · intro h
    exact List.sublist_of_subperm_of_pairwise (List.subperm_of_subset h.nodup hmem) h hsent

namespace Session

def accepted (pt : UInt8) : Session → List Bytes → List Bytes
  | _, [] => []
  | s, v :: vs =>
    if (receive pt s v).1.isSome then v :: accepted pt (receive pt s v).2 vs
    else accepted pt (receive pt s v).2 vs

theorem acceptedPackets_toDepacker (pt : UInt8) (s : Session) {vs : List Bytes}
    (h : ∀ v ∈ vs, 12 ≤ v.length) :
    RtpDepacker.acceptedPackets pt s.toDepacker vs = .ok (accepted pt s vs) := by
  induction vs generalizing s with
  | nil => rfl
  | cons v vs ih =>
    have hv := handle_of_readable (readable_of_header pt s (h v (List.mem_cons_self ..)))
    have hvs := ih (receive pt s v).2 (fun w hw => h w (List.mem_cons_of_mem _ hw))
    simp only [RtpDepacker.acceptedPackets, hv, bind, Except.bind, hvs, pure, Except.pure, accepted]

theorem accepted_subset (pt : UInt8) (s : Session) (vs : List Bytes) : accepted pt s vs ⊆ vs := by
  induction vs generalizing s with
  | nil => exact List.Subset.refl _
  | cons v vs ih =>
    have hvs := ih (receive pt s v).2
    unfold accepted
    split_ifs
    · exact List.cons_subset_cons v hvs
    · exact List.subset_cons_of_subset v hvs

theorem accepted_of_not_addressed (pt : UInt8) (s : Session) {vs : List Bytes}
    (h : ∀ v ∈ vs, ¬ Addressed pt v) : accepted pt s vs = [] := by
  induction vs with
  | nil => rfl
  | cons v vs ih =>
    have hv : receive pt s v = (none, s) := by simp [receive, h v (List.mem_cons_self ..)]
    have hvs := ih (fun w hw => h w (List.mem_cons_of_mem _ hw))
    simpa only [accepted, hv, Option.isSome_none, Bool.false_eq_true, if_false] using hvs

theorem receive_bound {pt : UInt8} {v : Bytes} (ha : Addressed pt v) (last : UInt16) :
    receive pt (bound last (headerSSRC v)) v =
      (if (headerSequenceNumber v).toNat = last.toNat + 1 then some (v.drop 12) else none,
        bound (headerSequenceNumber v) (headerSSRC v)) := by
  simp [receive, ha]

/-- What a bound session accepts is in order, starting above `high`, exactly when no arrival in
step goes back. -/
theorem pairwise_accepted_iff {pt : UInt8} {ssrc : UInt32} (vs : List Bytes)
    (h : ∀ v ∈ vs, Addressed pt v ∧ headerSSRC v = ssrc) (last : UInt16) (high : Bytes) :
    (high :: accepted pt (bound last ssrc) vs).Pairwise Before ↔
      ReplayAbove last.toNat (headerSequenceNumber high).toNat
        (vs.map fun v => (headerSequenceNumber v).toNat) := by
  induction vs generalizing last high with
  | nil => simp [accepted, ReplayAbove]
  | cons v vs ih =>
    obtain ⟨ha, rfl⟩ := h v (List.mem_cons_self ..)
    have hvs := ih (fun w hw => h w (List.mem_cons_of_mem _ hw)) (headerSequenceNumber v)
    by_cases hs : (headerSequenceNumber v).toNat = last.toNat + 1
    · have hchain : ∀ rest : List Bytes, (high :: v :: rest).Pairwise Before ↔
          Before high v ∧ (v :: rest).Pairwise Before := by
        intro rest
        simp only [← List.isChain_iff_pairwise, List.isChain_cons_cons]
      simp only [accepted, receive_bound ha, hs, if_true, Option.isSome_some, List.map_cons,
        ReplayAbove, hchain, hvs v, before_iff]
    · simp only [accepted, receive_bound ha, hs, if_false, Option.isSome_none, Bool.false_eq_true,
        List.map_cons, ReplayAbove, hvs high]

theorem pairwise_accepted_fresh_iff {pt : UInt8} {ssrc : UInt32} (vs : List Bytes)
    (h : ∀ v ∈ vs, Addressed pt v ∧ headerSSRC v = ssrc) :
    (accepted pt fresh vs).Pairwise Before ↔
      ReplayFree (vs.map fun v => (headerSequenceNumber v).toNat) := by
  cases vs with
  | nil => simp [accepted, ReplayFree]
  | cons v vs =>
    obtain ⟨ha, rfl⟩ := h v (List.mem_cons_self ..)
    have hvs := pairwise_accepted_iff vs (fun w hw => h w (List.mem_cons_of_mem _ hw))
      (headerSequenceNumber v) v
    simpa [accepted, receive, ha, ReplayFree] using hvs

end Session

/-- What the receiver makes of any arrivals of one packer's packets: it accepts a subsequence of
what was sent, by increasing sequence numbers, exactly when no pair of them is replayed. -/
theorem acceptedPackets_sublist_iff (p : RtpPacker) (payloads : List Bytes) (pt : UInt8)
    (arrivals : List Bytes) (hsent : (p.packAll payloads).Pairwise Before)
    (harrive : ∀ v ∈ arrivals, v ∈ p.packAll payloads) :
    (∃ acc, RtpDepacker.acceptedPackets pt .new arrivals = .ok acc ∧
        acc.Sublist (p.packAll payloads) ∧ acc.Pairwise Before) ↔
      (p.payloadType &&& 0x7f = pt →
        ReplayFree (arrivals.map fun v => (headerSequenceNumber v).toNat)) := by
  have hfields := fun v hv => RtpPacker.of_mem_packAll (harrive v hv)
  have hrun := Session.acceptedPackets_toDepacker pt .fresh (fun v hv => (hfields v hv).1)
  have hsub := sublist_iff_pairwise_before hsent
    (fun v hv => harrive v (Session.accepted_subset pt .fresh arrivals hv))
  have hrun' : (∃ acc, RtpDepacker.acceptedPackets pt .new arrivals = .ok acc ∧
      acc.Sublist (p.packAll payloads) ∧ acc.Pairwise Before) ↔
      (Session.accepted pt .fresh arrivals).Pairwise Before := by
    rw [show RtpDepacker.new = Session.fresh.toDepacker from rfl, hrun]
    simp [hsub]
  rw [hrun']
  by_cases hp : p.payloadType &&& 0x7f = pt
  · have haddr : ∀ v ∈ arrivals, Session.Addressed pt v ∧ headerSSRC v = p.ssrc := fun v hv =>
      ⟨⟨(hfields v hv).2.2.1, (hfields v hv).2.2.2.trans hp⟩, (hfields v hv).2.1⟩
    simp only [hp, forall_const, Session.pairwise_accepted_fresh_iff arrivals haddr]
  · have hnot : ∀ v ∈ arrivals, ¬ Session.Addressed pt v :=
      fun v hv ha => hp ((hfields v hv).2.2.2.symm.trans ha.2)
    have hnone := Session.accepted_of_not_addressed pt .fresh hnot
    simp [hnone, hp]

theorem acceptedPackets_sublist_iff_duplicate :
    ∃ acc, RtpDepacker.acceptedPackets 10 .new
        ((RtpPacker.packAll ⟨1, 7, 9, 10⟩ [[1], [2]]).flatMap fun v => [v, v]) = .ok acc ∧
      acc.Sublist (RtpPacker.packAll ⟨1, 7, 9, 10⟩ [[1], [2]]) ∧ acc.Pairwise Before :=
  (acceptedPackets_sublist_iff ⟨1, 7, 9, 10⟩ [[1], [2]] 10 _ (by decide) (by decide)).mpr
    (by decide)

/-- Two packets, delivered twice over: the second is played twice. -/
theorem acceptedPackets_replay :
    (RtpPacker.packAll ⟨1, 7, 9, 10⟩ [[1], [2]]).Pairwise Before ∧
      ¬ ∃ acc, RtpDepacker.acceptedPackets 10 .new
          (RtpPacker.packAll ⟨1, 7, 9, 10⟩ [[1], [2]] ++
            RtpPacker.packAll ⟨1, 7, 9, 10⟩ [[1], [2]]) = .ok acc ∧
        acc.Sublist (RtpPacker.packAll ⟨1, 7, 9, 10⟩ [[1], [2]]) := by
  refine ⟨by decide, ?_⟩
  rintro ⟨acc, hacc, hsub⟩
  have hlen : (RtpDepacker.acceptedPackets 10 .new
      (RtpPacker.packAll ⟨1, 7, 9, 10⟩ [[1], [2]] ++
        RtpPacker.packAll ⟨1, 7, 9, 10⟩ [[1], [2]])).map List.length = .ok 3 := by decide
  rw [hacc] at hlen
  have hthree : acc.length = 3 := Except.ok.inj hlen
  have hle := hsub.length_le
  rw [hthree] at hle
  exact absurd hle (by decide)

end Voip
