import Voip.Rtp.Fields
import Voip.Rtp.Header

/-! One stream with losses. A rejected packet still moves the window, so the packet behind it is
accepted again: a gap costs the packet behind it and no other. -/

namespace Voip

open Base

def Earlier (v w : Bytes) : Prop := Rtp.sequenceNumber v < Rtp.sequenceNumber w

instance : DecidableRel Earlier := fun v w =>
  inferInstanceAs (Decidable (Rtp.sequenceNumber v < Rtp.sequenceNumber w))

/-- Among the delivered packets is the one directly before `v` in the stream. -/
def PredecessorIn (delivered : List Bytes) (v : Bytes) : Prop :=
  ∃ w ∈ delivered, Rtp.sequenceNumber w + 1 = Rtp.sequenceNumber v

instance (delivered : List Bytes) (v : Bytes) : Decidable (PredecessorIn delivered v) :=
  inferInstanceAs (Decidable (∃ w ∈ delivered, _))

/-- How many numbers do not follow the one that came directly before them. -/
def gaps : List ℕ → ℕ
  | m :: n :: ns => (if n = m + 1 then 0 else 1) + gaps (n :: ns)
  | _ => 0

/-- In a stream, the predecessor was delivered if it was delivered last. -/
theorem predecessorIn_iff {before later : List Bytes} {u v : Bytes}
    (hsorted : (before ++ u :: v :: later).Pairwise Earlier) :
    PredecessorIn (before ++ u :: v :: later) v ↔
      Rtp.sequenceNumber v = Rtp.sequenceNumber u + 1 := by
  obtain ⟨-, hrest, hbefore⟩ := List.pairwise_append.mp hsorted
  obtain ⟨hu, hv⟩ := List.pairwise_cons.mp hrest
  obtain ⟨hlater, -⟩ := List.pairwise_cons.mp hv
  have huv : Rtp.sequenceNumber u < Rtp.sequenceNumber v := hu v (List.mem_cons_self ..)
  constructor
  · rintro ⟨w, hw, hnext⟩
    rcases List.mem_append.mp hw with hw | hw
    · have hwu : Rtp.sequenceNumber w < Rtp.sequenceNumber u :=
        hbefore w hw u (List.mem_cons_self ..)
      omega
    · rcases List.mem_cons.mp hw with rfl | hw
      · exact hnext.symm
      · rcases List.mem_cons.mp hw with rfl | hw
        · omega
        · have hvw : Rtp.sequenceNumber v < Rtp.sequenceNumber w := hlater w hw
          omega
  · intro hnext
    exact ⟨u, List.mem_append_right _ (List.mem_cons_self ..), hnext.symm⟩

namespace Session

variable {pt : UInt8} {ssrc : UInt32}

/-- The rest of a stream behind a packet `u`, with what was delivered up to it. -/
theorem answers_stream (before vs : List Bytes) (u : Bytes)
    (hstream : ∀ v ∈ vs, Relevant pt v ∧ Rtp.ssrc v = ssrc.toNat)
    (hsorted : (before ++ u :: vs).Pairwise Earlier) :
    (answers (receive pt) (bound (headerSequenceNumber u) ssrc) vs).1 =
      vs.map fun v => if PredecessorIn (before ++ u :: vs) v then some (v.drop 12) else none := by
  induction vs generalizing before u with
  | nil => rfl
  | cons v vs ih =>
    obtain ⟨⟨hrelevant, hssrc⟩, hrest⟩ := List.forall_mem_cons.mp hstream
    have hassoc : before ++ u :: v :: vs = (before ++ [u]) ++ v :: vs := by simp
    have htail := ih (before ++ [u]) v hrest (hassoc ▸ hsorted)
    have hhead := predecessorIn_iff hsorted
    simp only [answers, receive_relevant hrelevant, hssrc, and_true, headerSequenceNumber_toNat,
      List.map_cons, hhead, htail, ← hassoc]

theorem count_none_stream (vs : List Bytes) (u : Bytes)
    (hstream : ∀ v ∈ vs, Relevant pt v ∧ Rtp.ssrc v = ssrc.toNat) :
    (answers (receive pt) (bound (headerSequenceNumber u) ssrc) vs).1.count none =
      gaps ((u :: vs).map Rtp.sequenceNumber) := by
  induction vs generalizing u with
  | nil => rfl
  | cons v vs ih =>
    obtain ⟨⟨hrelevant, hssrc⟩, hrest⟩ := List.forall_mem_cons.mp hstream
    have htail := ih v hrest
    simp only [answers, receive_relevant hrelevant, hssrc, and_true, headerSequenceNumber_toNat,
      List.count_cons, htail, List.map_cons, gaps]
    by_cases hnext : Rtp.sequenceNumber v = Rtp.sequenceNumber u + 1
    · simp [hnext]
    · simp only [if_neg hnext, BEq.rfl, if_true]
      exact Nat.add_comm ..

end Session

/-- What is delivered of a stream, in order: the first packet is accepted, and a later one exactly
if its predecessor was delivered. As many are rejected as there are gaps. -/
theorem answers_of_losses {pt : UInt8} {ssrc : UInt32} {delivered : List Bytes}
    (hstream : ∀ v ∈ delivered, 12 ≤ v.length ∧ Relevant pt v ∧ Rtp.ssrc v = ssrc.toNat)
    (hsorted : delivered.Pairwise Earlier) :
    ∃ answered d, drive (RtpDepacker.handle pt) .new delivered = .ok (answered, d) ∧
      (answered = delivered.map fun v =>
        if delivered.head? = some v ∨ PredecessorIn delivered v then some (v.drop 12) else none) ∧
      answered.count none = gaps (delivered.map Rtp.sequenceNumber) := by
  have hrun := Session.drive_handle pt .fresh fun v hv => (hstream v hv).1
  refine ⟨_, _, hrun, ?_⟩
  cases delivered with
  | nil => exact ⟨rfl, rfl⟩
  | cons u vs =>
    obtain ⟨⟨-, hrelevant, hssrc⟩, hrest⟩ := List.forall_mem_cons.mp hstream
    obtain rfl : headerSSRC u = ssrc := UInt32.toNat_inj.mp ((headerSSRC_toNat u).trans hssrc)
    have hstream' : ∀ v ∈ vs, Relevant pt v ∧ Rtp.ssrc v = (headerSSRC u).toNat :=
      fun v hv => (hrest v hv).2
    have hanswers := Session.answers_stream [] vs u hstream' hsorted
    have hcount := Session.count_none_stream vs u hstream'
    simp only [answers, Session.receive_fresh hrelevant]
    refine ⟨?_, by rw [List.count_cons_of_ne (Option.some_ne_none _), hcount]⟩
    rw [hanswers, List.map_cons, if_pos (.inl rfl)]
    congr 1
    apply List.map_congr_left
    intro v hv
    -- no later packet is the first one
    have hne : u ≠ v := by
      rintro rfl
      exact Nat.lt_irrefl _ ((List.pairwise_cons.mp hsorted).1 u hv)
    simp [hne]

/-- Number 3 is lost, and 4 with it. -/
theorem answers_of_losses_one :
    ∃ answered d, drive (RtpDepacker.handle 10) .new
        [[0x80, 10, 0, 1, 0, 0, 0, 0, 0, 0, 0, 7], [0x80, 10, 0, 2, 0, 0, 0, 0, 0, 0, 0, 7],
          [0x80, 10, 0, 4, 0, 0, 0, 0, 0, 0, 0, 7], [0x80, 10, 0, 5, 0, 0, 0, 0, 0, 0, 0, 7]] =
          .ok (answered, d) ∧ answered = [some [], some [], none, some []] ∧
      answered.count none = 1 := by
  have hstream : ∀ v ∈ [[0x80, 10, 0, 1, 0, 0, 0, 0, 0, 0, 0, 7],
      [0x80, 10, 0, 2, 0, 0, 0, 0, 0, 0, 0, 7], [0x80, 10, 0, 4, 0, 0, 0, 0, 0, 0, 0, 7],
      [0x80, 10, 0, 5, 0, 0, 0, 0, 0, 0, 0, 7]],
      12 ≤ (v : Bytes).length ∧ Relevant 10 v ∧ Rtp.ssrc v = (7 : UInt32).toNat := by decide
  obtain ⟨answered, d, hrun, hanswered, hcount⟩ := answers_of_losses hstream (by decide)
  exact ⟨answered, d, hrun, hanswered, hcount⟩

end Voip
