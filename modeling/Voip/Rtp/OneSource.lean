import Mathlib.Data.List.Induction
import Voip.Rtp.Fields
import Voip.Rtp.Header

/-! What a depacker knows of the datagrams it has seen: whose the first relevant one was, and which
number the latest had. -/

namespace Voip

open Base

def relevantOnes (pt : UInt8) (seen : List Bytes) : List Bytes := seen.filter (Relevant pt ·)

section
variable {pt : UInt8} {v : Bytes}

theorem mem_relevantOnes {seen : List Bytes} :
    v ∈ relevantOnes pt seen ↔ v ∈ seen ∧ Relevant pt v := by
  rw [relevantOnes, List.mem_filter, decide_eq_true_iff]

theorem relevantOnes_append (seen seen' : List Bytes) :
    relevantOnes pt (seen ++ seen') = relevantOnes pt seen ++ relevantOnes pt seen' :=
  List.filter_append ..

theorem relevantOnes_singleton (hv : Relevant pt v) : relevantOnes pt [v] = [v] :=
  List.filter_cons_of_pos (decide_eq_true hv)

theorem relevantOnes_singleton_of_not (hv : ¬ Relevant pt v) : relevantOnes pt [v] = [] :=
  List.filter_cons_of_neg (by simpa using hv)

end

/-- The depacker's fields, and what it has answered, after the datagrams `seen`. -/
structure OneSource (pt : UInt8) (seen : List Bytes) (answered : List (Option Bytes))
    (d : RtpDepacker) : Prop where
  flags_eq : d.isSequenceNumberSet = d.isSSRCSet
  set_iff : d.isSequenceNumberSet = true ↔ ∃ v ∈ seen, Relevant pt v
  source : ∀ v, (relevantOnes pt seen).head? = some v → d.expectedSSRC.toNat = Rtp.ssrc v
  latest : ∀ v, (relevantOnes pt seen).getLast? = some v →
    d.lastSequenceNumber.toNat = Rtp.sequenceNumber v
  passed : ∀ (i : ℕ) payload, answered[i]? = some (some payload) → ∃ v, seen[i]? = some v ∧
    Relevant pt v ∧ Rtp.ssrc v = d.expectedSSRC.toNat ∧ payload = v.drop 12

namespace OneSource

variable {pt : UInt8} {seen : List Bytes} {answered : List (Option Bytes)}

theorem nil (pt : UInt8) : OneSource pt [] [] .new :=
  ⟨rfl, by simp [RtpDepacker.new], nofun, nofun, nofun⟩

/-- What was passed on before a further datagram, and what that one adds. -/
theorem passed_concat {d d' : RtpDepacker} {v : Bytes} {o : Option Bytes}
    (h : OneSource pt seen answered d) (hlength : answered.length = seen.length)
    (hsame : (∃ w ∈ seen, Relevant pt w) → d'.expectedSSRC = d.expectedSSRC)
    (hnew : ∀ payload, o = some payload → Relevant pt v ∧ Rtp.ssrc v = d'.expectedSSRC.toNat ∧
      payload = v.drop 12) (i : ℕ) (payload : Bytes)
    (hi : (answered ++ [o])[i]? = some (some payload)) : ∃ w, (seen ++ [v])[i]? = some w ∧
      Relevant pt w ∧ Rtp.ssrc w = d'.expectedSSRC.toNat ∧ payload = w.drop 12 := by
  rcases Nat.lt_or_ge i answered.length with hlt | hge
  · rw [List.getElem?_append_left hlt] at hi
    obtain ⟨w, hw, hrelevant, hssrc, hpayload⟩ := h.passed i payload hi
    refine ⟨w, ?_, hrelevant, ?_, hpayload⟩
    · rw [List.getElem?_append_left (hlength ▸ hlt), hw]
    · rw [hsame ⟨w, List.mem_of_getElem? hw, hrelevant⟩, hssrc]
  · obtain rfl : i = answered.length := by
      obtain ⟨hlt, -⟩ := List.getElem?_eq_some_iff.mp hi
      rw [List.length_append, List.length_singleton] at hlt
      omega
    rw [List.getElem?_concat_length] at hi
    refine ⟨v, ?_, hnew payload (Option.some.inj hi)⟩
    rw [hlength, List.getElem?_concat_length]

theorem relevantOnes_of_fresh (h : OneSource pt seen answered .new) :
    relevantOnes pt seen = [] := by
  apply List.eq_nil_iff_forall_not_mem.mpr
  intro v hv
  have hset := h.set_iff.mpr ⟨v, mem_relevantOnes.mp hv⟩
  cases hset

theorem concat_of_not_relevant {d : RtpDepacker} (h : OneSource pt seen answered d)
    (hlength : answered.length = seen.length) {v : Bytes} (hv : ¬ Relevant pt v) :
    OneSource pt (seen ++ [v]) (answered ++ [none]) d := by
  have hsame : relevantOnes pt (seen ++ [v]) = relevantOnes pt seen := by
    rw [relevantOnes_append, relevantOnes_singleton_of_not hv, List.append_nil]
  refine ⟨h.flags_eq, ?_, hsame ▸ h.source, hsame ▸ h.latest,
    h.passed_concat hlength (fun _ => rfl) nofun⟩
  rw [h.set_iff]
  simp [or_and_right, exists_or, hv]

theorem concat_fresh (h : OneSource pt seen answered .new)
    (hlength : answered.length = seen.length) {v : Bytes} (hv : Relevant pt v) :
    OneSource pt (seen ++ [v]) (answered ++ [some (v.drop 12)])
      (Session.bound (headerSequenceNumber v) (headerSSRC v)).toDepacker := by
  have hnone := h.relevantOnes_of_fresh
  have honly : relevantOnes pt (seen ++ [v]) = [v] := by
    rw [relevantOnes_append, hnone, relevantOnes_singleton hv, List.nil_append]
  refine ⟨rfl, iff_of_true rfl ⟨v, by simp, hv⟩, ?_, ?_, h.passed_concat hlength ?_ ?_⟩
  · rintro w hw
    obtain rfl : v = w := by simpa [honly] using hw
    exact headerSSRC_toNat v
  · rintro w hw
    obtain rfl : v = w := by simpa [honly] using hw
    exact headerSequenceNumber_toNat v
  · rintro ⟨w, hw⟩
    exact absurd (mem_relevantOnes.mpr hw) (hnone ▸ List.not_mem_nil)
  · rintro payload ⟨⟩
    exact ⟨hv, (headerSSRC_toNat v).symm, rfl⟩

theorem concat_bound {last : UInt16} {ssrc : UInt32}
    (h : OneSource pt seen answered (Session.bound last ssrc).toDepacker)
    (hlength : answered.length = seen.length) {v : Bytes} (hv : Relevant pt v) :
    OneSource pt (seen ++ [v])
      (answered ++ [if Rtp.sequenceNumber v = last.toNat + 1 ∧ Rtp.ssrc v = ssrc.toNat then
        some (v.drop 12) else none])
      (Session.bound (headerSequenceNumber v) ssrc).toDepacker := by
  obtain ⟨u, hu⟩ := h.set_iff.mp rfl
  have hne : relevantOnes pt seen ≠ [] := List.ne_nil_of_mem (mem_relevantOnes.mpr hu)
  have hlater : relevantOnes pt (seen ++ [v]) = relevantOnes pt seen ++ [v] := by
    rw [relevantOnes_append, relevantOnes_singleton hv]
  refine ⟨rfl, iff_of_true rfl ⟨v, by simp, hv⟩, ?_, ?_, h.passed_concat hlength ?_ ?_⟩
  · rw [hlater, List.head?_append_of_ne_nil _ hne]
    exact h.source
  · rintro w hw
    obtain rfl : v = w := by simpa [hlater] using hw
    exact headerSequenceNumber_toNat v
  · exact fun _ => rfl
  · intro payload hpayload
    split_ifs at hpayload with hnext
    exact ⟨hv, hnext.2, (Option.some.inj hpayload).symm⟩

theorem concat {s : Session} (h : OneSource pt seen answered s.toDepacker)
    (hlength : answered.length = seen.length) (v : Bytes) :
    OneSource pt (seen ++ [v]) (answered ++ [(s.receive pt v).1])
      (s.receive pt v).2.toDepacker := by
  by_cases hv : Relevant pt v
  · cases s with
    | fresh =>
      rw [Session.receive_fresh hv]
      exact h.concat_fresh hlength hv
    | bound last ssrc =>
      rw [Session.receive_relevant hv]
      exact h.concat_bound hlength hv
  · rw [Session.receive_of_not_relevant hv]
    exact h.concat_of_not_relevant hlength hv

/-- The run lemma: what a session remembers is what it has seen. -/
theorem answers_fresh (pt : UInt8) (seen : List Bytes) :
    OneSource pt seen (answers (Session.receive pt) .fresh seen).1
      (answers (Session.receive pt) .fresh seen).2.toDepacker := by
  induction seen using List.reverseRecOn with
  | nil => exact nil pt
  | append_singleton seen v ih =>
    rw [answers_append]
    exact ih.concat (length_answers ..) v

end OneSource

/-- After every step of a run of the loop, the depacker is bound to the source of the first relevant
datagram, and nobody else's payload has been passed on. -/
theorem oneSource_run (pt : UInt8) {vs : List Bytes} (hlong : ∀ v ∈ vs, 12 ≤ v.length) (n : ℕ) :
    ∃ answered d, drive (RtpDepacker.handle pt) .new (vs.take n) = .ok (answered, d) ∧
      OneSource pt (vs.take n) answered d ∧
      (d.isSSRCSet = true → ∃ v, (relevantOnes pt vs).head? = some v ∧
        d.expectedSSRC.toNat = Rtp.ssrc v) := by
  have hpart : ∀ v ∈ vs.take n, 12 ≤ v.length := fun v hv => hlong v (List.mem_of_mem_take hv)
  have hsource := OneSource.answers_fresh pt (vs.take n)
  refine ⟨_, _, Session.drive_handle pt .fresh hpart, hsource, fun hset => ?_⟩
  rw [← hsource.flags_eq, hsource.set_iff] at hset
  obtain ⟨w, hw⟩ := hset
  obtain ⟨v, rest, hfirst⟩ :=
    List.exists_cons_of_ne_nil (List.ne_nil_of_mem (mem_relevantOnes.mpr hw))
  refine ⟨v, ?_, hsource.source v (by rw [hfirst]; rfl)⟩
  -- the first one of the list is the first one of every part that has any
  have hsplit : relevantOnes pt (vs.take n ++ vs.drop n) = _ := relevantOnes_append ..
  rw [List.take_append_drop, hfirst] at hsplit
  rw [hsplit]
  rfl

theorem oneSource_run_two :
    ∃ answered d, drive (RtpDepacker.handle 10) .new
        [[0x80, 10, 0, 1, 0, 0, 0, 0, 0, 0, 0, 7, 42], [0x80, 10, 0, 5, 0, 0, 0, 0, 0, 0, 0, 9]] =
          .ok (answered, d) ∧ d.expectedSSRC = 7 ∧ d.lastSequenceNumber = 5 := by
  have hlong : ∀ v ∈ [[0x80, 10, 0, 1, 0, 0, 0, 0, 0, 0, 0, 7, 42],
      [0x80, 10, 0, 5, 0, 0, 0, 0, 0, 0, 0, 9]], 12 ≤ (v : Bytes).length := by decide
  obtain ⟨answered, d, hrun, hsource, -⟩ := oneSource_run 10 hlong 2
  refine ⟨answered, d, hrun, UInt32.toNat_inj.mp (hsource.source _ rfl),
    UInt16.toNat_inj.mp (hsource.latest _ rfl)⟩

end Voip
