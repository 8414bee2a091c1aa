import Mathlib.Data.List.ReduceOption
import Voip.Rtp.Header

/-! Foreign packets in a bound session. A packet of another version or payload type leaves no
trace, but one of another sender gets as far as the sequence number, which is kept before the SSRC
is looked at. -/

namespace Voip

open Base

/-- Whether a datagram belongs to the list as it was or was put in between. -/
inductive Origin where
  | own
  | inserted
  deriving DecidableEq, Repr

def ownPackets (ms : List (Origin × Bytes)) : List Bytes :=
  ms.filterMap fun m => if m.1 = .own then some m.2 else none

@[simp] theorem ownPackets_own (v : Bytes) (ms : List (Origin × Bytes)) :
    ownPackets ((.own, v) :: ms) = v :: ownPackets ms := rfl

@[simp] theorem ownPackets_inserted (v : Bytes) (ms : List (Origin × Bytes)) :
    ownPackets ((.inserted, v) :: ms) = ownPackets ms := rfl

def RtpDepacker.receivedPayloads (pt : UInt8) (d : RtpDepacker) (vs : List Bytes) :
    Except Fault (List Bytes) := do
  let (answered, _) ← drive (handle pt) d vs
  pure answered.reduceOption

/-- Every inserted packet is rejected and leaves the depacker as it was. -/
def Undisturbed (pt : UInt8) : RtpDepacker → List (Origin × Bytes) → Prop :=
  Along (fun d m => d.handle pt m.2) fun d m => m.1 = .inserted → d.handle pt m.2 = .ok (none, d)

/-- An inserted packet that passes the checks of version and payload type carries the number of
the last packet that did. -/
def Harmless (pt : UInt8) : UInt16 → List (Origin × Bytes) → Prop
  | _, [] => True
  | last, m :: ms =>
    (m.1 = .inserted → Session.Addressed pt m.2 → headerSequenceNumber m.2 = last) ∧
      Harmless pt (if Session.Addressed pt m.2 then headerSequenceNumber m.2 else last) ms

namespace Session

theorem receive_bound_snd (pt : UInt8) (v : Bytes) (last : UInt16) (ssrc : UInt32) :
    (receive pt (bound last ssrc) v).2 =
      bound (if Addressed pt v then headerSequenceNumber v else last) ssrc := by
  by_cases ha : Addressed pt v <;> simp [receive, ha]

theorem receive_foreign_iff {pt : UInt8} {v : Bytes} {last : UInt16} {ssrc : UInt32}
    (h : ¬ (Addressed pt v ∧ headerSSRC v = ssrc)) :
    receive pt (bound last ssrc) v = (none, bound last ssrc) ↔
      (Addressed pt v → headerSequenceNumber v = last) := by
  by_cases ha : Addressed pt v
  · have hs : headerSSRC v ≠ ssrc := fun hs => h ⟨ha, hs⟩
    simp [receive, ha, hs]
  · simp [receive, ha]

theorem undisturbed_iff {pt : UInt8} {ssrc : UInt32} (ms : List (Origin × Bytes))
    (hlong : ∀ m ∈ ms, 12 ≤ m.2.length)
    (hforeign : ∀ m ∈ ms, m.1 = .inserted → ¬ (Addressed pt m.2 ∧ headerSSRC m.2 = ssrc))
    (last : UInt16) :
    Undisturbed pt (bound last ssrc).toDepacker ms ↔ Harmless pt last ms := by
  induction ms generalizing last with
  | nil => simp [Undisturbed, Along, Harmless]
  | cons m ms ih =>
    have hstep := handle_of_readable (readable_of_header pt (bound last ssrc)
      (hlong m (List.mem_cons_self ..)))
    have hrest := ih (fun n hn => hlong n (List.mem_cons_of_mem _ hn))
      (fun n hn => hforeign n (List.mem_cons_of_mem _ hn))
    have hnext := receive_bound_snd pt m.2 last ssrc
    have hhead : (m.1 = .inserted → (bound last ssrc).toDepacker.handle pt m.2 =
        .ok (none, (bound last ssrc).toDepacker)) ↔
        (m.1 = .inserted → Addressed pt m.2 → headerSequenceNumber m.2 = last) := by
      refine imp_congr_right fun hm => ?_
      rw [← receive_foreign_iff (hforeign m (List.mem_cons_self ..) hm), hstep]
      simp only [Except.ok.injEq, Prod.ext_iff, toDepacker_injective.eq_iff]
    have htail : (∀ o d', (bound last ssrc).toDepacker.handle pt m.2 = .ok (o, d') →
        Undisturbed pt d' ms) ↔
        Harmless pt (if Addressed pt m.2 then headerSequenceNumber m.2 else last) ms := by
      rw [← hrest, hstep, hnext]
      constructor
      · intro h
        exact h _ _ rfl
      · rintro h o d' hd
        obtain ⟨-, rfl⟩ := Prod.mk.inj (Except.ok.inj hd)
        exact h
    exact and_congr hhead htail

theorem answers_of_harmless {pt : UInt8} {ssrc : UInt32} (ms : List (Origin × Bytes))
    (hforeign : ∀ m ∈ ms, m.1 = .inserted → ¬ (Addressed pt m.2 ∧ headerSSRC m.2 = ssrc))
    (last : UInt16) (h : Harmless pt last ms) :
    (answers (receive pt) (bound last ssrc) (ms.map Prod.snd)).1.reduceOption =
      (answers (receive pt) (bound last ssrc) (ownPackets ms)).1.reduceOption := by
  induction ms generalizing last with
  | nil => rfl
  | cons m ms ih =>
    obtain ⟨o, v⟩ := m
    obtain ⟨hhead, htail⟩ := h
    have hrest := fun last => ih (fun n hn => hforeign n (List.mem_cons_of_mem _ hn)) last
    cases o with
    | own =>
      have hnext := receive_bound_snd pt v last ssrc
      simp only [List.map_cons, ownPackets_own, answers, hnext]
      cases (receive pt (bound last ssrc) v).1 with
      | none => simpa only [List.reduceOption_cons_of_none] using hrest _ htail
      | some payload =>
        simpa only [List.reduceOption_cons_of_some, List.cons.injEq, true_and] using hrest _ htail
    | inserted =>
      have hnone := (receive_foreign_iff (hforeign _ (List.mem_cons_self ..) rfl)).mpr (hhead rfl)
      have hlast : (if Addressed pt v then headerSequenceNumber v else last) = last := by
        split_ifs with ha
        · exact hhead rfl ha
        · rfl
      rw [hlast] at htail
      simpa only [List.map_cons, ownPackets_inserted, answers, hnone,
        List.reduceOption_cons_of_none] using hrest _ htail

/-- Whatever the depacker has seen before, a packet it accepts binds it to that packet's SSRC. -/
theorem handle_some {pt : UInt8} {d d' : RtpDepacker} {v payload : Bytes} (h12 : 12 ≤ v.length)
    (h : d.handle pt v = .ok (some payload, d')) :
    payload = v.drop 12 ∧ d' = (bound (headerSequenceNumber v) (headerSSRC v)).toDepacker := by
  cases hvalid : d.validatePacket v pt with
  | error e => simp [RtpDepacker.handle, hvalid] at h
  | ok checked =>
    obtain ⟨valid, d''⟩ := checked
    cases valid with
    | false => simp [RtpDepacker.handle, hvalid] at h
    | true =>
      obtain ⟨hssrc, rfl⟩ := RtpDepacker.of_validatePacket_true h12 hvalid
      simp only [RtpDepacker.handle, hvalid, RtpDepacker.unpack_of_lt h12, ok_bind, pure_eq_ok,
        if_true, Except.ok.injEq, Prod.mk.injEq, Option.some.injEq] at h
      obtain ⟨rfl, rfl⟩ := h
      have hlast : (if d.isSequenceNumberSet then
          if d.isSequenceNumberSet then headerSequenceNumber v else d.lastSequenceNumber
          else headerSequenceNumber v) = headerSequenceNumber v := by
        split_ifs <;> rfl
      have hexpected : (if d.isSSRCSet then d.expectedSSRC else headerSSRC v) = headerSSRC v := by
        split_ifs with hset
        · exact (hssrc hset).symm
        · rfl
      rw [hlast, hexpected]
      exact ⟨rfl, rfl⟩

theorem receivedPayloads_toDepacker (pt : UInt8) (s : Session) {vs : List Bytes}
    (h : ∀ v ∈ vs, 12 ≤ v.length) :
    s.toDepacker.receivedPayloads pt vs = .ok (answers (receive pt) s vs).1.reduceOption := by
  have hrun := drive_handle pt s h
  simp only [RtpDepacker.receivedPayloads, hrun, bind, Except.bind, pure, Except.pure]

end Session

theorem mem_ownPackets {ms : List (Origin × Bytes)} {v : Bytes} (h : v ∈ ownPackets ms) :
    (.own, v) ∈ ms := by
  obtain ⟨⟨o, w⟩, hm, hv⟩ := List.mem_filterMap.mp h
  cases o with
  | own =>
    obtain rfl : w = v := Option.some.inj hv
    exact hm
  | inserted => cases hv

theorem RtpDepacker.receivedPayloads_cons {pt : UInt8} {d d' : RtpDepacker} {v payload : Bytes}
    (h : d.handle pt v = .ok (some payload, d')) (vs : List Bytes) :
    d.receivedPayloads pt (v :: vs) = (d'.receivedPayloads pt vs).map (payload :: ·) := by
  simp only [receivedPayloads, drive, h, bind, Except.bind, pure, Except.pure]
  cases drive (handle pt) d' vs <;> simp [Except.map]

/-- Two runs from one packet that the depacker accepts, the second with foreign packets put in
anywhere behind it. What is passed on is the same, and no inserted packet leaves a trace, exactly
when the inserted packets are harmless. -/
theorem receivedPayloads_inserted_iff (pt : UInt8) {d d' : RtpDepacker} {first payload : Bytes}
    (h12 : 12 ≤ first.length) (hfirst : d.handle pt first = .ok (some payload, d'))
    (ms : List (Origin × Bytes)) (hlong : ∀ m ∈ ms, 12 ≤ m.2.length)
    (hforeign : ∀ m ∈ ms, m.1 = .inserted → headerVersion m.2 ≠ 2 ∨ headerPayloadType m.2 ≠ pt ∨
      headerSSRC m.2 ≠ headerSSRC first) :
    (d.receivedPayloads pt (first :: ms.map Prod.snd) =
        d.receivedPayloads pt (first :: ownPackets ms) ∧ Undisturbed pt d' ms) ↔
      Harmless pt (headerSequenceNumber first) ms := by
  obtain ⟨-, rfl⟩ := Session.handle_some h12 hfirst
  have hforeign' : ∀ m ∈ ms, m.1 = .inserted →
      ¬ (Session.Addressed pt m.2 ∧ headerSSRC m.2 = headerSSRC first) := by
    rintro m hm ho ⟨⟨hv, hp⟩, hs⟩
    rcases hforeign m hm ho with h | h | h
    · exact h hv
    · exact h hp
    · exact h hs
  have hall : ∀ v ∈ ms.map Prod.snd, 12 ≤ v.length := List.forall_mem_map.mpr hlong
  have hown : ∀ v ∈ ownPackets ms, 12 ≤ v.length := fun v hv => hlong _ (mem_ownPackets hv)
  have hiff := Session.undisturbed_iff ms hlong hforeign' (headerSequenceNumber first)
  rw [RtpDepacker.receivedPayloads_cons hfirst, RtpDepacker.receivedPayloads_cons hfirst, hiff,
    Session.receivedPayloads_toDepacker pt _ hall, Session.receivedPayloads_toDepacker pt _ hown]
  constructor
  · intro h
    exact h.2
  · intro h
    exact ⟨by rw [Session.answers_of_harmless ms hforeign' _ h], h⟩

theorem receivedPayloads_inserted_iff_version :
    RtpDepacker.new.receivedPayloads 10 [[0x80, 10, 0, 1, 0, 0, 0, 0, 0, 0, 0, 9, 1],
        [0, 10, 0, 7, 0, 0, 0, 0, 0, 0, 0, 5, 1], [0x80, 10, 0, 2, 0, 0, 0, 0, 0, 0, 0, 9, 2]] =
      RtpDepacker.new.receivedPayloads 10 [[0x80, 10, 0, 1, 0, 0, 0, 0, 0, 0, 0, 9, 1],
        [0x80, 10, 0, 2, 0, 0, 0, 0, 0, 0, 0, 9, 2]] :=
  ((receivedPayloads_inserted_iff 10 (by decide)
    (show RtpDepacker.new.handle 10 [0x80, 10, 0, 1, 0, 0, 0, 0, 0, 0, 0, 9, 1] =
      .ok (some [1], ⟨true, 1, true, 9⟩) by decide)
    [(.inserted, [0, 10, 0, 7, 0, 0, 0, 0, 0, 0, 0, 5, 1]),
      (.own, [0x80, 10, 0, 2, 0, 0, 0, 0, 0, 0, 0, 9, 2])] (by decide) (by decide)).mpr
    (by simp [Harmless]; decide)).1

/-- One packet of another sender, and the session loses its next packet. -/
theorem receivedPayloads_stray :
    RtpDepacker.new.receivedPayloads 10 [[0x80, 10, 0, 1, 0, 0, 0, 0, 0, 0, 0, 9, 1],
        [0x80, 10, 0, 7, 0, 0, 0, 0, 0, 0, 0, 5, 1], [0x80, 10, 0, 2, 0, 0, 0, 0, 0, 0, 0, 9, 2]] ≠
      RtpDepacker.new.receivedPayloads 10 [[0x80, 10, 0, 1, 0, 0, 0, 0, 0, 0, 0, 9, 1],
        [0x80, 10, 0, 2, 0, 0, 0, 0, 0, 0, 0, 9, 2]] := by
  decide

end Voip
