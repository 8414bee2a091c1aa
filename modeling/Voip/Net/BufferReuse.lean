import Voip.Net.Socket

/-! The receive loop reads every datagram into one vector. A read resizes it from the size that
the read before it left, and whatever was written behind that size is filled with zeros. -/

namespace Voip

open Base

/-- `socket.recvfrom(from, packet, 2060)`, as the receive loop calls it. -/
def Endpoint.receive (plat : Platform) (e : Endpoint) (os : SysRecv) : Endpoint :=
  (UdpSocket.recvfrom plat e 2060 true false false os).endpoint

/-- After every read of a datagram the vector is that datagram. -/
def Transparent (plat : Platform) : Endpoint → List SysRecv → Prop
  | _, [] => True
  | e, os :: reads =>
    (∀ sender datagram, os = .received sender datagram → datagram ≠ [] →
      (e.receive plat os).data.toList = datagram) ∧
      Transparent plat (e.receive plat os) reads

/-- Behind the length of the read before it, a failed one counting as empty, a datagram has only
zeros. -/
def ZeroBehind : ℕ → List SysRecv → Prop
  | _, [] => True
  | _, .error :: reads => ZeroBehind 0 reads
  | size, .received _ datagram :: reads =>
    (∀ b ∈ datagram.drop size, b = 0) ∧ ZeroBehind datagram.length reads

def Endpoint.Ready (e : Endpoint) : Prop := e.socket.isOpen = true ∧ 2060 ≤ e.data.capacity

namespace Endpoint

theorem finishRecv_error (e : Endpoint) (toread : ℕ) (call : SysCall)
    (restore : UdpSocket → UdpSocket) :
    (e.finishRecv toread call restore .error).endpoint = { e with data := e.data.clear } := by
  rw [finishRecv_of_nil e call restore rfl]
  rfl

theorem finishRecv_received (e : Endpoint) {toread : ℕ} (call : SysCall)
    (restore : UdpSocket → UdpSocket) (sender : SockaddrIn) {datagram : Bytes}
    (h : datagram.length ≤ toread) :
    let r := (e.finishRecv toread call restore (.received sender datagram)).endpoint
    (r.socket = e.socket ∨ r.socket = restore e.socket) ∧
      r.data = if datagram = [] then (e.data.write []).clear
        else (e.data.write datagram).resize datagram.length 0 := by
  have hbytes : (SysRecv.received sender datagram).bytes toread = datagram :=
    List.take_of_length_le h
  have hrun : ((SysRecv.received sender datagram).run toread e).1.data = e.data.write datagram :=
    congrArg e.data.write hbytes
  have hret : ((SysRecv.received sender datagram).run toread e).2 = datagram.length :=
    congrArg (fun bytes : Bytes => (bytes.length : Int)) hbytes
  by_cases hnil : datagram = []
  · rw [finishRecv_of_nil e call restore (hbytes.trans hnil), if_pos hnil]
    exact ⟨.inl rfl, by rw [hrun, hnil]⟩
  · rw [finishRecv_of_ne_nil e call restore (hbytes.trans_ne hnil), if_neg hnil]
    have hmax : (max (datagram.length : Int) 0).toNat = datagram.length := by omega
    refine ⟨.inr rfl, ?_⟩
    show RawVector.resize _ (max _ (0 : Int)).toNat 0 = _
    rw [hrun, hret, hmax]

/-- Both implementations come down to one call of the system with room for 2060 bytes. -/
theorem receive_eq (plat : Platform) {e : Endpoint} (h : e.Ready) (os : SysRecv) :
    ∃ call addr, e.receive plat os =
      (({ e with addr } : Endpoint).finishRecv 2060 call id os).endpoint := by
  obtain ⟨hopen, hcapacity⟩ := h
  have hroom : (2060 : UInt32).toNat ≤ e.data.capacity := hcapacity
  have hleave : plat.leave true = id := by cases plat <;> rfl
  have hopened : e.opened plat true = { e with addr := (e.opened plat true).addr } := by
    cases plat <;> rfl
  refine ⟨⟨plat.blocks true e.socket, false, plat = .posix && false⟩,
    (e.opened plat true).addr, ?_⟩
  unfold receive
  rw [recvfrom_of_le plat true false false os hopen hroom, hleave, ← hopened]
  rfl

theorem receive_error (plat : Platform) {e : Endpoint} (h : e.Ready) :
    (e.receive plat .error).Ready ∧ (e.receive plat .error).data = e.data.clear := by
  obtain ⟨call, addr, heq⟩ := receive_eq plat h .error
  rw [heq, finishRecv_error]
  exact ⟨h, rfl⟩

theorem receive_received (plat : Platform) {e : Endpoint} (h : e.Ready) (sender : SockaddrIn)
    {datagram : Bytes} (hd : datagram.length ≤ 2060) :
    (e.receive plat (.received sender datagram)).Ready ∧
      (e.receive plat (.received sender datagram)).data =
        if datagram = [] then (e.data.write []).clear
        else (e.data.write datagram).resize datagram.length 0 := by
  obtain ⟨call, addr, heq⟩ := receive_eq plat h (.received sender datagram)
  obtain ⟨hsock, hdata⟩ := finishRecv_received { e with addr } call id sender hd
  rw [heq]
  refine ⟨⟨?_, ?_⟩, hdata⟩
  · rcases hsock with hsock | hsock <;> rw [hsock] <;> exact h.1
  · have hc := h.2
    rw [hdata]
    split_ifs
    · exact (RawVector.capacity_write e.data []).symm ▸ hc
    · have hle : datagram.length ≤ (e.data.write datagram).capacity :=
        Nat.le_trans hd (RawVector.capacity_write e.data datagram ▸ hc)
      rw [RawVector.capacity_resize _ hle, RawVector.capacity_write]
      exact hc

end Endpoint

theorem transparent_iff_zeroBehind (plat : Platform) (reads : List SysRecv) (e : Endpoint)
    (h : e.Ready)
    (hlen : ∀ sender datagram, .received sender datagram ∈ reads → datagram.length ≤ 2060) :
    Transparent plat e reads ↔ ZeroBehind e.data.size reads := by
  induction reads generalizing e with
  | nil => simp [Transparent, ZeroBehind]
  | cons os reads ih =>
    have hrest := fun e he =>
      ih e he (fun sender datagram hm => hlen _ _ (List.mem_cons_of_mem _ hm))
    cases os with
    | error =>
      obtain ⟨hready, hdata⟩ := Endpoint.receive_error plat h
      simp only [Transparent, ZeroBehind, hrest _ hready, hdata, RawVector.size_clear, reduceCtorEq,
        false_implies, implies_true, true_and]
    | received sender datagram =>
      have hd := hlen sender datagram (List.mem_cons_self ..)
      obtain ⟨hready, hdata⟩ := Endpoint.receive_received plat h sender hd
      rw [Transparent, ZeroBehind, hrest _ hready, hdata]
      refine and_congr ?_ ?_
      · have hfit := RawVector.toList_write_resize_eq_iff e.data (Nat.le_trans hd h.2) 0
        constructor
        · intro hall b hb
          have hne : datagram ≠ [] := by
            rintro rfl
            simp at hb
          have heq := hall sender datagram rfl hne
          rw [if_neg hne] at heq
          exact hfit.mp heq b hb
        · rintro hzero _ _ hos hne
          obtain ⟨rfl, rfl⟩ := SysRecv.received.inj hos
          rw [if_neg hne]
          exact hfit.mpr hzero
      · by_cases hne : datagram = []
        -- no bytes are an error to `recvfrom`, which clears the vector
        · subst hne
          simp
        · simp [hne]

/-- The vector that the loop allocates once shows every datagram as it came, over a whole list of
reads, exactly when each datagram is zero behind the length of the read before it. -/
theorem receive_transparent_iff (plat : Platform) (socket : UdpSocket)
    (addr : Ipv4SocketAddress) (reads : List SysRecv) (hopen : socket.isOpen = true)
    (hlen : ∀ sender datagram, .received sender datagram ∈ reads → datagram.length ≤ 2060) :
    Transparent plat ⟨socket, addr, RawVector.alloc 2060 0⟩ reads ↔ ZeroBehind 2060 reads :=
  transparent_iff_zeroBehind plat reads _
    ⟨hopen, Nat.le_of_eq (RawVector.capacity_alloc 2060 0).symm⟩ hlen

theorem receive_transparent_iff_shrinking :
    Transparent .posix ⟨⟨true, false⟩, ⟨⟨2, 0, 0⟩, 0, false⟩, RawVector.alloc 2060 0⟩
      [.received ⟨2, 0, 0⟩ [1, 2], .received ⟨2, 0, 0⟩ [3]] :=
  (receive_transparent_iff .posix ⟨true, false⟩ ⟨⟨2, 0, 0⟩, 0, false⟩ _ rfl (by
    intro sender datagram hm
    rcases List.mem_pair.mp hm with h | h <;> cases h <;> decide)).mpr (by simp [ZeroBehind])

/-- A datagram of two bytes behind one of a single byte loses its second byte. -/
theorem receive_growing :
    ¬ Transparent .posix ⟨⟨true, false⟩, ⟨⟨2, 0, 0⟩, 0, false⟩, RawVector.alloc 2060 0⟩
        [.received ⟨2, 0, 0⟩ [1], .received ⟨2, 0, 0⟩ [2, 3]] ∧
      ¬ Transparent .win ⟨⟨true, false⟩, ⟨⟨2, 0, 0⟩, 0, false⟩, RawVector.alloc 2060 0⟩
        [.received ⟨2, 0, 0⟩ [1], .received ⟨2, 0, 0⟩ [2, 3]] := by
  have hlen : ∀ sender datagram, SysRecv.received sender datagram ∈
      [.received ⟨2, 0, 0⟩ [1], .received ⟨2, 0, 0⟩ [2, 3]] → datagram.length ≤ 2060 := by
    intro sender datagram hm
    rcases List.mem_pair.mp hm with h | h <;> cases h <;> decide
  have hready : Endpoint.Ready ⟨⟨true, false⟩, ⟨⟨2, 0, 0⟩, 0, false⟩, RawVector.alloc 2060 0⟩ :=
    ⟨rfl, Nat.le_of_eq (RawVector.capacity_alloc 2060 0).symm⟩
  rw [transparent_iff_zeroBehind .posix _ _ hready hlen,
    transparent_iff_zeroBehind .win _ _ hready hlen]
  simp [ZeroBehind]

end Voip
