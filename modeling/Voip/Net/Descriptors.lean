import Voip.Base.Handles
import Voip.Base.Machine
import Voip.Net.Socket

/-! The descriptors behind the sockets of a program. A socket's destructor closes nothing: what it
still had open stays open in the system. -/

namespace Voip

open Base

structure UdpSocketImpl where
  sockfd : Int32
  isOpen : Bool
  deriving DecidableEq, Repr

def UdpSocketImpl.new : UdpSocketImpl := ⟨0, false⟩

/-- As far as the flag goes, the socket of the calls of the system. -/
def UdpSocketImpl.toSocket (s : UdpSocketImpl) : UdpSocket := ⟨s.isOpen, false⟩

def UdpSocketImpl.held (s : UdpSocketImpl) : Option Int32 :=
  if s.isOpen then some s.sockfd else none

/-- What the system gives out as a descriptor. -/
def Platform.given (plat : Platform) (fd : Int32) : Bool :=
  match plat with
  | .posix => 0 ≤ fd
  | .win => fd ≠ -1

/-- What `open` takes for an error. -/
def Platform.refuses (plat : Platform) (fd : Int32) : Bool :=
  match plat with
  | .posix => fd < 0 || fd = 0
  | .win => fd = -1

theorem Platform.refuses_iff (plat : Platform) (fd : Int32) :
    plat.refuses fd = true ↔ plat.given fd = false ∨ plat = .posix ∧ fd = 0 := by
  cases plat with
  | posix => simp [refuses, given]
  | win => simp [refuses, given]

/-- Calls of the program's sockets. `freed` is whether a close has freed the descriptor, which one
that reports an error may have done or not, and `fd` what `socket` returns. -/
inductive DescriptorCall (ι : Type) where
  | openSocket (i : ι) (freed : Bool) (fd : Int32)
  | bind (i : ι) (bound : Bool)
  | sendto (i : ι)
  | recvfrom (i : ι)
  | close (i : ι) (freed : Bool)
  | destroy (i : ι)
  deriving DecidableEq, Repr

/-- A descriptor given out that is not free is none of the program's; one passed to the system that
is not the caller's would be. -/
inductive DescriptorTrouble where
  | notFree
  | foreign
  deriving DecidableEq, Repr

/-- `owner` is the system's table: which socket's `open` a descriptor has been given to. -/
structure Sockets (ι : Type) where
  impl : ι → UdpSocketImpl
  owner : Int32 → Option ι

namespace Sockets

section
variable {ι : Type}

def new : Sockets ι := ⟨fun _ => .new, fun _ => none⟩

def handles (p : Sockets ι) : Handles ι Int32 := ⟨p.owner, fun i => (p.impl i).held⟩

/-- A step that goes through keeps every socket to its own descriptors, and loses one just where it
should. -/
def Keeps (p p' : Sockets ι) (loses : Prop) : Prop :=
  p'.handles.Sound ∧ (p'.handles.Tight ↔ p.handles.Tight ∧ ¬ loses)

variable {p : Sockets ι} {i : ι}

theorem owner_of_sound (hp : p.handles.Sound) (hopen : (p.impl i).isOpen = true) :
    p.owner (p.impl i).sockfd = some i := by
  refine hp i _ ?_
  show UdpSocketImpl.held _ = _
  rw [UdpSocketImpl.held, if_pos hopen]

theorem held_eq_none_iff : p.handles.held i = none ↔ (p.impl i).isOpen = false := by
  show UdpSocketImpl.held _ = _ ↔ _
  rw [UdpSocketImpl.held]
  cases (p.impl i).isOpen <;> simp

theorem keeps_refl (hp : p.handles.Sound) : p.Keeps p False := ⟨hp, by simp⟩

end

variable {ι : Type} [DecidableEq ι]

def set (p : Sockets ι) (i : ι) (s : UdpSocketImpl) : Sockets ι :=
  { p with impl := Function.update p.impl i s }

def assign (p : Sockets ι) (fd : Int32) (i : Option ι) : Sockets ι :=
  { p with owner := Function.update p.owner fd i }

/-- A call of the system with the socket's descriptor. -/
def use (p : Sockets ι) (i : ι) : Except DescriptorTrouble Unit :=
  if p.owner (p.impl i).sockfd = some i then .ok () else .error .foreign

def close (p : Sockets ι) (i : ι) (freed : Bool) : Except DescriptorTrouble (Bool × Sockets ι) :=
  if !(p.impl i).isOpen then .ok (false, p) else do
    p.use i
    let fd := (p.impl i).sockfd
    let p := if freed then p.assign fd none else p
    -- also where the system has reported an error
    pure (true, p.set i { p.impl i with isOpen := false })

/-- `if (isOpen()) close();` -/
def closed (p : Sockets ι) (i : ι) (freed : Bool) : Except DescriptorTrouble (Sockets ι) :=
  if (p.impl i).isOpen then (p.close i freed).map Prod.snd else .ok p

/-- `socket()`. -/
def socket (plat : Platform) (p : Sockets ι) (i : ι) (fd : Int32) :
    Except DescriptorTrouble (Sockets ι) :=
  if plat.given fd then
    if (p.owner fd).isSome then .error .notFree
    else .ok (p.assign fd (some i))
  else .ok p

def openSocket (plat : Platform) (p : Sockets ι) (i : ι) (freed : Bool) (fd : Int32) :
    Except DescriptorTrouble (Bool × Sockets ι) := do
  let p ← p.closed i freed
  let p ← p.socket plat i fd
  let p := p.set i { p.impl i with sockfd := fd }
  if plat.refuses fd then pure (false, p)
  else
    let p := p.set i { p.impl i with isOpen := true }
    -- setsockopt
    p.use i
    pure (true, p)

/-- `bind`, `sendto` and `recvfrom` as far as the descriptor goes. -/
def useOpen (p : Sockets ι) (i : ι) (ok : Bool) : Except DescriptorTrouble (Bool × Sockets ι) :=
  if !(p.impl i).isOpen then .ok (false, p) else do
    p.use i
    pure (ok, p)

variable (plat : Platform)

def step (p : Sockets ι) : DescriptorCall ι → Except DescriptorTrouble (Bool × Sockets ι)
  | .openSocket i freed fd => p.openSocket plat i freed fd
  | .bind i bound => p.useOpen i bound
  | .sendto i => p.useOpen i true
  | .recvfrom i => p.useOpen i true
  | .close i freed => p.close i freed
  | .destroy i => .ok (true, p.set i .new)

/-- After the call a descriptor is given out that no socket knows of. -/
def Loses (p : Sockets ι) : DescriptorCall ι → Prop
  | .openSocket i freed fd => (p.impl i).isOpen = true ∧ freed = false ∨ plat = .posix ∧ fd = 0
  | .close i freed => (p.impl i).isOpen = true ∧ freed = false
  | .destroy i => (p.impl i).isOpen = true
  | _ => False

variable {plat} {p p' : Sockets ι} {i : ι} {freed ok : Bool} {fd : Int32} {call : DescriptorCall ι}

theorem handles_set (p : Sockets ι) (i : ι) (s : UdpSocketImpl) :
    (p.set i s).handles = ⟨p.owner, Function.update p.handles.held i s.held⟩ := by
  rw [handles, set]
  refine congrArg _ (funext fun j => ?_)
  by_cases hji : j = i
  · subst hji
    simp only [Function.update_self]
  · simp only [Function.update_of_ne hji]
    rfl

theorem use_of_owner (howner : p.owner (p.impl i).sockfd = some i) : p.use i = .ok () :=
  if_pos howner

theorem close_of_closed (hclosed : (p.impl i).isOpen = false) (freed : Bool) :
    p.close i freed = .ok (false, p) := by
  rw [close, hclosed]
  rfl

theorem close_cases (hp : p.handles.Sound) (i : ι) (freed : Bool) :
    ∃ ok p', p.close i freed = .ok (ok, p') ∧ (p'.impl i).isOpen = false ∧
      p.Keeps p' ((p.impl i).isOpen = true ∧ freed = false) := by
  cases hopen : (p.impl i).isOpen with
  | false =>
    refine ⟨false, p, close_of_closed hopen freed, hopen, hp, ?_⟩
    simp
  | true =>
    have howner := owner_of_sound hp hopen
    have hheld : p.handles.held i = some (p.impl i).sockfd := if_pos hopen
    cases freed with
    | false =>
      refine ⟨true, p.set i { p.impl i with isOpen := false }, ?_, ?_, ?_⟩
      · rw [close, hopen, use_of_owner howner]
        rfl
      · simp only [set, Function.update_self]
      · have hforget : (p.set i { p.impl i with isOpen := false }).handles = p.handles.forget i :=
          handles_set ..
        rw [Keeps, hforget]
        refine ⟨Handles.sound_forget hp i, ?_⟩
        rw [Handles.tight_forget_iff hp, hheld]
        simp
    | true =>
      refine ⟨true, (p.assign (p.impl i).sockfd none).set i { p.impl i with isOpen := false },
        ?_, ?_, ?_⟩
      · rw [close, hopen, use_of_owner howner]
        rfl
      · simp only [set, Function.update_self]
      · have htake : ((p.assign (p.impl i).sockfd none).set i
            { p.impl i with isOpen := false }).handles = p.handles.take i (p.impl i).sockfd :=
          handles_set ..
        rw [Keeps, htake]
        refine ⟨Handles.sound_take hp hheld, ?_⟩
        rw [Handles.tight_take_iff hp hheld]
        simp

theorem closed_cases (hp : p.handles.Sound) (i : ι) (freed : Bool) :
    ∃ q, p.closed i freed = .ok q ∧ (q.impl i).isOpen = false ∧
      p.Keeps q ((p.impl i).isOpen = true ∧ freed = false) := by
  obtain ⟨ok, q, hclose, hq⟩ := close_cases hp i freed
  refine ⟨q, ?_, hq⟩
  by_cases hopen : (p.impl i).isOpen = true
  · rw [closed, if_pos hopen, hclose]
    rfl
  · rw [close_of_closed (Bool.not_eq_true _ ▸ hopen)] at hclose
    cases hclose
    exact if_neg hopen

/-- `open` from `socket()` on. -/
theorem obtained_cases (hp : p.handles.Sound) (hclosed : (p.impl i).isOpen = false)
    (plat : Platform) (fd : Int32) :
    p.socket plat i fd = .error .notFree ∨ ∃ q, p.socket plat i fd = .ok q ∧ q.impl = p.impl ∧
      (plat.refuses fd = true →
        p.Keeps (q.set i { sockfd := fd, isOpen := false }) (plat = .posix ∧ fd = 0)) ∧
      (plat.refuses fd = false → q.owner fd = some i ∧
        p.Keeps (q.set i { sockfd := fd, isOpen := true }) False) := by
  have hidle : p.handles.held i = none := held_eq_none_iff.mpr hclosed
  have hsame : Function.update p.handles.held i none = p.handles.held := by
    rw [← hidle, Function.update_eq_self]
  cases hgiven : plat.given fd with
  | false =>
    have hrefused : plat.refuses fd = true := (plat.refuses_iff fd).mpr (.inl hgiven)
    refine .inr ⟨p, by rw [socket, hgiven]; rfl, rfl, fun _ => ?_, fun h => ?_⟩
    · have hhandles : (p.set i { sockfd := fd, isOpen := false }).handles = p.handles := by
        rw [handles_set]
        exact congrArg (Handles.mk p.owner) hsame
      rw [Keeps, hhandles]
      refine ⟨hp, (and_iff_left ?_).symm⟩
      rintro ⟨rfl, rfl⟩
      cases hgiven
    · cases hrefused.symm.trans h
  | true =>
    cases howner : p.owner fd with
    | some j => exact .inl (by rw [socket, hgiven, howner]; rfl)
    | none =>
      refine .inr ⟨p.assign fd (some i), by rw [socket, hgiven, howner]; rfl, rfl, fun h => ?_,
        fun h => ⟨Function.update_self .., ?_⟩⟩
      · have hzero : plat = .posix ∧ fd = 0 := by
          rw [Platform.refuses_iff, hgiven] at h
          exact h.resolve_left nofun
        have hlose : ((p.assign fd (some i)).set i { sockfd := fd, isOpen := false }).handles =
            p.handles.lose i fd := by
          rw [handles_set]
          exact congrArg (Handles.mk _) hsame
        rw [Keeps, hlose]
        refine ⟨Handles.sound_lose hp howner, iff_of_false (Handles.not_tight_lose hp howner) ?_⟩
        exact fun h => h.2 hzero
      · have hgive : ((p.assign fd (some i)).set i { sockfd := fd, isOpen := true }).handles =
            p.handles.give i fd := handles_set ..
        rw [Keeps, hgive, Handles.tight_give_iff howner hidle]
        exact ⟨Handles.sound_give hp howner, by simp⟩

theorem openSocket_cases (hp : p.handles.Sound) (plat : Platform) (i : ι) (freed : Bool)
    (fd : Int32) :
    p.openSocket plat i freed fd = .error .notFree ∨
      ∃ ok p', p.openSocket plat i freed fd = .ok (ok, p') ∧
        p.Keeps p' ((p.impl i).isOpen = true ∧ freed = false ∨ plat = .posix ∧ fd = 0) := by
  obtain ⟨q, hclose, hclosed, hq, hleft⟩ := closed_cases hp i freed
  rcases obtained_cases hq hclosed plat fd with herror | ⟨r, hr, himpl, hrefused, htaken⟩
  · left
    simp only [openSocket, hclose, bind, Except.bind, herror]
  · right
    cases hrefuses : plat.refuses fd with
    | true =>
      refine ⟨false, r.set i { sockfd := fd, isOpen := false }, ?_, ?_⟩
      · simp only [openSocket, hclose, bind, Except.bind, hr, himpl, hclosed, hrefuses, if_true,
          pure, Except.pure]
      · obtain ⟨hsound, htight⟩ := hrefused hrefuses
        exact ⟨hsound, by rw [htight, hleft, not_or, and_assoc]⟩
    | false =>
      obtain ⟨howner, hsound, htight⟩ := htaken hrefuses
      have hnot : ¬ (plat = .posix ∧ fd = 0) := by
        rintro ⟨rfl, rfl⟩
        cases hrefuses
      have hset : (r.set i { r.impl i with sockfd := fd }).set i
          { (r.set i { r.impl i with sockfd := fd }).impl i with isOpen := true } =
            r.set i { sockfd := fd, isOpen := true } := by
        simp only [set, Function.update_self, Function.update_idem]
      have huse : (r.set i { sockfd := fd, isOpen := true }).use i = .ok () := by
        refine use_of_owner ?_
        simp only [set, Function.update_self]
        exact howner
      refine ⟨true, r.set i { sockfd := fd, isOpen := true }, ?_, hsound, ?_⟩
      · simp only [openSocket, hclose, bind, Except.bind, hr, hset, huse, hrefuses,
          Bool.false_eq_true, if_false, pure, Except.pure]
      · rw [htight, hleft, not_or]
        simp only [hnot, not_false_eq_true, and_true]

theorem useOpen_cases (hp : p.handles.Sound) (i : ι) (ok : Bool) :
    ∃ ok', p.useOpen i ok = .ok (ok', p) := by
  cases hopen : (p.impl i).isOpen with
  | false => exact ⟨false, by rw [useOpen, hopen]; rfl⟩
  | true => exact ⟨ok, by rw [useOpen, hopen, use_of_owner (owner_of_sound hp hopen)]; rfl⟩

theorem step_keeps (hp : p.handles.Sound) (plat : Platform) (call : DescriptorCall ι) :
    p.step plat call = .error .notFree ∨
      ∃ ok p', p.step plat call = .ok (ok, p') ∧ p.Keeps p' (p.Loses plat call) := by
  cases call with
  | openSocket i freed fd => exact openSocket_cases hp plat i freed fd
  | bind i bound =>
    obtain ⟨ok, hok⟩ := useOpen_cases hp i bound
    exact .inr ⟨ok, p, hok, keeps_refl hp⟩
  | sendto i =>
    obtain ⟨ok, hok⟩ := useOpen_cases hp i true
    exact .inr ⟨ok, p, hok, keeps_refl hp⟩
  | recvfrom i =>
    obtain ⟨ok, hok⟩ := useOpen_cases hp i true
    exact .inr ⟨ok, p, hok, keeps_refl hp⟩
  | close i freed =>
    obtain ⟨ok, p', hok, -, hkeeps⟩ := close_cases hp i freed
    exact .inr ⟨ok, p', hok, hkeeps⟩
  | destroy i =>
    refine .inr ⟨true, p.set i .new, rfl, ?_⟩
    have hforget : (p.set i .new).handles = p.handles.forget i := handles_set ..
    rw [Keeps, hforget]
    refine ⟨Handles.sound_forget hp i, ?_⟩
    rw [Handles.tight_forget_iff hp, held_eq_none_iff, Loses, Bool.not_eq_true]

/-- Closing as the calls of the system see it. -/
theorem close_toSocket (h : p.close i freed = .ok (ok, p')) :
    (p.impl i).toSocket.close = (ok, (p'.impl i).toSocket) := by
  rw [UdpSocketImpl.toSocket, UdpSocket.close]
  cases hopen : (p.impl i).isOpen with
  | false =>
    rw [close_of_closed hopen] at h
    obtain ⟨rfl, rfl⟩ := Prod.mk.inj (Except.ok.inj h)
    rw [UdpSocketImpl.toSocket, hopen]
    rfl
  | true =>
    rw [close, hopen] at h
    cases huse : p.use i with
    | error e => rw [huse] at h; cases h
    | ok u =>
      rw [huse] at h
      obtain ⟨rfl, rfl⟩ := Prod.mk.inj (Except.ok.inj h)
      simp only [UdpSocketImpl.toSocket, set, Function.update_self]
      rfl

/-! ## Main result -/

/-- No system call ever has a descriptor that is not the socket's own, open; and at the end of a run
every descriptor given out is that of an open socket just where no call has lost one. -/
theorem own_descriptors (plat : Platform) (calls : List (DescriptorCall ι)) :
    Along (step plat) (fun p call => p.step plat call ≠ .error .foreign) new calls ∧
      ∀ oks p', drive (step plat) new calls = .ok (oks, p') →
        ((∀ i fd, p'.owner fd = some i → (p'.impl i).isOpen = true ∧ (p'.impl i).sockfd = fd) ↔
          Along (step plat) (fun p call => ¬ p.Loses plat call) new calls) := by
  have hstep (p : Sockets ι) (call : DescriptorCall ι) (ok : Bool) (p' : Sockets ι)
      (hp : p.handles.Sound) (h : p.step plat call = .ok (ok, p')) :
      p.Keeps p' (p.Loses plat call) := by
    rcases step_keeps hp plat call with herror | ⟨ok', q, hok, hkeeps⟩
    · cases herror.symm.trans h
    · cases hok.symm.trans h
      exact hkeeps
  have hnew : (new : Sockets ι).handles.Sound := nofun
  constructor
  · refine along_of_invariant (fun p => p.handles.Sound) ?_ ?_ calls hnew
    · intro p call ok p' hp h
      exact (hstep p call ok p' hp h).1
    · intro p call hp hforeign
      rcases step_keeps hp plat call with herror | ⟨ok, p', hok, -⟩
      · cases herror.symm.trans hforeign
      · cases hok.symm.trans hforeign
  · intro oks p' hdrive
    have htight : p'.handles.Tight ↔ _ :=
      drive_iff_along (fun p => p.handles.Sound) (fun p => p.handles.Tight) hstep hnew hdrive
    rw [and_iff_right (show (new : Sockets ι).handles.Tight from nofun)] at htight
    rw [← htight]
    refine forall_congr' fun i => forall_congr' fun fd => imp_congr_right fun _ => ?_
    show _ ↔ UdpSocketImpl.held _ = _
    rw [UdpSocketImpl.held]
    cases (p'.impl i).isOpen <;> simp

-- a socket that is destroyed while it is open
example : ∃ oks p', drive (step .posix) (new : Sockets ℕ)
    [.openSocket 0 true 3, .destroy 0] = .ok (oks, p') ∧ p'.owner 3 = some 0 :=
  ⟨_, _, rfl, rfl⟩

end Sockets

end Voip
