import Voip.Base.Machine
import Voip.Base.Overwrite
import Voip.Basic

/-! `SimpleJB`: each operation whole, and the two threads' operations as the atomic steps in which
they can meet. Only `push_back` and the copy with its `pop_front` are under the mutex. -/

namespace Voip

def BUFFER_MAX_PACKETS : ℕ := 10

structure SimpleJB where
  dataBuffer : List Bytes
  deriving DecidableEq, Repr

namespace SimpleJB

def new : SimpleJB := ⟨[]⟩

def add (jb : SimpleJB) (data : Bytes) : SimpleJB :=
  let dataBuffer := if jb.dataBuffer.length = BUFFER_MAX_PACKETS then [] else jb.dataBuffer
  ⟨dataBuffer ++ [data]⟩

/-- Of a packet that is longer than `out` only the part that has room is kept here; the code writes
the rest behind `out`. -/
def getFrontData (jb : SimpleJB) (out : Bytes) : Bytes × SimpleJB :=
  match jb.dataBuffer with
  | [] => (out, jb)
  | packet :: rest => (Base.copyTo packet out, ⟨rest⟩)

def hasData (jb : SimpleJB) : Bool := !jb.dataBuffer.isEmpty

theorem getFrontData_cons {jb : SimpleJB} {packet : Bytes} {rest : List Bytes}
    (h : jb.dataBuffer = packet :: rest) (out : Bytes) :
    jb.getFrontData out = (Base.copyTo packet out, ⟨rest⟩) := by
  rw [getFrontData, h]

theorem mem_of_mem_getFrontData {jb : SimpleJB} {out packet : Bytes}
    (h : packet ∈ (jb.getFrontData out).2.dataBuffer) : packet ∈ jb.dataBuffer := by
  obtain ⟨_ | ⟨front, rest⟩⟩ := jb
  · exact h
  · exact List.mem_cons_of_mem front h

theorem length_getFrontData (jb : SimpleJB) (out : Bytes) :
    (jb.getFrontData out).1.length = out.length := by
  obtain ⟨_ | ⟨packet, rest⟩⟩ := jb
  · rfl
  · exact Base.length_copyTo packet out

end SimpleJB

/-! ## The steps of `add`, `hasData` and `getFrontData` -/

/-- Where the thread that adds packets stands; `data` is the argument of its call. -/
inductive Producer (α : Type) where
  | idle
  | clearing (data : α)
  | pushing (data : α)
  deriving DecidableEq, Repr

inductive Consumer where
  | idle
  | testing
  | copying
  deriving DecidableEq, Repr

structure Jitter (α : Type) where
  dataBuffer : List α
  producer : Producer α
  consumer : Consumer
  deriving DecidableEq, Repr

inductive Action (α : Type) where
  | sizeTest (data : α)
  | clear
  | pushBack
  | hasData
  | emptyTest
  | copyPop
  deriving DecidableEq, Repr

inductive Stuck where
  | notNext
  /-- `front` and `pop_front` of an empty deque are undefined. -/
  | emptyDeque
  deriving DecidableEq, Repr

namespace Jitter

variable {α : Type}

def start : Jitter α := ⟨[], .idle, .idle⟩

/-- One atomic step; the answer is the packet that the consumer copied out, if it did. -/
def step (s : Jitter α) : Action α → Except Stuck (Option α × Jitter α)
  | .sizeTest data =>
    match s.producer with
    | .idle =>
      if s.dataBuffer.length = BUFFER_MAX_PACKETS then
        .ok (none, { s with producer := .clearing data })
      else .ok (none, { s with producer := .pushing data })
    | _ => .error .notNext
  | .clear =>
    match s.producer with
    | .clearing data => .ok (none, { s with dataBuffer := [], producer := .pushing data })
    | _ => .error .notNext
  | .pushBack =>
    match s.producer with
    | .pushing data =>
      .ok (none, { s with dataBuffer := s.dataBuffer ++ [data], producer := .idle })
    | _ => .error .notNext
  | .hasData =>
    match s.consumer with
    | .idle =>
      if s.dataBuffer.isEmpty then .ok (none, s) else .ok (none, { s with consumer := .testing })
    | _ => .error .notNext
  | .emptyTest =>
    match s.consumer with
    | .testing =>
      if s.dataBuffer.isEmpty then .ok (none, { s with consumer := .idle })
      else .ok (none, { s with consumer := .copying })
    | _ => .error .notNext
  | .copyPop =>
    match s.consumer, s.dataBuffer with
    | .copying, packet :: rest =>
      .ok (some packet, { s with dataBuffer := rest, consumer := .idle })
    | .copying, [] => .error .emptyDeque
    | _, _ => .error .notNext

/-- The steps as a relation: who stood where, what the step saw, and what it left. -/
inductive Steps (s : Jitter α) : Action α → Option α → Jitter α → Prop
  | foundFull {data : α} (hidle : s.producer = .idle)
      (hfull : s.dataBuffer.length = BUFFER_MAX_PACKETS) :
      Steps s (.sizeTest data) none { s with producer := .clearing data }
  | foundRoom {data : α} (hidle : s.producer = .idle)
      (hroom : s.dataBuffer.length ≠ BUFFER_MAX_PACKETS) :
      Steps s (.sizeTest data) none { s with producer := .pushing data }
  | clear {data : α} (hclearing : s.producer = .clearing data) :
      Steps s .clear none { s with dataBuffer := [], producer := .pushing data }
  | pushBack {data : α} (hpushing : s.producer = .pushing data) :
      Steps s .pushBack none { s with dataBuffer := s.dataBuffer ++ [data], producer := .idle }
  | hasNoData (hidle : s.consumer = .idle) (hempty : s.dataBuffer = []) :
      Steps s .hasData none s
  | hasData (hidle : s.consumer = .idle) (hne : s.dataBuffer ≠ []) :
      Steps s .hasData none { s with consumer := .testing }
  | foundEmpty (htesting : s.consumer = .testing) (hempty : s.dataBuffer = []) :
      Steps s .emptyTest none { s with consumer := .idle }
  | foundPacket (htesting : s.consumer = .testing) (hne : s.dataBuffer ≠ []) :
      Steps s .emptyTest none { s with consumer := .copying }
  | copyPop {packet : α} {rest : List α} (hcopying : s.consumer = .copying)
      (hfront : s.dataBuffer = packet :: rest) :
      Steps s .copyPop (some packet) { s with dataBuffer := rest, consumer := .idle }

theorem steps_of_step {s s' : Jitter α} {a : Action α} {o : Option α}
    (h : s.step a = .ok (o, s')) : Steps s a o s' := by
  obtain ⟨dataBuffer, producer, consumer⟩ := s
  cases a with
  | sizeTest data =>
    cases producer with
    | idle =>
      by_cases hfull : dataBuffer.length = BUFFER_MAX_PACKETS
      · obtain ⟨rfl, rfl⟩ := Prod.mk.inj (Except.ok.inj ((if_pos hfull).symm.trans h))
        exact .foundFull rfl hfull
      · obtain ⟨rfl, rfl⟩ := Prod.mk.inj (Except.ok.inj ((if_neg hfull).symm.trans h))
        exact .foundRoom rfl hfull
    | clearing data' => cases h
    | pushing data' => cases h
  | clear =>
    cases producer with
    | clearing data =>
      cases h
      exact .clear rfl
    | idle => cases h
    | pushing data => cases h
  | pushBack =>
    cases producer with
    | pushing data =>
      cases h
      exact .pushBack rfl
    | idle => cases h
    | clearing data => cases h
  | hasData =>
    cases consumer with
    | idle =>
      cases dataBuffer with
      | nil =>
        cases h
        exact .hasNoData rfl rfl
      | cons packet rest =>
        cases h
        exact .hasData rfl (List.cons_ne_nil packet rest)
    | testing => cases h
    | copying => cases h
  | emptyTest =>
    cases consumer with
    | testing =>
      cases dataBuffer with
      | nil =>
        cases h
        exact .foundEmpty rfl rfl
      | cons packet rest =>
        cases h
        exact .foundPacket rfl (List.cons_ne_nil packet rest)
    | idle => cases h
    | copying => cases h
  | copyPop =>
    cases consumer with
    | copying =>
      cases dataBuffer with
      | nil => cases h
      | cons packet rest =>
        cases h
        exact .copyPop rfl rfl
    | idle => cases h
    | testing => cases h

theorem step_of_steps {s s' : Jitter α} {a : Action α} {o : Option α} (h : Steps s a o s') :
    s.step a = .ok (o, s') := by
  cases h with
  | foundFull hidle hfull => rw [step, hidle, if_pos hfull]
  | foundRoom hidle hroom => rw [step, hidle, if_neg hroom]
  | clear hclearing => rw [step, hclearing]
  | pushBack hpushing => rw [step, hpushing]
  | hasNoData hidle hempty =>
    rw [step, hidle, hempty]
    rfl
  | hasData hidle hne => rw [step, hidle, if_neg (mt List.isEmpty_iff.mp hne)]
  | foundEmpty htesting hempty =>
    rw [step, htesting, hempty]
    rfl
  | foundPacket htesting hne => rw [step, htesting, if_neg (mt List.isEmpty_iff.mp hne)]
  | copyPop hcopying hfront => rw [step, hcopying, hfront]

/-- All that one step can do. -/
theorem step_eq_ok_iff {s s' : Jitter α} {a : Action α} {o : Option α} :
    s.step a = .ok (o, s') ↔ Steps s a o s' :=
  ⟨steps_of_step, step_of_steps⟩

theorem of_step_error {s : Jitter α} {a : Action α} {e : Stuck} (h : s.step a = .error e)
    (hnext : s.step a ≠ .error .notNext) :
    a = .copyPop ∧ s.consumer = .copying ∧ s.dataBuffer = [] := by
  obtain ⟨dataBuffer, producer, consumer⟩ := s
  cases a with
  | sizeTest data => cases producer <;> grind [step]
  | clear => cases producer <;> grind [step]
  | pushBack => cases producer <;> grind [step]
  | hasData => cases consumer <;> grind [step]
  | emptyTest => cases consumer <;> grind [step]
  | copyPop =>
    cases consumer with
    | copying =>
      cases dataBuffer with
      | nil => exact ⟨rfl, rfl, rfl⟩
      | cons packet rest => cases h
    | idle => exact absurd rfl hnext
    | testing => exact absurd rfl hnext

/-- Every action is the next one of its thread, as far as the run goes. -/
def Interleaving : Jitter α → List (Action α) → Prop :=
  Base.Along step fun s a => s.step a ≠ .error .notNext

instance [DecidableEq α] (s : Jitter α) (acts : List (Action α)) :
    Decidable (s.Interleaving acts) :=
  inferInstanceAs (Decidable (Base.Along _ _ _ _))

/-- `add`, undisturbed, is its two or three steps. -/
theorem drive_add (jb : SimpleJB) (c : Consumer) (data : Bytes) :
    Base.drive step ⟨jb.dataBuffer, .idle, c⟩
        (if jb.dataBuffer.length = BUFFER_MAX_PACKETS then [.sizeTest data, .clear, .pushBack]
          else [.sizeTest data, .pushBack]) =
      .ok (if jb.dataBuffer.length = BUFFER_MAX_PACKETS then [none, none, none] else [none, none],
        ⟨(jb.add data).dataBuffer, .idle, c⟩) := by
  by_cases hfull : jb.dataBuffer.length = BUFFER_MAX_PACKETS
  · simp [Base.drive, step, SimpleJB.add, hfull, bind, Except.bind, pure, Except.pure]
  · simp [Base.drive, step, SimpleJB.add, hfull, bind, Except.bind, pure, Except.pure]

/-- `hasData` and, where it holds, `getFrontData`, undisturbed: the copied packet is the front. -/
theorem drive_getFrontData (packet out : Bytes) (queue : List Bytes)
    (p : Producer Bytes) :
    Base.drive step ⟨packet :: queue, p, .idle⟩ [.hasData, .emptyTest, .copyPop] =
        .ok ([none, none, some packet], ⟨queue, p, .idle⟩) ∧
      (SimpleJB.mk (packet :: queue)).getFrontData out = (Base.copyTo packet out, ⟨queue⟩) :=
  ⟨rfl, rfl⟩

end Jitter

end Voip
