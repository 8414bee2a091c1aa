import Mathlib.Data.Option.Basic
import Voip.Base.Machine

/-! The objects of a class with value semantics: made by a constructor or as copies, assigned to
each other, and changed one at a time by its methods. -/

namespace Base

universe u v w

/-- A class: what its constructors, its copies and assignments and its methods do to the value. -/
structure ObjectClass (α : Type u) (κ : Type v) (μ : Type w) where
  construct : κ → α
  copy : α → α
  assign : α → α → α
  apply : μ → α → α

/-- Objects are numbered in the order in which they are made. -/
inductive Operation (κ : Type v) (μ : Type w) where
  | construct (args : κ)
  | copy (source : ℕ)
  | assign (target source : ℕ)
  | apply (target : ℕ) (method : μ)

namespace ObjectClass

variable {α : Type u} {κ : Type v} {μ : Type w} (C : ObjectClass α κ μ)

/-- The value that an operation gives to its object. Where there is no such object it does
nothing. -/
def value (objects : List α) : Operation κ μ → Option α
  | .construct args => some (C.construct args)
  | .copy source => objects[source]?.map C.copy
  | .assign target source =>
    objects[target]?.bind fun a => objects[source]?.map fun b => C.assign a b
  | .apply target method => objects[target]?.map (C.apply method)

def place (objects : List α) (a : α) : Operation κ μ → List α
  | .construct _ => objects ++ [a]
  | .copy _ => objects ++ [a]
  | .assign target _ => objects.set target a
  | .apply target _ => objects.set target a

def step (objects : List α) (op : Operation κ μ) : Option α × List α :=
  match C.value objects op with
  | some a => (some a, place objects a op)
  | none => (none, objects)

/-- An operation does as `K` and `M` ask of constructors and methods. -/
def Meets (K : κ → Prop) (M : μ → α → Prop) (objects : List α) : Operation κ μ → Prop
  | .construct args => K args
  | .copy _ => True
  | .assign _ _ => True
  | .apply target method => ∀ a ∈ objects[target]?, M method a

variable {C} {P : α → Prop}

theorem forall_set_iff {objects : List α} (h : ∀ b ∈ objects, P b) {i : ℕ}
    (hi : i < objects.length) (a : α) : (∀ b ∈ objects.set i a, P b) ↔ P a := by
  constructor
  · intro hall
    exact hall a (List.mem_set hi a)
  · intro ha b hb
    rcases List.mem_or_eq_of_mem_set hb with hold | rfl
    · exact h b hold
    · exact ha

/-- The other objects keep their values, so only the new value matters. -/
theorem forall_step_iff {objects : List α} (h : ∀ b ∈ objects, P b) (op : Operation κ μ) :
    (∀ b ∈ (C.step objects op).2, P b) ↔ ∀ b ∈ C.value objects op, P b := by
  rw [step]
  cases hvalue : C.value objects op with
  | none => exact iff_of_true h nofun
  | some a =>
    simp only [Option.mem_some_iff, forall_eq']
    have happend : (∀ b ∈ objects ++ [a], P b) ↔ P a := by
      rw [List.forall_mem_append, and_iff_right h, List.forall_mem_singleton]
    cases op with
    | construct args => exact happend
    | copy source => exact happend
    | assign target source =>
      obtain ⟨b, hb, -⟩ := Option.bind_eq_some_iff.mp hvalue
      exact forall_set_iff h (List.getElem?_eq_some_iff.mp hb).1 a
    | apply target method =>
      obtain ⟨b, hb, -⟩ := Option.map_eq_some_iff.mp hvalue
      exact forall_set_iff h (List.getElem?_eq_some_iff.mp hb).1 a

/-- A property of values that copies and assignments pass on holds of all objects after every
operation just where constructors and methods establish it. -/
theorem throughout_forall_iff {K : κ → Prop} {M : μ → α → Prop}
    (hconstruct : ∀ args, P (C.construct args) ↔ K args) (hcopy : ∀ a, P a → P (C.copy a))
    (hassign : ∀ a b, P b → P (C.assign a b))
    (happly : ∀ method a, P a → (P (C.apply method a) ↔ M method a))
    (ops : List (Operation κ μ)) {objects : List α} (h : ∀ b ∈ objects, P b) :
    Throughout C.step (fun objects op => ∀ b ∈ (C.step objects op).2, P b) objects ops ↔
      Throughout C.step (Meets K M) objects ops := by
  have hstep (objects : List α) (op : Operation κ μ) (h : ∀ b ∈ objects, P b) :
      (∀ b ∈ (C.step objects op).2, P b) ↔ Meets K M objects op := by
    have hmem {i : ℕ} {a : α} (hi : objects[i]? = some a) : P a := h a (List.mem_of_getElem? hi)
    rw [forall_step_iff h]
    cases op with
    | construct args =>
      simp only [value, Option.mem_some_iff, forall_eq']
      exact hconstruct args
    | copy source =>
      refine iff_of_true ?_ trivial
      intro b hb
      obtain ⟨a, ha, rfl⟩ := Option.map_eq_some_iff.mp hb
      exact hcopy a (hmem ha)
    | assign target source =>
      refine iff_of_true ?_ trivial
      intro c hc
      obtain ⟨a, -, hc⟩ := Option.bind_eq_some_iff.mp hc
      obtain ⟨b, hb, rfl⟩ := Option.map_eq_some_iff.mp hc
      exact hassign a b (hmem hb)
    | apply target method =>
      rw [value, Option.forall_mem_map]
      exact forall₂_congr fun a ha => happly method a (hmem ha)
  exact throughout_iff (fun objects => ∀ b ∈ objects, P b) hstep
    (fun objects op h hmeets => (hstep objects op h).mpr hmeets) ops h

end ObjectClass

end Base
