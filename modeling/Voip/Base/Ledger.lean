import Mathlib.Data.List.Basic

/-! The books of a queue that may be emptied at a stroke. Whatever was entered is either settled,
with its one outcome, or still waiting; what waits is always the latest part of the entries. -/

namespace Base

inductive Outcome (ν : Type*) where
  | delivered
  | dropped (note : ν)
  deriving DecidableEq, Repr

structure Ledger (α ν : Type*) where
  settled : List (α × Outcome ν)
  waiting : List α

namespace Ledger

variable {α ν : Type*}

def empty : Ledger α ν := ⟨[], []⟩

def entries (l : Ledger α ν) : List α := l.settled.map Prod.fst ++ l.waiting

def delivered (l : Ledger α ν) : List α :=
  l.settled.filterMap fun e => match e.2 with
    | .delivered => some e.1
    | .dropped _ => none

def dropped (l : Ledger α ν) : List (α × ν) :=
  l.settled.filterMap fun e => match e.2 with
    | .delivered => none
    | .dropped note => some (e.1, note)

def enter (l : Ledger α ν) (a : α) : Ledger α ν := ⟨l.settled, l.waiting ++ [a]⟩

def deliver (l : Ledger α ν) : Ledger α ν :=
  match l.waiting with
  | [] => l
  | a :: rest => ⟨l.settled ++ [(a, .delivered)], rest⟩

def flush (l : Ledger α ν) (note : ν) : Ledger α ν :=
  ⟨l.settled ++ l.waiting.map fun a => (a, .dropped note), []⟩

section
variable (l : Ledger α ν)

theorem entries_enter (a : α) : (l.enter a).entries = l.entries ++ [a] :=
  (List.append_assoc ..).symm

theorem entries_deliver : l.deliver.entries = l.entries := by
  obtain ⟨settled, waiting⟩ := l
  cases waiting <;> simp [deliver, entries]

theorem entries_flush (note : ν) : (l.flush note).entries = l.entries := by
  simp [flush, entries, Function.comp_def]

theorem delivered_deliver {a : α} {rest : List α} (h : l.waiting = a :: rest) :
    l.deliver.delivered = l.delivered ++ [a] := by
  simp [deliver, h, delivered]

theorem dropped_deliver : l.deliver.dropped = l.dropped := by
  obtain ⟨settled, waiting⟩ := l
  cases waiting <;> simp [deliver, dropped]

theorem delivered_flush (note : ν) : (l.flush note).delivered = l.delivered := by
  simp [flush, delivered]

theorem dropped_flush (note : ν) :
    (l.flush note).dropped = l.dropped ++ l.waiting.map fun a => (a, note) := by
  simp [flush, dropped, List.filterMap_map]

theorem waiting_suffix : l.waiting <:+ l.entries := List.suffix_append ..

theorem delivered_sublist : l.delivered.Sublist l.entries := by
  have hsettled : l.delivered.Sublist (l.settled.map Prod.fst) := by
    unfold delivered
    induction l.settled with
    | nil => exact List.Sublist.refl _
    | cons e es ih =>
      obtain ⟨a, outcome⟩ := e
      cases outcome with
      | delivered => exact ih.cons_cons a
      | dropped note => exact ih.cons a
  exact hsettled.trans (List.sublist_append_left ..)

/-- No entry is lost and none is counted twice. -/
theorem entries_perm :
    l.entries.Perm (l.delivered ++ l.dropped.map Prod.fst ++ l.waiting) := by
  refine List.Perm.append_right _ ?_
  unfold delivered dropped
  induction l.settled with
  | nil => exact List.Perm.refl _
  | cons e es ih =>
    obtain ⟨a, outcome⟩ := e
    cases outcome with
    | delivered => exact ih.cons a
    | dropped note => exact (ih.cons a).trans List.perm_middle.symm

end

end Ledger

end Base
