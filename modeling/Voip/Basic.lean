import Mathlib.Data.List.Basic

/-! Byte vectors as the program handles them, and the ways in which handling one can end it.
No thread of the program catches an exception, so the first fault is its last step; and after a
write past the end of a buffer nothing can be said of it. -/

namespace Voip

abbrev Bytes := List UInt8

inductive Fault where
  /-- `std::out_of_range` from `std::vector::at`. -/
  | outOfRange
  /-- An iterator moved past the end of its vector. -/
  | pastTheEnd
  /-- A write through a plain pointer past the end of the memory behind it. -/
  | overrun
  deriving DecidableEq, Repr

def vecAt (v : Bytes) (i : ℕ) : Except Fault UInt8 :=
  match v[i]? with
  | some b => .ok b
  | none => .error .outOfRange

theorem vecAt_of_lt {v : Bytes} {i : ℕ} (h : i < v.length) : vecAt v i = .ok (v.getD i 0) := by
  simp [vecAt, List.getD, List.getElem?_eq_getElem h]

theorem vecAt_of_le {v : Bytes} {i : ℕ} (h : v.length ≤ i) :
    vecAt v i = .error .outOfRange := by
  simp [vecAt, List.getElem?_eq_none h]

section
variable {ε β γ : Type}

@[simp] theorem ok_bind (a : β) (f : β → Except ε γ) : (Except.ok a >>= f) = f a := rfl

@[simp] theorem error_bind (e : ε) (f : β → Except ε γ) :
    (Except.error e >>= f) = .error e := rfl

@[simp] theorem pure_eq_ok (a : β) : (pure a : Except ε β) = .ok a := rfl

end

/-! ## `opus_settings.h` -/

def OPUS_MAX_SIZE : ℕ := 1276
def OPUS_CHANNELS : ℕ := 2
def OPUS_FRAMESIZE : ℕ := 480
def OPUS_SAMPLERATE : UInt32 := 48000
def OPUS_PAYLOADTYPE : UInt8 := 100
def OPUS_TIMESTAMP_INCREMENT : UInt32 := 480

end Voip
