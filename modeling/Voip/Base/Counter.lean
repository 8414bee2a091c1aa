import Mathlib.Data.Int.GCD
import Mathlib.Data.Nat.Find
import Mathlib.Data.Nat.ModEq
import Mathlib.Tactic.Ring

/-! Counters that step by a fixed amount. A counter of the values up to `m` wraps when it is reduced
modulo `m + 1`; reduced modulo `m` it leaves out its last value, or is thrown off by it. -/

namespace Base

variable {m d t : ℕ}

theorem iterate_add_mod (t d n : ℕ) :
    (fun x => (x + d) % m)^[n + 1] t = (t + (n + 1) * d) % m := by
  induction n with
  | zero => rw [Function.iterate_one, Nat.zero_add, Nat.one_mul]
  | succ n ih =>
    rw [Function.iterate_succ_apply', ih, Nat.mod_add_mod]
    congr 1
    ring

/-- The two moduli agree on the first `m` numbers of every `m * (m + 1)`. -/
theorem mod_eq_mod_succ_iff (hm : 0 < m) (n : ℕ) :
    n % m = n % (m + 1) ↔ n % (m * (m + 1)) < m := by
  have hcoprime : m.Coprime (m + 1) := by simp
  have hleft : n % (m * (m + 1)) % m = n % m := Nat.mod_mul_right_mod n m (m + 1)
  have hright : n % (m * (m + 1)) % (m + 1) = n % (m + 1) := Nat.mod_mul_left_mod n m (m + 1)
  constructor
  · intro h
    have hlt : n % m < m := Nat.mod_lt n hm
    have hmod : n ≡ n % m [MOD m * (m + 1)] :=
      (Nat.modEq_and_modEq_iff_modEq_mul hcoprime).mp
        ⟨(Nat.mod_modEq n m).symm, h ▸ (Nat.mod_modEq n (m + 1)).symm⟩
    have hsmall : n % m < m * (m + 1) :=
      Nat.lt_of_lt_of_le hlt (Nat.le_mul_of_pos_right m (by omega))
    have heq : n % (m * (m + 1)) = n % m % (m * (m + 1)) := hmod
    rwa [heq, Nat.mod_eq_of_lt hsmall]
  · intro h
    rw [← hleft, ← hright, Nat.mod_eq_of_lt h, Nat.mod_eq_of_lt (Nat.lt_succ_of_lt h)]

/-! ## Wrapped and reduced -/

/-- A step that wraps at `m + 1` and is then reduced modulo `m`. -/
def reducedStep (m d t : ℕ) : ℕ := (t + d) % (m + 1) % m

theorem reducedStep_of_ne (h : (t + d) % (m + 1) ≠ m) :
    reducedStep m d t = (t + d) % (m + 1) := by
  have hlt : (t + d) % (m + 1) < m + 1 := Nat.mod_lt _ (Nat.succ_pos m)
  exact Nat.mod_eq_of_lt (by omega)

theorem reducedStep_of_eq (h : (t + d) % (m + 1) = m) : reducedStep m d t = 0 := by
  rw [reducedStep, h, Nat.mod_self]

theorem iterate_reducedStep_of_ne (ht : t ≤ m) (n : ℕ)
    (h : ∀ k < n, (t + (k + 1) * d) % (m + 1) ≠ m) :
    (reducedStep m d)^[n] t = (t + n * d) % (m + 1) := by
  induction n with
  | zero =>
    rw [Function.iterate_zero_apply, Nat.zero_mul, Nat.add_zero, Nat.mod_eq_of_lt (by omega)]
  | succ n ih =>
    have hprev := ih fun k hk => h k (Nat.lt_succ_of_lt hk)
    have hsum : ((t + n * d) % (m + 1) + d) % (m + 1) = (t + (n + 1) * d) % (m + 1) := by
      rw [Nat.mod_add_mod, Nat.add_mul, Nat.one_mul, Nat.add_assoc]
    have hne := h n (Nat.lt_succ_self n)
    rw [Function.iterate_succ_apply', hprev, reducedStep_of_ne (hsum ▸ hne), hsum]

/-- From a multiple of a common divisor the last value is never reached. -/
theorem multiple_mod_ne {g : ℕ} (hg : 1 < g) (hd : g ∣ d) (hm : g ∣ m + 1) (k : ℕ) :
    k * d % (m + 1) ≠ m := by
  intro h
  have hdvd : g ∣ m := h ▸ (Nat.dvd_mod_iff hm).mpr (Dvd.dvd.mul_left hd k)
  have hone : g ∣ 1 := (Nat.dvd_add_right hdvd).mp hm
  exact absurd (Nat.dvd_one.mp hone) (Nat.ne_of_gt hg)

theorem iterate_reducedStep_zero (hg : 1 < d.gcd (m + 1)) (n : ℕ) :
    (reducedStep m d)^[n] 0 = n * d % (m + 1) := by
  rw [iterate_reducedStep_of_ne (Nat.zero_le m) n, Nat.zero_add]
  intro k _
  rw [Nat.zero_add]
  exact multiple_mod_ne hg (Nat.gcd_dvd_left ..) (Nat.gcd_dvd_right ..) (k + 1)

/-- The step that reaches the last value starts the counter again at zero. -/
theorem iterate_reducedStep_of_eq (ht : t ≤ m) (hg : 1 < d.gcd (m + 1)) {k : ℕ}
    (hclear : ∀ j < k, (t + (j + 1) * d) % (m + 1) ≠ m)
    (hlast : (t + (k + 1) * d) % (m + 1) = m) (j : ℕ) :
    (reducedStep m d)^[j + (k + 1)] t = j * d % (m + 1) := by
  have hsum : ((t + k * d) % (m + 1) + d) % (m + 1) = (t + (k + 1) * d) % (m + 1) := by
    rw [Nat.mod_add_mod, Nat.add_mul, Nat.one_mul, Nat.add_assoc]
  have hzero : (reducedStep m d)^[k + 1] t = 0 := by
    rw [Function.iterate_succ_apply', iterate_reducedStep_of_ne ht k hclear]
    exact reducedStep_of_eq (hsum.trans hlast)
  rw [Function.iterate_add_apply, hzero, iterate_reducedStep_zero hg]

theorem add_mod_ne (hm : 0 < m) {a b : ℕ} (h : b % (m + 1) = m) :
    (a + b) % (m + 1) ≠ a % (m + 1) := by
  intro heq
  have hmod : a + b ≡ a + 0 [MOD m + 1] := heq
  have hb : b % (m + 1) = 0 % (m + 1) := Nat.ModEq.add_left_cancel' a hmod
  rw [h, Nat.zero_mod] at hb
  exact absurd hb (Nat.ne_of_gt hm)

/-- A counter that has reached the last value counts the steps from there on. -/
theorem iterate_reducedStep_of_exists (ht : t ≤ m) (hg : 1 < d.gcd (m + 1)) {n : ℕ}
    (h : ∃ k, k < n ∧ (t + (k + 1) * d) % (m + 1) = m) :
    ∃ j k, n = j + (k + 1) ∧ (t + (k + 1) * d) % (m + 1) = m ∧
      (reducedStep m d)^[n] t = j * d % (m + 1) := by
  -- the first time that it is reached
  obtain ⟨hk, hlast⟩ := Nat.find_spec h
  have hclear : ∀ j < Nat.find h, (t + (j + 1) * d) % (m + 1) ≠ m :=
    fun j hj hj' => Nat.find_min h hj ⟨Nat.lt_trans hj hk, hj'⟩
  generalize Nat.find h = k at hk hlast hclear
  obtain ⟨j, rfl⟩ : ∃ j, n = j + (k + 1) := ⟨n - (k + 1), (Nat.sub_add_cancel hk).symm⟩
  exact ⟨j, k, rfl, hlast, iterate_reducedStep_of_eq ht hg hclear hlast j⟩

/-- The counter is right as long as it has not reached the last value, and never again after. -/
theorem iterate_reducedStep_eq_iff (hm : 0 < m) (ht : t ≤ m) (hg : 1 < d.gcd (m + 1)) (n : ℕ) :
    (reducedStep m d)^[n] t = (t + n * d) % (m + 1) ↔
      ∀ k < n, (t + (k + 1) * d) % (m + 1) ≠ m := by
  refine ⟨fun heq k hk hlast => ?_, iterate_reducedStep_of_ne ht n⟩
  obtain ⟨j, k, rfl, hlast, hcount⟩ := iterate_reducedStep_of_exists ht hg ⟨k, hk, hlast⟩
  have hsum : t + (j + (k + 1)) * d = j * d + (t + (k + 1) * d) := by ring
  rw [hcount, hsum] at heq
  exact add_mod_ne hm hlast heq.symm

/-- The sum of `n + 1` steps is the first that comes to the last value. -/
def ReachesLastAt (m d t n : ℕ) : Prop :=
  (t + (n + 1) * d) % (m + 1) = m ∧ ∀ k < n, (t + (k + 1) * d) % (m + 1) ≠ m

instance (m d t n : ℕ) : Decidable (ReachesLastAt m d t n) :=
  inferInstanceAs (Decidable (_ ∧ _))

theorem iterate_reducedStep_add_eq_iff (ht : t ≤ m) (hg : 1 < d.gcd (m + 1)) (n : ℕ) :
    ((reducedStep m d)^[n] t + d) % (m + 1) = m ↔ ReachesLastAt m d t n := by
  by_cases hclear : ∀ k < n, (t + (k + 1) * d) % (m + 1) ≠ m
  · rw [ReachesLastAt, and_iff_left hclear, iterate_reducedStep_of_ne ht n hclear,
      Nat.mod_add_mod, Nat.add_mul, Nat.one_mul, Nat.add_assoc]
  · refine iff_of_false ?_ fun h => hclear h.2
    have hland : ∃ k, k < n ∧ (t + (k + 1) * d) % (m + 1) = m := by
      simpa only [not_forall, not_not, exists_prop] using hclear
    obtain ⟨j, k, -, -, hcount⟩ := iterate_reducedStep_of_exists ht hg hland
    rw [hcount, Nat.mod_add_mod, ← Nat.succ_mul]
    exact multiple_mod_ne hg (Nat.gcd_dvd_left ..) (Nat.gcd_dvd_right ..) (j + 1)

/-- How far a step goes, as a counter that wraps sees it. -/
theorem reducedStep_eq_add_iff (hd : d < m) {n : ℕ} (hn : n ≤ m) :
    reducedStep m d t = (t + n) % (m + 1) ↔
      n = if (t + d) % (m + 1) = m then d + 1 else d := by
  have hcancel (e : ℕ) (he : e ≤ m) : (t + e) % (m + 1) = (t + n) % (m + 1) ↔ n = e := by
    constructor
    · intro heq
      have hmod : e % (m + 1) = n % (m + 1) := Nat.ModEq.add_left_cancel' t heq
      rw [Nat.mod_eq_of_lt (Nat.lt_succ_of_le he), Nat.mod_eq_of_lt (Nat.lt_succ_of_le hn)] at hmod
      exact hmod.symm
    · rintro rfl
      rfl
  split_ifs with hlast
  · have hzero : (t + (d + 1)) % (m + 1) = 0 := by
      rw [← Nat.add_assoc, ← Nat.mod_add_mod, hlast, Nat.mod_self]
    rw [reducedStep_of_eq hlast, ← hzero]
    exact hcancel (d + 1) hd
  · rw [reducedStep_of_ne hlast]
    exact hcancel d (Nat.le_of_lt hd)

/-- Two values in a row are one step apart, except at the one place where it is a step and one
more. -/
theorem iterate_reducedStep_succ_eq_iff (ht : t ≤ m) (hd : d < m) (hg : 1 < d.gcd (m + 1))
    (k : ℕ) {n : ℕ} (hn : n ≤ m) :
    (reducedStep m d)^[k + 1] t = ((reducedStep m d)^[k] t + n) % (m + 1) ↔
      n = if ReachesLastAt m d t k then d + 1 else d := by
  rw [Function.iterate_succ_apply', reducedStep_eq_add_iff hd hn]
  simp only [iterate_reducedStep_add_eq_iff ht hg]

theorem mod_of_dvd_succ {g m : ℕ} (h : g ∣ m + 1) : m % g = g - 1 := by
  obtain ⟨q, hq⟩ := h
  have hg : 0 < g := Nat.pos_of_ne_zero (by rintro rfl; omega)
  obtain ⟨r, rfl⟩ : ∃ r, q = r + 1 := ⟨q - 1, by
    have hq0 : 0 < q := Nat.pos_of_ne_zero (by rintro rfl; omega)
    omega⟩
  have hm : m = g - 1 + g * r := by
    rw [Nat.mul_succ] at hq
    omega
  rw [hm, Nat.add_mul_mod_self_left, Nat.mod_eq_of_lt (by omega)]

theorem exists_mul_modEq_gcd (d m : ℕ) : ∃ u, d * u ≡ d.gcd (m + 1) [MOD m + 1] := by
  have hle : d.gcd (m + 1) ≤ m + 1 := Nat.gcd_le_right d (Nat.succ_pos m)
  rcases Nat.lt_or_ge (d.gcd (m + 1)) (m + 1) with hlt | hge
  · obtain ⟨u, -, hu⟩ := Nat.exists_mul_mod_eq_gcd hlt
    exact ⟨u, hu.trans (Nat.mod_eq_of_lt hlt).symm⟩
  · refine ⟨0, ?_⟩
    rw [Nat.le_antisymm hle hge, Nat.mul_zero]
    exact (Nat.modEq_zero_iff_dvd.mpr dvd_rfl).symm

/-- Whether the last value is ever reached is a matter of the residue to start from. -/
theorem exists_mod_eq_iff (ht : t ≤ m) :
    (∃ k, (t + (k + 1) * d) % (m + 1) = m) ↔ t % d.gcd (m + 1) = d.gcd (m + 1) - 1 := by
  have hgm : d.gcd (m + 1) ∣ m + 1 := Nat.gcd_dvd_right ..
  have hgd : d.gcd (m + 1) ∣ d := Nat.gcd_dvd_left ..
  rw [← mod_of_dvd_succ hgm]
  constructor
  · rintro ⟨k, hk⟩
    have hmod : (t + (k + 1) * d) % d.gcd (m + 1) = m % d.gcd (m + 1) := by
      rw [← Nat.mod_mod_of_dvd _ hgm, hk]
    rw [← hmod]
    exact ((Nat.modEq_zero_iff_dvd.mpr (Dvd.dvd.mul_left hgd (k + 1))).add_left t).symm
  · intro h
    obtain ⟨q, hq⟩ : d.gcd (m + 1) ∣ m - t := (Nat.modEq_iff_dvd' ht).mp h
    obtain ⟨u, hu⟩ := exists_mul_modEq_gcd d m
    refine ⟨u * q + m, ?_⟩
    have hstep : (u * q + m + 1) * d ≡ m - t [MOD m + 1] := by
      rw [hq, show (u * q + m + 1) * d = d * u * q + (m + 1) * d by ring]
      exact ((hu.mul_right q).add (Nat.modEq_zero_iff_dvd.mpr (Nat.dvd_mul_right ..))).trans rfl
    have hsum : t + (u * q + m + 1) * d ≡ m [MOD m + 1] := by
      simpa [Nat.add_sub_cancel' ht] using hstep.add_left t
    have hmod : (t + (u * q + m + 1) * d) % (m + 1) = m % (m + 1) := hsum
    rw [hmod, Nat.mod_eq_of_lt (Nat.lt_succ_self m)]

end Base
