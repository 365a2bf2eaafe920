import Mathlib.Data.Nat.Basic

/-! # Streaks

  The number of consecutive times a predicate has held up to now, in an
  infinite sequence of observations.
-/

namespace Streak

variable (p : Nat → Prop) [DecidablePred p]

/-- How often `p` has held in a row just before time `n`. -/
def streak : Nat → Nat
  | 0 => 0
  | n + 1 => if p n then streak n + 1 else 0

@[simp] theorem streak_zero : streak p 0 = 0 := rfl

variable {p}

@[simp] theorem streak_succ_of {n : Nat} (h : p n) : streak p (n + 1) = streak p n + 1 := by
  simp [streak, h]

@[simp] theorem streak_succ_of_not {n : Nat} (h : ¬ p n) : streak p (n + 1) = 0 := by
  simp [streak, h]

/-- A streak of `k` is `k` times in a row. -/
theorem le_streak_iff {n k : Nat} :
    k ≤ streak p n ↔ k ≤ n ∧ ∀ i < k, p (n - 1 - i) := by
  induction n generalizing k with
  | zero =>
      simp only [streak_zero]
      constructor
      · intro h
        exact ⟨h, fun i hi => by omega⟩
      · exact fun h => h.1
  | succ n ih =>
      match k with
      | 0 => simp
      | k + 1 =>
          by_cases hn : p n
          · -- the last time, and then the times before it
            simp only [streak_succ_of hn, Nat.add_le_add_iff_right, ih]
            constructor
            · rintro ⟨hk, hall⟩
              refine ⟨hk, ?_⟩
              intro i hi
              match i with
              | 0 => simpa using hn
              | i + 1 =>
                  have := hall i (by omega)
                  rwa [show n + 1 - 1 - (i + 1) = n - 1 - i by omega]
            · rintro ⟨hk, hall⟩
              refine ⟨hk, ?_⟩
              intro i hi
              have := hall (i + 1) (by omega)
              rwa [show n + 1 - 1 - (i + 1) = n - 1 - i by omega] at this
          · simp only [streak_succ_of_not hn]
            constructor
            · omega
            · intro h
              exact absurd (by simpa using h.2 0 (by omega)) hn

/-- While the predicate holds the streak grows with time. -/
theorem streak_add {n k : Nat} (h : ∀ i < k, p (n + i)) : streak p (n + k) = streak p n + k := by
  induction k with
  | zero => rfl
  | succ k ih =>
      rw [← Nat.add_assoc, streak_succ_of (h k (by omega)), ih (fun i hi => h i (by omega))]
      omega

/-- In `m` times in a row the streak is once a multiple of `m`. -/
theorem exists_streak_mod_eq_zero {n m : Nat} (hm : 0 < m) (h : ∀ i < m, p (n + i)) :
    ∃ i < m, streak p (n + i + 1) % m = 0 := by
  have hmod : streak p n % m < m := Nat.mod_lt _ hm
  -- as many more as are missing to the next multiple
  refine ⟨m - 1 - streak p n % m, by omega, ?_⟩
  rw [Nat.add_assoc, streak_add (fun i hi => h i (by omega))]
  have hsum : streak p n + (m - 1 - streak p n % m + 1) = m * (streak p n / m + 1) := by
    have hdiv := Nat.div_add_mod (streak p n) m
    rw [Nat.mul_add, Nat.mul_one]
    omega
  rw [hsum, Nat.mul_mod_right]

end Streak
