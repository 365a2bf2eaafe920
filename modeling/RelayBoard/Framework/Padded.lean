import Mathlib.Data.List.GetD
import Mathlib.Order.PiLex

/-! # Padded Comparison

  Two lists compared from the front, the shorter one padded with a default. The result is
  that of a linear order: the lists stand for functions on the positions, in lexicographic
  order.
-/

namespace Padded

variable {α : Type} (d : α)

/-- A list as a function on all positions. -/
def key (l : List α) : Lex (ℕ → α) := toLex fun i => l.getD i d

/-- Behind both lists there is no difference. -/
theorem key_eq {d : α} {l m : List α}
    (hall : ∀ k, 0 ≤ k → k < 0 + max l.length m.length → l.getD k d = m.getD k d) :
    key d l = key d m := by
  unfold key
  congr 1
  funext k
  by_cases hk : k < max l.length m.length
  · exact hall k (Nat.zero_le k) (by omega)
  · rw [List.getD_eq_default _ _ (by omega), List.getD_eq_default _ _ (by omega)]

variable [LinearOrder α]

/-- The comparison of `n` positions from position `i` on. -/
def compareFrom (l m : List α) : Nat → Nat → Int
  | 0, _ => 0
  | n + 1, i =>
      if l.getD i d < m.getD i d then -1
      else if l.getD i d > m.getD i d then 1
      else compareFrom l m n (i + 1)

/-- -1, 0 or 1, as the first difference says. -/
def compare (l m : List α) : Int := compareFrom d l m (max l.length m.length) 0

variable {d}

/-- The three results, and where each comes from. -/
theorem compareFrom_cases (l m : List α) (n i : Nat) :
    (compareFrom d l m n i = -1 ∧ ∃ j, (∀ k, i ≤ k → k < j → l.getD k d = m.getD k d) ∧
      l.getD j d < m.getD j d ∧ i ≤ j) ∨
    (compareFrom d l m n i = 1 ∧ ∃ j, (∀ k, i ≤ k → k < j → l.getD k d = m.getD k d) ∧
      m.getD j d < l.getD j d ∧ i ≤ j) ∨
    (compareFrom d l m n i = 0 ∧ ∀ k, i ≤ k → k < i + n → l.getD k d = m.getD k d) := by
  induction n generalizing i with
  | zero => exact .inr (.inr ⟨rfl, fun k hik hk => by omega⟩)
  | succ n ih =>
      unfold compareFrom
      by_cases hlt : l.getD i d < m.getD i d
      · rw [if_pos hlt]
        exact .inl ⟨rfl, i, fun k hik hk => by omega, hlt, Nat.le_refl i⟩
      by_cases hgt : l.getD i d > m.getD i d
      · rw [if_neg hlt, if_pos hgt]
        exact .inr (.inl ⟨rfl, i, fun k hik hk => by omega, hgt, Nat.le_refl i⟩)
      rw [if_neg hlt, if_neg hgt]
      have heq : l.getD i d = m.getD i d :=
        le_antisymm (not_lt.mp hgt) (not_lt.mp hlt)
      -- what holds from the next position on holds from this one
      have hfrom : ∀ {j}, (∀ k, i + 1 ≤ k → k < j → l.getD k d = m.getD k d) →
          ∀ k, i ≤ k → k < j → l.getD k d = m.getD k d := by
        intro j hall k hik hk
        by_cases hki : k = i
        · rw [hki]
          exact heq
        · exact hall k (by omega) hk
      rcases ih (i + 1) with ⟨hres, j, hall, hj, hij⟩ | ⟨hres, j, hall, hj, hij⟩ | ⟨hres, hall⟩
      · exact .inl ⟨hres, j, hfrom hall, hj, by omega⟩
      · exact .inr (.inl ⟨hres, j, hfrom hall, hj, by omega⟩)
      · exact .inr (.inr ⟨hres, fun k hik hk => hfrom hall k hik (by omega)⟩)

theorem key_lt {l m : List α} {j : Nat} (hall : ∀ k, 0 ≤ k → k < j → l.getD k d = m.getD k d)
    (hj : l.getD j d < m.getD j d) : key d l < key d m :=
  ⟨j, fun k hk => hall k (Nat.zero_le k) hk, hj⟩

/-- **The comparison is that of the keys.** -/
theorem compare_cases (l m : List α) :
    (compare d l m = -1 ∧ key d l < key d m) ∨ (compare d l m = 1 ∧ key d m < key d l) ∨
      (compare d l m = 0 ∧ key d l = key d m) := by
  rcases compareFrom_cases (d := d) l m (max l.length m.length) 0 with
    ⟨hres, j, hall, hj, _⟩ | ⟨hres, j, hall, hj, _⟩ | ⟨hres, hall⟩
  · exact .inl ⟨hres, key_lt hall hj⟩
  · exact .inr (.inl ⟨hres, key_lt (fun k h0 hk => (hall k h0 hk).symm) hj⟩)
  · exact .inr (.inr ⟨hres, key_eq hall⟩)

theorem compare_neg_iff {l m : List α} : compare d l m < 0 ↔ key d l < key d m := by
  rcases compare_cases (d := d) l m with ⟨hres, h⟩ | ⟨hres, h⟩ | ⟨hres, h⟩
  · rw [hres]
    exact iff_of_true (by decide) h
  · rw [hres]
    exact iff_of_false (by decide) h.not_gt
  · rw [hres]
    exact iff_of_false (by decide) h.not_lt

theorem compare_eq_zero_iff {l m : List α} : compare d l m = 0 ↔ key d l = key d m := by
  rcases compare_cases (d := d) l m with ⟨hres, h⟩ | ⟨hres, h⟩ | ⟨hres, h⟩
  · rw [hres]
    exact iff_of_false (by decide) h.ne
  · rw [hres]
    exact iff_of_false (by decide) h.ne'
  · rw [hres]
    exact iff_of_true rfl h

theorem compare_swap (l m : List α) : compare d m l = -compare d l m := by
  rcases compare_cases (d := d) l m with ⟨hres, h⟩ | ⟨hres, h⟩ | ⟨hres, h⟩
  · rcases compare_cases (d := d) m l with ⟨hres', h'⟩ | ⟨hres', h'⟩ | ⟨hres', h'⟩
    · exact absurd h' h.not_gt
    · rw [hres, hres']
      rfl
    · exact absurd h' h.ne'
  · have hneg := compare_neg_iff.mpr h
    rcases compare_cases (d := d) m l with ⟨hres', _⟩ | ⟨hres', _⟩ | ⟨hres', _⟩
    · rw [hres, hres']
    · rw [hres'] at hneg
      exact absurd hneg (by decide)
    · rw [hres'] at hneg
      exact absurd hneg (by decide)
  · rw [hres, compare_eq_zero_iff.mpr h.symm]
    rfl

theorem compare_self (l : List α) : compare d l l = 0 := compare_eq_zero_iff.mpr rfl

theorem compare_le_iff {l m : List α} : compare d l m ≤ 0 ↔ key d l ≤ key d m := by
  rw [le_iff_lt_or_eq, compare_neg_iff, compare_eq_zero_iff]
  exact le_iff_lt_or_eq.symm

/-- The comparison is transitive. -/
theorem compare_trans {l m o : List α} (hlm : compare d l m ≤ 0) (hmo : compare d m o ≤ 0) :
    compare d l o ≤ 0 :=
  compare_le_iff.mpr ((compare_le_iff.mp hlm).trans (compare_le_iff.mp hmo))

end Padded
