import Mathlib.Data.List.GetD

/-! # Lists Continued by a Fill Value

  A medium that reads as a fill value wherever nothing was written holds a list
  continued by that value. Two lists are the same content when they agree at every
  position, those behind their ends included.
-/

namespace Filled

universe u

variable {α : Type u} {fill : α}

/-- The two lists agree at every position, with `fill` behind their ends. -/
def Same (fill : α) (l l' : List α) : Prop :=
  ∀ i, l.getD i fill = l'.getD i fill

theorem getD_eq_fill {l : List α} (h : ∀ x ∈ l, x = fill) (i : Nat) : l.getD i fill = fill := by
  by_cases hi : i < l.length
  · rw [List.getD_eq_getElem l fill hi]
    exact h _ (List.getElem_mem hi)
  · exact List.getD_eq_default l fill (Nat.le_of_not_lt hi)

/-- Nothing written is the same as fill values written. -/
theorem same_nil_iff {l : List α} : Same fill [] l ↔ ∀ x ∈ l, x = fill := by
  constructor
  · intro h x hx
    obtain ⟨i, hi, rfl⟩ := List.mem_iff_getElem.mp hx
    rw [← List.getD_eq_getElem l fill hi]
    exact (h i).symm
  · intro h i
    rw [getD_eq_fill h i]
    exact List.getD_nil

theorem same_replicate (m n : Nat) :
    Same fill (List.replicate m fill) (List.replicate n fill) := by
  intro i
  rw [getD_eq_fill (fun x hx => List.eq_of_mem_replicate hx) i,
    getD_eq_fill (fun x hx => List.eq_of_mem_replicate hx) i]

/-- A common beginning can be left out. -/
theorem same_append_left_iff (p : List α) {l l' : List α} :
    Same fill (p ++ l) (p ++ l') ↔ Same fill l l' := by
  constructor
  · intro h i
    have hi := h (p.length + i)
    rw [List.getD_append_right _ _ _ _ (Nat.le_add_right _ _),
      List.getD_append_right _ _ _ _ (Nat.le_add_right _ _), Nat.add_sub_cancel_left] at hi
    exact hi
  · intro h i
    by_cases hi : i < p.length
    · rw [List.getD_append _ _ _ _ hi, List.getD_append _ _ _ _ hi]
    · have hle := Nat.le_of_not_lt hi
      rw [List.getD_append_right _ _ _ _ hle, List.getD_append_right _ _ _ _ hle]
      exact h _

/-- What agrees with itself moved behind fill values is fill values. -/
theorem eq_fill_of_same_shift {k : Nat} (hk : 0 < k) {c t t' : List α}
    (h : Same fill (List.replicate k fill ++ (c ++ t)) (c ++ t')) : ∀ x ∈ c, x = fill := by
  have hget : ∀ i, i < c.length → c.getD i fill = fill := by
    intro i
    induction i using Nat.strongRecOn with
    | ind i ih =>
        intro hi
        have hagree := h i
        rw [List.getD_append c t' _ _ hi] at hagree
        rw [← hagree]
        by_cases hik : i < k
        · rw [List.getD_append _ _ _ _ (by rw [List.length_replicate]; exact hik),
            List.getD_replicate _ hik]
        · -- behind the fill values stands an earlier position of `c`
          have hlt : i - k < c.length := Nat.lt_of_le_of_lt (Nat.sub_le i k) hi
          rw [List.getD_append_right _ _ _ _ (by rw [List.length_replicate]; omega),
            List.length_replicate, List.getD_append _ _ _ _ hlt]
          exact ih (i - k) (by omega) hlt
  intro x hx
  obtain ⟨i, hi, rfl⟩ := List.mem_iff_getElem.mp hx
  rw [← List.getD_eq_getElem c fill hi]
  exact hget i hi

/-- The part `c` that both share can be left out of such an agreement. -/
theorem same_shift_cancel {k : Nat} (hk : 0 < k) {c t t' : List α}
    (h : Same fill (List.replicate k fill ++ (c ++ t)) (c ++ t')) :
    Same fill (List.replicate k fill ++ t) t' := by
  have hc : c = List.replicate c.length fill :=
    List.eq_replicate_iff.mpr ⟨rfl, eq_fill_of_same_shift hk h⟩
  rw [← same_append_left_iff c]
  have hcomm : List.replicate k fill ++ (c ++ t) = c ++ (List.replicate k fill ++ t) := by
    rw [hc, ← List.append_assoc, ← List.append_assoc, List.replicate_append_replicate,
      List.replicate_append_replicate, Nat.add_comm]
  rwa [hcomm] at h

/-- A medium of a given length holds a list exactly when it has the same content. -/
theorem eq_append_replicate_iff {l l' : List α} (hle : l'.length ≤ l.length) :
    l = l' ++ List.replicate (l.length - l'.length) fill ↔ Same fill l l' := by
  have hfilled : Same fill (l' ++ List.replicate (l.length - l'.length) fill) l' := by
    have h : Same fill (l' ++ List.replicate (l.length - l'.length) fill) (l' ++ []) := by
      rw [same_append_left_iff]
      exact same_replicate _ 0
    rwa [List.append_nil] at h
  constructor
  · intro h
    rw [h]
    exact hfilled
  · intro h
    refine List.ext_getElem (by rw [List.length_append, List.length_replicate]; omega) ?_
    intro i hi hi'
    rw [← List.getD_eq_getElem l fill hi, ← List.getD_eq_getElem _ fill hi', h i, hfilled i]

end Filled
