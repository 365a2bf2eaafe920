import Mathlib.Data.List.Nodup
import Mathlib.Data.List.Perm.Subperm

/-! # First Fit

  Taking the first element of a pool that is not in use. As long as fewer
  elements are in use than the pool has, one is found. A user that never
  gives an element back holds a prefix of the pool.
-/

namespace FirstFit

variable {α : Type} [DecidableEq α]

/-- The first element of `pool` that is not in `used`. -/
def firstFree (pool used : List α) : Option α := pool.find? fun a => a ∉ used

theorem firstFree_mem {pool used : List α} {a : α} (h : firstFree pool used = some a) :
    a ∈ pool :=
  List.mem_of_find?_eq_some h

theorem firstFree_not_mem {pool used : List α} {a : α} (h : firstFree pool used = some a) :
    a ∉ used := by
  unfold firstFree at h
  simpa using List.find?_some h

/-- **Pigeonhole**: fewer used elements than the pool has leave one free. -/
theorem exists_firstFree {pool used : List α} (hnodup : pool.Nodup)
    (hlen : used.length < pool.length) : ∃ a, firstFree pool used = some a := by
  cases h : firstFree pool used with
  | some a => exact ⟨a, rfl⟩
  | none =>
      exfalso
      unfold firstFree at h
      rw [List.find?_eq_none] at h
      -- nothing free: the whole pool is in use
      have hsub : pool ⊆ used := by
        intro a ha
        simpa using h a ha
      have hle := (List.subperm_of_subset hnodup hsub).length_le
      omega

/-- When a prefix of the pool is in use, the next element is taken. -/
theorem firstFree_of_perm_take {pool used : List α} {k : Nat} (hnodup : pool.Nodup)
    (hk : k < pool.length) (hperm : used.Perm (pool.take k)) :
    firstFree pool used = some pool[k] := by
  have hmem : ∀ a, a ∈ used ↔ a ∈ pool.take k := fun a => hperm.mem_iff
  -- the next element is not yet in use, as the pool has no duplicates
  have hfresh : pool[k] ∉ pool.take k := by
    intro hin
    obtain ⟨j, hj, heq⟩ := List.mem_take_iff_getElem.mp hin
    have := (List.Nodup.getElem_inj_iff hnodup).mp heq
    omega
  unfold firstFree
  rw [List.find?_eq_some_iff_getElem]
  refine ⟨by simpa [hmem] using hfresh, k, hk, rfl, ?_⟩
  intro j hj
  have hjmem : pool[j] ∈ pool.take k := List.mem_take_iff_getElem.mpr ⟨j, by omega, rfl⟩
  simpa [hmem] using hjmem

omit [DecidableEq α] in
/-- The taken element extends the prefix. -/
theorem perm_take_succ {pool used : List α} {k : Nat} (hk : k < pool.length)
    (hperm : used.Perm (pool.take k)) : (pool[k] :: used).Perm (pool.take (k + 1)) := by
  rw [List.take_succ_eq_append_getElem hk]
  exact (hperm.cons _).trans (List.perm_append_singleton _ _).symm

/-- When an element of the prefix is not counted as used, first fit takes an
    element of the prefix again. -/
theorem firstFree_mem_take {pool used : List α} {k : Nat} {a b : α}
    (hfree : a ∈ pool.take k) (hunused : a ∉ used) (h : firstFree pool used = some b) :
    b ∈ pool.take k := by
  obtain ⟨j, hj, rfl⟩ := List.mem_take_iff_getElem.mp hfree
  unfold firstFree at h
  obtain ⟨_, i, hi, rfl, hbefore⟩ := List.find?_eq_some_iff_getElem.mp h
  -- the search cannot pass the free element
  have hij : i ≤ j := by
    by_contra hlt
    have := hbefore j (by omega)
    simp [hunused] at this
  exact List.mem_take_iff_getElem.mpr ⟨i, by omega, rfl⟩

end FirstFit
