import Mathlib.Data.List.Nodup

/-! # Batches of Keyed Commands

  A local command works on the cell of its key: what it replies and what it leaves
  there depend on that cell alone, and every other cell stays as it is. The
  commands of a batch under distinct keys do not see each other, so a batch does
  the same in every order.
-/

namespace Batch

universe u

variable {S A R K V : Type u}

/-- Execution is local to the cell of a command's key. -/
structure Local (exec : S → A → R × S) (key : A → K) (cell : S → K → V) : Prop where
  reply : ∀ {s s' : S} (a : A), cell s (key a) = cell s' (key a) →
    (exec s a).1 = (exec s' a).1
  own : ∀ {s s' : S} (a : A), cell s (key a) = cell s' (key a) →
    cell (exec s a).2 (key a) = cell (exec s' a).2 (key a)
  frame : ∀ (s : S) (a : A) (k : K), k ≠ key a → cell (exec s a).2 k = cell s k

/-- The commands one after the other, with their replies. -/
def run (exec : S → A → R × S) : S → List A → List R × S
  | s, [] => ([], s)
  | s, a :: as => ((exec s a).1 :: (run exec (exec s a).2 as).1, (run exec (exec s a).2 as).2)

@[simp] theorem run_nil (exec : S → A → R × S) (s : S) : run exec s [] = ([], s) := rfl

theorem run_cons (exec : S → A → R × S) (s : S) (a : A) (as : List A) :
    run exec s (a :: as) =
      ((exec s a).1 :: (run exec (exec s a).2 as).1, (run exec (exec s a).2 as).2) := rfl

theorem length_run (exec : S → A → R × S) (s : S) (as : List A) :
    (run exec s as).1.length = as.length := by
  induction as generalizing s with
  | nil => rfl
  | cons a as ih => rw [run_cons, List.length_cons, List.length_cons, ih]

section
variable {exec : S → A → R × S} {key : A → K} {cell : S → K → V}

/-- A cell that no command names stays as it is. -/
theorem Local.cell_run_of_not_mem (h : Local exec key cell) {s : S} {as : List A} {k : K}
    (hk : k ∉ as.map key) : cell (run exec s as).2 k = cell s k := by
  induction as generalizing s with
  | nil => rfl
  | cons a as ih =>
      rw [List.map_cons, List.mem_cons, not_or] at hk
      rw [run_cons, ih hk.2, h.frame s a k hk.1]

/-- Each command replies as it would alone. -/
theorem Local.replies (h : Local exec key cell) {s : S} {as : List A}
    (hkeys : (as.map key).Nodup) : (run exec s as).1 = as.map fun a => (exec s a).1 := by
  induction as generalizing s with
  | nil => rfl
  | cons a as ih =>
      rw [List.map_cons, List.nodup_cons] at hkeys
      have hrest : as.map (fun b => (exec (exec s a).2 b).1) = as.map fun b => (exec s b).1 := by
        apply List.map_congr_left
        intro b hb
        -- the first command leaves the cell of a later one alone
        apply h.reply b
        apply h.frame
        intro heq
        exact hkeys.1 (heq ▸ List.mem_map_of_mem hb)
      rw [run_cons, List.map_cons, ih hkeys.2, hrest]

/-- Each command leaves in its cell what it would leave alone. -/
theorem Local.cell_run_of_mem (h : Local exec key cell) {s : S} {as : List A}
    (hkeys : (as.map key).Nodup) {a : A} (ha : a ∈ as) :
    cell (run exec s as).2 (key a) = cell (exec s a).2 (key a) := by
  induction as generalizing s with
  | nil => exact absurd ha List.not_mem_nil
  | cons b as ih =>
      rw [List.map_cons, List.nodup_cons] at hkeys
      rw [run_cons]
      rcases List.mem_cons.mp ha with rfl | hmem
      · exact h.cell_run_of_not_mem hkeys.1
      · rw [ih hkeys.2 hmem]
        apply h.own a
        apply h.frame
        intro heq
        exact hkeys.1 (heq ▸ List.mem_map_of_mem hmem)

/-- **A batch under distinct keys does the same in every order**: the commands reply the
    same, and every cell ends up the same. -/
theorem Local.run_perm (h : Local exec key cell) (s : S) {as as' : List A}
    (hkeys : (as.map key).Nodup) (hperm : as.Perm as') :
    (run exec s as).1.Perm (run exec s as').1 ∧
      ∀ k, cell (run exec s as).2 k = cell (run exec s as').2 k := by
  have hkeys' : (as'.map key).Nodup := (hperm.map key).nodup_iff.mp hkeys
  constructor
  · rw [h.replies hkeys, h.replies hkeys']
    exact hperm.map _
  · intro k
    by_cases hk : k ∈ as.map key
    · obtain ⟨a, ha, rfl⟩ := List.mem_map.mp hk
      rw [h.cell_run_of_mem hkeys ha, h.cell_run_of_mem hkeys' (hperm.subset ha)]
    · have hk' : k ∉ as'.map key := fun hmem => hk ((hperm.map key).symm.subset hmem)
      rw [h.cell_run_of_not_mem hk, h.cell_run_of_not_mem hk']

end

end Batch
