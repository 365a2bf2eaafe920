import Mathlib.Algebra.Order.BigOperators.Group.List
import Mathlib.Algebra.Order.Group.Nat
import Mathlib.Data.List.Basic

/-! # Lists in Chunks

  A list cut into consecutive chunks of one size, the last one possibly
  shorter, and lists spliced together from the chunks of two others.
-/

namespace Chunk

variable {α : Type} {size : Nat}

/-- Chunk `i` of `s`. -/
def chunk (size : Nat) (s : List α) (i : Nat) : List α := (s.drop (i * size)).take size

/-- Number of chunks. -/
def chunkCount (size : Nat) (s : List α) : Nat := (s.length + size - 1) / size

/-- `new` over its first `j` chunks, `old` behind them. -/
def splice (size j : Nat) (new old : List α) : List α :=
  new.take (j * size) ++ old.drop (j * size)

/-! ### Counting -/

theorem lt_chunkCount_iff (hsize : 0 < size) (s : List α) (i : Nat) :
    i < chunkCount size s ↔ i * size < s.length := by
  rw [chunkCount, Nat.lt_div_iff_mul_lt hsize]
  omega

theorem length_le_chunkCount_mul (hsize : 0 < size) (s : List α) :
    s.length ≤ chunkCount size s * size := by
  have := mt (lt_chunkCount_iff hsize s (chunkCount size s)).mpr (Nat.lt_irrefl _)
  omega

theorem chunkCount_eq_zero_iff (hsize : 0 < size) (s : List α) :
    chunkCount size s = 0 ↔ s = [] := by
  have := lt_chunkCount_iff hsize s 0
  rw [Nat.zero_mul, List.length_pos_iff] at this
  constructor
  · intro h
    by_contra hne
    exact absurd (this.mpr hne) (by omega)
  · intro h
    by_contra hne
    exact absurd (this.mp (by omega)) (by simp [h])

/-! ### Lengths -/

theorem chunk_ne_nil (hsize : 0 < size) {s : List α} {i : Nat} (hi : i < chunkCount size s) :
    chunk size s i ≠ [] := by
  have hlt := (lt_chunkCount_iff hsize s i).mp hi
  rw [chunk, ← List.length_pos_iff, List.length_take, List.length_drop]
  omega

theorem length_chunk_le (s : List α) (i : Nat) : (chunk size s i).length ≤ size :=
  List.length_take_le _ _

/-- All chunks but the last are full. -/
theorem length_chunk_of_lt (hsize : 0 < size) {s : List α} {i : Nat}
    (hi : i + 1 < chunkCount size s) : (chunk size s i).length = size := by
  have hlt := (lt_chunkCount_iff hsize s (i + 1)).mp hi
  rw [Nat.succ_mul] at hlt
  rw [chunk, List.length_take, List.length_drop]
  omega

/-! ### Reassembly -/

/-- Lists that are not longer and concatenate to the same are the same. -/
theorem flatMap_eq_flatMap_iff {β : Type} {f g : β → List α} {is : List β}
    (hle : ∀ i ∈ is, (f i).length ≤ (g i).length) :
    is.flatMap f = is.flatMap g ↔ ∀ i ∈ is, f i = g i := by
  refine ⟨?_, List.flatMap_congr⟩
  intro h
  induction is with
  | nil => simp
  | cons i is ih =>
      have hrest : ∀ js : List β, (∀ j ∈ js, (f j).length ≤ (g j).length) →
          (js.flatMap f).length ≤ (js.flatMap g).length := by
        intro js hjs
        rw [List.length_flatMap, List.length_flatMap]
        exact List.sum_le_sum hjs
      have htail := hrest is (fun j hj => hle j (by simp [hj]))
      have hhead := hle i (by simp)
      rw [List.flatMap_cons, List.flatMap_cons] at h
      -- neither part can be shorter, so the cut is at the same place
      have hlen := congrArg List.length h
      rw [List.length_append, List.length_append] at hlen
      obtain ⟨hi, his⟩ := List.append_inj h (by omega)
      intro j hj
      rcases List.mem_cons.mp hj with rfl | hj
      · exact hi
      · exact ih (fun j hj => hle j (by simp [hj])) his j hj

/-- Consecutive chunks are a window of the list. -/
theorem flatMap_chunk_range' (s : List α) (j k : Nat) :
    (List.range' j k).flatMap (chunk size s) = (s.drop (j * size)).take (k * size) := by
  induction k generalizing j with
  | zero => simp
  | succ k ih =>
      rw [List.range'_succ, List.flatMap_cons, ih, chunk, Nat.succ_mul k, Nat.add_comm _ size,
        List.take_add, List.drop_drop, Nat.succ_mul]

theorem flatMap_chunk_range (s : List α) (k : Nat) :
    (List.range k).flatMap (chunk size s) = s.take (k * size) := by
  rw [List.range_eq_range', flatMap_chunk_range']
  simp

/-- All chunks together are the list. -/
theorem flatMap_chunk (hsize : 0 < size) (s : List α) :
    (List.range (chunkCount size s)).flatMap (chunk size s) = s := by
  rw [flatMap_chunk_range]
  exact List.take_of_length_le (length_le_chunkCount_mul hsize s)

/-- Chunks of `new` before `j` and of `old` from there on make the splice. -/
theorem flatMap_ite_chunk (hsize : 0 < size) (new old : List α) {j : Nat}
    (hj : j ≤ chunkCount size old) :
    (List.range (chunkCount size old)).flatMap
        (fun i => if i < j then chunk size new i else chunk size old i) =
      splice size j new old := by
  -- cut the range at `j`: one side takes all its chunks from `new`
  have hsplit : List.range (chunkCount size old) =
      List.range j ++ List.range' j (chunkCount size old - j) := by
    have happ := List.range'_append_1 (s := 0) (m := j) (n := chunkCount size old - j)
    rw [Nat.zero_add, Nat.add_sub_cancel' hj] at happ
    rw [List.range_eq_range', List.range_eq_range', happ]
  have hleft : (List.range j).flatMap
      (fun i => if i < j then chunk size new i else chunk size old i) =
      (List.range j).flatMap (chunk size new) := by
    apply List.flatMap_congr
    intro i hi
    rw [if_pos (List.mem_range.mp hi)]
  have hright : (List.range' j (chunkCount size old - j)).flatMap
      (fun i => if i < j then chunk size new i else chunk size old i) =
      (List.range' j (chunkCount size old - j)).flatMap (chunk size old) := by
    apply List.flatMap_congr
    intro i hi
    have := List.mem_range'_1.mp hi
    rw [if_neg (by omega)]
  rw [hsplit, List.flatMap_append, hleft, hright, flatMap_chunk_range, flatMap_chunk_range']
  have hlen := length_le_chunkCount_mul hsize old
  -- the last chunk may be short, so the count overshoots the list
  have hall : (old.drop (j * size)).take ((chunkCount size old - j) * size) =
      old.drop (j * size) := by
    apply List.take_of_length_le
    rw [List.length_drop, Nat.sub_mul]
    omega
  rw [hall, splice]

/-! ### When a Splice Is One of Its Parts -/

/-- A splice is `old` exactly when the first parts agree. -/
theorem splice_eq_old_iff {j : Nat} {new old : List α} :
    splice size j new old = old ↔ new.take (j * size) = old.take (j * size) := by
  conv_lhs => rhs; rw [← List.take_append_drop (j * size) old]
  exact List.append_left_inj _

/-- A splice is `new` exactly when the rests agree. -/
theorem splice_eq_new_iff {j : Nat} {new old : List α} :
    splice size j new old = new ↔ old.drop (j * size) = new.drop (j * size) := by
  conv_lhs => rhs; rw [← List.take_append_drop (j * size) new]
  exact List.append_right_inj _

/-- First parts agree exactly when the chunks in them do. -/
theorem take_eq_take_iff {j : Nat} {s t : List α} :
    s.take (j * size) = t.take (j * size) ↔ ∀ i < j, chunk size s i = chunk size t i := by
  constructor
  · intro h i hi
    have hle : i * size + size ≤ j * size := by
      rw [← Nat.succ_mul]
      exact Nat.mul_le_mul_right size hi
    -- a chunk below `j` lies wholly inside the first part
    have hwin : ∀ u : List α, chunk size u i =
        ((u.take (j * size)).drop (i * size)).take size := by
      intro u
      rw [chunk, List.drop_take, List.take_take, Nat.min_eq_left (by omega)]
    rw [hwin s, hwin t, h]
  · intro h
    rw [← flatMap_chunk_range, ← flatMap_chunk_range]
    apply List.flatMap_congr
    intro i hi
    exact h i (List.mem_range.mp hi)

/-- Rests agree exactly when the chunks in them do. -/
theorem drop_eq_drop_iff (hsize : 0 < size) {j : Nat} {s t : List α} :
    s.drop (j * size) = t.drop (j * size) ↔
      ∀ i, j ≤ i → chunk size s i = chunk size t i := by
  -- a chunk of the list is a chunk of its tail, counted from `j`
  have hchunk : ∀ (u : List α) (i : Nat), j ≤ i →
      chunk size u i = chunk size (u.drop (j * size)) (i - j) := by
    intro u i hi
    rw [chunk, chunk, List.drop_drop, ← Nat.add_mul, Nat.add_sub_cancel' hi]
  constructor
  · intro h i hi
    rw [hchunk s i hi, hchunk t i hi, h]
  · intro h
    have hdrop : ∀ i, chunk size (s.drop (j * size)) i = chunk size (t.drop (j * size)) i := by
      intro i
      have := h (j + i) (by omega)
      rw [hchunk s _ (by omega), hchunk t _ (by omega)] at this
      simpa using this
    have hn : ∀ u : List α, ∀ k, chunkCount size u ≤ k → u.take (k * size) = u := by
      intro u k hk
      apply List.take_of_length_le
      exact Nat.le_trans (length_le_chunkCount_mul hsize u) (Nat.mul_le_mul_right size hk)
    -- enough chunks to cover both tails
    let k := max (chunkCount size (s.drop (j * size))) (chunkCount size (t.drop (j * size)))
    calc s.drop (j * size)
        = (s.drop (j * size)).take (k * size) := (hn _ k (Nat.le_max_left _ _)).symm
      _ = (t.drop (j * size)).take (k * size) := take_eq_take_iff.mpr (fun i _ => hdrop i)
      _ = t.drop (j * size) := hn _ k (Nat.le_max_right _ _)

/-- At most one chunk differs. -/
def DifferInOne (size : Nat) (s t : List α) : Prop :=
  ∀ i j, chunk size s i ≠ chunk size t i → chunk size s j ≠ chunk size t j → i = j

/-- Every splice is one of its two parts exactly when at most one chunk differs. -/
theorem forall_splice_iff (hsize : 0 < size) (new old : List α) :
    (∀ j, splice size j new old = old ∨ splice size j new old = new) ↔
      DifferInOne size new old := by
  constructor
  · intro h i j hi hj
    by_contra hne
    -- stop between the two differing chunks: the splice is neither
    have key : ∀ a b, a < b → chunk size new a ≠ chunk size old a →
        chunk size new b ≠ chunk size old b → False := by
      intro a b hab ha hb
      rcases h b with hold | hnew
      · exact ha (take_eq_take_iff.mp (splice_eq_old_iff.mp hold) a hab)
      · exact hb ((drop_eq_drop_iff hsize).mp (splice_eq_new_iff.mp hnew) b (Nat.le_refl b)).symm
    rcases Nat.lt_or_gt_of_ne hne with hlt | hlt
    · exact key i j hlt hi hj
    · exact key j i hlt hj hi
  · intro h j
    by_cases hall : ∀ i < j, chunk size new i = chunk size old i
    · exact Or.inl (splice_eq_old_iff.mpr (take_eq_take_iff.mpr hall))
    · obtain ⟨i, hi⟩ := Classical.not_forall.mp hall
      -- the one differing chunk has been written, so the rest agrees
      obtain ⟨hij, hdiff⟩ := Classical.not_imp.mp hi
      refine Or.inr (splice_eq_new_iff.mpr ((drop_eq_drop_iff hsize).mpr ?_))
      intro k hk
      by_contra hk'
      have := h i k hdiff (fun heq => hk' heq.symm)
      omega

end Chunk
