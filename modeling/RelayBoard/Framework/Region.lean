import Mathlib.Data.List.TakeDrop

/-! # Regions of Memory

  A region of bytes that copies into it must stay inside, and the replacement of one
  part of its contents by another, in place.
-/

namespace Region

variable {α : Type}

/-! ### Copies -/

/-- `memcpy` of `bytes` to the offset `dst`; `none` would write outside the region. -/
def copyIn (buf : List α) (dst : Nat) (bytes : List α) : Option (List α) :=
  if dst + bytes.length ≤ buf.length then
    some (buf.take dst ++ bytes ++ buf.drop (dst + bytes.length))
  else none

/-- `memmove` of `n` bytes inside the region; `none` would read or write outside. -/
def move (buf : List α) (dst src n : Nat) : Option (List α) :=
  if src + n ≤ buf.length then copyIn buf dst ((buf.drop src).take n) else none

variable {l m r bytes : List α}

theorem copyIn_append (h : bytes.length ≤ r.length) :
    copyIn (l ++ r) l.length bytes = some (l ++ bytes ++ r.drop bytes.length) := by
  unfold copyIn
  rw [if_pos (by rw [List.length_append]; omega), List.take_left, List.drop_append,
    List.drop_of_length_le (Nat.le_add_right _ _), Nat.add_sub_cancel_left, List.nil_append]

theorem length_copyIn {buf buf' : List α} {dst : Nat} (h : copyIn buf dst bytes = some buf') :
    buf'.length = buf.length := by
  unfold copyIn at h
  split at h
  · cases h
    simp only [List.length_append, List.length_take, List.length_drop]
    omega
  · cases h

/-- Nothing to copy leaves the region. -/
theorem copyIn_nil {buf : List α} {dst : Nat} (h : dst ≤ buf.length) :
    copyIn buf dst [] = some buf := by
  unfold copyIn
  rw [List.length_nil, Nat.add_zero, if_pos h, List.append_nil, List.take_append_drop]

theorem length_move {buf buf' : List α} {dst src n : Nat}
    (h : move buf dst src n = some buf') : buf'.length = buf.length := by
  unfold move at h
  split at h
  · exact length_copyIn h
  · cases h

/-! ### Replacement In Place -/

/-- Moving what follows `m` makes room for `bytes`, which then go to the place of `m`. -/
theorem copyIn_move {rest : List α}
    (hfit : l.length + bytes.length + r.length ≤ (l ++ (m ++ (r ++ rest))).length) :
    ∃ buf rest', move (l ++ (m ++ (r ++ rest))) (l.length + bytes.length)
        (l.length + m.length) r.length = some buf ∧
      copyIn buf l.length bytes = some (l ++ (bytes ++ (r ++ rest'))) := by
  have hsrc : ((l ++ (m ++ (r ++ rest))).drop (l.length + m.length)).take r.length = r := by
    rw [← List.append_assoc, ← List.length_append, List.drop_left, List.take_left]
  have hlen : ((l ++ (m ++ (r ++ rest))).take (l.length + bytes.length)).length =
      l.length + bytes.length := by
    rw [List.length_take]
    omega
  have hmove : move (l ++ (m ++ (r ++ rest))) (l.length + bytes.length)
      (l.length + m.length) r.length = some ((l ++ (m ++ (r ++ rest))).take
        (l.length + bytes.length) ++ r ++ (l ++ (m ++ (r ++ rest))).drop
          (l.length + bytes.length + r.length)) := by
    unfold move
    rw [if_pos (by simp only [List.length_append]; omega), hsrc]
    unfold copyIn
    rw [if_pos hfit]
  refine ⟨_, (l ++ (m ++ (r ++ rest))).drop (l.length + bytes.length + r.length), hmove, ?_⟩
  -- what the move has put behind the room is out of reach of the copy
  rw [List.take_append, List.take_of_length_le (Nat.le_add_right _ _), Nat.add_sub_cancel_left]
  have hroom : ((m ++ (r ++ rest)).take bytes.length).length = bytes.length := by
    rw [List.length_take]
    simp only [List.length_append] at hfit ⊢
    omega
  rw [List.append_assoc, List.append_assoc, copyIn_append]
  · rw [List.drop_append, hroom, Nat.sub_self, List.drop_of_length_le (Nat.le_of_eq hroom)]
    simp
  · rw [List.length_append, hroom]
    exact Nat.le_add_right _ _

end Region
