import RelayBoard.Framework.CString

/-! # Lines of a File

  `fgets` on what is left of a file: it stops behind a newline, where its buffer is full,
  or at the end of the file. Only the last is seen by `feof`.
-/

namespace CString

/-- The calls of `fgetc` inside `fgets`: at most `n` characters, what is left, and whether
    the end of the file has been met. -/
def fgetsChars : Nat → CStr → CStr × CStr × Bool
  | 0, s => ([], s, false)
  | _ + 1, [] => ([], [], true)
  | n + 1, c :: s =>
      if c = '\n' then ([c], s, false)
      else
        let (line, rest, eof) := fgetsChars n s
        (c :: line, rest, eof)

/-- `fgets` into a buffer of `size` bytes: the characters read, what is left, and `feof`
    behind it. -/
def fgets (size : Nat) (s : CStr) : Option (CStr × CStr × Bool) :=
  let (line, rest, eof) := fgetsChars (size - 1) s
  if line = [] ∧ eof = true then none else some (line, rest, eof)

/-- Where `fgets` stops. -/
theorem fgetsChars_cases (n : Nat) (s : CStr) :
    (∃ w rest, '\n' ∉ w ∧ w.length < n ∧ s = w ++ '\n' :: rest ∧
      fgetsChars n s = (w ++ ['\n'], rest, false)) ∨
    (∃ w rest, '\n' ∉ w ∧ w.length = n ∧ s = w ++ rest ∧ fgetsChars n s = (w, rest, false)) ∨
    ('\n' ∉ s ∧ s.length < n ∧ fgetsChars n s = (s, [], true)) := by
  induction n generalizing s with
  | zero => exact .inr (.inl ⟨[], s, List.not_mem_nil, rfl, rfl, rfl⟩)
  | succ n ih =>
      cases s with
      | nil => exact .inr (.inr ⟨List.not_mem_nil, Nat.zero_lt_succ n, rfl⟩)
      | cons c s =>
          by_cases hc : c = '\n'
          · subst hc
            exact .inl ⟨[], s, List.not_mem_nil, Nat.zero_lt_succ n, rfl, rfl⟩
          · have hcons : ∀ {w : CStr}, '\n' ∉ w → '\n' ∉ c :: w := fun hw hmem =>
              (List.mem_cons.mp hmem).elim (fun heq => hc heq.symm) hw
            have hstep : ∀ {line rest eof}, fgetsChars n s = (line, rest, eof) →
                fgetsChars (n + 1) (c :: s) = (c :: line, rest, eof) := by
              intro line rest eof hrest
              unfold fgetsChars
              rw [if_neg hc, hrest]
            rcases ih s with ⟨w, rest, hw, hlen, hs, hread⟩ | ⟨w, rest, hw, hlen, hs, hread⟩ |
              ⟨hw, hlen, hread⟩
            · refine .inl ⟨c :: w, rest, hcons hw, Nat.succ_lt_succ hlen, ?_, hstep hread⟩
              rw [hs]
              rfl
            · refine .inr (.inl ⟨c :: w, rest, hcons hw, congrArg Nat.succ hlen, ?_, hstep hread⟩)
              rw [hs]
              rfl
            · exact .inr (.inr ⟨hcons hw, Nat.succ_lt_succ hlen, hstep hread⟩)

section fgets
variable {n : Nat} {s line rest : CStr} {eof : Bool}

theorem fgets_nil : fgets (n + 2) [] = none := rfl

/-- A line with its newline, a full buffer, or the rest of the file. -/
theorem fgets_cases (hs : s ≠ []) :
    (∃ w rest, '\n' ∉ w ∧ w.length ≤ n ∧ s = w ++ '\n' :: rest ∧
      fgets (n + 2) s = some (w ++ ['\n'], rest, false)) ∨
    (∃ w rest, '\n' ∉ w ∧ w.length = n + 1 ∧ s = w ++ rest ∧
      fgets (n + 2) s = some (w, rest, false)) ∨
    ('\n' ∉ s ∧ s.length ≤ n ∧ fgets (n + 2) s = some (s, [], true)) := by
  unfold fgets
  rw [show n + 2 - 1 = n + 1 from rfl]
  rcases fgetsChars_cases (n + 1) s with ⟨w, rest, hw, hlen, heq, hread⟩ |
    ⟨w, rest, hw, hlen, heq, hread⟩ | ⟨hw, hlen, hread⟩
  · refine .inl ⟨w, rest, hw, Nat.le_of_lt_succ hlen, heq, ?_⟩
    rw [hread]
    exact if_neg fun h => Bool.false_ne_true h.2
  · refine .inr (.inl ⟨w, rest, hw, hlen, heq, ?_⟩)
    rw [hread]
    exact if_neg fun h => Bool.false_ne_true h.2
  · refine .inr (.inr ⟨hw, Nat.le_of_lt_succ hlen, ?_⟩)
    rw [hread]
    exact if_neg fun h => hs h.1

/-- Nothing is lost, and every call makes progress. -/
theorem fgets_eq_some (h : fgets (n + 2) s = some (line, rest, eof)) :
    s = line ++ rest ∧ line ≠ [] := by
  have hs : s ≠ [] := fun heq => by
    rw [heq, fgets_nil] at h
    cases h
  rcases fgets_cases (n := n) hs with ⟨w, rest', _, _, heq, hread⟩ |
    ⟨w, rest', _, hlen, heq, hread⟩ | ⟨_, _, hread⟩
  · rw [hread] at h
    cases h
    rw [heq, List.append_assoc]
    exact ⟨rfl, List.append_ne_nil_of_right_ne_nil _ (List.cons_ne_nil _ _)⟩
  · rw [hread] at h
    cases h
    refine ⟨heq, fun hnil => ?_⟩
    rw [hnil] at hlen
    cases hlen
  · rw [hread] at h
    cases h
    exact ⟨(List.append_nil s).symm, hs⟩

theorem length_fgets_lt (h : fgets (n + 2) s = some (line, rest, eof)) :
    rest.length < s.length := by
  obtain ⟨heq, hne⟩ := fgets_eq_some h
  have := List.length_pos_iff.mpr hne
  rw [heq, List.length_append]
  omega

end fgets

end CString
