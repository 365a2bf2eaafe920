import RelayBoard.Framework.CString

/-! # Searching and Reading C Strings

  `strstr` and `atoi`, and the first occurrence of a pattern that callers of
  `strstr` rely on.
-/

namespace CString

/-! ### First Occurrence -/

/-- `strstr(s, pat)`: the part of `s` from the first occurrence of `pat` on. -/
def strstr (pat : CStr) : CStr → Option CStr
  | [] => if pat = [] then some [] else none
  | c :: s => if pat.isPrefixOf (c :: s) then some (c :: s) else strstr pat s

/-- `s` is `before`, then the first occurrence of `pat`, then `after`. -/
structure FirstAt (pat s before after : CStr) : Prop where
  split : s = before ++ pat ++ after
  first : ∀ before' after', s = before' ++ pat ++ after' → before.length ≤ before'.length

theorem FirstAt.unique {pat s before after before' after' : CStr}
    (h : FirstAt pat s before after) (h' : FirstAt pat s before' after') :
    before = before' ∧ after = after' := by
  have hlen := Nat.le_antisymm (h.first _ _ h'.split) (h'.first _ _ h.split)
  have heq := h.split.symm.trans h'.split
  rw [List.append_assoc, List.append_assoc] at heq
  obtain ⟨hbefore, hrest⟩ := List.append_inj heq hlen
  exact ⟨hbefore, List.append_cancel_left hrest⟩

/-- One more character in front of a first occurrence. -/
theorem FirstAt.cons {pat s before after : CStr} {c : Char}
    (h : FirstAt pat s before after) (hpre : ¬ pat <+: c :: s) :
    FirstAt pat (c :: s) (c :: before) after := by
  refine ⟨by rw [h.split]; rfl, ?_⟩
  intro before' after' heq
  cases before' with
  | nil => exact absurd ⟨after', heq.symm⟩ hpre
  | cons d before' =>
      rw [List.cons_append, List.cons_append, List.cons.injEq] at heq
      exact Nat.succ_le_succ (h.first _ _ heq.2)

theorem strstr_firstAt {pat s t : CStr} (h : strstr pat s = some t) :
    ∃ before after, FirstAt pat s before after ∧ t = pat ++ after := by
  induction s with
  | nil =>
      unfold strstr at h
      split at h
      · next hpat =>
          cases h
          subst hpat
          exact ⟨[], [], ⟨rfl, fun _ _ _ => Nat.zero_le _⟩, rfl⟩
      · cases h
  | cons c s ih =>
      unfold strstr at h
      split at h
      · next hpre =>
          obtain ⟨after, heq⟩ := List.isPrefixOf_iff_prefix.mp hpre
          cases h
          exact ⟨[], after, ⟨heq.symm, fun _ _ _ => Nat.zero_le _⟩, heq.symm⟩
      · next hpre =>
          obtain ⟨before, after, hfirst, ht⟩ := ih h
          exact ⟨c :: before, after,
            hfirst.cons fun hp => hpre (List.isPrefixOf_iff_prefix.mpr hp), ht⟩

/-- Nothing is found exactly if the pattern does not occur. -/
theorem strstr_eq_none_iff {pat s : CStr} : strstr pat s = none ↔ ¬ pat <:+: s := by
  induction s with
  | nil =>
      unfold strstr
      rw [List.infix_nil]
      by_cases hpat : pat = [] <;> simp [hpat]
  | cons c s ih =>
      unfold strstr
      rw [List.infix_cons_iff]
      split
      · next hpre => simp [List.isPrefixOf_iff_prefix.mp hpre]
      · next hpre =>
          rw [ih, not_or, ← List.isPrefixOf_iff_prefix]
          simp [hpre]

/-- What `strstr` finds is the first occurrence. -/
theorem FirstAt.strstr {pat s before after : CStr} (h : FirstAt pat s before after) :
    strstr pat s = some (pat ++ after) := by
  cases hfind : CString.strstr pat s with
  | none =>
      rw [strstr_eq_none_iff] at hfind
      exact absurd ⟨before, after, h.split.symm⟩ hfind
  | some t =>
      obtain ⟨before', after', h', ht⟩ := strstr_firstAt hfind
      rw [ht, (h.unique h').2]

theorem exists_firstAt {pat s : CStr} (h : pat <:+: s) :
    ∃ before after, FirstAt pat s before after := by
  obtain ⟨t, ht⟩ := Option.ne_none_iff_exists'.mp fun hnone =>
    strstr_eq_none_iff.mp hnone h
  obtain ⟨before, after, hfirst, _⟩ := strstr_firstAt ht
  exact ⟨before, after, hfirst⟩

/-- The first occurrence lies in every beginning that is long enough. -/
theorem FirstAt.of_prefix {pat s t before after : CStr} (h : FirstAt pat s before after)
    (ht : t <+: s) (hlen : (before ++ pat).length ≤ t.length) :
    ∃ after', FirstAt pat t before after' ∧ after' <+: after := by
  obtain ⟨after', rfl⟩ : before ++ pat <+: t :=
    List.prefix_of_prefix_length_le ⟨after, h.split.symm⟩ ht hlen
  refine ⟨after', ⟨rfl, ?_⟩, ?_⟩
  · intro b a heq
    obtain ⟨tail, htail⟩ := ht
    apply h.first b (a ++ tail)
    rw [← htail, heq, List.append_assoc]
  · rw [h.split] at ht
    exact (List.prefix_append_right_inj _).mp ht

/-! ### Separators -/

theorem prefix_append_cons_iff {pat l r : CStr} {x : Char} (hx : x ∉ pat) :
    pat <+: l ++ x :: r ↔ pat <+: l := by
  induction l generalizing pat with
  | nil =>
      cases pat with
      | nil => simp
      | cons c pat =>
          have hne : c ≠ x := fun heq => hx (heq ▸ List.mem_cons_self)
          simp [List.cons_prefix_cons, hne]
  | cons d l ih =>
      cases pat with
      | nil => simp
      | cons c pat =>
          rw [List.cons_append, List.cons_prefix_cons, List.cons_prefix_cons,
            ih fun hmem => hx (List.mem_cons_of_mem _ hmem)]

/-- The first occurrence is behind text without any. -/
theorem FirstAt.after {pat l r before after : CStr} {x : Char} (h : FirstAt pat r before after)
    (hx : x ∉ pat) (hl : ¬ pat <:+: l) :
    FirstAt pat (l ++ x :: r) (l ++ x :: before) after := by
  induction l with
  | nil =>
      apply h.cons
      rw [← List.nil_append (x :: r), prefix_append_cons_iff hx]
      exact fun hpre => hl hpre.isInfix
  | cons c l ih =>
      apply (ih fun hin => hl (hin.trans (List.suffix_cons c l).isInfix)).cons
      rw [← List.cons_append, prefix_append_cons_iff hx]
      exact fun hpre => hl hpre.isInfix

/-! ### Replacing -/

/-- `replaceAll` after `skip` characters that belong to an occurrence. -/
def replaceAllFrom (pat val : CStr) : Nat → CStr → CStr
  | _, [] => []
  | skip + 1, _ :: s => replaceAllFrom pat val skip s
  | 0, c :: s =>
      if pat.isPrefixOf (c :: s) then val ++ replaceAllFrom pat val (pat.length - 1) s
      else c :: replaceAllFrom pat val 0 s

/-- `s` with all occurrences of `pat` that do not overlap, from left to right, replaced. -/
def replaceAll (pat val s : CStr) : CStr := replaceAllFrom pat val 0 s

example : replaceAll "aa".toList "a".toList "aaaaa".toList = "aaa".toList := by decide

theorem replaceAllFrom_eq (pat val : CStr) (skip : Nat) (s : CStr) :
    replaceAllFrom pat val skip s = replaceAll pat val (s.drop skip) := by
  induction s generalizing skip with
  | nil =>
      rw [List.drop_nil]
      cases skip <;> rfl
  | cons c s ih =>
      cases skip with
      | zero => rfl
      | succ skip => exact ih skip

/-- The first occurrence is the first to be replaced. -/
theorem FirstAt.replaceAll {pat s before after : CStr} (h : FirstAt pat s before after)
    (hne : pat ≠ []) (val : CStr) :
    CString.replaceAll pat val s = before ++ val ++ CString.replaceAll pat val after := by
  obtain ⟨d, pat, rfl⟩ := List.exists_cons_of_ne_nil hne
  induction before generalizing s with
  | nil =>
      have hs : s = d :: (pat ++ after) := h.split
      have hpre : (d :: pat).isPrefixOf (d :: (pat ++ after)) = true :=
        List.isPrefixOf_iff_prefix.mpr (List.prefix_append (d :: pat) after)
      rw [hs]
      unfold CString.replaceAll
      conv_lhs => unfold replaceAllFrom
      rw [if_pos hpre, replaceAllFrom_eq, List.length_cons, Nat.add_sub_cancel, List.drop_left]
      rfl
  | cons c before ih =>
      have hs : s = c :: (before ++ (d :: pat) ++ after) := h.split
      have hpre : ¬ (d :: pat).isPrefixOf s = true := by
        intro hpre
        obtain ⟨rest, hrest⟩ := List.isPrefixOf_iff_prefix.mp hpre
        exact absurd (h.first [] rest hrest.symm) (by simp)
      have htail : FirstAt (d :: pat) (before ++ (d :: pat) ++ after) before after := by
        refine ⟨rfl, fun before' after' heq => ?_⟩
        have hlen := h.first (c :: before') after' (by rw [hs, heq]; rfl)
        exact Nat.le_of_succ_le_succ hlen
      rw [hs] at hpre ⊢
      unfold CString.replaceAll
      conv_lhs => unfold replaceAllFrom
      rw [if_neg hpre]
      exact congrArg (c :: ·) (ih htail)

theorem replaceAll_of_absent {pat s : CStr} (h : ¬ pat <:+: s) (val : CStr) :
    replaceAll pat val s = s := by
  induction s with
  | nil => rfl
  | cons c s ih =>
      rw [List.infix_cons_iff, not_or] at h
      unfold replaceAll replaceAllFrom
      rw [if_neg fun hpre => h.1 (List.isPrefixOf_iff_prefix.mp hpre)]
      exact congrArg (c :: ·) (ih h.2)

/-- A value at least as long as the pattern does not make a text shorter. -/
theorem length_le_replaceAll {pat val : CStr} (hne : pat ≠ []) (hlen : pat.length ≤ val.length)
    (s : CStr) : s.length ≤ (replaceAll pat val s).length := by
  induction hn : s.length using Nat.strong_induction_on generalizing s with
  | _ n ih =>
      by_cases hin : pat <:+: s
      · obtain ⟨before, after, hfirst⟩ := exists_firstAt hin
        have hsplit := congrArg List.length hfirst.split
        have hpos := List.length_pos_iff.mpr hne
        simp only [List.length_append] at hsplit
        have hafter := ih after.length (by omega) after rfl
        rw [hfirst.replaceAll hne]
        simp only [List.length_append]
        omega
      · rw [replaceAll_of_absent hin, hn]

/-! ### Up To a Delimiter -/

/-- The text up to the first `delim`. -/
theorem takeWhile_ne_append {value rest : CStr} {delim : Char} (hvalue : delim ∉ value)
    (hrest : rest = [] ∨ ∃ more, rest = delim :: more) :
    (value ++ rest).takeWhile (fun c => c ≠ delim) = value := by
  rw [List.takeWhile_append_of_pos]
  · rcases hrest with rfl | ⟨more, rfl⟩
    · simp
    · simp
  · intro c hc
    have hne : c ≠ delim := fun heq => hvalue (heq ▸ hc)
    simp [hne]

/-- Every text has a part up to a delimiter or its end. -/
theorem exists_upTo (s : CStr) (delim : Char) :
    ∃ value rest, s = value ++ rest ∧ delim ∉ value ∧
      (rest = [] ∨ ∃ more, rest = delim :: more) := by
  induction s with
  | nil => exact ⟨[], [], rfl, List.not_mem_nil, Or.inl rfl⟩
  | cons c s ih =>
      by_cases hc : c = delim
      · exact ⟨[], c :: s, rfl, List.not_mem_nil, Or.inr ⟨s, by rw [hc]⟩⟩
      · obtain ⟨value, rest, rfl, hvalue, hrest⟩ := ih
        refine ⟨c :: value, rest, rfl, ?_, hrest⟩
        rw [List.mem_cons, not_or]
        exact ⟨Ne.symm hc, hvalue⟩

/-- What follows a delimiter does not matter. -/
theorem takeWhile_append_cons (s rest : CStr) (delim : Char) :
    (s ++ delim :: rest).takeWhile (fun c => c ≠ delim) = s.takeWhile fun c => c ≠ delim := by
  obtain ⟨value, after, rfl, hvalue, hafter⟩ := exists_upTo s delim
  rw [takeWhile_ne_append hvalue hafter, List.append_assoc, takeWhile_ne_append hvalue]
  rcases hafter with rfl | ⟨more, rfl⟩
  · exact .inr ⟨rest, rfl⟩
  · exact .inr ⟨more ++ delim :: rest, rfl⟩

/-- What stands in front of a delimiter can be read back. -/
theorem eq_of_append_cons {s s' rest rest' : CStr} {delim : Char} (hs : delim ∉ s)
    (hs' : delim ∉ s') (h : s ++ delim :: rest = s' ++ delim :: rest') :
    s = s' ∧ rest = rest' := by
  have hword := congrArg (List.takeWhile fun c => c ≠ delim) h
  rw [takeWhile_ne_append hs (.inr ⟨rest, rfl⟩),
    takeWhile_ne_append hs' (.inr ⟨rest', rfl⟩)] at hword
  subst hword
  exact ⟨rfl, (List.cons.inj (List.append_cancel_left h)).2⟩

/-! ### Last Occurrence -/

/-- `strrchr`: the text from the last occurrence on. -/
def strrchr (c : Char) : CStr → Option CStr
  | [] => none
  | d :: s =>
      match strrchr c s with
      | some t => some t
      | none => if d = c then some (d :: s) else none

theorem strrchr_of_not_mem {c : Char} {s : CStr} (h : c ∉ s) : strrchr c s = none := by
  induction s with
  | nil => rfl
  | cons d s ih =>
      rw [List.mem_cons, not_or] at h
      unfold strrchr
      rw [ih h.2]
      exact if_neg (Ne.symm h.1)

theorem exists_last {c : Char} {s : CStr} (h : c ∈ s) : ∃ l r, s = l ++ c :: r ∧ c ∉ r := by
  induction s with
  | nil => exact absurd h List.not_mem_nil
  | cons d s ih =>
      by_cases hs : c ∈ s
      · obtain ⟨l, r, rfl, hr⟩ := ih hs
        exact ⟨d :: l, r, rfl, hr⟩
      · obtain rfl : c = d := (List.mem_cons.mp h).resolve_right hs
        exact ⟨[], s, rfl, hs⟩

/-- What stands behind the last occurrence has none. -/
theorem strrchr_append_cons {c : Char} (l : CStr) {r : CStr} (h : c ∉ r) :
    strrchr c (l ++ c :: r) = some (c :: r) := by
  induction l with
  | nil =>
      show strrchr c (c :: r) = _
      unfold strrchr
      rw [strrchr_of_not_mem h]
      exact if_pos rfl
  | cons d l ih =>
      rw [List.cons_append]
      unfold strrchr
      rw [ih]

/-! ### Numbers -/

/-- `isspace`. -/
def isSpace (c : Char) : Bool := c = ' ' || (9 ≤ c.toNat && c.toNat ≤ 13)

/-- The number the leading digits stand for; 0 without any. -/
def leadingNat (s : CStr) : Nat := Nat.ofDigitChars 10 (s.takeWhile Char.isDigit) 0

/-- `atoi`: white space, a sign and digits; it saturates like `strtol`. -/
def atoi (s : CStr) : Int :=
  let n : Int :=
    match s.dropWhile isSpace with
    | '-' :: s => -(leadingNat s : Int)
    | '+' :: s => leadingNat s
    | s => leadingNat s
  max (-2147483648) (min 2147483647 n)

example : atoi " -42px".toList = -42 := by decide

end CString
