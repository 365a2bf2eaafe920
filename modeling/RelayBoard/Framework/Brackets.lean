import RelayBoard.Framework.Rewriting

/-! # Patterns in Brackets

  Rewriting where the pattern is a word in brackets, such as a placeholder. Two of its
  occurrences never overlap, so a new one appears only where the value meets what is
  around it.
-/

namespace Rewriting

variable {α : Type}

/-- A word between two brackets that do not occur in it. -/
structure Bracketed (α : Type) where
  opening : α
  inner : List α
  closing : α
  ne : opening ≠ closing
  opening_not_mem : opening ∉ inner
  closing_not_mem : closing ∉ inner

namespace Bracketed

variable {k : Bracketed α}

def pat (k : Bracketed α) : List α := k.opening :: (k.inner ++ [k.closing])

/-- The same pattern read from the right. -/
def flip (k : Bracketed α) : Bracketed α where
  opening := k.closing
  inner := k.inner.reverse
  closing := k.opening
  ne := k.ne.symm
  opening_not_mem := fun h => k.closing_not_mem (List.mem_reverse.mp h)
  closing_not_mem := fun h => k.opening_not_mem (List.mem_reverse.mp h)

theorem flip_pat (k : Bracketed α) : k.flip.pat = k.pat.reverse := by
  simp [pat, flip]

/-! ### Up to the Next Bracket -/

def IsBracket (k : Bracketed α) (b : α) : Prop := b = k.opening ∨ b = k.closing

/-- Free of brackets. -/
def Plain (k : Bracketed α) (y : List α) : Prop := ∀ b ∈ y, ¬ k.IsBracket b

theorem plain_inner (k : Bracketed α) : k.Plain k.inner := by
  rintro b hb (rfl | rfl)
  · exact k.opening_not_mem hb
  · exact k.closing_not_mem hb

theorem Plain.append {y z : List α} (hy : k.Plain y) (hz : k.Plain z) : k.Plain (y ++ z) := by
  intro b hb
  rcases List.mem_append.mp hb with hb | hb
  · exact hy b hb
  · exact hz b hb

theorem Plain.of_append {y z : List α} (h : k.Plain (y ++ z)) : k.Plain y ∧ k.Plain z :=
  ⟨fun b hb => h b (List.mem_append_left _ hb), fun b hb => h b (List.mem_append_right _ hb)⟩

/-- A text is free of brackets, or has a first one. -/
theorem plain_or_first (k : Bracketed α) (z : List α) :
    k.Plain z ∨ ∃ y b z', z = y ++ b :: z' ∧ k.Plain y ∧ k.IsBracket b := by
  induction z with
  | nil => exact .inl fun b hb => absurd hb List.not_mem_nil
  | cons x z ih =>
      by_cases hx : k.IsBracket x
      · exact .inr ⟨[], x, z, rfl, fun b hb => absurd hb List.not_mem_nil, hx⟩
      · have hcons : ∀ {y}, k.Plain y → k.Plain (x :: y) := by
          intro y hy b hb
          rcases List.mem_cons.mp hb with rfl | hb
          · exact hx
          · exact hy b hb
        rcases ih with hz | ⟨y, b, z', rfl, hy, hb⟩
        · exact .inl (hcons hz)
        · exact .inr ⟨x :: y, b, z', rfl, hcons hy, hb⟩

/-- There is only one first bracket. -/
theorem first_unique {y y' z z' : List α} {b b' : α} (hy : k.Plain y) (hy' : k.Plain y')
    (hb : k.IsBracket b) (hb' : k.IsBracket b') (h : y ++ b :: z = y' ++ b' :: z') :
    y = y' ∧ b = b' ∧ z = z' := by
  induction y generalizing y' with
  | nil =>
      cases y' with
      | nil =>
          obtain ⟨rfl, rfl⟩ := List.cons.inj h
          exact ⟨rfl, rfl, rfl⟩
      | cons x y' =>
          obtain ⟨rfl, _⟩ := List.cons.inj h
          exact absurd hb (hy' _ List.mem_cons_self)
  | cons x y ih =>
      cases y' with
      | nil =>
          obtain ⟨rfl, _⟩ := List.cons.inj h
          exact absurd hb' (hy _ List.mem_cons_self)
      | cons x' y' =>
          obtain ⟨rfl, hrest⟩ := List.cons.inj h
          obtain ⟨rfl, hbb, hzz⟩ := ih (fun b hb => hy b (List.mem_cons_of_mem _ hb))
            (fun b hb => hy' b (List.mem_cons_of_mem _ hb)) hrest
          exact ⟨rfl, hbb, hzz⟩

/-- Does the pattern start here? The next bracket tells. -/
theorem pat_prefix_iff {y z : List α} {b : α} (hy : k.Plain y) (hb : k.IsBracket b) :
    k.pat <+: k.opening :: (y ++ b :: z) ↔ b = k.closing ∧ y = k.inner := by
  constructor
  · intro ⟨r, hr⟩
    have h : k.inner ++ k.closing :: r = y ++ b :: z := by
      simpa [pat] using hr
    obtain ⟨hinner, hclosing, _⟩ := first_unique k.plain_inner hy (.inr rfl) hb h
    exact ⟨hclosing.symm, hinner.symm⟩
  · rintro ⟨rfl, rfl⟩
    exact ⟨z, by simp [pat]⟩

/-- There is only one last bracket. -/
theorem last_unique {u u' v v' : List α} {b b' : α} (hv : k.Plain v) (hv' : k.Plain v')
    (hb : k.IsBracket b) (hb' : k.IsBracket b') (h : u ++ b :: v = u' ++ b' :: v') :
    u = u' ∧ b = b' ∧ v = v' := by
  have hplain : ∀ {y : List α}, k.Plain y → k.Plain y.reverse :=
    fun hy b hb => hy b (List.mem_reverse.mp hb)
  have hrev : v.reverse ++ b :: u.reverse = v'.reverse ++ b' :: u'.reverse := by
    simpa using congrArg List.reverse h
  obtain ⟨hvv, hbb, huu⟩ := first_unique (hplain hv) (hplain hv') hb hb' hrev
  exact ⟨List.reverse_injective huu, hbb, List.reverse_injective hvv⟩

/-- Without a bracket after it there is no pattern. -/
theorem not_pat_prefix_plain {y : List α} (hy : k.Plain y) : ¬ k.pat <+: k.opening :: y := by
  intro ⟨r, hr⟩
  have h : k.inner ++ k.closing :: r = y := by
    simpa [pat] using hr
  exact hy k.closing (h ▸ by simp) (.inr rfl)

/-! ### Splits -/

/-- `p` and `s` are the parts of the pattern before and after some place inside it. -/
structure Split (k : Bracketed α) (p s : List α) : Prop where
  front : p ≠ []
  back : s ≠ []
  pat : k.pat = p ++ s

/-- Either part has one bracket, at its outer end. -/
theorem Split.exists_plain {p s : List α} (h : k.Split p s) :
    ∃ y z, p = k.opening :: y ∧ s = z ++ [k.closing] ∧ y ++ z = k.inner := by
  obtain ⟨x, y, rfl⟩ := List.exists_cons_of_ne_nil h.front
  obtain ⟨z, w, rfl⟩ := (List.eq_nil_or_concat s).resolve_left h.back
  have hpat := h.pat
  unfold Bracketed.pat at hpat
  rw [List.concat_eq_append, List.cons_append] at hpat
  obtain ⟨rfl, hrest⟩ := List.cons.inj hpat
  rw [← List.append_assoc] at hrest
  obtain ⟨hinner, hlast⟩ := List.append_inj' hrest rfl
  obtain ⟨rfl, _⟩ := List.cons.inj hlast
  exact ⟨y, z, rfl, List.concat_eq_append .., hinner.symm⟩

theorem plain_of_inner {y z : List α} (h : y ++ z = k.inner) : k.Plain y ∧ k.Plain z :=
  Plain.of_append (h ▸ k.plain_inner)

/-! ### Live Brackets -/

/-- The text starts with an opening bracket of a pattern, or of what will be one once
    what follows has been rewritten to the value. -/
inductive Live (k : Bracketed α) (val : List α) : List α → Prop
  | here (r : List α) : Live k val (k.pat ++ r)
  | before {y t : List α} (hy : k.Plain y) (hval : k.pat <+: k.opening :: (y ++ val))
      (h : Live k val (k.opening :: t)) : Live k val (k.opening :: (y ++ k.opening :: t))

variable {val : List α}

theorem Live.head {t : List α} (h : k.Live val t) : ∃ z, t = k.opening :: z := by
  cases h with
  | here r => exact ⟨k.inner ++ [k.closing] ++ r, rfl⟩
  | before _ _ _ => exact ⟨_, rfl⟩

/-- The next bracket tells whether a bracket is live. -/
theorem live_iff {y z : List α} {b : α} (hy : k.Plain y) (hb : k.IsBracket b) :
    k.Live val (k.opening :: (y ++ b :: z)) ↔
      (b = k.closing ∧ y = k.inner) ∨
        (b = k.opening ∧ k.pat <+: k.opening :: (y ++ val) ∧ k.Live val (k.opening :: z)) := by
  constructor
  · intro h
    generalize hl : k.opening :: (y ++ b :: z) = l at h
    cases h with
    | here r =>
        left
        apply (pat_prefix_iff hy hb (z := z)).mp
        rw [hl]
        exact List.prefix_append _ _
    | before hy' hval h =>
        right
        obtain ⟨rfl, rfl, rfl⟩ := first_unique hy hy' hb (.inl rfl) (List.cons.inj hl).2
        exact ⟨rfl, hval, h⟩
  · rintro (⟨rfl, rfl⟩ | ⟨rfl, hval, h⟩)
    · have heq : k.opening :: (k.inner ++ k.closing :: z) = k.pat ++ z := by simp [pat]
      rw [heq]
      exact .here z
    · exact .before hy hval h

theorem not_live_plain {y : List α} (hy : k.Plain y) : ¬ k.Live val (k.opening :: y) := by
  intro h
  generalize hl : k.opening :: y = l at h
  cases h with
  | here r =>
      apply not_pat_prefix_plain hy
      rw [hl]
      exact List.prefix_append _ _
  | before _ _ _ =>
      obtain ⟨_, rfl⟩ := List.cons.inj hl
      exact hy k.opening (by simp) (.inl rfl)

/-- Rewriting later in the text leaves a bracket live, or not live. -/
theorem live_step_iff (hval : ¬ k.Plain val) (a after : List α) :
    k.Live val (k.opening :: (a ++ (k.pat ++ after))) ↔
      k.Live val (k.opening :: (a ++ (val ++ after))) := by
  induction hn : a.length using Nat.strong_induction_on generalizing a with
  | _ n ih =>
      rcases k.plain_or_first a with ha | ⟨y, b, a', rfl, hy, hb⟩
      · -- the pattern is next: its value decides
        have hleft : k.Live val (k.opening :: (a ++ (k.pat ++ after))) ↔
            k.pat <+: k.opening :: (a ++ val) := by
          have heq : a ++ (k.pat ++ after) =
              a ++ k.opening :: (k.inner ++ [k.closing] ++ after) := rfl
          rw [heq, live_iff ha (.inl rfl)]
          constructor
          · rintro (⟨hne, _⟩ | ⟨_, hpre, _⟩)
            · exact absurd hne k.ne
            · exact hpre
          · exact fun hpre => .inr ⟨rfl, hpre, .here after⟩
        rw [hleft]
        obtain ⟨y, b, v, rfl, hy, hb⟩ := (k.plain_or_first val).resolve_left hval
        have heq : a ++ (y ++ b :: v ++ after) = (a ++ y) ++ b :: (v ++ after) := by simp
        rw [heq, live_iff (ha.append hy) hb, ← List.append_assoc, pat_prefix_iff (ha.append hy) hb]
        constructor
        · exact .inl
        · rintro (h | ⟨rfl, hpre, _⟩)
          · exact h
          · rw [← List.append_assoc, pat_prefix_iff ((ha.append hy).append hy) (.inl rfl)] at hpre
            exact absurd hpre.1 k.ne
      · have hlt : a'.length < n := by
          simp only [List.length_append, List.length_cons] at hn
          omega
        have heq : ∀ x : List α, y ++ b :: a' ++ x = y ++ b :: (a' ++ x) := by
          intro x
          simp
        rw [heq, heq, live_iff hy hb, live_iff hy hb, ih a'.length hlt a' rfl]

end Bracketed

end Rewriting
