import RelayBoard.Framework.BracketWeight

/-! # When Rewriting Does Not End

  For a value that starts with the backs of two patterns and ends in the fronts of two,
  it depends on the text: rewriting goes on forever exactly if a pattern of the text
  stands next to the rest of another.
-/

namespace Rewriting.Bracketed

variable {α : Type} {k : Bracketed α} {val p s p' s' t t' : List α}

/-- The value can complete patterns on both of its sides, and twice on each. -/
structure Pumps (k : Bracketed α) (val p s p' s' : List α) : Prop where
  split : k.Split p s
  split' : k.Split p' s'
  backs : s ++ s' <+: val
  fronts : p ++ p' <:+ val

/-- Replacing a pattern of `t` leads to another one, again and again. -/
def Loops (k : Bracketed α) (val t : List α) : Prop :=
  ∃ p s p' s', k.Pumps val p s p' s' ∧
    (p ++ k.pat <:+: t ∨ k.pat ++ s' <:+: t ∨ ∃ x, p = p' ++ x ∧ k.pat ++ x ++ k.pat <:+: t)

/-- A live bracket that is not just a pattern to be replaced once. -/
def Dirty (k : Bracketed α) (val p' t : List α) : Prop :=
  ∃ a z, t = a ++ z ∧ k.Live val z ∧ ∀ r, z = k.pat ++ r → k.Live val (p' ++ r)

/-- A pattern ends with the next bracket. -/
theorem pat_inside {c x r : List α} (h : k.opening :: (c ++ x) = k.pat ++ r) :
    k.Plain c ∨ ∃ c', c = k.inner ++ k.closing :: c' ∧ r = c' ++ x := by
  rcases k.plain_or_first c with hc | ⟨y, b, c, rfl, hy, hb⟩
  · exact .inl hc
  · have heq : y ++ b :: (c ++ x) = k.inner ++ k.closing :: r := by
      simpa [pat] using h
    obtain ⟨rfl, rfl, rfl⟩ := first_unique hy k.plain_inner hb (.inr rfl) heq
    exact .inr ⟨c, rfl, rfl⟩

section pumps
variable (h : k.Pumps val p s p' s')
include h

theorem Pumps.not_plain : ¬ k.Plain val := by
  intro hplain
  obtain ⟨r, hr⟩ := h.backs
  obtain ⟨_, z, _, rfl, _⟩ := h.split.exists_plain
  exact hplain k.closing (by rw [← hr]; simp) (.inr rfl)

/-- The front that the value completes, in front of a live bracket, is live itself. -/
theorem Pumps.live_front {r : List α} (hlive : k.Live val (k.opening :: r)) :
    k.Live val (p ++ k.opening :: r) := by
  obtain ⟨w, hw⟩ := h.backs
  obtain ⟨y, z, rfl, rfl, hinner⟩ := h.split.exists_plain
  apply Live.before (plain_of_inner hinner).1 _ hlive
  refine ⟨s' ++ w, ?_⟩
  rw [← hw, h.split.pat]
  simp

/-- It is the only one. -/
theorem Pumps.front_unique {y : List α} (hy : k.Plain y)
    (hpre : k.pat <+: k.opening :: (y ++ val)) : k.opening :: y = p := by
  obtain ⟨w, hw⟩ := h.backs
  obtain ⟨y', z, rfl, rfl, hinner⟩ := h.split.exists_plain
  have hz := (plain_of_inner hinner).2
  have heq : y ++ val = (y ++ z) ++ k.closing :: (s' ++ w) := by
    rw [← hw]
    simp
  rw [heq, pat_prefix_iff (hy.append hz) (.inr rfl)] at hpre
  rw [List.append_cancel_right (hpre.2.trans hinner.symm)]

theorem Pumps.not_pat_front (r r' : List α) : p ++ k.opening :: r ≠ k.pat ++ r' := by
  intro heq
  obtain ⟨y, z, rfl, rfl, hinner⟩ := h.split.exists_plain
  have hpre : k.pat <+: k.opening :: (y ++ k.opening :: r) := ⟨r', heq.symm⟩
  rw [pat_prefix_iff (plain_of_inner hinner).1 (.inl rfl)] at hpre
  exact k.ne hpre.1

/-- The last front stays live, or dead, as the text after it is rewritten. -/
theorem Pumps.live_last_iff (c after : List α) :
    k.Live val (p' ++ (c ++ (k.pat ++ after))) ↔ k.Live val (p' ++ (c ++ (val ++ after))) := by
  obtain ⟨y, _, rfl, _, _⟩ := h.split'.exists_plain
  have hiff := live_step_iff h.not_plain (y ++ c) after
  rw [List.append_assoc, List.append_assoc] at hiff
  exact hiff

/-- What is left of a pattern that an earlier bracket makes with the value is live again. -/
theorem Pumps.live_rest {c after r : List α} (hnext : ∀ r', k.opening :: (c ++ (k.pat ++ after)) =
      k.pat ++ r' → k.Live val (p' ++ r'))
    (hr : k.opening :: (c ++ (val ++ after)) = k.pat ++ r) : k.Live val (p' ++ r) := by
  rcases pat_inside hr with hc | ⟨c', rfl, rfl⟩
  · -- the value completes it with its first back, and goes on with the second
    obtain ⟨w, hw⟩ := h.backs
    obtain ⟨y, z, rfl, rfl, hinner⟩ := h.split.exists_plain
    have hplain := hc.append (plain_of_inner hinner).2
    have heq : (c ++ z) ++ k.closing :: (s' ++ w ++ after) = k.inner ++ k.closing :: r := by
      rw [← hw] at hr
      simpa [pat] using hr
    obtain ⟨_, _, rfl⟩ := first_unique hplain k.plain_inner (.inr rfl) (.inr rfl) heq
    rw [show p' ++ (s' ++ w ++ after) = k.pat ++ (w ++ after) by rw [h.split'.pat]; simp]
    exact .here _
  · -- it was there before
    rw [← h.live_last_iff]
    exact hnext _ (by simp [pat])

end pumps

/-! ### Steps -/

/-- Where an element of a text in three parts stands. -/
theorem three_parts {before w after a o : List α} {x : α}
    (h : before ++ (w ++ after) = a ++ x :: o) :
    (∃ c, before = a ++ x :: c ∧ o = c ++ (w ++ after)) ∨
      (∃ u v, w = u ++ x :: v ∧ a = before ++ u ∧ o = v ++ after) ∨
        ∃ d, after = d ++ x :: o ∧ a = before ++ (w ++ d) := by
  have hsplit : ∀ {l r a o : List α}, l ++ r = a ++ x :: o →
      (∃ c, l = a ++ x :: c ∧ o = c ++ r) ∨ ∃ d, r = d ++ x :: o ∧ a = l ++ d := by
    intro l r a o h
    rcases List.append_eq_append_iff.mp h with ⟨c, ha, hr⟩ | ⟨c, hl, hr⟩
    · exact .inr ⟨c, hr, ha⟩
    · cases c with
      | nil => exact .inr ⟨[], hr.symm, by simp [hl]⟩
      | cons y c =>
          obtain ⟨rfl, rfl⟩ := List.cons.inj hr
          exact .inl ⟨c, hl, rfl⟩
  rcases hsplit h with hbefore | ⟨d, hrest, ha⟩
  · exact .inl hbefore
  · rcases hsplit hrest with ⟨v, hw, ho⟩ | ⟨e, hafter, hd⟩
    · exact .inr (.inl ⟨d, v, hw, ha, ho⟩)
    · exact .inr (.inr ⟨e, hafter, by rw [ha, hd]⟩)

/-- The pattern has one opening bracket. -/
theorem pat_split {u v : List α} (h : k.pat = u ++ k.opening :: v) :
    u = [] ∧ v = k.inner ++ [k.closing] := by
  cases u with
  | nil => exact ⟨rfl, (List.cons.inj h).2.symm⟩
  | cons x u =>
      have hmem : k.opening ∈ k.inner ++ [k.closing] := by
        rw [(List.cons.inj h).2]
        simp
      rcases List.mem_append.mp hmem with hmem | hmem
      · exact absurd hmem k.opening_not_mem
      · exact absurd (List.mem_singleton.mp hmem) k.ne

section pumps
variable (h : k.Pumps val p s p' s')
include h

/-- A dirty text stays dirty. -/
theorem Pumps.dirty_step (hs : k.Dirty val p' t) (hstep : Step k.pat val t t') :
    k.Dirty val p' t' := by
  obtain ⟨before, after, rfl, rfl⟩ := hstep
  obtain ⟨a, z, heq, hlive, hnext⟩ := hs
  obtain ⟨o, rfl⟩ := hlive.head
  rw [List.append_assoc] at heq ⊢
  rcases three_parts heq with ⟨c, rfl, rfl⟩ | ⟨u, v, hpat, rfl, rfl⟩ | ⟨d, rfl, rfl⟩
  · -- a bracket before the pattern
    exact ⟨a, k.opening :: (c ++ (val ++ after)), by simp,
      (live_step_iff h.not_plain c after).mp hlive, fun r hr => h.live_rest hnext hr⟩
  · -- the bracket of the pattern: the value leaves two fronts in its place
    obtain ⟨rfl, rfl⟩ := pat_split hpat
    have hlast := hnext after rfl
    obtain ⟨_, _, hp', _, _⟩ := h.split'.exists_plain
    obtain ⟨w, hw⟩ := h.fronts
    refine ⟨before ++ w, p ++ (p' ++ after), by simp [← hw], ?_, ?_⟩
    · rw [hp'] at hlast ⊢
      exact h.live_front hlast
    · intro r hr
      rw [hp'] at hr
      exact absurd hr (h.not_pat_front _ _)
  · -- a bracket after the pattern
    exact ⟨before ++ (val ++ d), k.opening :: o, by simp, hlive, hnext⟩

/-- A live bracket belongs to a pattern, or there is one right after a front. -/
theorem Pumps.live_cases {z : List α} (hlive : k.Live val z) :
    (∃ r, z = k.pat ++ r) ∨ p ++ k.pat <:+: z := by
  induction hlive with
  | here r => exact .inl ⟨r, rfl⟩
  | @before y t hy hpre _ ih =>
      right
      rw [← List.cons_append, h.front_unique hy hpre]
      rcases ih with ⟨r, hr⟩ | hwithin
      · exact ⟨[], r, by rw [hr]; simp⟩
      · exact hwithin.trans (List.suffix_append p _).isInfix

theorem Pumps.dirty_iff : k.Dirty val p' t ↔
    p ++ k.pat <:+: t ∨ k.pat ++ s' <:+: t ∨
      ∃ x, p = p' ++ x ∧ k.pat ++ x ++ k.pat <:+: t := by
  obtain ⟨y', z', hp', hs', hinner'⟩ := h.split'.exists_plain
  constructor
  · intro ⟨a, z, ht, hlive, hnext⟩
    have hin : ∀ {w}, w <:+: z → w <:+: t := fun hw => hw.trans ⟨a, [], by simp [ht]⟩
    rcases h.live_cases hlive with ⟨r, rfl⟩ | hwithin
    · -- a pattern: what follows it goes with the last front
      have hlast := hnext r rfl
      rw [hp', List.cons_append] at hlast
      rcases k.plain_or_first r with hr | ⟨y, b, r', rfl, hy, hb⟩
      · exact absurd hlast (not_live_plain ((plain_of_inner hinner').1.append hr))
      · have hplain := (plain_of_inner hinner').1.append hy
        rw [← List.append_assoc, live_iff hplain hb] at hlast
        rcases hlast with ⟨rfl, hinner⟩ | ⟨rfl, hpre, hlive'⟩
        · -- it is a back
          obtain rfl : y = z' := List.append_cancel_left (hinner.trans hinner'.symm)
          exact .inr (.inl (hin ⟨[], r', by simp [hs']⟩))
        · have hp := h.front_unique hplain hpre
          rcases h.live_cases hlive' with ⟨r, hr⟩ | hwithin
          · exact .inr (.inr ⟨y, by rw [← hp, hp']; rfl, hin ⟨[], r, by rw [hr]; simp⟩⟩)
          · exact .inl (hin (hwithin.trans ⟨k.pat ++ y, [], by simp⟩))
    · exact .inl (hin hwithin)
  · have hfront : ∀ b, k.Live val (p ++ (k.pat ++ b)) := fun b => h.live_front (.here b)
    rintro (⟨a, b, rfl⟩ | ⟨a, b, rfl⟩ | ⟨x, hx, a, b, rfl⟩)
    · refine ⟨a, p ++ (k.pat ++ b), by simp, hfront b, ?_⟩
      exact fun r hr => absurd hr (h.not_pat_front _ _)
    · refine ⟨a, k.pat ++ (s' ++ b), by simp, .here _, ?_⟩
      intro r hr
      rw [← List.append_cancel_left hr, ← List.append_assoc, ← h.split'.pat]
      exact .here b
    · refine ⟨a, k.pat ++ (x ++ (k.pat ++ b)), by simp, .here _, ?_⟩
      intro r hr
      rw [← List.append_cancel_left hr, ← List.append_assoc, ← hx]
      exact hfront b

end pumps

/-! ### Exactly When It Ends -/

theorem Loops.step (h : k.Loops val t) (hstep : Step k.pat val t t') : k.Loops val t' := by
  obtain ⟨p, s, p', s', hpumps, hdirty⟩ := h
  exact ⟨p, s, p', s', hpumps, hpumps.dirty_iff.mp
    (hpumps.dirty_step (hpumps.dirty_iff.mpr hdirty) hstep)⟩

theorem front_unique {q r : List α} (h : k.Split p s) (h' : k.Split q r) (hp : p <:+ val)
    (hq : q <:+ val) : p = q := by
  obtain ⟨y, _, rfl, _, hy⟩ := h.exists_plain
  obtain ⟨z, _, rfl, _, hz⟩ := h'.exists_plain
  obtain ⟨v, hv⟩ := hp
  obtain ⟨w, hw⟩ := hq
  rw [(last_unique (plain_of_inner hy).1 (plain_of_inner hz).1 (.inl rfl) (.inl rfl)
    (hv.trans hw.symm)).2.2]

end Rewriting.Bracketed
