import Mathlib.Data.List.Infix
import Mathlib.Data.List.Count

/-! # Rewriting With One Rule

  Strings in which occurrences of a pattern are replaced by a value, at any place and
  one at a time, and what makes such a rewriting end or go on forever.
-/

namespace Rewriting

variable {α : Type} {pat val s t : List α}

/-! ### Steps -/

/-- `t` is `s` with one occurrence of `pat` replaced by `val`. -/
def Step (pat val s t : List α) : Prop :=
  ∃ before after, s = before ++ pat ++ after ∧ t = before ++ val ++ after

theorem Step.reverse (h : Step pat val s t) :
    Step pat.reverse val.reverse s.reverse t.reverse := by
  obtain ⟨before, after, rfl, rfl⟩ := h
  exact ⟨after.reverse, before.reverse, by simp, by simp⟩

end Rewriting
