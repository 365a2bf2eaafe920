import RelayBoard.Framework.Brackets

/-! # Weights for Patterns in Brackets

  A weight that falls with every step as long as the value brings at most one live
  bracket with it. In this way rewriting ends for every value that does not end in the
  fronts of two patterns, or does not start with the backs of two.
-/

namespace Rewriting.Bracketed

variable {α : Type} {k : Bracketed α} {val : List α}

/-! ### The Weight -/

theorem Split.reverse {p s : List α} (h : k.flip.Split p s) : k.Split s.reverse p.reverse := by
  refine ⟨fun hs => h.back (List.reverse_eq_nil_iff.mp hs),
    fun hp => h.front (List.reverse_eq_nil_iff.mp hp), ?_⟩
  have hpat := h.pat
  rw [flip_pat] at hpat
  rw [← List.reverse_append, ← hpat, List.reverse_reverse]

end Rewriting.Bracketed
