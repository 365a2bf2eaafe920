import Mathlib.Algebra.GroupWithZero.Nat
import Mathlib.Data.List.Basic

/-! # Pieces Written over Each Other

  A reader that puts every piece it receives at the start of its buffer is left
  with the last piece, followed by what earlier and longer pieces have left behind
  it. With one piece that is the whole; with more, the first item of the whole is
  gone.
-/

namespace Overwrite

universe u

variable {α : Type u}

/-- `p` written over the start of `l`. -/
def overlay (p l : List α) : List α := p ++ l.drop p.length

/-- The pieces one after the other, each over the start of what is there. -/
def overAll : List (List α) → List α → List α
  | [], l => l
  | p :: ps, l => overAll ps (overlay p l)

/-- The pieces of these sizes that a list is cut into. -/
def cut : List Nat → List α → List (List α)
  | [], _ => []
  | n :: ns, l => l.take n :: cut ns (l.drop n)

theorem overlay_nil (p : List α) : overlay p [] = p := by
  rw [overlay, List.drop_nil, List.append_nil]

/-- What stands behind the end of `l` is kept as far as `p` does not reach it. -/
theorem overlay_append (p l r : List α) :
    overlay p (l ++ r) = overlay p l ++ r.drop (p.length - l.length) := by
  rw [overlay, overlay, List.drop_append, List.append_assoc]

theorem length_overlay (p l : List α) : (overlay p l).length = max p.length l.length := by
  rw [overlay, List.length_append, List.length_drop]
  omega

theorem flatten_cut {ns : List Nat} {l : List α} (h : ns.sum = l.length) :
    (cut ns l).flatten = l := by
  induction ns generalizing l with
  | nil => exact (List.length_eq_zero_iff.mp h.symm).symm
  | cons n ns ih =>
      have hrest : ns.sum = (l.drop n).length := by
        rw [List.sum_cons] at h
        rw [List.length_drop]
        omega
      rw [cut, List.flatten_cons, ih hrest, List.take_append_drop]

/-! ### Nothing Is Made Up -/

theorem length_overAll_le (ps : List (List α)) (l : List α) :
    (overAll ps l).length ≤ l.length + ps.flatten.length := by
  induction ps generalizing l with
  | nil => exact Nat.le_add_right _ _
  | cons p ps ih =>
      have h := ih (overlay p l)
      rw [length_overlay] at h
      rw [overAll, List.flatten_cons, List.length_append]
      omega

theorem mem_overAll {ps : List (List α)} {l : List α} {a : α} (h : a ∈ overAll ps l) :
    a ∈ l ∨ a ∈ ps.flatten := by
  induction ps generalizing l with
  | nil => exact .inl h
  | cons p ps ih =>
      rw [List.flatten_cons, List.mem_append]
      rcases ih h with hover | hps
      · rcases List.mem_append.mp hover with hp | hl
        · exact .inr (.inl hp)
        · exact .inl (List.mem_of_mem_drop hl)
      · exact .inr (.inr hps)

variable [DecidableEq α]

theorem count_overlay (a : α) (p l : List α) :
    (overlay p l).count a = p.count a + (l.drop p.length).count a :=
  List.count_append

theorem count_overAll_le (a : α) (ps : List (List α)) (l : List α) :
    (overAll ps l).count a ≤ l.count a + ps.flatten.count a := by
  induction ps generalizing l with
  | nil => exact Nat.le_add_right _ _
  | cons p ps ih =>
      have h := ih (overlay p l)
      have hdrop := (List.drop_sublist p.length l).count_le a
      rw [count_overlay] at h
      rw [overAll, List.flatten_cons, List.count_append]
      omega

/-- A second piece is written over the first item. -/
theorem count_overAll_lt {a : α} {p q : List α} {ps : List (List α)} (hq : q ≠ []) :
    (overAll ((a :: p) :: q :: ps) []).count a < ((a :: p) :: q :: ps).flatten.count a := by
  obtain ⟨b, q, rfl⟩ := List.exists_cons_of_ne_nil hq
  have h := count_overAll_le a ps (overlay (b :: q) (a :: p))
  have hdrop := (List.drop_sublist q.length p).count_le a
  have hover : (overlay (b :: q) (a :: p)).count a = (b :: q).count a + (p.drop q.length).count a :=
    count_overlay a (b :: q) (a :: p)
  have hflat : ((a :: p) :: (b :: q) :: ps).flatten.count a =
      p.count a + 1 + ((b :: q).count a + ps.flatten.count a) := by
    rw [List.flatten_cons, List.flatten_cons, List.count_append, List.count_append,
      List.count_cons_self]
  rw [overAll, overAll, overlay_nil, hflat]
  omega

/-- **A pattern at the start is lost**: when a list begins with a pattern whose first item
    does not occur behind it, pieces of the list written over each other do not contain
    the pattern. -/
theorem not_infix_overAll {a : α} {pat rest : List α} (ha : a ∉ rest) {ps : List (List α)}
    (hps : ps.flatten = a :: pat ++ rest) (hne : ∀ p ∈ ps, p ≠ []) (htwo : 1 < ps.length) :
    ¬ a :: pat <:+: overAll ps [] := by
  intro hfound
  obtain ⟨p, q, ps, rfl⟩ : ∃ p q ps', ps = p :: q :: ps' := by
    cases ps with
    | nil => exact absurd htwo (Nat.not_lt_zero 1)
    | cons p ps =>
        cases ps with
        | nil => exact absurd htwo (Nat.lt_irrefl 1)
        | cons q ps => exact ⟨p, q, ps, rfl⟩
  obtain ⟨b, p, rfl⟩ := List.exists_cons_of_ne_nil (hne p List.mem_cons_self)
  have hb : b = a := (List.cons.inj hps).1
  subst hb
  have hq : q ≠ [] := hne q (List.mem_cons_of_mem _ List.mem_cons_self)
  have hlt : (overAll ((b :: p) :: q :: ps) []).count b < ((b :: p) :: q :: ps).flatten.count b :=
    count_overAll_lt hq
  rw [hps, List.count_append, List.count_eq_zero_of_not_mem ha] at hlt
  exact absurd (hfound.sublist.count_le b) (Nat.not_le_of_lt hlt)

end Overwrite
