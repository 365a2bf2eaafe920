import Mathlib.Data.List.ReduceOption

/-! # Counted Slots

  Some slots of an array are filled, the others hold a default. A reader who is told
  only how many were filled reads that many slots from the front. The file determines
  when these are the filled slots.
-/

namespace Packing

variable {α : Type}

/-- As many slots from the front as are filled, with `z` in the others. -/
def packed (z : α) (l : List (Option α)) : List α :=
  (l.map fun x => x.getD z).take l.reduceOption.length

/-- Behind an empty slot every filled one holds `z`. -/
def NoGap (z : α) (l : List (Option α)) : Prop :=
  l.Pairwise fun x y => x = none → ∀ a, y = some a → a = z

theorem length_packed (z : α) (l : List (Option α)) :
    (packed z l).length = l.reduceOption.length := by
  unfold packed
  rw [List.length_take, List.length_map]
  exact Nat.min_eq_left (List.reduceOption_length_le l)

/-- A slot that reads `z` behind others that do. -/
theorem replicate_append_map_cons {z : α} {x : Option α} (hx : x.getD z = z) (m : Nat)
    (l : List (Option α)) :
    List.replicate m z ++ (x :: l).map (fun x => x.getD z) =
      List.replicate (m + 1) z ++ l.map fun x => x.getD z := by
  rw [List.replicate_succ', List.append_assoc, List.map_cons, hx]
  rfl

/-- Behind `m + 1` empty slots the reader is `m + 1` slots late. -/
theorem take_replicate_append_iff (z : α) (l : List (Option α)) (m : Nat) :
    (List.replicate (m + 1) z ++ l.map fun x => x.getD z).take l.reduceOption.length =
        l.reduceOption ↔
      ∀ a, some a ∈ l → a = z := by
  induction l generalizing m with
  | nil => simp
  | cons x l ih =>
      cases x with
      | none =>
          rw [replicate_append_map_cons (Option.getD_none), List.reduceOption_cons_of_none,
            ih (m + 1)]
          simp
      | some a =>
          rw [List.reduceOption_cons_of_some, List.length_cons, List.replicate_succ,
            List.cons_append, List.take_succ_cons, List.cons.injEq]
          constructor
          · intro ⟨hza, hrest⟩ b hb
            rw [replicate_append_map_cons (hza ▸ Option.getD_some)] at hrest
            rcases List.mem_cons.mp hb with hb | hb
            · exact (Option.some.inj hb).trans hza.symm
            · exact (ih m).mp hrest b hb
          · intro h
            have ha : a = z := h a List.mem_cons_self
            rw [replicate_append_map_cons (ha ▸ Option.getD_some)]
            exact ⟨ha.symm, (ih m).mpr fun b hb => h b (List.mem_cons_of_mem _ hb)⟩

/-- **Reading by count**: the reader gets the filled slots in order exactly if there is no
    gap. -/
theorem packed_eq_iff (z : α) (l : List (Option α)) :
    packed z l = l.reduceOption ↔ NoGap z l := by
  unfold packed NoGap
  induction l with
  | nil => simp
  | cons x l ih =>
      rw [List.pairwise_cons, ← ih]
      cases x with
      | some a =>
          rw [List.reduceOption_cons_of_some, List.length_cons, List.map_cons,
            List.take_succ_cons, List.cons.injEq]
          simp
      | none =>
          have hlate := take_replicate_append_iff z l 0
          rw [List.reduceOption_cons_of_none]
          constructor
          · intro h
            have hall := hlate.mp h
            refine ⟨fun y hy _ a ha => hall a (ha ▸ hy), ?_⟩
            -- all the slots in question hold the same
            apply ih.mpr
            apply List.pairwise_of_forall_mem_list
            intro x _ y hy _ a ha
            exact hall a (ha ▸ hy)
          · rintro ⟨hall, _⟩
            exact hlate.mpr fun a ha => hall _ ha rfl a rfl

end Packing
