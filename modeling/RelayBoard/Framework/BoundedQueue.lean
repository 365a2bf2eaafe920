import Mathlib.Data.List.Basic

/-! # Queues with a Bound on Their Bytes

  Items wait in order as long as what they take stays within a capacity; one that does not
  fit is refused. An account of such a queue keeps what was offered to it beside what became
  of it.
-/

namespace BoundedQueue

universe u

/-! ### The Queue -/

/-- What items take together. -/
def total {α : Type u} (cost : α → Nat) : List α → Nat
  | [] => 0
  | x :: items => cost x + total cost items

/-- A queue whose items take no more than its capacity. -/
structure Queue {α : Type u} (cost : α → Nat) (capacity : Nat) where
  items : List α
  fits : total cost items ≤ capacity

variable {α : Type u} {cost : α → Nat} {capacity : Nat}

/-- No item waits. -/
def Queue.empty : Queue cost capacity := ⟨[], Nat.zero_le _⟩

/-- `x` behind the others; `none` if there is no room for it. -/
def Queue.send (q : Queue cost capacity) (x : α) : Option (Queue cost capacity) :=
  if h : total cost (q.items ++ [x]) ≤ capacity then some ⟨q.items ++ [x], h⟩ else none

/-- The first item, and the queue behind it. -/
def Queue.receive (q : Queue cost capacity) : Option (α × Queue cost capacity) :=
  match q with
  | ⟨[], _⟩ => none
  | ⟨x :: items, h⟩ => some (x, ⟨items, Nat.le_trans (Nat.le_add_left _ _) h⟩)

theorem Queue.items_of_send {q q' : Queue cost capacity} {x : α} (h : q.send x = some q') :
    q'.items = q.items ++ [x] := by
  unfold send at h
  split at h
  · cases h
    rfl
  · cases h

theorem Queue.items_of_receive {q q' : Queue cost capacity} {x : α}
    (h : q.receive = some (x, q')) : q.items = x :: q'.items := by
  obtain ⟨items, hfits⟩ := q
  cases items with
  | nil => cases h
  | cons y items =>
      cases h
      rfl

/-- There is something to receive unless the queue is empty. -/
theorem Queue.exists_receive {q : Queue cost capacity} {x : α} {items : List α}
    (h : q.items = x :: items) : ∃ q', q.receive = some (x, q') ∧ q'.items = items := by
  obtain ⟨_, hfits⟩ := q
  cases h
  exact ⟨_, rfl, rfl⟩

/-! ### The Account -/

/-- What was offered to a queue: `taken` and then `waiting` in the order it was offered in,
    and `refused` items between them. -/
structure Account (α : Type u) where
  offered : List α
  taken : List α
  waiting : List α
  refused : Nat
  ordered : (taken ++ waiting).Sublist offered
  counted : offered.length = (taken ++ waiting).length + refused

namespace Account

/-- Nothing has been offered. -/
def start : Account α := ⟨[], [], [], 0, List.Sublist.refl [], rfl⟩

/-- `x` has been offered and waits. -/
def accept (a : Account α) (x : α) : Account α where
  offered := a.offered ++ [x]
  taken := a.taken
  waiting := a.waiting ++ [x]
  refused := a.refused
  ordered := by
    rw [← List.append_assoc]
    exact a.ordered.append (List.Sublist.refl [x])
  counted := by
    have := a.counted
    simp only [List.length_append] at this ⊢
    omega

/-- `x` has been offered in vain. -/
def refuse (a : Account α) (x : α) : Account α where
  offered := a.offered ++ [x]
  taken := a.taken
  waiting := a.waiting
  refused := a.refused + 1
  ordered := a.ordered.trans (List.sublist_append_left _ _)
  counted := by
    have := a.counted
    simp only [List.length_append, List.length_singleton] at this ⊢
    omega

/-- `x` has been taken. -/
def take (a : Account α) (x : α) (rest : List α) (h : a.waiting = x :: rest) : Account α where
  offered := a.offered
  taken := a.taken ++ [x]
  waiting := rest
  refused := a.refused
  ordered := by
    have := a.ordered
    rwa [h, ← List.singleton_append, ← List.append_assoc] at this
  counted := by
    have := a.counted
    rwa [h, ← List.singleton_append, ← List.append_assoc] at this

/-- Nothing is missing iff nothing was refused. -/
theorem complete_iff (a : Account α) : a.taken ++ a.waiting = a.offered ↔ a.refused = 0 := by
  have hcount := a.counted
  constructor
  · intro h
    rw [h] at hcount
    omega
  · intro h
    exact a.ordered.eq_of_length (by omega)

end Account

end BoundedQueue
