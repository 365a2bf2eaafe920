import Mathlib.Algebra.Order.Group.Multiset
import Mathlib.Tactic.Abel

/-! # Memory That Is Owned

  Programs that allocate and free blocks. A program that frees what is not live, or reads
  through a pointer to it, is undefined. A triple says that a program started with some
  blocks of its own is defined, whatever else is live, and what it owns afterwards; what it
  still owns when nothing refers to it any more is lost.
-/

namespace Memory

/-! ### The Heap -/

/-- The live blocks. A new block differs from all of them. -/
structure Heap where
  live : Multiset Nat
  next : Nat
  lt_next : ∀ b ∈ live, b < next
  nodup : live.Nodup

/-- Nothing has been allocated. -/
def Heap.empty : Heap where
  live := 0
  next := 0
  lt_next := by simp
  nodup := Multiset.nodup_zero

/-- The heap with a new block. -/
def Heap.push (h : Heap) : Heap where
  live := h.next ::ₘ h.live
  next := h.next + 1
  lt_next := by
    intro b hb
    rcases Multiset.mem_cons.mp hb with rfl | hb
    · exact Nat.lt_succ_self _
    · exact Nat.lt_succ_of_lt (h.lt_next b hb)
  nodup := Multiset.nodup_cons.mpr ⟨fun hb => Nat.lt_irrefl _ (h.lt_next _ hb), h.nodup⟩

/-- The heap without a block. -/
def Heap.erase (h : Heap) (b : Nat) : Heap where
  live := h.live.erase b
  next := h.next
  lt_next := fun b' hb => h.lt_next b' (Multiset.mem_of_mem_erase hb)
  nodup := h.nodup.erase b

/-! ### Programs -/

/-- A program on the heap; `none` is undefined behaviour. -/
abbrev HeapM : Type → Type := StateT Heap Option

inductive Pointer where
  /-- Nothing has been assigned. -/
  | unset
  | null
  | block (b : Nat)
  deriving DecidableEq, Repr

/-- An allocation that finds memory or not. -/
def malloc (ok : Bool) : HeapM Pointer := fun h =>
  if ok then some (.block h.next, h.push) else some (.null, h)

def free : Pointer → HeapM Unit
  | .unset => fun _ => none
  | .null => fun h => some ((), h)
  | .block b => fun h => if b ∈ h.live then some ((), h.erase b) else none

/-- A read or a write through a pointer. -/
def access : Pointer → HeapM Unit
  | .block b => fun h => if b ∈ h.live then some ((), h) else none
  | _ => fun _ => none

/-- A row of calls. -/
def forAll (f : Pointer → HeapM Unit) : List Pointer → HeapM Unit
  | [] => pure ()
  | p :: ps => do
      f p
      forAll f ps

/-- The block of a pointer that can be freed. -/
def Pointer.blocks : Pointer → Multiset Nat
  | .block b => {b}
  | _ => 0

/-- All that a row of pointers refers to. -/
def blocksOf (ps : List Pointer) : Multiset Nat := (ps.map Pointer.blocks).sum

/-- Started with the blocks `pre`, the program is defined and ends with a result and with
    blocks that meet `post`. No other block is touched. -/
def Triple {α : Type} (pre : Multiset Nat) (m : HeapM α) (post : α → Multiset Nat → Prop) :
    Prop :=
  ∀ (h : Heap) (frame : Multiset Nat), h.live = frame + pre →
    ∃ a h' own, m.run h = some (a, h') ∧ h'.live = frame + own ∧ post a own

variable {α β : Type} {pre : Multiset Nat} {m : HeapM α}
  {post mid : α → Multiset Nat → Prop}

theorem Triple.pure {a : α} (h : post a pre) : Triple pre (Pure.pure a : HeapM α) post :=
  fun heap _ hlive => ⟨a, heap, pre, rfl, hlive, h⟩

/-- **Sequencing**: what the first program leaves is what the second one starts with. -/
theorem Triple.bind {k : α → HeapM β} {post : β → Multiset Nat → Prop} (hm : Triple pre m mid)
    (hk : ∀ a own, mid a own → Triple own (k a) post) : Triple pre (m >>= k) post := by
  intro h frame hlive
  obtain ⟨a, h₁, own, hrun, hlive₁, hmid⟩ := hm h frame hlive
  obtain ⟨b, h₂, own', hrun', hlive₂, hpost⟩ := hk a own hmid h₁ frame hlive₁
  refine ⟨b, h₂, own', ?_, hlive₂, hpost⟩
  rw [StateT.run_bind, hrun]
  exact hrun'

/-- **Consequence**. -/
theorem Triple.mono (h : Triple pre m mid) (himp : ∀ a own, mid a own → post a own) :
    Triple pre m post := by
  intro heap frame hlive
  obtain ⟨a, h', own, hrun, hlive', hmid⟩ := h heap frame hlive
  exact ⟨a, h', own, hrun, hlive', himp a own hmid⟩

/-- **Frame rule**: a program leaves alone what it does not start with. -/
theorem Triple.frame (h : Triple pre m post) (kept : Multiset Nat) :
    Triple (kept + pre) m fun a own => ∃ own', own = kept + own' ∧ post a own' := by
  intro heap frame hlive
  obtain ⟨a, h', own, hrun, hlive', hpost⟩ := h heap (frame + kept) (by rw [hlive, add_assoc])
  exact ⟨a, h', kept + own, hrun, by rw [hlive', add_assoc], own, rfl, hpost⟩

/-- An allocation, with the two ways it can end. -/
theorem Triple.malloc {ok : Bool} {k : Pointer → HeapM β} {post : β → Multiset Nat → Prop}
    (hnull : ok = false → Triple pre (k .null) post)
    (hblock : ok = true → ∀ b, Triple (pre + {b}) (k (.block b)) post) :
    Triple pre (Memory.malloc ok >>= k) post := by
  intro h frame hlive
  cases ok with
  | false => exact hnull rfl h frame hlive
  | true =>
      refine hblock rfl h.next h.push frame ?_
      show h.next ::ₘ h.live = _
      rw [hlive, ← add_assoc, Multiset.add_comm (frame + pre), Multiset.singleton_add]

end Memory
