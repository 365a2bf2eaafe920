import Mathlib.Logic.Function.Basic
import RelayBoard.Framework.Transition

/-! # Change Notification

  Tasks change cells and owe a notice for each change. The notices go through a queue to
  a publisher, which reads the cell again, attribute by attribute, and delivers one
  message for each slot. A task that finds no receiver drops its notices, and when a
  receiver appears some task owes notices for all cells.

  The queue carries keys and not values, so a notice may be served by a later value and
  a message may mix attributes of several values. The invariant says why this is no
  harm: what is not shown as it is now has a notice that is still to be served.
-/

open LTS

namespace Notify

/-! ### Messages -/

/-- The messages on one cell. The text of a message depends on what it reads only. -/
structure Format (Key Slot Attr Val Text : Type) where
  /-- The slots of one cell, in the order of their messages. -/
  slots : List Slot
  /-- What a message reads, in this order. -/
  reads : Slot → List Attr
  text : Key → Slot → (Attr → Val) → Text
  text_congr : ∀ (k : Key) (m : Slot) (got got' : Attr → Val),
    (∀ a ∈ reads m, got a = got' a) → text k m got = text k m got'

variable {Key Slot Attr Val Text Task : Type}

/-- What the messages that are left read next. -/
def Format.readsNext (fmt : Format Key Slot Attr Val Text) : List Slot → List Attr
  | [] => []
  | m :: _ => fmt.reads m

/-! ### State -/

/-- What the publisher is working on. -/
structure Hand (Key Slot Attr Val : Type) where
  key : Key
  /-- Messages not yet delivered. -/
  slots : List Slot
  /-- Attributes that the first of them has not yet read. -/
  unread : List Attr
  got : Attr → Val

/-- Cells, tasks, queue, publisher and receiver. -/
@[ext]
structure State (Key Slot Attr Val Text Task : Type) where
  cell : Key → Attr → Val
  /-- Is there a receiver? -/
  ready : Bool
  /-- Notices a task has not yet sent or dropped. -/
  owed : Task → List Key
  queue : List Key
  hand : Option (Hand Key Slot Attr Val)
  /-- The last message of each slot. -/
  view : Key → Slot → Option Text

/-- A notice on the cell is to be sent or to be received. -/
def Pending (s : State Key Slot Attr Val Text Task) (k : Key) : Prop :=
  (∃ t, k ∈ s.owed t) ∨ k ∈ s.queue

/-- The publisher is yet to deliver the message. -/
def InHand (s : State Key Slot Attr Val Text Task) (k : Key) (m : Slot) : Prop :=
  ∃ hand, s.hand = some hand ∧ hand.key = k ∧ m ∈ hand.slots

/-- No notice is under way. -/
structure Quiet (s : State Key Slot Attr Val Text Task) : Prop where
  owed : ∀ t, s.owed t = []
  queue : s.queue = []
  hand : s.hand = none

/-- The receiver has the message as the cell is now. -/
def Shown (fmt : Format Key Slot Attr Val Text) (s : State Key Slot Attr Val Text Task)
    (k : Key) (m : Slot) : Prop :=
  s.view k m = some (fmt.text k m (s.cell k))

/-! ### Steps -/

inductive Label (Key Task : Type) where
  /-- A task changes cells and owes notices for them. -/
  | change (t : Task)
  /-- A receiver appears, and a task owes notices for all cells. -/
  | appear (t : Task)
  /-- The receiver is lost. -/
  | vanish
  /-- A task drops a notice since there is no receiver. -/
  | skip (t : Task)
  /-- A task sends a notice. -/
  | send (t : Task)
  /-- The publisher receives a notice. -/
  | receive
  /-- Without a receiver the publisher gives up. -/
  | abandon
  /-- The publisher works on a cell without a notice. -/
  | resume (k : Key)
  /-- The publisher reads an attribute. -/
  | read
  /-- The publisher delivers a message. -/
  | deliver
  /-- The publisher is done with a cell. -/
  | finish

/-- A publisher that has all messages of a cell to deliver. -/
def Format.begin (fmt : Format Key Slot Attr Val Text) (k : Key) (got : Attr → Val) :
    Hand Key Slot Attr Val :=
  ⟨k, fmt.slots, fmt.readsNext fmt.slots, got⟩

section system
variable [DecidableEq Attr] [DecidableEq Task]

/-- The steps over the cells `keys`. -/
def step (fmt : Format Key Slot Attr Val Text) (keys : List Key)
    (s : State Key Slot Attr Val Text Task) (l : Label Key Task)
    (s' : State Key Slot Attr Val Text Task) : Prop :=
  match l with
  | .change t =>
      ∃ cell owed, (∀ k, cell k = s.cell k ∨ k ∈ owed) ∧ s.owed t ⊆ owed ∧
        s' = { s with cell := cell, owed := Function.update s.owed t owed }
  | .appear t =>
      ∃ owed, keys ⊆ owed ∧
        s' = { s with ready := true, owed := Function.update s.owed t owed }
  | .vanish => s' = { s with ready := false }
  | .skip t =>
      ∃ owed, s.ready = false ∧ s' = { s with owed := Function.update s.owed t owed }
  | .send t =>
      ∃ k owed, (∀ k' ∈ s.owed t, k' = k ∨ k' ∈ owed) ∧
        s' = { s with owed := Function.update s.owed t owed, queue := s.queue ++ [k] }
  | .receive =>
      ∃ k queue got, s.hand = none ∧ s.queue = k :: queue ∧
        s' = { s with queue := queue, hand := some (fmt.begin k got) }
  | .abandon => s.ready = false ∧ s' = { s with hand := none }
  | .resume k =>
      ∃ got, s.hand = none ∧ s' = { s with hand := some (fmt.begin k got) }
  | .read =>
      ∃ k slots a unread got, s.hand = some ⟨k, slots, a :: unread, got⟩ ∧
        s' = { s with
          hand := some ⟨k, slots, unread, Function.update got a (s.cell k a)⟩ }
  | .deliver =>
      ∃ k m slots got view, s.hand = some ⟨k, m :: slots, [], got⟩ ∧
        view k m = some (fmt.text k m got) ∧
        (∀ k' ∈ keys, ∀ m', ¬ (k' = k ∧ m' = m) → view k' m' = s.view k' m') ∧
        s' = { s with hand := some ⟨k, slots, fmt.readsNext slots, got⟩, view := view }
  | .finish =>
      ∃ k unread got, s.hand = some ⟨k, [], unread, got⟩ ∧ s' = { s with hand := none }

/-- Runs start in any state that has no receiver, or notices pending for all cells. -/
def system (fmt : Format Key Slot Attr Val Text) (keys : List Key) :
    System (State Key Slot Attr Val Text Task) (Label Key Task) where
  init := fun s => s.ready = true → ∀ k ∈ keys, Pending s k
  step := step fmt keys

end system

/-! ### Invariant -/

/-- What is not shown as it is now is pending or in the hand of the publisher, and what
    the publisher has read is as it is now or pending. -/
structure Due (fmt : Format Key Slot Attr Val Text) (keys : List Key)
    (s : State Key Slot Attr Val Text Task) : Prop where
  shown : ∀ k ∈ keys, ∀ m ∈ fmt.slots, Pending s k ∨ InHand s k m ∨ Shown fmt s k m
  read : ∀ hand, s.hand = some hand → hand.key ∈ keys → Pending s hand.key ∨
    ∀ m rest, hand.slots = m :: rest →
      ∀ a ∈ fmt.reads m, a ∈ hand.unread ∨ hand.got a = s.cell hand.key a

/-- The invariant: with a receiver, everything that is not shown is due. -/
def Inv (fmt : Format Key Slot Attr Val Text) (keys : List Key)
    (s : State Key Slot Attr Val Text Task) : Prop :=
  s.ready = true → Due fmt keys s

variable {fmt : Format Key Slot Attr Val Text} {keys : List Key}
  {s s' : State Key Slot Attr Val Text Task}

/-- Notices on all cells make everything due. -/
theorem Due.of_pending (h : ∀ k ∈ keys, Pending s k) : Due fmt keys s where
  shown := fun k hk _ _ => .inl (h k hk)
  read := fun hand _ hk => .inl (h hand.key hk)

/-- A step that keeps hand and view keeps the invariant, if it owes a notice for every
    cell it changes and drops none. -/
theorem Due.mono (h : Due fmt keys s) (hhand : s'.hand = s.hand) (hview : s'.view = s.view)
    (hpending : ∀ k, Pending s k → Pending s' k)
    (hcell : ∀ k, s'.cell k = s.cell k ∨ Pending s' k) : Due fmt keys s' where
  shown := by
    intro k hk m hm
    rcases hcell k with hsame | hdue
    · rcases h.shown k hk m hm with hdue | hin | hshown
      · exact .inl (hpending k hdue)
      · refine .inr (.inl ?_)
        unfold InHand
        rw [hhand]
        exact hin
      · refine .inr (.inr ?_)
        unfold Shown
        rw [hview, hsame]
        exact hshown
    · exact .inl hdue
  read := by
    intro hand hheld hk
    rw [hhand] at hheld
    rcases hcell hand.key with hsame | hdue
    · rcases h.read hand hheld hk with hdue | hread
      · exact .inl (hpending _ hdue)
      · rw [hsame]
        exact .inr hread
    · exact .inl hdue

/-- What the next messages read has not been read. -/
theorem Format.mem_readsNext {slots rest : List Slot} {m : Slot} {a : Attr}
    (hslots : slots = m :: rest) (ha : a ∈ fmt.reads m) : a ∈ fmt.readsNext slots := by
  rw [hslots]
  exact ha

section owed
variable [DecidableEq Task]

/-- A task that takes on more than it owed before drops nothing. -/
theorem pending_update {t : Task} {owed : List Key} (howed : s.owed t ⊆ owed)
    (hnew : s'.owed = Function.update s.owed t owed) (hqueue : s'.queue = s.queue) {k : Key}
    (h : Pending s k) : Pending s' k := by
  unfold Pending at h ⊢
  rw [hnew, hqueue]
  rcases h with ⟨t', ht'⟩ | hq
  · refine .inl ⟨t', ?_⟩
    by_cases heq : t' = t
    · subst heq
      rw [Function.update_self]
      exact howed ht'
    · rw [Function.update_of_ne heq]
      exact ht'
  · exact .inr hq

/-- A sent notice is pending still. -/
theorem pending_send {t : Task} {k k' : Key} {owed : List Key}
    (howed : ∀ k' ∈ s.owed t, k' = k ∨ k' ∈ owed)
    (hnew : s'.owed = Function.update s.owed t owed) (hqueue : s'.queue = s.queue ++ [k])
    (h : Pending s k') : Pending s' k' := by
  unfold Pending at h ⊢
  rw [hnew, hqueue]
  rcases h with ⟨t', ht'⟩ | hq
  · by_cases heq : t' = t
    · subst heq
      rcases howed k' ht' with rfl | hrest
      · exact .inr (List.mem_append_right _ List.mem_cons_self)
      · refine .inl ⟨t', ?_⟩
        rw [Function.update_self]
        exact hrest
    · refine .inl ⟨t', ?_⟩
      rw [Function.update_of_ne heq]
      exact ht'
  · exact .inr (List.mem_append_left _ hq)

end owed

section steps
variable [DecidableEq Attr] [DecidableEq Task]

/-- Every step keeps the invariant. -/
theorem inv_step {l : Label Key Task} (h : Inv fmt keys s) (hstep : step fmt keys s l s') :
    Inv fmt keys s' := by
  intro hready
  cases l with
  | change t =>
      obtain ⟨cell, owed, hcell, howed, rfl⟩ := hstep
      refine (h hready).mono rfl rfl (fun k hk => pending_update howed (by rfl) (by rfl) hk) ?_
      intro k
      rcases hcell k with hsame | hin
      · exact .inl hsame
      · refine .inr (.inl ⟨t, ?_⟩)
        show k ∈ Function.update s.owed t owed t
        rw [Function.update_self]
        exact hin
  | appear t =>
      obtain ⟨owed, hall, rfl⟩ := hstep
      refine Due.of_pending fun k hk => .inl ⟨t, ?_⟩
      show k ∈ Function.update s.owed t owed t
      rw [Function.update_self]
      exact hall hk
  | vanish =>
      obtain rfl := hstep
      cases hready
  | skip t =>
      obtain ⟨owed, hnot, rfl⟩ := hstep
      exact absurd hnot (by rw [show s.ready = true from hready]; decide)
  | send t =>
      obtain ⟨k, owed, howed, rfl⟩ := hstep
      exact (h hready).mono rfl rfl (fun k' hk' => pending_send howed rfl rfl hk')
        fun _ => .inl rfl
  | receive =>
      -- the notice taken from the queue is the one in hand
      obtain ⟨k, queue, got, hnone, hqueue, rfl⟩ := hstep
      have hbefore := h hready
      refine ⟨?_, ?_⟩
      · intro k' hk' m hm
        by_cases heq : k' = k
        · exact .inr (.inl ⟨fmt.begin k got, rfl, heq.symm, hm⟩)
        · rcases hbefore.shown k' hk' m hm with (⟨t, ht⟩ | hq) | ⟨hand, hheld, _⟩ | hshown
          · exact .inl (.inl ⟨t, ht⟩)
          · rw [hqueue] at hq
            exact .inl (.inr ((List.mem_cons.mp hq).resolve_left heq))
          · rw [hnone] at hheld
            cases hheld
          · exact .inr (.inr hshown)
      · intro hand hheld _
        cases hheld
        exact .inr fun m rest hslots a ha => .inl (Format.mem_readsNext hslots ha)
  | abandon =>
      obtain ⟨hnot, rfl⟩ := hstep
      exact absurd hnot (by rw [show s.ready = true from hready]; decide)
  | resume k =>
      obtain ⟨got, hnone, rfl⟩ := hstep
      refine ⟨?_, ?_⟩
      · intro k' hk' m hm
        rcases (h hready).shown k' hk' m hm with hdue | ⟨hand, hheld, _⟩ | hshown
        · exact .inl hdue
        · rw [hnone] at hheld
          cases hheld
        · exact .inr (.inr hshown)
      · intro hand hheld _
        cases hheld
        exact .inr fun m rest hslots a ha => .inl (Format.mem_readsNext hslots ha)
  | read =>
      obtain ⟨k, slots, a, unread, got, hheld, rfl⟩ := hstep
      have hbefore := h hready
      refine ⟨?_, ?_⟩
      · intro k' hk' m hm
        rcases hbefore.shown k' hk' m hm with hdue | ⟨hand, hhand, hkey, hin⟩ | hshown
        · exact .inl hdue
        · rw [hheld] at hhand
          cases hhand
          exact .inr (.inl ⟨_, rfl, hkey, hin⟩)
        · exact .inr (.inr hshown)
      · intro hand hhand hk
        cases hhand
        rcases hbefore.read _ hheld hk with hdue | hread
        · exact .inl hdue
        · -- the attribute just read is as it is now
          refine .inr fun m rest hslots a' ha' => ?_
          show a' ∈ unread ∨ Function.update got a (s.cell k a) a' = s.cell k a'
          by_cases heq : a' = a
          · subst heq
            exact .inr (Function.update_self ..)
          · rw [Function.update_of_ne heq]
            exact (hread m rest hslots a' ha').imp_left
              fun hin => (List.mem_cons.mp hin).resolve_left heq
  | deliver =>
      obtain ⟨k, m, slots, got, view, hheld, hnew, hold, rfl⟩ := hstep
      have hbefore := h hready
      refine ⟨?_, ?_⟩
      · intro k' hk' m' hm'
        by_cases hthis : k' = k ∧ m' = m
        · obtain ⟨rfl, rfl⟩ := hthis
          rcases hbefore.read _ hheld hk' with hdue | hread
          · exact .inl hdue
          · -- everything has been read, so the text is that of the cell
            refine .inr (.inr ?_)
            have htext : fmt.text k' m' got = fmt.text k' m' (s.cell k') :=
              fmt.text_congr k' m' got _ fun a ha =>
                (hread m' slots rfl a ha).resolve_left List.not_mem_nil
            rw [htext] at hnew
            exact hnew
        · rcases hbefore.shown k' hk' m' hm' with hdue | ⟨hand, hhand, hkey, hin⟩ | hshown
          · exact .inl hdue
          · rw [hheld] at hhand
            cases hhand
            refine .inr (.inl ⟨_, rfl, hkey, ?_⟩)
            exact (List.mem_cons.mp hin).resolve_left fun heq => hthis ⟨hkey.symm, heq⟩
          · exact .inr (.inr ((hold k' hk' m' hthis).trans hshown))
      · intro hand hhand _
        cases hhand
        exact .inr fun m rest hslots a ha => .inl (Format.mem_readsNext hslots ha)
  | finish =>
      obtain ⟨k, unread, got, hheld, rfl⟩ := hstep
      refine ⟨?_, ?_⟩
      · intro k' hk' m hm
        rcases (h hready).shown k' hk' m hm with hdue | ⟨hand, hhand, _, hin⟩ | hshown
        · exact .inl hdue
        · rw [hheld] at hhand
          cases hhand
          cases hin
        · exact .inr (.inr hshown)
      · intro hand hhand _
        cases hhand

end steps

end Notify
