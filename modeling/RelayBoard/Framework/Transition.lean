import Mathlib.Logic.Relation

/-! # Labelled Transition Systems

  A system is an initial-state predicate and a labelled step relation.
  Safety properties are stated over reachable states; properties that
  hold only while every step meets a side condition are stated over
  `ReachableWhen`, the states reached along runs whose steps all meet it.
-/

namespace LTS

universe u v w

/-- A labelled transition system. -/
structure System (State : Type u) (Label : Type v) where
  /-- Initial states. -/
  init : State → Prop
  /-- The step relation. -/
  step : State → Label → State → Prop

variable {State : Type u} {Label : Type v}

/-! ### Reachability -/

/-- States reachable from an initial state. -/
inductive Reachable (sys : System State Label) : State → Prop where
  | init {s : State} : sys.init s → Reachable sys s
  | step {s s' : State} {l : Label} :
      Reachable sys s → sys.step s l s' → Reachable sys s'

/-- States reachable along runs all of whose steps meet `ok`, a condition
    on the label and on the state before the step. -/
inductive ReachableWhen (sys : System State Label) (ok : State → Label → Prop) :
    State → Prop where
  | init {s : State} : sys.init s → ReachableWhen sys ok s
  | step {s s' : State} {l : Label} :
      ReachableWhen sys ok s → ok s l → sys.step s l s' → ReachableWhen sys ok s'

/-- `s'` follows `s` after some number of steps. -/
def Steps (sys : System State Label) : State → State → Prop :=
  Relation.ReflTransGen fun s s' => ∃ l, sys.step s l s'

/-- `s'` follows `s` after some number of steps that all meet `ok`. -/
def StepsWhen (sys : System State Label) (ok : State → Label → Prop) : State → State → Prop :=
  Relation.ReflTransGen fun s s' => ∃ l, ok s l ∧ sys.step s l s'

variable {sys : System State Label} {ok : State → Label → Prop}

/-- A constrained run is a run. -/
theorem ReachableWhen.reachable {s : State} (h : ReachableWhen sys ok s) :
    Reachable sys s := by
  induction h with
  | init hs => exact .init hs
  | step _ _ hstep ih => exact .step ih hstep

theorem Steps.refl (s : State) : Steps sys s s := Relation.ReflTransGen.refl

theorem Steps.step {s s' s'' : State} {l : Label} (h : Steps sys s s')
    (hstep : sys.step s' l s'') : Steps sys s s'' :=
  Relation.ReflTransGen.tail h ⟨l, hstep⟩

theorem Steps.trans {s s' s'' : State} (h : Steps sys s s') (h' : Steps sys s' s'') :
    Steps sys s s'' := Relation.ReflTransGen.trans h h'

theorem StepsWhen.refl (s : State) : StepsWhen sys ok s s := Relation.ReflTransGen.refl

theorem StepsWhen.step {s s' s'' : State} {l : Label} (h : StepsWhen sys ok s s')
    (hok : ok s' l) (hstep : sys.step s' l s'') : StepsWhen sys ok s s'' :=
  Relation.ReflTransGen.tail h ⟨l, hok, hstep⟩

theorem StepsWhen.trans {s s' s'' : State} (h : StepsWhen sys ok s s')
    (h' : StepsWhen sys ok s' s'') : StepsWhen sys ok s s'' := Relation.ReflTransGen.trans h h'

/-- Steps that meet a condition are steps. -/
theorem StepsWhen.steps {s s' : State} (h : StepsWhen sys ok s s') : Steps sys s s' := by
  induction h with
  | refl => exact Steps.refl s
  | tail _ hstep ih =>
      obtain ⟨l, _, hl⟩ := hstep
      exact ih.step hl

/-- What follows a reachable state is reachable. -/
theorem Steps.reachable {s s' : State} (h : Steps sys s s') (hs : Reachable sys s) :
    Reachable sys s' := by
  induction h with
  | refl => exact hs
  | tail _ hstep ih =>
      obtain ⟨l, hl⟩ := hstep
      exact .step ih hl

/-- **Progress rule**: a final state follows if every state of an invariant that is not
    final has a step to one of smaller measure. -/
theorem Steps.exists_final {Inv Final : State → Prop} (measure : State → Nat)
    (hstep : ∀ s, Inv s → ¬ Final s →
      ∃ l s', sys.step s l s' ∧ Inv s' ∧ measure s' < measure s)
    {s : State} (hs : Inv s) : ∃ s', Steps sys s s' ∧ Final s' := by
  -- induction on the measure
  induction hn : measure s using Nat.strongRecOn generalizing s with
  | ind n ih =>
      by_cases hfinal : Final s
      · exact ⟨s, .refl s, hfinal⟩
      · obtain ⟨l, s', hnext, hs', hlt⟩ := hstep s hs hfinal
        obtain ⟨s'', hsteps, hfinal'⟩ := ih (measure s') (hn ▸ hlt) hs' rfl
        exact ⟨s'', ((Steps.refl s).step hnext).trans hsteps, hfinal'⟩

/-- **Invariant rule**: what holds initially and is kept by every step
    holds of every reachable state. -/
theorem Reachable.invariant {Inv : State → Prop}
    (hinit : ∀ s, sys.init s → Inv s)
    (hstep : ∀ s l s', Inv s → sys.step s l s' → Inv s')
    {s : State} (h : Reachable sys s) : Inv s := by
  induction h with
  | init hs => exact hinit _ hs
  | step _ hst ih => exact hstep _ _ _ ih hst

/-- **Invariant rule for constrained runs**: the step premise may use the
    side condition. -/
theorem ReachableWhen.invariant {Inv : State → Prop}
    (hinit : ∀ s, sys.init s → Inv s)
    (hstep : ∀ s l s', Inv s → ok s l → sys.step s l s' → Inv s')
    {s : State} (h : ReachableWhen sys ok s) : Inv s := by
  induction h with
  | init hs => exact hinit _ hs
  | step _ hok hst ih => exact hstep _ _ _ ih hok hst

/-- The steps of a run, with their labels in order. -/
inductive Run (sys : System State Label) (s₀ : State) : List Label → State → Prop where
  | nil : Run sys s₀ [] s₀
  | snoc {ls : List Label} {s s' : State} {l : Label} :
      Run sys s₀ ls s → sys.step s l s' → Run sys s₀ (ls ++ [l]) s'

/-- The end of a run is reachable. -/
theorem Run.reachable {s₀ s : State} {ls : List Label} (h : Run sys s₀ ls s)
    (hinit : sys.init s₀) : Reachable sys s := by
  induction h with
  | nil => exact .init hinit
  | snoc _ hstep ih => exact ih.step hstep

/-- **Invariant rule for runs**: the invariant may speak of what has been done so far. -/
theorem Run.invariant {s₀ s : State} {ls : List Label} {Inv : List Label → State → Prop}
    (hinit : Inv [] s₀)
    (hstep : ∀ ls s l s', Inv ls s → sys.step s l s' → Inv (ls ++ [l]) s')
    (h : Run sys s₀ ls s) : Inv ls s := by
  induction h with
  | nil => exact hinit
  | snoc _ hst ih => exact hstep _ _ _ _ ih hst

/-- **Progress rule for runs**: the run goes on to a final state if every state of an invariant
    that is not final has a good step to one of smaller measure. -/
theorem Run.exists_final {Inv Final : State → Prop} {Good : Label → Prop} (measure : State → Nat)
    (hstep : ∀ s, Inv s → ¬ Final s →
      ∃ l s', sys.step s l s' ∧ Good l ∧ Inv s' ∧ measure s' < measure s)
    {s₀ s : State} {ls : List Label} (h : Run sys s₀ ls s) (hs : Inv s) :
    ∃ ls' s', Run sys s₀ (ls ++ ls') s' ∧ (∀ l ∈ ls', Good l) ∧ Inv s' ∧ Final s' := by
  -- induction on the measure
  induction hn : measure s using Nat.strongRecOn generalizing s ls with
  | ind n ih =>
      by_cases hfinal : Final s
      · exact ⟨[], s, by rwa [List.append_nil], nofun, hs, hfinal⟩
      · obtain ⟨l, s', hnext, hgood, hs', hlt⟩ := hstep s hs hfinal
        obtain ⟨ls', s'', hrun, hgoods, hs'', hfinal'⟩ :=
          ih (measure s') (hn ▸ hlt) (h.snoc hnext) hs' rfl
        refine ⟨l :: ls', s'', by rwa [List.append_assoc] at hrun, ?_, hs'', hfinal'⟩
        exact List.forall_mem_cons.mpr ⟨hgood, hgoods⟩

/-! ### Systems Given by a Function -/

/-- The system whose steps are those of a partial function. -/
def System.ofNext (init : State → Prop) (next : State → Label → Option State) :
    System State Label where
  init := init
  step := fun s l s' => next s l = some s'

variable {init : State → Prop} {next : State → Label → Option State}

/-- A run of the function is a run of its system. -/
theorem Reachable.foldlM {s s' : State} (h : Reachable (.ofNext init next) s)
    {ls : List Label} (hrun : ls.foldlM next s = some s') :
    Reachable (.ofNext init next) s' := by
  induction ls generalizing s with
  | nil => cases hrun; exact h
  | cons l ls ih =>
      rw [List.foldlM_cons] at hrun
      obtain ⟨t, ht, hrest⟩ := Option.bind_eq_some_iff.mp hrun
      exact ih (.step (l := l) h ht) hrest

/-- The same for runs whose steps all meet the side condition. -/
theorem ReachableWhen.foldlM {ok : State → Label → Prop} [∀ s l, Decidable (ok s l)]
    {s s' : State} (h : ReachableWhen (.ofNext init next) ok s) {ls : List Label}
    (hrun : ls.foldlM (fun s l => if ok s l then next s l else none) s = some s') :
    ReachableWhen (.ofNext init next) ok s' := by
  induction ls generalizing s with
  | nil => cases hrun; exact h
  | cons l ls ih =>
      rw [List.foldlM_cons] at hrun
      obtain ⟨t, ht, hrest⟩ := Option.bind_eq_some_iff.mp hrun
      split at ht
      · next hok => exact ih (.step (l := l) h hok ht) hrest
      · cases ht

end LTS
