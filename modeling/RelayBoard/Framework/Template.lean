import Mathlib.Algebra.GroupWithZero.Nat
import RelayBoard.Framework.CSearch

/-! # Templates

  Texts with named holes. Where a hole is written as its name in braces, its first
  occurrence in the text is the first hole of this name, and filling holes adds up in
  the length of the text.
-/

open CString

namespace Template

/-! ### Pieces -/

/-- A piece of a template. -/
inductive Piece (H : Type) where
  | text (t : CStr)
  | hole (h : H)

/-- A character of a hole's name. -/
def isNameChar (c : Char) : Bool := c.isUpper || c = '_'

/-- The names of the holes. -/
structure Names (H : Type) where
  name : H → CStr
  ne_nil : ∀ h, name h ≠ []
  chars : ∀ h, (name h).all isNameChar = true
  injective : ∀ h h', name h = name h' → h = h'

variable {H : Type}

/-- A hole as it is written. -/
def Names.placeholder (N : Names H) (h : H) : CStr := '\x7b' :: (N.name h ++ ['\x7d'])

def Names.piece (N : Names H) : Piece H → CStr
  | .text t => t
  | .hole h => N.placeholder h

/-- The text of a template. -/
def Names.render (N : Names H) (ps : List (Piece H)) : CStr := ps.flatMap N.piece

/-- No opening brace of the text is followed by a name. -/
def opensNothing : CStr → Bool
  | [] => true
  | c :: s =>
      (c != '\x7b' || match s with
        | [] => false
        | d :: _ => !isNameChar d) && opensNothing s

/-- The texts of a template have no holes in them. -/
def Tidy (ps : List (Piece H)) : Prop := ∀ t, .text t ∈ ps → opensNothing t = true

def Piece.opensNothing : Piece H → Bool
  | .text t => Template.opensNothing t
  | .hole _ => true

instance (ps : List (Piece H)) : Decidable (Tidy ps) :=
  decidable_of_iff (ps.all Piece.opensNothing = true) <| by
    rw [List.all_eq_true]
    constructor
    · exact fun h t ht => h _ ht
    · intro h p hp
      cases p with
      | text t => exact h t hp
      | hole _ => rfl

variable {N : Names H} {ps qs : List (Piece H)} {h h' : H}

@[simp] theorem render_nil : N.render [] = [] := rfl

@[simp] theorem render_text (t : CStr) : N.render (.text t :: ps) = t ++ N.render ps := rfl

@[simp] theorem render_hole (h : H) :
    N.render (.hole h :: ps) = N.placeholder h ++ N.render ps := rfl

@[simp] theorem render_append : N.render (ps ++ qs) = N.render ps ++ N.render qs :=
  List.flatMap_append

theorem tidy_nil : Tidy (H := H) [] := fun _ ht => absurd ht List.not_mem_nil

theorem tidy_text_cons {t : CStr} : Tidy (.text t :: ps) ↔ opensNothing t = true ∧ Tidy ps := by
  constructor
  · exact fun h => ⟨h t List.mem_cons_self, fun s hs => h s (List.mem_cons_of_mem _ hs)⟩
  · intro h s hs
    rcases List.mem_cons.mp hs with heq | hs
    · cases heq
      exact h.1
    · exact h.2 s hs

theorem tidy_hole_cons : Tidy (.hole h :: ps) ↔ Tidy ps := by
  constructor
  · exact fun htidy s hs => htidy s (List.mem_cons_of_mem _ hs)
  · intro htidy s hs
    rcases List.mem_cons.mp hs with heq | hs
    · cases heq
    · exact htidy s hs

theorem Tidy.append (hps : Tidy ps) (hqs : Tidy qs) : Tidy (ps ++ qs) :=
  fun t ht => (List.mem_append.mp ht).elim (hps t) (hqs t)

theorem Tidy.of_append (hall : Tidy (ps ++ qs)) : Tidy ps ∧ Tidy qs :=
  ⟨fun t ht => hall t (List.mem_append_left _ ht),
    fun t ht => hall t (List.mem_append_right _ ht)⟩

/-- A text without an opening brace opens nothing. -/
theorem opensNothing_of_not_mem {t : CStr} (ht : '\x7b' ∉ t) : opensNothing t = true := by
  induction t with
  | nil => rfl
  | cons c t ih =>
      rw [List.mem_cons, not_or] at ht
      have hc : (c != '\x7b') = true := bne_iff_ne.mpr (Ne.symm ht.1)
      unfold opensNothing
      rw [hc, ih ht.2]
      rfl

/-! ### Where a Hole Occurs -/

/-- The pattern starts nowhere in `w`, whatever follows. -/
def Skips (pat w : CStr) : Prop := ∀ u v, w = u ++ v → v ≠ [] → ∀ r, ¬ pat <+: v ++ r

theorem Skips.nil (pat : CStr) : Skips pat [] := by
  intro u v huv hv
  exact absurd (List.append_eq_nil_iff.mp huv.symm).2 hv

theorem Skips.cons {pat w : CStr} {c : Char} (hw : Skips pat w)
    (hc : ∀ r, ¬ pat <+: c :: w ++ r) : Skips pat (c :: w) := by
  intro u v huv hv
  cases u with
  | nil =>
      obtain rfl : c :: w = v := huv
      exact hc
  | cons d u => exact hw u v (List.cons.inj huv).2 hv

theorem Skips.firstAt {pat w s before after : CStr} (hw : Skips pat w)
    (hfirst : FirstAt pat s before after) : FirstAt pat (w ++ s) (w ++ before) after := by
  induction w with
  | nil => exact hfirst
  | cons c w ih =>
      have htail : Skips pat w := fun u v huv => hw (c :: u) v (by rw [huv]; rfl)
      exact (ih htail).cons (hw [] (c :: w) rfl (List.cons_ne_nil _ _) s)

theorem Skips.not_within {pat w s : CStr} (hw : Skips pat w) (hs : ¬ pat <:+: s) :
    ¬ pat <:+: w ++ s := by
  induction w with
  | nil => exact hs
  | cons c w ih =>
      have htail : Skips pat w := fun u v huv => hw (c :: u) v (by rw [huv]; rfl)
      rw [List.cons_append, List.infix_cons_iff, not_or]
      exact ⟨hw [] (c :: w) rfl (List.cons_ne_nil _ _) s, ih htail⟩

theorem isNameChar_of_mem {c : Char} (hc : c ∈ N.name h) : isNameChar c = true :=
  List.all_eq_true.mp (N.chars h) c hc

/-- A placeholder needs a brace with a name after it. -/
theorem not_prefix_of_ne {c : Char} {w : CStr} (hc : c ≠ '\x7b') :
    ¬ N.placeholder h <+: c :: w := by
  unfold Names.placeholder
  rw [List.cons_prefix_cons]
  exact fun hpre => hc hpre.1.symm

theorem skips_text {t : CStr} (ht : opensNothing t = true) : Skips (N.placeholder h) t := by
  induction t with
  | nil => exact Skips.nil _
  | cons c t ih =>
      unfold opensNothing at ht
      rw [Bool.and_eq_true, Bool.or_eq_true] at ht
      obtain ⟨hc, ht⟩ := ht
      apply (ih ht).cons
      intro r
      by_cases hbrace : c = '\x7b'
      · -- what follows the brace is no name
        subst hbrace
        have hnext := hc.resolve_left (by decide)
        cases t with
        | nil => cases hnext
        | cons d t =>
            obtain ⟨n, name, hname⟩ := List.exists_cons_of_ne_nil (N.ne_nil h)
            have hn : isNameChar n = true := isNameChar_of_mem (N := N) (h := h) (by simp [hname])
            unfold Names.placeholder
            rw [hname, List.cons_append, List.cons_append, List.cons_prefix_cons,
              List.cons_append, List.cons_prefix_cons]
            intro hpre
            have hd : isNameChar d = false := by simpa using hnext
            rw [← hpre.2.1, hn] at hd
            cases hd
      · exact not_prefix_of_ne hbrace

theorem skips_hole (hne : h' ≠ h) : Skips (N.placeholder h) (N.placeholder h') := by
  have hbrace : ∀ {h₁ : H} {c : Char}, c ∈ N.name h₁ → c ≠ '\x7b' ∧ c ≠ '\x7d' := by
    intro h₁ c hc
    have hname := isNameChar_of_mem hc
    constructor
    · rintro rfl
      exact absurd hname (by decide)
    · rintro rfl
      exact absurd hname (by decide)
  -- no brace opens after the first
  have htail : ∀ w, (∀ c ∈ w, c ≠ '\x7b') → Skips (N.placeholder h) w := by
    intro w hw
    induction w with
    | nil => exact Skips.nil _
    | cons c w ih =>
        exact (ih fun d hd => hw d (List.mem_cons_of_mem _ hd)).cons
          fun r => not_prefix_of_ne (hw c List.mem_cons_self)
  have hrest : Skips (N.placeholder h) (N.name h' ++ ['\x7d']) := by
    apply htail
    intro c hc
    rcases List.mem_append.mp hc with hc | hc
    · exact (hbrace hc).1
    · rw [List.mem_singleton.mp hc]
      decide
  apply hrest.cons
  intro r hpre
  unfold Names.placeholder at hpre
  rw [List.cons_append, List.cons_prefix_cons] at hpre
  obtain ⟨z, hz⟩ := hpre.2
  simp only [List.append_assoc, List.cons_append, List.nil_append] at hz
  -- both names end at the closing brace
  have heq : N.name h = N.name h' := by
    have hleft := congrArg (List.takeWhile fun c => c ≠ '\x7d') hz
    have hclosing : ∀ h₁ : H, '\x7d' ∉ N.name h₁ := fun h₁ hmem => (hbrace hmem).2 rfl
    rw [takeWhile_ne_append (hclosing h) (.inr ⟨_, rfl⟩),
      takeWhile_ne_append (hclosing h') (.inr ⟨_, rfl⟩)] at hleft
    exact hleft
  exact hne (N.injective h h' heq).symm

/-- The first hole of a name is its first occurrence. -/
theorem firstAt_hole (hps : Tidy ps) (hhole : .hole h ∉ ps) :
    FirstAt (N.placeholder h) (N.render (ps ++ .hole h :: qs)) (N.render ps) (N.render qs) := by
  induction ps with
  | nil => exact ⟨rfl, fun _ _ _ => Nat.zero_le _⟩
  | cons p ps ih =>
      have hrest := ih (fun t ht => hps t (List.mem_cons_of_mem _ ht))
        fun hmem => hhole (List.mem_cons_of_mem _ hmem)
      cases p with
      | text t => exact (skips_text (hps t List.mem_cons_self)).firstAt hrest
      | hole h' =>
          have hne : h' ≠ h := fun heq => hhole (heq ▸ List.mem_cons_self)
          exact (skips_hole hne).firstAt hrest

/-- Without a hole of the name there is no occurrence. -/
theorem not_within_render (hps : Tidy ps) (hhole : .hole h ∉ ps) :
    ¬ N.placeholder h <:+: N.render ps := by
  induction ps with
  | nil =>
      rw [render_nil, List.infix_nil]
      exact List.cons_ne_nil _ _
  | cons p ps ih =>
      have hrest := ih (fun t ht => hps t (List.mem_cons_of_mem _ ht))
        fun hmem => hhole (List.mem_cons_of_mem _ hmem)
      cases p with
      | text t => exact (skips_text (hps t List.mem_cons_self)).not_within hrest
      | hole h' =>
          have hne : h' ≠ h := fun heq => hhole (heq ▸ List.mem_cons_self)
          exact (skips_hole hne).not_within hrest

/-! ### Filling -/

section fill
variable [DecidableEq H]

/-- The number of holes of a name. -/
def holes (h : H) : List (Piece H) → Nat
  | [] => 0
  | .text _ :: ps => holes h ps
  | .hole h' :: ps => (if h' = h then 1 else 0) + holes h ps

/-- The template with `vs` in the place of every hole of a name. -/
def fill (h : H) (vs : List (Piece H)) : List (Piece H) → List (Piece H)
  | [] => []
  | .text t :: ps => .text t :: fill h vs ps
  | .hole h' :: ps => if h' = h then vs ++ fill h vs ps else .hole h' :: fill h vs ps

variable {vs : List (Piece H)}

@[simp] theorem holes_append : holes h (ps ++ qs) = holes h ps + holes h qs := by
  induction ps with
  | nil => simp [holes]
  | cons p ps ih =>
      cases p with
      | text t => simpa [holes] using ih
      | hole h' => simp [holes, ih, Nat.add_assoc]

theorem holes_eq_zero_iff : holes h ps = 0 ↔ .hole h ∉ ps := by
  induction ps with
  | nil => simp [holes]
  | cons p ps ih =>
      cases p with
      | text t => simp [holes, ih]
      | hole h' =>
          by_cases heq : h' = h
          · simp [holes, heq]
          · simp [holes, heq, ih, Ne.symm heq]

/-- A template with holes of a name has a first one. -/
theorem exists_first_hole (hpos : holes h ps ≠ 0) :
    ∃ before after, ps = before ++ .hole h :: after ∧ .hole h ∉ before := by
  have hmem : .hole h ∈ ps := by
    by_contra hnot
    exact hpos (holes_eq_zero_iff.mpr hnot)
  obtain ⟨before, after, heq, hnot⟩ := List.eq_append_cons_of_mem hmem
  exact ⟨before, after, heq, hnot⟩

theorem fill_append : fill h vs (ps ++ qs) = fill h vs ps ++ fill h vs qs := by
  induction ps with
  | nil => rfl
  | cons p ps ih =>
      cases p with
      | text t => simp [fill, ih]
      | hole h' =>
          by_cases heq : h' = h
          · simp [fill, heq, ih]
          · simp [fill, heq, ih]

theorem fill_of_no_hole (hhole : .hole h ∉ ps) : fill h vs ps = ps := by
  induction ps with
  | nil => rfl
  | cons p ps ih =>
      have hrest := ih fun hmem => hhole (List.mem_cons_of_mem _ hmem)
      cases p with
      | text t => rw [fill, hrest]
      | hole h' =>
          have hne : h' ≠ h := fun heq => hhole (heq ▸ List.mem_cons_self)
          rw [fill, if_neg hne, hrest]

theorem Tidy.fill (hps : Tidy ps) (hvs : Tidy vs) : Tidy (fill h vs ps) := by
  induction ps with
  | nil => exact hps
  | cons p ps ih =>
      cases p with
      | text t =>
          rw [tidy_text_cons] at hps
          exact tidy_text_cons.mpr ⟨hps.1, ih hps.2⟩
      | hole h' =>
          rw [tidy_hole_cons] at hps
          unfold Template.fill
          split
          · exact hvs.append (ih hps)
          · exact tidy_hole_cons.mpr (ih hps)

/-- Filling adds the holes of the filling. -/
theorem holes_fill (hne : h' ≠ h) :
    holes h' (fill h vs ps) = holes h' ps + holes h ps * holes h' vs := by
  induction ps with
  | nil => simp [holes, fill]
  | cons p ps ih =>
      cases p with
      | text t => simpa [holes, fill] using ih
      | hole g =>
          by_cases hg : g = h
          · have hgne : g ≠ h' := fun heq => hne (heq.symm.trans hg)
            simp [holes, fill, hg, ih, Ne.symm hne, Nat.add_mul]
            omega
          · simp [holes, fill, hg, ih]
            omega

/-- Filling leaves the holes of the fillings only. -/
theorem holes_fill_all : holes h (fill h vs ps) = holes h ps * holes h vs := by
  induction ps with
  | nil => simp [holes, fill]
  | cons p ps ih =>
      cases p with
      | text t => exact ih
      | hole g =>
          by_cases hg : g = h
          · simp [holes, fill, hg, ih, Nat.add_mul]
          · simp [holes, fill, hg, ih]

theorem holes_fill_self (hvs : holes h vs = 0) : holes h (fill h vs ps) = 0 := by
  rw [holes_fill_all, hvs, Nat.mul_zero]

theorem holes_fill_le (hvs : holes h' vs = 0) : holes h' (fill h vs ps) ≤ holes h' ps := by
  by_cases heq : h' = h
  · subst heq
    rw [holes_fill_self hvs]
    exact Nat.zero_le _
  · rw [holes_fill heq, hvs, Nat.mul_zero]
    exact Nat.le_refl _

/-- What filling does to the length. -/
theorem length_render_fill (N : Names H) (h : H) (vs ps : List (Piece H)) :
    (N.render (fill h vs ps)).length + holes h ps * (N.placeholder h).length =
      (N.render ps).length + holes h ps * (N.render vs).length := by
  induction ps with
  | nil => simp [holes, fill]
  | cons p ps ih =>
      cases p with
      | text t =>
          simp only [fill, holes, render_text, List.length_append]
          omega
      | hole g =>
          by_cases hg : g = h
          · subst hg
            simp only [fill, holes, if_pos, render_hole, render_append, List.length_append,
              Nat.add_mul, Nat.one_mul]
            omega
          · simp only [fill, holes, if_neg hg, render_hole, List.length_append, Nat.zero_add]
            omega

/-- A size of templates that adds up when holes are filled. -/
def AddsUp (m : List (Piece H) → Nat) : Prop :=
  ∀ h vs ps, m (fill h vs ps) + holes h ps * m [.hole h] = m ps + holes h ps * m vs

theorem addsUp_length (N : Names H) : AddsUp fun ps => (N.render ps).length := by
  intro h vs ps
  have hlen := length_render_fill N h vs ps
  simpa using hlen

theorem addsUp_holes (h : H) : AddsUp (holes h) := by
  intro h' vs ps
  by_cases heq : h = h'
  · subst heq
    have hone : holes h [.hole h] = 1 := by simp [holes]
    rw [hone, holes_fill_all]
    omega
  · have hnone : holes h [.hole h'] = 0 := by simp [holes, Ne.symm heq]
    rw [hnone, holes_fill heq]
    omega

/-- Filling the first hole alone leaves less to fill. -/
theorem exists_fill_one (hps : Tidy ps) (hvs : Tidy vs) (hfree : holes h vs = 0)
    (hpos : holes h ps ≠ 0) :
    ∃ before after ps', FirstAt (N.placeholder h) (N.render ps) before after ∧
      N.render ps' = before ++ N.render vs ++ after ∧ Tidy ps' ∧ holes h ps' + 1 = holes h ps ∧
      fill h vs ps' = fill h vs ps := by
  obtain ⟨left, right, rfl, hleft⟩ := exists_first_hole hpos
  have htidy := hps.of_append
  have hright : Tidy right := fun t ht => htidy.2 t (List.mem_cons_of_mem _ ht)
  refine ⟨N.render left, N.render right, left ++ vs ++ right, firstAt_hole htidy.1 hleft, ?_,
    (htidy.1.append hvs).append hright, ?_, ?_⟩
  · rw [render_append, render_append]
  · rw [holes_append, holes_append, holes_append, hfree, holes, if_pos rfl]
    omega
  · have hvs' : .hole h ∉ vs := holes_eq_zero_iff.mp hfree
    rw [fill_append, fill_append, fill_append, fill_of_no_hole hvs', fill, if_pos rfl,
      List.append_assoc]

/-! ### Filling Name after Name -/

/-- The template with every name of a list filled, one after the other. -/
def fillAll : List (H × List (Piece H)) → List (Piece H) → List (Piece H)
  | [], ps => ps
  | f :: fs, ps => fillAll fs (fill f.1 f.2 ps)

/-- The templates on the way. -/
def stages : List (H × List (Piece H)) → List (Piece H) → List (List (Piece H))
  | [], _ => []
  | f :: fs, ps => fill f.1 f.2 ps :: stages fs (fill f.1 f.2 ps)

/-- Fillings of tidy templates without holes of their own names. -/
def Fair (fs : List (H × List (Piece H))) : Prop := ∀ f ∈ fs, Tidy f.2 ∧ holes f.1 f.2 = 0

/-- No filling has holes of any of these names. -/
def Closed (fs gs : List (H × List (Piece H))) : Prop := ∀ f ∈ fs, ∀ g ∈ gs, holes g.1 f.2 = 0

variable {fs gs : List (H × List (Piece H))}

theorem fillAll_append : fillAll (fs ++ gs) ps = fillAll gs (fillAll fs ps) := by
  induction fs generalizing ps with
  | nil => rfl
  | cons f fs ih => exact ih

theorem stages_append : stages (fs ++ gs) ps = stages fs ps ++ stages gs (fillAll fs ps) := by
  induction fs generalizing ps with
  | nil => rfl
  | cons f fs ih =>
      show fill f.1 f.2 ps :: stages (fs ++ gs) (fill f.1 f.2 ps) = _
      rw [ih]
      rfl

theorem mem_stages {ts : List (Piece H)} (h : ts ∈ stages fs ps) :
    ∃ k ≤ fs.length, ts = fillAll (fs.take k) ps := by
  induction fs generalizing ps with
  | nil => exact absurd h List.not_mem_nil
  | cons f fs ih =>
      rcases List.mem_cons.mp h with heq | h
      · exact ⟨1, Nat.le_add_left _ _, heq⟩
      · obtain ⟨k, hk, heq⟩ := ih h
        exact ⟨k + 1, Nat.add_le_add_right hk 1, heq⟩

/-- The filled template is the last one on the way. -/
theorem fillAll_mem_stages (hne : fs ≠ []) : fillAll fs ps ∈ stages fs ps := by
  induction fs generalizing ps with
  | nil => exact absurd rfl hne
  | cons f fs ih =>
      by_cases hlast : fs = []
      · subst hlast
        exact List.mem_cons_self
      · exact List.mem_cons_of_mem _ (ih hlast)

theorem Tidy.fillAll (hps : Tidy ps) (hfs : Fair fs) : Tidy (fillAll fs ps) := by
  induction fs generalizing ps with
  | nil => exact hps
  | cons f fs ih =>
      exact ih (hps.fill (hfs f List.mem_cons_self).1) fun g hg =>
        hfs g (List.mem_cons_of_mem _ hg)

/-- Other names keep their holes, where no filling brings new ones. -/
theorem holes_fillAll (hne : ∀ f ∈ fs, h ≠ f.1) (hfree : ∀ f ∈ fs, holes h f.2 = 0) :
    holes h (fillAll fs ps) = holes h ps := by
  induction fs generalizing ps with
  | nil => rfl
  | cons f fs ih =>
      show holes h (fillAll fs (fill f.1 f.2 ps)) = holes h ps
      rw [ih (fun g hg => hne g (List.mem_cons_of_mem _ hg)) fun g hg =>
          hfree g (List.mem_cons_of_mem _ hg),
        holes_fill (hne f List.mem_cons_self), hfree f List.mem_cons_self, Nat.mul_zero,
        Nat.add_zero]

theorem holes_fillAll_le (hfree : ∀ f ∈ fs, holes h f.2 = 0) :
    holes h (fillAll fs ps) ≤ holes h ps := by
  induction fs generalizing ps with
  | nil => exact Nat.le_refl _
  | cons f fs ih =>
      have hrest := @ih (fill f.1 f.2 ps) fun g hg => hfree g (List.mem_cons_of_mem _ hg)
      exact hrest.trans (holes_fill_le (hfree f List.mem_cons_self))

/-- Filling all names adds up, where the fillings have holes of none of them. -/
theorem AddsUp.fillAll {m : List (Piece H) → Nat} (hm : AddsUp m) (ps : List (Piece H))
    (hne : fs.Pairwise fun f g => f.1 ≠ g.1) (hclosed : Closed fs fs) :
    m (fillAll fs ps) + (fs.map fun f => holes f.1 ps * m [.hole f.1]).sum =
      m ps + (fs.map fun f => holes f.1 ps * m f.2).sum := by
  induction fs generalizing ps with
  | nil => rfl
  | cons f fs ih =>
      rw [List.pairwise_cons] at hne
      have hrest := ih (fill f.1 f.2 ps) hne.2 fun g hg k hk =>
        hclosed g (List.mem_cons_of_mem _ hg) k (List.mem_cons_of_mem _ hk)
      -- the names that are left keep their holes
      have hkeep : ∀ g ∈ fs, holes g.1 (fill f.1 f.2 ps) = holes g.1 ps := by
        intro g hg
        rw [holes_fill fun heq => hne.1 g hg heq.symm,
          hclosed f List.mem_cons_self g (List.mem_cons_of_mem _ hg), Nat.mul_zero, Nat.add_zero]
      have hout : (fs.map fun g => holes g.1 (fill f.1 f.2 ps) * m [.hole g.1]) =
          fs.map fun g => holes g.1 ps * m [.hole g.1] :=
        List.map_congr_left fun g hg => by rw [hkeep g hg]
      have hin : (fs.map fun g => holes g.1 (fill f.1 f.2 ps) * m g.2) =
          fs.map fun g => holes g.1 ps * m g.2 :=
        List.map_congr_left fun g hg => by rw [hkeep g hg]
      rw [hout, hin] at hrest
      have hfill := hm f.1 f.2 ps
      show m (Template.fillAll fs (fill f.1 f.2 ps)) + _ = _
      rw [List.map_cons, List.sum_cons, List.map_cons, List.sum_cons]
      omega

/-- Fillings that are no longer than their placeholders. -/
def Short (N : Names H) (fs : List (H × List (Piece H))) : Prop :=
  ∀ f ∈ fs, (N.render f.2).length ≤ (N.placeholder f.1).length

/-- They never make a template longer. -/
theorem Short.length_stages (hshort : Short N fs) :
    ∀ ts ∈ stages fs ps, (N.render ts).length ≤ (N.render ps).length := by
  induction fs generalizing ps with
  | nil => exact fun ts hts => absurd hts List.not_mem_nil
  | cons f fs ih =>
      have hfill := length_render_fill N f.1 f.2 ps
      have hle := Nat.mul_le_mul_left (holes f.1 ps) (hshort f List.mem_cons_self)
      intro ts hts
      rcases List.mem_cons.mp hts with heq | hts
      · subst heq
        omega
      · have := ih (fun g hg => hshort g (List.mem_cons_of_mem _ hg)) ts hts
        omega

theorem Short.length_fillAll (hshort : Short N fs) (ps : List (Piece H)) :
    (N.render (Template.fillAll fs ps)).length ≤ (N.render ps).length := by
  by_cases hne : fs = []
  · subst hne
    exact Nat.le_refl _
  · exact hshort.length_stages _ (fillAll_mem_stages hne)

/-- A longer filling, where a shorter one before it has made room. -/
theorem length_stages_of_room {before between after : List (H × List (Piece H))}
    {f g : H × List (Piece H)} {size : Nat} (hbefore : Short N before)
    (hf : (N.render f.2).length ≤ (N.placeholder f.1).length) (hbetween : Short N between)
    (hafter : Short N after) (hps : (N.render ps).length ≤ size)
    (hkeep : holes f.1 (fillAll before ps) = holes f.1 ps)
    (hless : holes g.1 (fillAll (before ++ f :: between) ps) ≤ holes g.1 ps)
    (hroom : (N.render ps).length +
        holes g.1 ps * ((N.render g.2).length - (N.placeholder g.1).length) ≤
      size + holes f.1 ps * ((N.placeholder f.1).length - (N.render f.2).length)) :
    ∀ ts ∈ stages (before ++ f :: between ++ g :: after) ps, (N.render ts).length ≤ size := by
  have hshort : Short N (f :: between) := List.forall_mem_cons.mpr ⟨hf, hbetween⟩
  have hlen := hbefore.length_fillAll ps
  -- what is left when the longer one is put in
  have hleft : (N.render (fillAll (before ++ f :: between) ps)).length +
      holes f.1 ps * ((N.placeholder f.1).length - (N.render f.2).length) ≤
        (N.render ps).length := by
    rw [fillAll_append]
    have hfill := length_render_fill N f.1 f.2 (fillAll before ps)
    have hrest : (N.render (fillAll (f :: between) (fillAll before ps))).length ≤ _ :=
      hbetween.length_fillAll (fill f.1 f.2 (fillAll before ps))
    have hle := Nat.mul_le_mul_left (holes f.1 ps) hf
    rw [hkeep] at hfill
    rw [Nat.mul_sub]
    omega
  have hgrown : (N.render (fill g.1 g.2 (fillAll (before ++ f :: between) ps))).length ≤ size := by
    have hfill := length_render_fill N g.1 g.2 (fillAll (before ++ f :: between) ps)
    have hmore := Nat.mul_le_mul_right
      ((N.render g.2).length - (N.placeholder g.1).length) hless
    rw [Nat.mul_sub] at hmore
    omega
  intro ts hts
  rw [stages_append, stages_append, List.mem_append, List.mem_append] at hts
  rcases hts with (hts | hts) | hts
  · exact (hbefore.length_stages ts hts).trans hps
  · exact (hshort.length_stages ts hts).trans (hlen.trans hps)
  · rcases List.mem_cons.mp hts with heq | hts
    · rw [heq]
      exact hgrown
    · exact (hafter.length_stages ts hts).trans hgrown

end fill

end Template
