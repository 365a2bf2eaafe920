import RelayBoard.Framework.Template
import RelayBoard.Web.Placeholders

/-! # Placeholders of Templates

  The strings that `replace_placeholder` of `main/web.c` builds on the way, and what
  the loops do on templates: the page that is left is the filled template, and no string
  on the way is longer than the longer one of its two ends.
-/

open CString Template

namespace Web

/-! ### Strings on the Way -/

/-- The strings that `replace_placeholder` builds in at most `fuel` turns. -/
def replaceTurns (placeholder value : CStr) : Nat → CStr → List CStr
  | 0, _ => []
  | fuel + 1, htmlOutput =>
      match strstr placeholder htmlOutput with
      | none => []
      | some pos =>
          let html := htmlOutput.take (htmlOutput.length - pos.length) ++ value ++
            pos.drop placeholder.length
          html :: replaceTurns placeholder value fuel html

/-- The strings that calls of `replace_placeholder` build one after another. -/
def turnsIn (fuel : Nat) : List (CStr × CStr) → CStr → List CStr
  | [], _ => []
  | (placeholder, value) :: rest, htmlOutput =>
      replaceTurns placeholder value fuel htmlOutput ++
        match replacePlaceholder placeholder value fuel htmlOutput with
        | none => []
        | some htmlOutput => turnsIn fuel rest htmlOutput

variable {placeholder value htmlOutput page : CStr} {vars : List (CStr × CStr)}
  {fuel fuel' : Nat}

theorem replaceTurns_of_firstAt {before after : CStr}
    (h : FirstAt placeholder htmlOutput before after) (fuel : Nat) :
    replaceTurns placeholder value (fuel + 1) htmlOutput =
      (before ++ value ++ after) ::
        replaceTurns placeholder value fuel (before ++ value ++ after) := by
  have hbefore : htmlOutput.take (htmlOutput.length - (placeholder ++ after).length) =
      before := by
    rw [h.split, List.append_assoc, List.length_append, Nat.add_sub_cancel, List.take_left]
  conv_lhs => unfold replaceTurns
  rw [h.strstr]
  dsimp only
  rw [hbefore, List.drop_left]

theorem replaceTurns_of_absent (h : ¬ placeholder <:+: htmlOutput) (fuel : Nat) :
    replaceTurns placeholder value fuel htmlOutput = [] := by
  cases fuel with
  | zero => rfl
  | succ fuel =>
      unfold replaceTurns
      rw [strstr_eq_none_iff.mpr h]

/-- More turns than the loop needs build nothing else. -/
theorem replaceTurns_mono (hle : fuel ≤ fuel')
    (h : replacePlaceholder placeholder value fuel htmlOutput = some page) :
    replaceTurns placeholder value fuel' htmlOutput =
      replaceTurns placeholder value fuel htmlOutput := by
  induction fuel generalizing fuel' htmlOutput with
  | zero => cases h
  | succ fuel ih =>
      obtain ⟨fuel', rfl⟩ : ∃ n, fuel' = n + 1 := ⟨fuel' - 1, by omega⟩
      by_cases hin : placeholder <:+: htmlOutput
      · obtain ⟨before, after, hfirst⟩ := exists_firstAt hin
        rw [replacePlaceholder_of_firstAt hfirst] at h
        rw [replaceTurns_of_firstAt hfirst, replaceTurns_of_firstAt hfirst,
          ih (by omega) h]
      · rw [replaceTurns_of_absent hin, replaceTurns_of_absent hin]

theorem turnsIn_mono (hle : fuel ≤ fuel') (h : replaceAllIn fuel vars htmlOutput = some page) :
    turnsIn fuel' vars htmlOutput = turnsIn fuel vars htmlOutput := by
  induction vars generalizing htmlOutput with
  | nil => rfl
  | cons v vars ih =>
      unfold replaceAllIn at h
      split at h
      · cases h
      · next next hturns =>
          unfold turnsIn
          rw [hturns, replacePlaceholder_mono hle hturns, replaceTurns_mono hle hturns]
          dsimp only
          rw [ih h]

/-- Calls one after another, and more calls behind them. -/
theorem replaceAllIn_append (h : replaceAllIn fuel vars htmlOutput = some page)
    (more : List (CStr × CStr)) :
    replaceAllIn fuel (vars ++ more) htmlOutput = replaceAllIn fuel more page ∧
      turnsIn fuel (vars ++ more) htmlOutput =
        turnsIn fuel vars htmlOutput ++ turnsIn fuel more page := by
  induction vars generalizing htmlOutput with
  | nil =>
      cases h
      exact ⟨rfl, rfl⟩
  | cons v vars ih =>
      unfold replaceAllIn at h
      split at h
      · cases h
      · next next hturns =>
          obtain ⟨hreplace, hturnsIn⟩ := ih h
          obtain ⟨placeholder, value⟩ := v
          simp only [List.cons_append, replaceAllIn, turnsIn, hturns, hreplace, hturnsIn,
            List.append_assoc, and_self]

/-! ### Loops on a Template -/

section template
variable {H : Type} [DecidableEq H] {N : Names H} {ps vs : List (Piece H)} {h : H}
  {fs : List (H × List (Piece H))}

/-- The loop fills the holes of its placeholder. -/
theorem replacePlaceholder_render (hps : Tidy ps) (hvs : Tidy vs) (hfree : holes h vs = 0)
    (hfuel : holes h ps < fuel) :
    replacePlaceholder (N.placeholder h) (N.render vs) fuel (N.render ps) =
      some (N.render (fill h vs ps)) := by
  induction fuel generalizing ps with
  | zero => exact absurd hfuel (Nat.not_lt_zero _)
  | succ fuel ih =>
      by_cases hpos : holes h ps = 0
      · have hnone : .hole h ∉ ps := holes_eq_zero_iff.mp hpos
        rw [replacePlaceholder_of_absent (not_within_render hps hnone), fill_of_no_hole hnone]
      · obtain ⟨before, after, ps', hfirst, hrender, htidy, hless, hfill⟩ :=
          exists_fill_one (N := N) hps hvs hfree hpos
        rw [replacePlaceholder_of_firstAt hfirst, ← hrender, ih htidy (by omega), hfill]

/-- No string on the way is longer than both ends. -/
theorem replaceTurns_le_iff (hps : Tidy ps) (hvs : Tidy vs) (hfree : holes h vs = 0)
    (hfuel : holes h ps ≤ fuel) {size : Nat} (hstart : (N.render ps).length ≤ size) :
    (∀ s ∈ replaceTurns (N.placeholder h) (N.render vs) fuel (N.render ps), s.length ≤ size) ↔
      (N.render (fill h vs ps)).length ≤ size := by
  induction fuel generalizing ps with
  | zero =>
      have hnone : .hole h ∉ ps := holes_eq_zero_iff.mp (by omega)
      rw [fill_of_no_hole hnone]
      exact ⟨fun _ => hstart, fun _ s hs => absurd hs List.not_mem_nil⟩
  | succ fuel ih =>
      by_cases hpos : holes h ps = 0
      · have hnone : .hole h ∉ ps := holes_eq_zero_iff.mp hpos
        rw [replaceTurns_of_absent (not_within_render hps hnone), fill_of_no_hole hnone]
        exact ⟨fun _ => hstart, fun _ s hs => absurd hs List.not_mem_nil⟩
      · obtain ⟨before, after, ps', hfirst, hrender, htidy, hless, hfill⟩ :=
          exists_fill_one (N := N) hps hvs hfree hpos
        rw [replaceTurns_of_firstAt hfirst, ← hrender, List.forall_mem_cons]
        have hrest := ih htidy (by omega)
        rw [hfill] at hrest
        -- one turn changes the length the same way as all of them
        have hone : (N.render ps').length + (N.placeholder h).length =
            (N.render ps).length + (N.render vs).length := by
          rw [hrender, hfirst.split]
          simp only [List.length_append]
          omega
        have hmore := length_render_fill N h vs ps'
        rw [hfill] at hmore
        constructor
        · exact fun hturns => (hrest hturns.1).mp hturns.2
        · intro hend
          have hturn : (N.render ps').length ≤ size := by
            rcases Nat.le_total (N.render vs).length (N.placeholder h).length with hle | hle
            · omega
            · have := Nat.mul_le_mul_left (holes h ps') hle
              omega
          exact ⟨hturn, (hrest hturn).mpr hend⟩

/-- Fillings as placeholders and values. -/
def templateVars (N : Names H) (fs : List (H × List (Piece H))) : List (CStr × CStr) :=
  fs.map fun f => (N.placeholder f.1, N.render f.2)

/-- Turns enough for every loop. -/
def turnsNeeded : List (H × List (Piece H)) → List (Piece H) → Nat
  | [], _ => 0
  | f :: fs, ps => max (holes f.1 ps + 1) (turnsNeeded fs (fill f.1 f.2 ps))

omit [DecidableEq H] in
theorem templateVars_append {gs : List (H × List (Piece H))} :
    templateVars N (fs ++ gs) = templateVars N fs ++ templateVars N gs :=
  List.map_append

theorem turnsNeeded_le (hclosed : Closed fs fs) {n : Nat} (hn : ∀ f ∈ fs, holes f.1 ps < n) :
    turnsNeeded fs ps ≤ n := by
  induction fs generalizing ps with
  | nil => exact Nat.zero_le _
  | cons f fs ih =>
      have hrest := @ih (fill f.1 f.2 ps)
        (fun g hg k hk => hclosed g (List.mem_cons_of_mem _ hg) k (List.mem_cons_of_mem _ hk))
        fun g hg => Nat.lt_of_le_of_lt
          (holes_fill_le (hclosed f List.mem_cons_self g (List.mem_cons_of_mem _ hg)))
          (hn g (List.mem_cons_of_mem _ hg))
      exact Nat.max_le.mpr ⟨hn f List.mem_cons_self, hrest⟩

theorem replaceAllIn_render (hps : Tidy ps) (hfs : Fair fs) (hfuel : turnsNeeded fs ps ≤ fuel) :
    replaceAllIn fuel (templateVars N fs) (N.render ps) = some (N.render (fillAll fs ps)) := by
  induction fs generalizing ps with
  | nil => rfl
  | cons f fs ih =>
      obtain ⟨hf, hrest⟩ := List.forall_mem_cons.mp hfs
      unfold turnsNeeded at hfuel
      show replaceAllIn fuel ((N.placeholder f.1, N.render f.2) :: templateVars N fs) (N.render ps) = _
      unfold replaceAllIn
      rw [replacePlaceholder_render hps hf.1 hf.2 (by omega)]
      exact ih (hps.fill hf.1) hrest (by omega)

/-- The strings on the way fit where the template after each name does. -/
theorem turnsIn_le_iff (hps : Tidy ps) (hfs : Fair fs) (hfuel : turnsNeeded fs ps ≤ fuel)
    {size : Nat} (hstart : (N.render ps).length ≤ size) :
    (∀ s ∈ turnsIn fuel (templateVars N fs) (N.render ps), s.length ≤ size) ↔
      ∀ qs ∈ stages fs ps, (N.render qs).length ≤ size := by
  induction fs generalizing ps with
  | nil =>
      constructor
      · exact fun _ qs hqs => absurd hqs List.not_mem_nil
      · exact fun _ s hs => absurd hs List.not_mem_nil
  | cons f fs ih =>
      obtain ⟨hf, hrest⟩ := List.forall_mem_cons.mp hfs
      unfold turnsNeeded at hfuel
      have hturns := replaceTurns_le_iff (N := N) hps hf.1 hf.2
        (show holes f.1 ps ≤ fuel by omega) hstart
      show (∀ s ∈ turnsIn fuel ((N.placeholder f.1, N.render f.2) :: templateVars N fs)
        (N.render ps), s.length ≤ size) ↔ ∀ qs ∈ fill f.1 f.2 ps :: stages fs (fill f.1 f.2 ps), _
      unfold turnsIn
      rw [replacePlaceholder_render hps hf.1 hf.2 (by omega), List.forall_mem_append,
        List.forall_mem_cons, hturns]
      apply and_congr_right
      intro hstage
      exact ih (hps.fill hf.1) hrest (by omega) hstage

end template

end Web
