import RelayBoard.Web.StaticFiles

/-! # Static Paths

  The paths that `static_stream_handler` opens. The look-ahead of the loop that fills
  `mapped_name` is at characters of the URI, the name consists of mapped ones; no other
  character is mapped to a dot.
-/

open CString

namespace Web

/-! ### Names -/

/-- The character of a name for one of the URI: there are no directories in SPIFFS. -/
def slashToDash (c : Char) : Char := if c = '/' then '-' else c

/-- A name in the static name space. -/
structure IsStaticName (name : CStr) : Prop where
  nonempty : name ≠ []
  short : name.length ≤ 127
  symbols : ∀ c ∈ name, c.isAlphanum = true ∨ c = '-' ∨ c = '_' ∨ c = '.'
  no_dots : ¬ "..".toList <:+: name
  no_slash : '/' ∉ name

theorem slashToDash_eq_dot {c : Char} (h : slashToDash c = '.') : c = '.' := by
  unfold slashToDash at h
  split at h
  · exact absurd h (by decide)
  · exact h

theorem isNameSymbol_iff (c : Char) : isNameSymbol c = true ↔
    c.isAlphanum = true ∨ c = '-' ∨ c = '_' ∨ c = '.' := by
  unfold isNameSymbol
  simp [or_assoc]

/-! ### The Loop -/

/-- One turn of the loop that goes on. -/
theorem mapName_cons {n : Nat} {c : Char} {name mapped : CStr}
    (h : mapName (n + 1) (c :: name) = .ok mapped) :
    ¬ (c = '.' ∧ name.head? = some '.') ∧ isNameSymbol (slashToDash c) = true ∧
      ∃ more, mapName n name = .ok more ∧ mapped = slashToDash c :: more := by
  unfold mapName at h
  split at h
  · cases h
  · next hdots =>
      change (if isNameSymbol (slashToDash c) = false then _
        else (mapName n name).map (slashToDash c :: ·)) = _ at h
      split at h
      · cases h
      · next hsymbol =>
          rw [Bool.not_eq_false] at hsymbol
          refine ⟨hdots, hsymbol, ?_⟩
          cases hmore : mapName n name with
          | error sent =>
              rw [hmore] at h
              cases h
          | ok more =>
              rw [hmore] at h
              cases h
              exact ⟨more, rfl, rfl⟩

/-- The name is the text, mapped and cut. -/
theorem mapName_eq {n : Nat} {name mapped : CStr} (h : mapName n name = .ok mapped) :
    mapped = (name.take n).map slashToDash := by
  induction n generalizing name mapped with
  | zero =>
      cases h
      rfl
  | succ n ih =>
      cases name with
      | nil =>
          cases h
          rfl
      | cons c name =>
          obtain ⟨_, _, more, hmore, rfl⟩ := mapName_cons h
          rw [ih hmore]
          rfl

theorem mapName_symbols {n : Nat} {name mapped : CStr} (h : mapName n name = .ok mapped) :
    ∀ c ∈ mapped, isNameSymbol c = true := by
  induction n generalizing name mapped with
  | zero =>
      cases h
      simp
  | succ n ih =>
      cases name with
      | nil =>
          cases h
          simp
      | cons c name =>
          obtain ⟨_, hsymbol, more, hmore, rfl⟩ := mapName_cons h
          rw [List.forall_mem_cons]
          exact ⟨hsymbol, ih hmore⟩

/-- No two dots follow each other. -/
theorem mapName_no_dots {n : Nat} {name mapped : CStr} (h : mapName n name = .ok mapped) :
    ¬ "..".toList <:+: mapped := by
  induction n generalizing name mapped with
  | zero =>
      cases h
      decide
  | succ n ih =>
      cases name with
      | nil =>
          cases h
          decide
      | cons c name =>
          obtain ⟨hdots, _, more, hmore, rfl⟩ := mapName_cons h
          rw [List.infix_cons_iff, not_or]
          refine ⟨fun hpre => hdots ?_, ih hmore⟩
          -- dots at the front of the name are dots at the front of the text
          obtain ⟨hc, hpre⟩ : '.' = slashToDash c ∧ ['.'] <+: more :=
            List.cons_prefix_cons.mp hpre
          refine ⟨slashToDash_eq_dot hc.symm, ?_⟩
          rw [mapName_eq hmore] at hpre
          cases name with
          | nil => simp at hpre
          | cons d name =>
              cases n with
              | zero => simp at hpre
              | succ n =>
                  have hd : '.' = slashToDash d := (List.cons_prefix_cons.mp hpre).1
                  rw [List.head?_cons, slashToDash_eq_dot hd.symm]

/-- What the loop lets through is in the static name space. -/
theorem mapName_isStaticName {name mapped : CStr} (h : mapName 127 name = .ok mapped)
    (hne : mapped ≠ []) : IsStaticName mapped where
  nonempty := hne
  short := by
    rw [mapName_eq h, List.length_map, List.length_take]
    exact Nat.min_le_left _ _
  symbols := fun c hc => (isNameSymbol_iff c).mp (mapName_symbols h c hc)
  no_dots := mapName_no_dots h
  no_slash := fun hc => absurd (mapName_symbols h '/' hc) (by decide)

/-! ### The Path -/

/-- A path is made of a name that fits behind the prefix. -/
theorem staticPath_eq_ok {uri path : CStr} (h : staticPath uri = .ok path) :
    ∃ rest name, uri = "/static/".toList ++ rest ∧ mapName 127 rest = .ok name ∧
      name ≠ [] ∧ path = staticPathPrefix ++ name := by
  unfold staticPath at h
  split at h
  · cases h
  next hprefix =>
  rw [not_or, not_not] at hprefix
  have huri : uri = "/static/".toList ++ uri.drop 8 := by
    rw [← hprefix.1, List.take_append_drop]
  split at h
  · cases h
  · cases h
  next name hne hmap =>
  have hshort := (mapName_isStaticName hmap hne).short
  have hfits : (staticPathPrefix ++ name).length < 192 := by
    have hlen : staticPathPrefix.length = 15 := by decide
    rw [List.length_append, hlen]
    omega
  rw [snprintf_of_lt hfits] at h
  cases h
  exact ⟨uri.drop 8, name, huri, hmap, hne, rfl⟩

theorem staticPath_of_opened {env : StaticEnv} {uri path : CStr}
    (h : (staticStreamHandler env uri).opened = some path) : staticPath uri = .ok path := by
  unfold staticStreamHandler at h
  split at h
  · cases h
  next filepath hpath =>
  rw [hpath]
  split at h
  · cases h
    rfl
  · dsimp only at h
    split at h <;> cases h <;> rfl

/-- Every path that is opened is the prefix and a name in the static name space, and the
    name is what the URI has behind its own prefix. -/
theorem staticStreamHandler_opens {env : StaticEnv} {uri path : CStr}
    (h : (staticStreamHandler env uri).opened = some path) :
    ∃ rest name, uri = "/static/".toList ++ rest ∧ path = staticPathPrefix ++ name ∧
      name = (rest.take 127).map slashToDash ∧ IsStaticName name := by
  obtain ⟨rest, name, huri, hmap, hne, hpath⟩ :=
    staticPath_eq_ok (staticPath_of_opened h)
  exact ⟨rest, name, huri, hpath, mapName_eq hmap, mapName_isStaticName hmap hne⟩

/-- A file under a directory of the URI, with a single dot before a dash. -/
theorem staticStreamHandler_opens_nested :
    ∃ rest name, "/static/a./b.txt".toList = "/static/".toList ++ rest ∧
      "/spiffs/static-a.-b.txt".toList = staticPathPrefix ++ name ∧
      name = (rest.take 127).map slashToDash ∧ IsStaticName name := by
  have hopened : (staticStreamHandler ⟨fun _ => none, true, true⟩
      "/static/a./b.txt".toList).opened = some "/spiffs/static-a.-b.txt".toList := by
    decide +kernel
  exact staticStreamHandler_opens hopened

end Web
