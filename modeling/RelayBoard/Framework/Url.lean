import Mathlib.Data.List.Induction
import RelayBoard.Framework.CString

/-! # URLs

  URLs with an authority, as text and by their parts, and what the URL Standard makes of
  the segments of a path.

  - A well-formed URL is read back from its text.
  - A path without dot segments is its own resolution, and directories resolve without
    regard to the file in them.
-/

open CString

namespace Url

/-! ### Text -/

/-- The parts of `scheme://authority`, a path by its segments, a query and a fragment. -/
structure Parts where
  scheme : CStr
  authority : CStr
  /-- Empty for a URL without a path; `[[]]` is the path `/`. -/
  path : List CStr
  query : Option CStr
  fragment : Option CStr
  deriving DecidableEq

/-- Every segment behind its slash. -/
def pathText (path : List CStr) : CStr := path.flatMap ('/' :: ·)

/-- A part and the character in front of it. -/
def partText (mark : Char) : Option CStr → CStr
  | none => []
  | some part => mark :: part

/-- What follows the path. -/
def Parts.tail (p : Parts) : CStr := partText '?' p.query ++ partText '#' p.fragment

/-- `scheme://authority`. -/
def Parts.origin (p : Parts) : CStr := p.scheme ++ "://".toList ++ p.authority

def Parts.text (p : Parts) : CStr := p.origin ++ (pathText p.path ++ p.tail)

/-- The segments of a path. -/
def pathSegments : CStr → List CStr
  | [] => []
  | c :: s => if c = '/' then s.splitOn '/' else (c :: s).splitOn '/'

/-- The query and the fragment. -/
def splitTail (s : CStr) : Option CStr × Option CStr :=
  let query := if s.head? = some '?' then some ((s.drop 1).takeWhile fun c => c ≠ '#') else none
  let fragment := s.dropWhile fun c => c ≠ '#'
  (query, if fragment = [] then none else some (fragment.drop 1))

/-- A text by its parts, if it has the form `scheme://…`. -/
def split (s : CStr) : Option Parts :=
  let scheme := s.takeWhile fun c => c ≠ ':'
  let rest := s.dropWhile fun c => c ≠ ':'
  if rest.take 3 ≠ "://".toList then none
  else
    let rest := rest.drop 3
    let authority := rest.takeWhile fun c => c ∉ ['/', '?', '#']
    let rest := rest.dropWhile fun c => c ∉ ['/', '?', '#']
    let path := rest.takeWhile fun c => c ∉ ['?', '#']
    let (query, fragment) := splitTail (rest.dropWhile fun c => c ∉ ['?', '#'])
    some ⟨scheme, authority, pathSegments path, query, fragment⟩

/-! ### Well-Formed URLs -/

/-- The characters of URLs: unreserved and reserved ones, and `%`. -/
def isUrlChar (c : Char) : Bool := c.isAlphanum || "-._~:/?#[]@!$&'()*+,;=%".toList.contains c

def isSchemeChar (c : Char) : Bool := c.isAlphanum || "+-.".toList.contains c

/-- The characters of a host or a segment. -/
def isPartChar (c : Char) : Bool := isUrlChar c && c ∉ ['/', '?', '#']

/-- A scheme that starts with a letter, a host, and no part with a character that ends it. -/
structure Parts.WellFormed (p : Parts) : Prop where
  scheme_start : p.scheme.head?.any Char.isAlpha = true
  scheme_chars : p.scheme.all isSchemeChar = true
  authority_ne : p.authority ≠ []
  authority_chars : p.authority.all isPartChar = true
  path_chars : p.path.all (fun seg => seg.all isPartChar) = true
  query_chars : (p.query.getD []).all (fun c => isUrlChar c && c ≠ '#') = true
  fragment_chars : (p.fragment.getD []).all isUrlChar = true

instance (p : Parts) : Decidable p.WellFormed :=
  decidable_of_iff
    (p.scheme.head?.any Char.isAlpha = true ∧ p.scheme.all isSchemeChar = true ∧
      p.authority ≠ [] ∧ p.authority.all isPartChar = true ∧
      p.path.all (fun seg => seg.all isPartChar) = true ∧
      (p.query.getD []).all (fun c => isUrlChar c && c ≠ '#') = true ∧
      (p.fragment.getD []).all isUrlChar = true)
    ⟨fun h => ⟨h.1, h.2.1, h.2.2.1, h.2.2.2.1, h.2.2.2.2.1, h.2.2.2.2.2.1, h.2.2.2.2.2.2⟩,
      fun h => ⟨h.1, h.2, h.3, h.4, h.5, h.6, h.7⟩⟩

theorem not_mem_ends {part : CStr} (h : part.all isPartChar = true) {c : Char} (hc : c ∈ part) :
    c ∉ ['/', '?', '#'] := by
  have hchar := List.all_eq_true.mp h c hc
  unfold isPartChar at hchar
  exact of_decide_eq_true (Bool.and_eq_true_iff.mp hchar).2

namespace Parts.WellFormed
variable {p : Parts} (h : p.WellFormed)
include h

theorem not_mem_scheme {c : Char} (hc : isSchemeChar c = false) : c ∉ p.scheme := by
  intro hmem
  rw [List.all_eq_true.mp h.scheme_chars c hmem] at hc
  exact absurd hc (by decide)

theorem not_mem_authority {c : Char} (hc : c ∈ ['/', '?', '#']) : c ∉ p.authority :=
  fun hmem => not_mem_ends h.authority_chars hmem hc

theorem not_mem_segment {seg : CStr} (hseg : seg ∈ p.path) {c : Char}
    (hc : c ∈ ['/', '?', '#']) : c ∉ seg :=
  fun hmem => not_mem_ends (List.all_eq_true.mp h.path_chars seg hseg) hmem hc

theorem not_mem_query : '#' ∉ p.query.getD [] := by
  intro hmem
  have hchar := List.all_eq_true.mp h.query_chars '#' hmem
  exact absurd hchar (by decide)

end Parts.WellFormed

/-! ### Reading Back -/

/-- A text up to the first character that is not let through. -/
theorem takeWhile_dropWhile_append {l r : CStr} {p : Char → Bool} (hl : ∀ c ∈ l, p c = true)
    (hr : ∀ c ∈ r.head?, p c = false) :
    (l ++ r).takeWhile p = l ∧ (l ++ r).dropWhile p = r := by
  rw [List.takeWhile_append_of_pos hl, List.dropWhile_append_of_pos hl]
  cases r with
  | nil => simp
  | cons c r =>
      have hc : p c = false := hr c rfl
      simp [hc]

theorem head?_partText {mark c : Char} {part : Option CStr}
    (h : c ∈ (partText mark part).head?) : c = mark := by
  cases part with
  | none => cases h
  | some part => exact (Option.some.inj h).symm

theorem head?_tail {p : Parts} {c : Char} (h : c ∈ p.tail.head?) : c = '?' ∨ c = '#' := by
  unfold Parts.tail at h
  cases hq : p.query with
  | none =>
      rw [hq] at h
      exact .inr (head?_partText h)
  | some q =>
      rw [hq] at h
      exact .inl (Option.some.inj h).symm

theorem pathText_append (path path' : List CStr) :
    pathText (path ++ path') = pathText path ++ pathText path' :=
  List.flatMap_append

@[simp] theorem pathText_singleton (seg : CStr) : pathText [seg] = '/' :: seg := by
  simp [pathText]

theorem mem_pathText {path : List CStr} {c : Char} (h : c ∈ pathText path) :
    c = '/' ∨ ∃ seg ∈ path, c ∈ seg := by
  obtain ⟨seg, hseg, hc⟩ := List.mem_flatMap.mp h
  rcases List.mem_cons.mp hc with rfl | hc
  · exact .inl rfl
  · exact .inr ⟨seg, hseg, hc⟩

/-- Segments without slashes are read back. -/
theorem pathSegments_pathText {path : List CStr} (h : ∀ seg ∈ path, '/' ∉ seg) :
    pathSegments (pathText path) = path := by
  cases path with
  | nil => rfl
  | cons seg path =>
      show List.splitOn '/' (seg ++ pathText path) = seg :: path
      induction path generalizing seg with
      | nil =>
          show List.splitOn '/' (seg ++ []) = [seg]
          rw [List.append_nil]
          exact List.splitOn_eq_singleton (h seg List.mem_cons_self)
      | cons next path ih =>
          show List.splitOn '/' (seg ++ '/' :: (next ++ pathText path)) = _
          rw [List.splitOn_append_cons_self_of_not_mem (h seg List.mem_cons_self), ih]
          exact fun s hs => h s (List.mem_cons_of_mem _ hs)

theorem splitTail_tail {p : Parts} (h : '#' ∉ p.query.getD []) :
    splitTail p.tail = (p.query, p.fragment) := by
  have hstop : ∀ c ∈ (partText '#' p.fragment).head?, decide (c ≠ '#') = false := by
    intro c hc
    simp [head?_partText hc]
  have hfragment : (if partText '#' p.fragment = [] then none
      else some ((partText '#' p.fragment).drop 1)) = p.fragment := by
    cases p.fragment <;> simp [partText]
  cases hq : p.query with
  | none =>
      have htail : p.tail = [] ++ partText '#' p.fragment := by simp [Parts.tail, partText, hq]
      -- the fragment is no query
      have hnone : (partText '#' p.fragment).head? ≠ some '?' := fun hmark =>
        absurd (head?_partText hmark) (by decide)
      obtain ⟨_, hdrop⟩ :=
        takeWhile_dropWhile_append (l := []) (fun c hc => absurd hc List.not_mem_nil) hstop
      unfold splitTail
      dsimp only
      rw [htail, hdrop, hfragment, List.nil_append, if_neg hnone]
  | some q =>
      have htail : p.tail = '?' :: q ++ partText '#' p.fragment := by
        simp [Parts.tail, partText, hq]
      rw [hq] at h
      have hquery : ∀ c ∈ q, decide (c ≠ '#') = true := fun c hc =>
        decide_eq_true fun heq => h (heq ▸ hc)
      have hmark : ∀ c ∈ '?' :: q, decide (c ≠ '#') = true :=
        List.forall_mem_cons.mpr ⟨by decide, hquery⟩
      obtain ⟨_, hdrop⟩ := takeWhile_dropWhile_append hmark hstop
      obtain ⟨htake, _⟩ := takeWhile_dropWhile_append hquery hstop
      have hhead : ('?' :: q ++ partText '#' p.fragment).head? = some '?' := rfl
      unfold splitTail
      dsimp only
      rw [htail, hdrop, hfragment, if_pos hhead, List.cons_append, List.drop_one, List.tail_cons,
        htake]

/-- A well-formed URL is read back from its text. -/
theorem split_text {p : Parts} (h : p.WellFormed) : split p.text = some p := by
  -- no part holds the character that ends it
  have hscheme : ∀ c ∈ p.scheme, decide (c ≠ ':') = true := fun c hc =>
    decide_eq_true fun heq => h.not_mem_scheme (by decide) (heq ▸ hc)
  have hauthority : ∀ c ∈ p.authority, decide (c ∉ ['/', '?', '#']) = true := fun c hc =>
    decide_eq_true (not_mem_ends h.authority_chars hc)
  have hpath : ∀ c ∈ pathText p.path, decide (c ∉ ['?', '#']) = true := by
    intro c hc
    refine decide_eq_true fun hmem => ?_
    rcases mem_pathText hc with rfl | ⟨seg, hseg, hcs⟩
    · exact absurd hmem (by decide)
    · exact h.not_mem_segment hseg (List.mem_cons_of_mem _ hmem) hcs
  -- and each part is followed by the character that ends it, or by nothing
  have htail : ∀ c ∈ p.tail.head?, decide (c ∉ ['?', '#']) = false := by
    intro c hc
    rcases head?_tail hc with rfl | rfl <;> decide
  have hrest : ∀ c ∈ (pathText p.path ++ p.tail).head?,
      decide (c ∉ ['/', '?', '#']) = false := by
    intro c hc
    cases hp : p.path with
    | nil =>
        rw [hp] at hc
        rcases head?_tail hc with rfl | rfl <;> decide
    | cons seg path =>
        rw [hp] at hc
        cases hc
        decide
  have hcolon : ∀ c ∈ ("://".toList ++ (p.authority ++ (pathText p.path ++ p.tail))).head?,
      decide (c ≠ ':') = false := by
    intro c hc
    cases hc
    rfl
  have htext : p.text =
      p.scheme ++ ("://".toList ++ (p.authority ++ (pathText p.path ++ p.tail))) := by
    simp only [Parts.text, Parts.origin, List.append_assoc]
  obtain ⟨h₁, h₂⟩ := takeWhile_dropWhile_append hscheme hcolon
  obtain ⟨h₃, h₄⟩ := takeWhile_dropWhile_append hauthority hrest
  obtain ⟨h₅, h₆⟩ := takeWhile_dropWhile_append hpath htail
  have hsegments : ∀ seg ∈ p.path, '/' ∉ seg := fun seg hseg =>
    h.not_mem_segment hseg List.mem_cons_self
  have hmark : ∀ s : CStr, ("://".toList ++ s).take 3 = "://".toList ∧
      ("://".toList ++ s).drop 3 = s := fun s => ⟨rfl, rfl⟩
  -- every cut of the text is at the end of a part
  unfold split
  dsimp only
  rw [htext, h₁, h₂, if_neg (not_not.mpr (hmark _).1), (hmark _).2, h₃, h₄, h₅, h₆,
    splitTail_tail h.not_mem_query, pathSegments_pathText hsegments]

/-! ### Dot Segments -/

/-- `.`, also encoded. -/
def isSingleDot (seg : CStr) : Bool :=
  [".".toList, "%2e".toList].contains (seg.map Char.toLower)

/-- `..`, also encoded. -/
def isDoubleDot (seg : CStr) : Bool :=
  ["..".toList, ".%2e".toList, "%2e.".toList, "%2e%2e".toList].contains (seg.map Char.toLower)

/-- One more segment of a path. -/
def pathStep (path : List CStr) (seg : CStr) : List CStr :=
  if isDoubleDot seg then path.dropLast
  else if isSingleDot seg then path
  else path ++ [seg]

/-- The directory that segments lead to. -/
def resolveDirs (segs : List CStr) : List CStr := segs.foldl pathStep []

/-- A path without its dot segments; one at the end leaves a slash. -/
def resolvePath (segs : List CStr) : List CStr :=
  match segs.getLast? with
  | none => []
  | some file => resolveDirs segs ++ (if isDoubleDot file || isSingleDot file then [[]] else [])

theorem resolveDirs_append_singleton (dirs : List CStr) (seg : CStr) :
    resolveDirs (dirs ++ [seg]) = pathStep (resolveDirs dirs) seg :=
  List.foldl_append

theorem resolvePath_append_singleton (dirs : List CStr) (file : CStr) :
    resolvePath (dirs ++ [file]) = pathStep (resolveDirs dirs) file ++
      (if isDoubleDot file || isSingleDot file then [[]] else []) := by
  unfold resolvePath
  rw [List.getLast?_concat, resolveDirs_append_singleton]

/-- Directories are made of segments that are no dots. -/
theorem mem_resolveDirs {dirs : List CStr} {seg : CStr} (h : seg ∈ resolveDirs dirs) :
    seg ∈ dirs ∧ isDoubleDot seg = false ∧ isSingleDot seg = false := by
  induction dirs using List.reverseRecOn with
  | nil => cases h
  | append_singleton dirs last ih =>
      rw [resolveDirs_append_singleton] at h
      unfold pathStep at h
      split at h
      · exact (ih ((List.dropLast_sublist _).subset h)).imp_left (List.mem_append_left _)
      split at h
      · exact (ih h).imp_left (List.mem_append_left _)
      next hdouble hsingle =>
      rcases List.mem_append.mp h with h | h
      · exact (ih h).imp_left (List.mem_append_left _)
      · rw [List.mem_singleton] at h
        subst h
        exact ⟨List.mem_append_right _ List.mem_cons_self, eq_false_of_ne_true hdouble,
          eq_false_of_ne_true hsingle⟩

/-- Segments that are no dots lead to themselves. -/
theorem resolveDirs_of_no_dots {dirs : List CStr}
    (h : ∀ seg ∈ dirs, isDoubleDot seg = false ∧ isSingleDot seg = false) :
    resolveDirs dirs = dirs := by
  induction dirs using List.reverseRecOn with
  | nil => rfl
  | append_singleton dirs last ih =>
      obtain ⟨hdouble, hsingle⟩ := h last (List.mem_append_right _ List.mem_cons_self)
      rw [resolveDirs_append_singleton, ih fun s hs => h s (List.mem_append_left _ hs)]
      unfold pathStep
      rw [hdouble, hsingle]
      rfl

/-- A file that is no dots stays where the directories lead to. -/
theorem resolvePath_file {dirs : List CStr} {file : CStr} (hdouble : isDoubleDot file = false)
    (hsingle : isSingleDot file = false) :
    resolvePath (dirs ++ [file]) = resolveDirs dirs ++ [file] := by
  rw [resolvePath_append_singleton]
  unfold pathStep
  rw [hdouble, hsingle]
  simp

/-- The directory of a path is the one in front of its last segment, unless that leads
    out of it. -/
theorem dropLast_resolvePath (dirs : List CStr) (file : CStr) :
    (resolvePath (dirs ++ [file])).dropLast =
      if isDoubleDot file then (resolveDirs dirs).dropLast else resolveDirs dirs := by
  rw [resolvePath_append_singleton]
  unfold pathStep
  by_cases hdouble : isDoubleDot file = true
  · simp [hdouble]
  · by_cases hsingle : isSingleDot file = true
    · simp [hdouble, hsingle]
    · simp [hdouble, hsingle]

theorem mem_resolvePath {segs : List CStr} {seg : CStr} (h : seg ∈ resolvePath segs) :
    seg ∈ segs ∨ seg = [] := by
  unfold resolvePath at h
  split at h
  · cases h
  rcases List.mem_append.mp h with h | h
  · exact .inl (mem_resolveDirs h).1
  · split at h
    · exact .inr (List.mem_singleton.mp h)
    · cases h

/-! ### URL Records -/

/-- The special schemes: their URLs have a path. -/
def isSpecial (scheme : CStr) : Bool :=
  ["ftp".toList, "file".toList, "http".toList, "https".toList, "ws".toList,
    "wss".toList].contains scheme

/-- The path of a record. -/
def recordPath (scheme : CStr) (segs : List CStr) : List CStr :=
  if segs = [] ∧ isSpecial scheme = true then [[]] else resolvePath segs

/-- The query of a record. -/
def recordQuery (scheme query : CStr) : CStr :=
  if isSpecial scheme then
    query.flatMap fun c => if c = Char.ofNat 39 then "%27".toList else [c]
  else query

/-- What is left open of a browser's URL parser. -/
structure Browser where
  /-- The credentials, the host and the port under a scheme; `none` refuses them. -/
  authority : CStr → CStr → Option CStr
  /-- Texts of other forms: relative ones, those with characters to encode, files. -/
  other : CStr → Option Parts

/-- `new URL`. -/
def Browser.newUrl (browser : Browser) (text : CStr) : Option Parts :=
  match split text with
  | none => browser.other text
  | some p =>
      let scheme := p.scheme.map Char.toLower
      if p.WellFormed ∧ scheme ≠ "file".toList then
        (browser.authority scheme p.authority).map fun host =>
          ⟨scheme, host, recordPath scheme p.path, p.query.map (recordQuery scheme), p.fragment⟩
      else browser.other text

/-- `pathname`. -/
def Parts.pathname (p : Parts) : CStr := pathText p.path

/-- `pathname = …`, of a text with no characters to encode. -/
def Parts.setPathname (p : Parts) (pathname : CStr) : Parts :=
  { p with path := recordPath p.scheme (pathSegments pathname) }

theorem Browser.newUrl_text {browser : Browser} {p : Parts} {host : CStr} (h : p.WellFormed)
    (hfile : p.scheme.map Char.toLower ≠ "file".toList)
    (hhost : browser.authority (p.scheme.map Char.toLower) p.authority = some host) :
    browser.newUrl p.text = some ⟨p.scheme.map Char.toLower, host,
      recordPath (p.scheme.map Char.toLower) p.path,
      p.query.map (recordQuery (p.scheme.map Char.toLower)), p.fragment⟩ := by
  unfold Browser.newUrl
  rw [split_text h]
  dsimp only
  rw [if_pos ⟨h, hfile⟩, hhost]
  rfl

theorem recordPath_append_singleton (scheme : CStr) (dirs : List CStr) (file : CStr) :
    recordPath scheme (dirs ++ [file]) = resolvePath (dirs ++ [file]) :=
  if_neg fun h => absurd h.1 (List.append_ne_nil_of_right_ne_nil _ (List.cons_ne_nil _ _))

/-- The directory of a record has no dot segments. -/
theorem mem_dropLast_recordPath {scheme : CStr} {segs : List CStr} {seg : CStr}
    (h : seg ∈ (recordPath scheme segs).dropLast) :
    isDoubleDot seg = false ∧ isSingleDot seg = false := by
  induction segs using List.reverseRecOn with
  | nil =>
      unfold recordPath at h
      split at h <;> exact absurd h List.not_mem_nil
  | append_singleton dirs file _ =>
      rw [recordPath_append_singleton, dropLast_resolvePath] at h
      split at h
      · exact (mem_resolveDirs ((List.dropLast_sublist _).subset h)).2
      · exact (mem_resolveDirs h).2

/-- The segments of a record's path are those of the text, or empty. -/
theorem mem_recordPath {scheme : CStr} {segs : List CStr} {seg : CStr}
    (h : seg ∈ recordPath scheme segs) : seg ∈ segs ∨ seg = [] := by
  unfold recordPath at h
  split at h
  · exact .inr (List.mem_singleton.mp h)
  · exact mem_resolvePath h

end Url
