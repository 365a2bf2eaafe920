import RelayBoard.Mqtt.Topic

/-! # Splitting Topics

  `str_split` counts the delimiters first and checks the tokens of `strtok`
  against that count by assertions. The file determines for which topics of a
  data event the assertions hold, and what `get_element_from_path` returns.
-/

open CString

namespace MqttTopic

/-- The non-empty pieces between slashes. -/
def pathElements (path : CStr) : List CStr :=
  (path.splitOn '/').filter fun element => element ≠ []

/-- The assertions of `str_split` hold, and every element is found at its index. -/
def SplitsIntoElements (path : CStr) : Prop :=
  (∃ tokens count, strSplit path '/' = some (tokens, count)) ∧
    ∀ index : Int, getElementFromPath path index =
      some (if index < 0 then none else (pathElements path)[index.toNat]?)

/-- There is a character, none of the slashes comes first, and none follows another:
    only the last piece may be empty. -/
def SlashesSeparate (path : CStr) : Prop :=
  path ≠ [] ∧ [] ∉ (path.splitOn '/').dropLast

instance (path : CStr) : Decidable (SlashesSeparate path) :=
  inferInstanceAs (Decidable (_ ∧ _))

/-! ### Counting -/

/-- `str_split` does not abort exactly when it counts one more than the tokens. -/
theorem strSplit_eq_some_iff {path : CStr} {delim : Char} {tokens : List CStr} {count : Nat} :
    strSplit path delim = some (tokens, count) ↔
      tokens = strtokAll path delim ∧ count = (strtokAll path delim).length + 1 ∧
        count = path.count delim +
          (hasTrailingToken (countDelims delim path 0 (0, none)).2 path.length).toNat + 1 := by
  have hfst := countDelims_fst delim path 0 (0, none)
  have hstore := storeTokens_eq_some_iff (path.count delim +
    (hasTrailingToken (countDelims delim path 0 (0, none)).2 path.length).toNat + 1) 0
    (strtokAll path delim)
  simp only [strSplit, hfst, Nat.zero_add] at hstore ⊢
  cases hn : storeTokens (path.count delim +
      (hasTrailingToken (countDelims delim path 0 (0, none)).2 path.length).toNat + 1) 0
      (strtokAll path delim) with
  | none =>
      rw [hn] at hstore
      constructor
      · intro h
        cases h
      · rintro ⟨-, hlen, hcount⟩
        obtain ⟨n, hn'⟩ := hstore.mpr (hlen.symm.trans hcount)
        cases hn'
  | some n =>
      have hlen := hstore.mp ⟨n, hn⟩
      constructor
      · intro h
        cases h
        exact ⟨rfl, hlen.symm, rfl⟩
      · rintro ⟨rfl, -, rfl⟩
        rfl

/-- A path without a slash counts as one element. -/
theorem strSplit_no_slash {path : CStr} (h : '/' ∉ path) :
    (∃ tokens count, strSplit path '/' = some (tokens, count)) ↔ path ≠ [] := by
  have hcount := List.count_eq_zero_of_not_mem h
  have hlast := countDelims_not_mem h 0 (0, none)
  constructor
  · rintro ⟨tokens, count, hsplit⟩ rfl
    obtain ⟨-, hlen, hcount'⟩ := strSplit_eq_some_iff.mp hsplit
    -- the null pointer is below the end of the empty string
    have hone : count = 1 := hlen
    have htwo : count = 2 := hcount'
    omega
  · intro hne
    refine ⟨[path], 2, strSplit_eq_some_iff.mpr ?_⟩
    rw [strtokAll_word hne h, hcount, hlast]
    exact ⟨rfl, rfl, rfl⟩

/-- Behind the last slash, one more element is counted if there is one. -/
theorem strSplit_slash {path last : CStr} (h : '/' ∉ last) :
    (∃ tokens count, strSplit (path ++ '/' :: last) '/' = some (tokens, count)) ↔
      [] ∉ path.splitOn '/' := by
  have hpos : (countDelims '/' (path ++ '/' :: last) 0 (0, none)).2 = some path.length := by
    rw [countDelims_append, countDelims, if_pos rfl, countDelims_not_mem h, Nat.zero_add]
  have hcount : (path ++ '/' :: last).count '/' = path.count '/' + 1 := by
    rw [List.count_append, List.count_cons_self, List.count_eq_zero_of_not_mem h]
  have htrail : (hasTrailingToken (some path.length) (path ++ '/' :: last).length).toNat =
      (strtokAll last '/').length := by
    by_cases hlast : last = []
    · subst hlast
      simp [hasTrailingToken, strtokAll]
    · have := List.length_pos_iff.mpr hlast
      rw [strtokAll_word hlast h]
      simp [hasTrailingToken]
      omega
  rw [← length_strtokAll_eq_iff]
  constructor
  · rintro ⟨tokens, count, hsplit⟩
    obtain ⟨-, hlen, hcount'⟩ := strSplit_eq_some_iff.mp hsplit
    rw [strtokAll_append_cons, List.length_append] at hlen
    rw [hpos, hcount, htrail] at hcount'
    omega
  · intro hlen
    refine ⟨_, _, strSplit_eq_some_iff.mpr ⟨rfl, rfl, ?_⟩⟩
    rw [hpos, hcount, htrail, strtokAll_append_cons, List.length_append, hlen]

/-- A path is one element, or a path, a slash and one element. -/
theorem exists_last_element (path : CStr) :
    '/' ∉ path ∨ ∃ front last, path = front ++ '/' :: last ∧ '/' ∉ last := by
  induction path with
  | nil => exact .inl List.not_mem_nil
  | cons c path ih =>
      rcases ih with h | ⟨front, last, rfl, hlast⟩
      · by_cases hc : c = '/'
        · exact .inr ⟨[], path, by rw [hc]; rfl, h⟩
        · exact .inl (List.not_mem_cons_of_ne_of_not_mem (Ne.symm hc) h)
      · exact .inr ⟨c :: front, last, rfl, hlast⟩

/-- `str_split` does not abort exactly on the paths whose slashes separate. -/
theorem strSplit_iff (path : CStr) :
    (∃ tokens count, strSplit path '/' = some (tokens, count)) ↔ SlashesSeparate path := by
  rcases exists_last_element path with h | ⟨front, last, rfl, hlast⟩
  · rw [strSplit_no_slash h, SlashesSeparate, List.splitOn_eq_singleton h]
    simp
  · rw [strSplit_slash hlast, SlashesSeparate, List.splitOn_append_cons_self,
      List.splitOn_eq_singleton hlast, List.dropLast_concat]
    simp

/-! ### Main Theorem -/

/-- Where `str_split` does not abort, the elements are found at their index. -/
theorem getElementFromPath_of_split {path : CStr} {tokens : List CStr} {count : Nat}
    (hsplit : strSplit path '/' = some (tokens, count)) (index : Int) :
    getElementFromPath path index =
      some (if index < 0 then none else (pathElements path)[index.toNat]?) := by
  obtain ⟨htokens, hcount, -⟩ := strSplit_eq_some_iff.mp hsplit
  have helements : pathElements path = tokens := htokens.symm
  unfold getElementFromPath
  by_cases hneg : index < 0
  · rw [if_pos hneg, if_pos hneg]
  · rw [if_neg hneg, if_neg hneg, hsplit, helements]
    simp only
    rw [← htokens] at hcount
    by_cases hout : count ≤ index.toNat
    · rw [if_pos hout, List.getElem?_eq_none (by omega)]
    · rw [if_neg hout]
      cases htoken : tokens[index.toNat]? with
      | none => rfl
      | some token =>
          have hmem : token ∈ strtokAll path '/' := htokens ▸ List.mem_of_getElem? htoken
          have hne : token ≠ [] := of_decide_eq_true (List.mem_filter.mp hmem).2
          simp only
          rw [if_neg hne]

/-- **The splitter**: the assertions hold and the elements are found exactly for the
    paths whose slashes separate. -/
theorem splitsIntoElements_iff (path : CStr) :
    SplitsIntoElements path ↔ SlashesSeparate path := by
  constructor
  · intro h
    exact (strSplit_iff path).mp h.1
  · intro h
    have hsplit := (strSplit_iff path).mpr h
    refine ⟨hsplit, ?_⟩
    intro index
    obtain ⟨tokens, count, hsplit⟩ := hsplit
    exact getElementFromPath_of_split hsplit index

/-- The empty topic of a continuation fragment fails the second assertion. -/
theorem not_splitsIntoElements : ¬ ∀ topic : CStr, SplitsIntoElements topic := by
  intro h
  obtain ⟨tokens, count, hsplit⟩ := (h []).1
  cases hsplit

/-- A trailing slash is harmless, a leading or a repeated one is not. -/
example : SlashesSeparate "relays/id/set/".toList ∧ ¬ SlashesSeparate "/relays".toList ∧
    ¬ SlashesSeparate "relays//id".toList := by decide

end MqttTopic
