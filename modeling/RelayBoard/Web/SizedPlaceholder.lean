import RelayBoard.Framework.Region
import RelayBoard.Web.Form

/-! # Placeholders in a Sized Buffer

  `replace_placeholder_sized` of `main/web.c`: every turn moves the rest of the text,
  copies the value in and checks the size of this one result. The file compares it with
  the replacement of all occurrences at once.
-/

open CString

namespace Web

/-! ### The Function -/

/-- The C string at the start of a region. -/
def cText (buf : List Char) : CStr := buf.takeWhile fun c => c ≠ nul

/-- `strnlen`. -/
def strnlen (buf : List Char) (maxLen : Nat) : Nat := (cText (buf.take maxLen)).length

/-- The loop from the offset `pos` on, in at most `fuel` turns; `none` is also a write
    outside the buffer. -/
def sizedLoop (cap : Nat) (placeholder value : CStr) :
    Nat → List Char → Nat → Option (EspErr × List Char)
  | 0, _, _ => none
  | fuel + 1, buf, pos =>
      match strstr placeholder (cText (buf.drop pos)) with
      | none => some (.ok, buf)
      | some found =>
          let curLen := strnlen buf cap
          if cap ≤ curLen then some (.invalidArg, buf)
          else
            let headOff := pos + ((cText (buf.drop pos)).length - found.length)
            if curLen < headOff + placeholder.length then some (.invalidArg, buf)
            else
              let tailLen := curLen - (headOff + placeholder.length)
              let newLen := curLen - placeholder.length + value.length
              if cap ≤ newLen then some (.noMem, buf)
              else
                match Region.move buf (headOff + value.length) (headOff + placeholder.length)
                    (tailLen + 1) with
                | none => none
                | some buf =>
                    match if 0 < value.length then Region.copyIn buf headOff value
                        else some buf with
                    | none => none
                    | some buf =>
                        sizedLoop cap placeholder value fuel buf (headOff + value.length)

/-- `replace_placeholder_sized` on pointers that may be null. -/
def replacePlaceholderSized (fuel : Nat) (buf : Option (List Char)) (cap : Nat)
    (placeholder value : Option CStr) : Option (EspErr × List Char) :=
  match buf, placeholder with
  | some buf, some placeholder =>
      if cap = 0 then some (.invalidArg, buf)
      else
        let value := value.getD []
        if placeholder.length = 0 then some (.invalidArg, buf)
        else if cap ≤ strnlen buf cap then some (.invalidArg, buf)
        else sizedLoop cap placeholder value fuel buf 0
  | buf, _ => some (.invalidArg, buf.getD [])

/-! ### One Turn -/

/-- A buffer of `cap` bytes with this text. -/
structure Holding (cap : Nat) (s : CStr) (buf : List Char) : Prop where
  length : buf.length = cap
  text : ∃ rest, buf = s ++ nul :: rest

variable {cap fuel : Nat} {placeholder value s head tail done rest : CStr} {buf : List Char}

theorem Holding.strnlen (h : Holding cap s buf) (hs : nul ∉ s) :
    strnlen buf cap = s.length ∧ s.length < cap := by
  obtain ⟨rest, rfl⟩ := h.text
  have hlen := h.length
  simp only [List.length_append, List.length_cons] at hlen
  unfold Web.strnlen cText
  rw [List.take_of_length_le (Nat.le_of_eq h.length), takeWhile_ne_append hs (.inr ⟨rest, rfl⟩)]
  exact ⟨rfl, by omega⟩

/-- The text behind an offset. -/
theorem Holding.cText_drop (h : Holding cap (done ++ rest) buf) (hrest : nul ∉ rest) :
    cText (buf.drop done.length) = rest := by
  obtain ⟨junk, rfl⟩ := h.text
  unfold cText
  rw [List.append_assoc, List.drop_left, takeWhile_ne_append hrest (.inr ⟨junk, rfl⟩)]

/-- Replacing one occurrence, where there is room for it. -/
theorem Holding.replace (h : Holding cap (head ++ (placeholder ++ tail)) buf)
    (hfit : head.length + value.length + tail.length < cap) :
    ∃ buf₁ buf₂, Region.move buf (head.length + value.length)
        (head.length + placeholder.length) (tail.length + 1) = some buf₁ ∧
      (if 0 < value.length then Region.copyIn buf₁ head.length value else some buf₁) =
        some buf₂ ∧ Holding cap (head ++ (value ++ tail)) buf₂ := by
  obtain ⟨junk, hbuf⟩ := h.text
  have heq : buf = head ++ (placeholder ++ ((tail ++ [nul]) ++ junk)) := by
    rw [hbuf]
    simp
  have hroom : head.length + value.length + (tail ++ [nul]).length ≤
      (head ++ (placeholder ++ ((tail ++ [nul]) ++ junk))).length := by
    rw [← heq, h.length, List.length_append, List.length_singleton]
    omega
  obtain ⟨buf₁, rest, hmove, hcopy⟩ := Region.copyIn_move hroom
  have hlen₁ := Region.length_move hmove
  rw [← heq, List.length_append, List.length_singleton] at hmove
  rw [← heq, h.length] at hlen₁
  refine ⟨buf₁, _, hmove, ?_, (Region.length_copyIn hcopy).trans hlen₁, rest, ?_⟩
  · split
    · exact hcopy
    · next hempty =>
        -- an empty value is not copied
        obtain rfl : value = [] := List.length_eq_zero_iff.mp (by omega)
        rw [← hcopy, Region.copyIn_nil (by rw [hlen₁, List.length_nil] at *; omega)]
  · simp

/-! ### The Loop -/

/-- What the function should leave behind for the text `final`. -/
structure Sized (cap : Nat) (final : CStr) (err : EspErr) (buf : List Char) : Prop where
  length : buf.length = cap
  ok_iff : err = .ok ↔ final.length < cap
  holds : err = .ok → Holding cap final buf
  no_mem : err ≠ .ok → err = .noMem

/-- One occurrence too many stays one too many: the value is longer than the placeholder. -/
theorem length_replaceAll_of_full (hne : placeholder ≠ [])
    (hbefore : head.length + placeholder.length + tail.length < cap)
    (hafter : cap ≤ head.length + value.length + tail.length) :
    cap ≤ head.length + value.length + (replaceAll placeholder value tail).length := by
  have htail : tail.length ≤ (replaceAll placeholder value tail).length :=
    length_le_replaceAll hne (by omega) tail
  omega

theorem sizedLoop_spec (hne : placeholder ≠ []) (hvalue : nul ∉ value)
    (hbuf : Holding cap (done ++ rest) buf) (hdone : nul ∉ done) (hrest : nul ∉ rest)
    (hfuel : rest.length < fuel) :
    ∃ err buf', sizedLoop cap placeholder value fuel buf done.length = some (err, buf') ∧
      Sized cap (done ++ replaceAll placeholder value rest) err buf' := by
  -- induction on the turns; every turn shortens the text behind the offset
  induction fuel generalizing done rest buf with
  | zero => exact absurd hfuel (Nat.not_lt_zero _)
  | succ fuel ih =>
      have hnul : nul ∉ done ++ rest := by
        rw [List.mem_append, not_or]
        exact ⟨hdone, hrest⟩
      obtain ⟨hlen, hlt⟩ := hbuf.strnlen hnul
      by_cases hin : placeholder <:+: rest
      · obtain ⟨before, after, hfirst⟩ := exists_firstAt hin
        obtain rfl : rest = before ++ placeholder ++ after := hfirst.split
        have hbuf' : Holding cap ((done ++ before) ++ (placeholder ++ after)) buf := by
          simpa using hbuf
        have hhead : done.length + ((before ++ placeholder ++ after).length -
            (placeholder ++ after).length) = (done ++ before).length := by
          simp only [List.length_append]
          omega
        have htail : (done ++ (before ++ placeholder ++ after)).length -
            ((done ++ before).length + placeholder.length) = after.length := by
          simp only [List.length_append]
          omega
        have hnew : (done ++ (before ++ placeholder ++ after)).length - placeholder.length +
            value.length = (done ++ before).length + value.length + after.length := by
          simp only [List.length_append]
          omega
        have hpos := List.length_pos_iff.mpr hne
        unfold sizedLoop
        rw [hbuf.cText_drop hrest, hfirst.strstr]
        dsimp only
        rw [hlen, hhead, htail, hnew, if_neg (Nat.not_le_of_lt hlt),
          if_neg (by simp only [List.length_append]; omega), hfirst.replaceAll hne]
        simp only [List.length_append] at hlt hfuel
        by_cases hfit : cap ≤ (done ++ before).length + value.length + after.length
        · rw [if_pos hfit]
          have hfull := length_replaceAll_of_full hne
            (show (done ++ before).length + placeholder.length + after.length < cap by
              simp only [List.length_append]
              omega) hfit
          refine ⟨.noMem, buf, rfl, hbuf.length, ?_, fun herr => (by cases herr), fun _ => rfl⟩
          simp only [List.length_append, reduceCtorEq, false_iff, Nat.not_lt] at hfull ⊢
          omega
        · rw [if_neg hfit]
          obtain ⟨buf₁, buf₂, hmove, hcopy, hbuf₂⟩ :=
            hbuf'.replace (Nat.lt_of_not_le hfit)
          rw [hmove]
          dsimp only
          rw [hcopy]
          dsimp only
          -- the value is behind the next search
          rw [← List.append_assoc] at hbuf₂
          rw [← List.length_append]
          have hdone' : nul ∉ done ++ before ++ value := by
            simp only [List.mem_append, not_or] at hrest ⊢
            exact ⟨⟨hdone, hrest.1.1⟩, hvalue⟩
          have hafter : nul ∉ after := by
            simp only [List.mem_append, not_or] at hrest
            exact hrest.2
          obtain ⟨err, buf', hloop, hsized⟩ := ih hbuf₂ hdone' hafter (by omega)
          refine ⟨err, buf', hloop, ?_⟩
          rw [← List.append_assoc, ← List.append_assoc]
          exact hsized
      · refine ⟨.ok, buf, ?_, ?_⟩
        · unfold sizedLoop
          rw [hbuf.cText_drop hrest, strstr_eq_none_iff.mpr hin]
        · rw [replaceAll_of_absent hin]
          exact ⟨hbuf.length, by simp only [hlt], fun _ => hbuf, fun herr => absurd rfl herr⟩

/-! ### The Whole Text -/

/-- In any buffer the function ends without writing outside, and it succeeds exactly if
    the text with all occurrences replaced fits; the buffer then holds this text. -/
theorem replacePlaceholderSized_spec (hbuf : Holding cap s buf) (hs : nul ∉ s)
    (hne : placeholder ≠ []) {value : Option CStr} (hvalue : nul ∉ value.getD [])
    (hfuel : cap ≤ fuel) :
    ∃ err buf', replacePlaceholderSized fuel (some buf) cap (some placeholder) value =
        some (err, buf') ∧ Sized cap (replaceAll placeholder (value.getD []) s) err buf' := by
  obtain ⟨hlen, hlt⟩ := hbuf.strnlen hs
  unfold replacePlaceholderSized
  dsimp only
  rw [if_neg (by omega), if_neg (by rw [List.length_eq_zero_iff]; exact hne), hlen,
    if_neg (Nat.not_le_of_lt hlt)]
  have hstart : Holding cap ([] ++ s) buf := hbuf
  exact sizedLoop_spec hne hvalue hstart List.not_mem_nil hs (by omega)

/-- A value that contains the placeholder, in a buffer that it just fills. -/
theorem replacePlaceholderSized_spec_full : ∃ err buf',
    replacePlaceholderSized 8 (some ("a-b-".toList ++ List.replicate 4 nul)) 8
        (some "-".toList) (some "--".toList) = some (err, buf') ∧
      Sized 8 (replaceAll "-".toList "--".toList "a-b-".toList) err buf' :=
  replacePlaceholderSized_spec ⟨by decide, List.replicate 3 nul, rfl⟩ (by decide) (by decide)
    (by decide) (Nat.le_refl 8)

end Web
