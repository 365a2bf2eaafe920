import Mathlib.Data.List.Nodup
import RelayBoard.Framework.CSearch

/-! # Urlencoded Forms

  The standard encoding of a form, `application/x-www-form-urlencoded`: names and
  values are encoded byte by byte, and joined by `=` and `&`. A reader that searches
  the text for a name and its `=` finds the value, as long as the name does not end
  another one.
-/

open CString

namespace UrlForm

/-! ### Encoding -/

/-- The bytes that stand for themselves. -/
def isLiteral (c : Char) : Bool := c.isAlphanum || "*-._".toList.contains c

/-- An upper-case digit. -/
def hexDigit (n : Nat) : Char :=
  if n < 10 then Char.ofNat ('0'.toNat + n) else Char.ofNat ('A'.toNat + (n - 10))

def encodeChar (c : Char) : CStr :=
  if isLiteral c then [c]
  else if c = ' ' then ['+']
  else ['%', hexDigit (c.toNat / 16), hexDigit (c.toNat % 16)]

def urlencode (s : CStr) : CStr := s.flatMap encodeChar

/-- The names and values of a form, in order. -/
def encodeForm : List (CStr × CStr) → CStr
  | [] => []
  | [f] => urlencode f.1 ++ '=' :: urlencode f.2
  | f :: f' :: fs => urlencode f.1 ++ '=' :: urlencode f.2 ++ '&' :: encodeForm (f' :: fs)

example : encodeForm [("a".toList, "b c".toList), ("d".toList, "/".toList)] =
    "a=b+c&d=%2F".toList := by decide

/-- A string of bytes other than NUL. -/
def Bytes (s : CStr) : Prop := ∀ c ∈ s, 0 < c.toNat ∧ c.toNat < 256

instance (s : CStr) : Decidable (Bytes s) :=
  decidable_of_iff (s.all fun c => 0 < c.toNat ∧ c.toNat < 256) (by simp [Bytes])

theorem Bytes.append {s t : CStr} (hs : Bytes s) (ht : Bytes t) : Bytes (s ++ t) := by
  intro c hc
  rcases List.mem_append.mp hc with h | h
  · exact hs c h
  · exact ht c h

theorem Bytes.of_prefix {s t : CStr} (ht : Bytes t) (h : s <+: t) : Bytes s :=
  fun c hc => ht c (h.subset hc)

@[simp] theorem urlencode_nil : urlencode [] = [] := rfl

theorem urlencode_cons (c : Char) (s : CStr) : urlencode (c :: s) = encodeChar c ++ urlencode s :=
  rfl

theorem urlencode_append (s t : CStr) : urlencode (s ++ t) = urlencode s ++ urlencode t :=
  List.flatMap_append

theorem length_urlencode_append (s t : CStr) :
    (urlencode (s ++ t)).length = (urlencode s).length + (urlencode t).length := by
  rw [urlencode_append, List.length_append]

/-- The three ways of encoding a byte. -/
theorem encodeChar_cases (c : Char) :
    (encodeChar c = [c] ∧ c ≠ '%' ∧ c ≠ '+') ∨ (encodeChar c = ['+'] ∧ c = ' ') ∨
      encodeChar c = ['%', hexDigit (c.toNat / 16), hexDigit (c.toNat % 16)] := by
  unfold encodeChar
  by_cases hlit : isLiteral c = true
  · rw [if_pos hlit]
    refine .inl ⟨rfl, ?_, ?_⟩
    · rintro rfl
      exact absurd hlit (by decide)
    · rintro rfl
      exact absurd hlit (by decide)
  · rw [if_neg hlit]
    by_cases hspace : c = ' '
    · rw [if_pos hspace]
      exact .inr (.inl ⟨rfl, hspace⟩)
    · rw [if_neg hspace]
      exact .inr (.inr rfl)

theorem encodeChar_ne_nil (c : Char) : encodeChar c ≠ [] := by
  rcases encodeChar_cases c with ⟨h, _⟩ | ⟨h, _⟩ | h <;>
    exact h ▸ List.cons_ne_nil _ _

theorem urlencode_eq_nil {s : CStr} (h : urlencode s = []) : s = [] := by
  cases s with
  | nil => rfl
  | cons c s => exact absurd (List.append_eq_nil_iff.mp h).1 (encodeChar_ne_nil c)

/-- A text of literal bytes is its own encoding. -/
theorem urlencode_literal {s : CStr} (h : s.all isLiteral = true) : urlencode s = s := by
  induction s with
  | nil => rfl
  | cons c s ih =>
      rw [List.all_cons, Bool.and_eq_true] at h
      rw [urlencode_cons, ih h.2, encodeChar, if_pos h.1]
      rfl

/-- The encoding of a byte is bytes free of the delimiters. -/
theorem encodeChar_clean {c : Char} (hc : 0 < c.toNat ∧ c.toNat < 256) {d : Char}
    (hd : d ∈ encodeChar c) : (0 < d.toNat ∧ d.toNat < 256) ∧ d ≠ '=' ∧ d ≠ '&' := by
  have hall : ∀ n < 256, 0 < n → (encodeChar (Char.ofNat n)).all
      (fun d => (0 < d.toNat ∧ d.toNat < 256) ∧ d ≠ '=' ∧ d ≠ '&') = true := by
    decide +kernel
  have h := hall c.toNat hc.2 hc.1
  rw [Char.ofNat_toNat] at h
  exact of_decide_eq_true (List.all_eq_true.mp h d hd)

theorem Bytes.urlencode_clean {s : CStr} (hs : Bytes s) {d : Char} (hd : d ∈ urlencode s) :
    (0 < d.toNat ∧ d.toNat < 256) ∧ d ≠ '=' ∧ d ≠ '&' := by
  obtain ⟨c, hc, hd⟩ := List.mem_flatMap.mp hd
  exact encodeChar_clean (hs c hc) hd

theorem literal_clean {s : CStr} (h : s.all isLiteral = true) : '=' ∉ s ∧ '&' ∉ s := by
  constructor
  · exact fun hmem => absurd (List.all_eq_true.mp h _ hmem) (by decide)
  · exact fun hmem => absurd (List.all_eq_true.mp h _ hmem) (by decide)

/-! ### Finding a Field -/

/-- A separator that occurs once splits in one way. -/
theorem append_cons_unique {α : Type} {a : α} {l r l' r' : List α} (hl : a ∉ l) (hr : a ∉ r)
    (h : l ++ a :: r = l' ++ a :: r') : l = l' := by
  rcases List.append_eq_append_iff.mp h with ⟨c, rfl, hc⟩ | ⟨c, rfl, hc⟩
  · cases c with
    | nil => exact (List.append_nil l).symm
    | cons b c =>
        obtain ⟨rfl, rfl⟩ := List.cons.inj hc
        exact absurd (List.mem_append_right c List.mem_cons_self) hr
  · cases c with
    | nil => exact List.append_nil l'
    | cons b c =>
        obtain ⟨rfl, -⟩ := List.cons.inj hc
        exact absurd (List.mem_append_right l' List.mem_cons_self) hl

/-- A field in front of a first occurrence, whose name does not end with the one searched
    for. -/
theorem firstAt_skip {key name value text before after : CStr}
    (h : FirstAt (key ++ ['=']) text before after) (hkey : '&' ∉ key)
    (hname : '=' ∉ name) (hvalue : '=' ∉ value) (hsuffix : ¬ key <:+ name) :
    FirstAt (key ++ ['=']) (name ++ '=' :: value ++ '&' :: text)
      (name ++ '=' :: value ++ '&' :: before) after := by
  refine ⟨by rw [h.split]; simp, ?_⟩
  intro b a heq
  have heq' : (name ++ '=' :: value ++ ['&']) ++ text = b ++ ((key ++ ['=']) ++ a) := by
    simpa using heq
  rcases List.append_eq_append_iff.mp heq' with ⟨c, rfl, hc⟩ | ⟨c, hblock, hc⟩
  · -- the occurrence is behind the field
    have hle := h.first c a (by rw [hc, List.append_assoc c])
    simp only [List.length_append, List.length_cons, List.length_nil] at hle ⊢
    omega
  · rcases List.eq_nil_or_concat c with rfl | ⟨c, d, rfl⟩
    · have hle := h.first [] a (by rw [← List.nil_append text, ← hc]; rfl)
      have hlen := congrArg List.length hblock
      simp only [List.length_append, List.length_cons, List.length_nil] at hle hlen ⊢
      omega
    · -- it starts in the field, and would run over the separator
      exfalso
      rw [List.concat_eq_append, ← List.append_assoc] at hblock
      obtain ⟨hfield, hd⟩ := List.append_inj' hblock rfl
      cases hd
      have hrun : key ++ '=' :: a = c ++ '&' :: text := by simpa using hc
      rcases List.append_eq_append_iff.mp hrun with ⟨c', rfl, hc'⟩ | ⟨c', rfl, hc'⟩
      · cases c' with
        | nil => cases (List.cons.inj hc').1
        | cons e c' =>
            obtain ⟨rfl, -⟩ := List.cons.inj hc'
            rw [← List.append_assoc] at hfield
            have hend := append_cons_unique hname hvalue hfield
            exact hsuffix ⟨b, hend.symm⟩
      · cases c' with
        | nil => cases (List.cons.inj hc').1
        | cons e c' =>
            obtain ⟨rfl, -⟩ := List.cons.inj hc'
            exact hkey (List.mem_append_right c List.mem_cons_self)

/-- **A field is found**: the text behind the first occurrence of its name is its value, up
    to the next field or the end. -/
theorem firstAt_encodeForm {fields : List (CStr × CStr)}
    (hnames : ∀ f ∈ fields, f.1.all isLiteral = true) (hvalues : ∀ f ∈ fields, Bytes f.2)
    {field : CStr × CStr} (hmem : field ∈ fields)
    (hsuffix : ∀ f ∈ fields, field.1 <:+ f.1 → f = field) :
    ∃ before rest, FirstAt (field.1 ++ ['=']) (encodeForm fields) before
        (urlencode field.2 ++ rest) ∧ (rest = [] ∨ ∃ more, rest = '&' :: more) := by
  induction fields with
  | nil => exact absurd hmem List.not_mem_nil
  | cons f fs ih =>
      have hliteral := urlencode_literal (hnames f List.mem_cons_self)
      by_cases hf : f = field
      · -- the first field
        subst hf
        cases fs with
        | nil =>
            refine ⟨[], [], ⟨?_, fun _ _ _ => Nat.zero_le _⟩, .inl rfl⟩
            rw [encodeForm, hliteral]
            simp
        | cons f' fs =>
            refine ⟨[], '&' :: encodeForm (f' :: fs), ⟨?_, fun _ _ _ => Nat.zero_le _⟩,
              .inr ⟨_, rfl⟩⟩
            rw [encodeForm, hliteral]
            simp
      · have hmem' : field ∈ fs := (List.mem_cons.mp hmem).resolve_left fun h => hf h.symm
        obtain ⟨before, rest, hfirst, hrest⟩ :=
          ih (fun g hg => hnames g (List.mem_cons_of_mem f hg))
            (fun g hg => hvalues g (List.mem_cons_of_mem f hg)) hmem'
            (fun g hg => hsuffix g (List.mem_cons_of_mem f hg))
        cases fs with
        | nil => exact absurd hmem' List.not_mem_nil
        | cons f' fs =>
            have hclean := hvalues f List.mem_cons_self
            have hskip := firstAt_skip hfirst (literal_clean (hnames field hmem)).2
              (literal_clean (hnames f List.mem_cons_self)).1
              (fun h => (hclean.urlencode_clean h).2.1 rfl)
              (fun h => hf (hsuffix f List.mem_cons_self h))
            rw [encodeForm, hliteral]
            exact ⟨_, rest, hskip, hrest⟩

/-! ### Forms -/

/-- The fields of a form, in the order of its text. -/
structure Form (names : List CStr) where
  fields : List (CStr × CStr)
  nodup : (fields.map Prod.fst).Nodup
  named : ∀ f ∈ fields, f.1 ∈ names
  bytes : ∀ f ∈ fields, Bytes f.2

/-- The text of a form. -/
def Form.body {names : List CStr} (form : Form names) : CStr := encodeForm form.fields

/-- Names that can be searched for: they are literal, and none ends another. -/
structure Searchable (names : List CStr) : Prop where
  literal : ∀ name ∈ names, name.all isLiteral = true
  suffixFree : ∀ name ∈ names, ∀ name' ∈ names, name <:+ name' → name = name'

theorem isLiteral_pos {c : Char} (h : isLiteral c = true) : 0 < c.toNat := by
  by_contra hzero
  have hc : c = Char.ofNat 0 := by
    rw [← Char.ofNat_toNat c, Nat.eq_zero_of_not_pos hzero]
  rw [hc] at h
  exact absurd h (by decide)

theorem encodeForm_pos {fields : List (CStr × CStr)}
    (hnames : ∀ f ∈ fields, f.1.all isLiteral = true) (hvalues : ∀ f ∈ fields, Bytes f.2) :
    ∀ c ∈ encodeForm fields, 0 < c.toNat := by
  induction fields with
  | nil => exact fun c hc => absurd hc List.not_mem_nil
  | cons f fs ih =>
      have hfield : ∀ c ∈ urlencode f.1 ++ '=' :: urlencode f.2, 0 < c.toNat := by
        intro c hc
        rw [urlencode_literal (hnames f List.mem_cons_self), List.mem_append,
          List.mem_cons] at hc
        rcases hc with hc | rfl | hc
        · exact isLiteral_pos (List.all_eq_true.mp (hnames f List.mem_cons_self) c hc)
        · decide
        · exact ((hvalues f List.mem_cons_self).urlencode_clean hc).1.1
      have hrest := ih (fun g hg => hnames g (List.mem_cons_of_mem f hg))
        (fun g hg => hvalues g (List.mem_cons_of_mem f hg))
      cases fs with
      | nil => exact hfield
      | cons f' fs =>
          intro c hc
          rcases List.mem_append.mp hc with hc | hc
          · exact hfield c hc
          · rcases List.mem_cons.mp hc with rfl | hc
            · decide
            · exact hrest c hc

section form
variable {names : List CStr} (hsearch : Searchable names) (form : Form names)
include hsearch

theorem Form.body_pos : ∀ c ∈ form.body, 0 < c.toNat :=
  encodeForm_pos (fun f hf => hsearch.literal f.1 (form.named f hf)) form.bytes

/-- Every field of a form is found under its name. -/
theorem Form.firstAt {field : CStr × CStr} (hmem : field ∈ form.fields) :
    ∃ before rest, FirstAt (field.1 ++ ['=']) form.body before (urlencode field.2 ++ rest) ∧
      (rest = [] ∨ ∃ more, rest = '&' :: more) := by
  apply firstAt_encodeForm (fun f hf => hsearch.literal f.1 (form.named f hf)) form.bytes hmem
  intro f hf hsuffix
  have hname := hsearch.suffixFree field.1 (form.named field hmem) f.1 (form.named f hf) hsuffix
  exact List.inj_on_of_nodup_map form.nodup hf hmem hname.symm

end form

end UrlForm
