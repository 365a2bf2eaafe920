import RelayBoard.Framework.Transition
import RelayBoard.Web.UrlCoding

/-! # Decoding in Place

  `url_decode` of `main/web.c` writes what it decodes over what it has read, in the
  same buffer. The file follows both pointers through every run of its loop.
-/

open CString UrlForm

namespace Web

/-! ### Encodings -/

/-- A digit that stands for `n`, of either case. -/
def IsHexDigit (n : Nat) (d : Char) : Prop := d = hexDigit n ∨ d = (hexDigit n).toLower

/-- `e` is an encoding of `s`: every byte may be escaped, a literal byte or a space need
    not be. -/
inductive Encodes : CStr → CStr → Prop where
  | nil : Encodes [] []
  | literal {c : Char} {s e : CStr} : isLiteral c = true → Encodes s e →
      Encodes (c :: s) (c :: e)
  | plus {s e : CStr} : Encodes s e → Encodes (' ' :: s) ('+' :: e)
  | escape {c hi lo : Char} {s e : CStr} : IsHexDigit (c.toNat / 16) hi →
      IsHexDigit (c.toNat % 16) lo → Encodes s e → Encodes (c :: s) ('%' :: hi :: lo :: e)

/-- The standard encoding is one of them. -/
theorem encodes_urlencode (s : CStr) : Encodes s (urlencode s) := by
  induction s with
  | nil => exact .nil
  | cons c s ih =>
      rw [urlencode_cons, encodeChar]
      by_cases hlit : isLiteral c = true
      · rw [if_pos hlit]
        exact .literal hlit ih
      · rw [if_neg hlit]
        by_cases hspace : c = ' '
        · subst hspace
          rw [if_pos rfl]
          exact .plus ih
        · rw [if_neg hspace]
          exact .escape (.inl rfl) (.inl rfl) ih

/-- Both cases of a digit have its value. -/
theorem IsHexDigit.hexToDec_eq {n : Nat} {d : Char} (hn : n < 16) (h : IsHexDigit n d) :
    hexToDec d = hexToDec (hexDigit n) := by
  have hcase : ∀ n < 16, hexToDec (hexDigit n).toLower = hexToDec (hexDigit n) := by decide
  rcases h with rfl | rfl
  · rfl
  · exact hcase n hn

theorem IsHexDigit.ne_nul {n : Nat} {d : Char} (hn : n < 16) (h : IsHexDigit n d) : d ≠ nul := by
  have hcase : ∀ n < 16, hexDigit n ≠ nul ∧ (hexDigit n).toLower ≠ nul := by decide
  rcases h with rfl | rfl
  · exact (hcase n hn).1
  · exact (hcase n hn).2

/-- An escape is decoded, whatever the case of its digits. -/
theorem hexByte_of_isHexDigit {c hi lo : Char} (hc : c.toNat < 256)
    (hhi : IsHexDigit (c.toNat / 16) hi) (hlo : IsHexDigit (c.toNat % 16) lo) :
    hexByte hi lo = c := by
  have hbyte := hexByte_hexDigit hc
  unfold hexByte at hbyte ⊢
  rw [hhi.hexToDec_eq (by omega), hlo.hexToDec_eq (by omega)]
  exact hbyte

theorem Encodes.urlDecodeBytes_eq {s e : CStr} (h : Encodes s e) (hs : Bytes s) :
    urlDecodeBytes e = s := by
  induction h with
  | nil => rfl
  | @literal c s e hlit _ ih =>
      have hc : c ≠ '%' ∧ c ≠ '+' := by
        constructor
        · intro heq
          exact absurd (heq ▸ hlit) (by decide)
        · intro heq
          exact absurd (heq ▸ hlit) (by decide)
      rw [urlDecodeBytes_cons hc.1, if_neg hc.2, ih fun d hd => hs d (List.mem_cons_of_mem c hd)]
  | @plus s e _ ih =>
      rw [urlDecodeBytes_cons (by decide), if_pos rfl,
        ih fun d hd => hs d (List.mem_cons_of_mem ' ' hd)]
  | @escape c hi lo s e hhi hlo _ ih =>
      show hexByte hi lo :: urlDecodeBytes e = c :: s
      rw [hexByte_of_isHexDigit (hs c List.mem_cons_self).2 hhi hlo,
        ih fun d hd => hs d (List.mem_cons_of_mem c hd)]

/-- An encoding has no NUL. -/
theorem Encodes.nul_not_mem {s e : CStr} (h : Encodes s e) (hs : Bytes s) : nul ∉ e := by
  induction h with
  | nil => exact List.not_mem_nil
  | @literal c s e hlit _ ih =>
      refine List.not_mem_cons_of_ne_of_not_mem ?_ (ih fun d hd => hs d (List.mem_cons_of_mem c hd))
      intro heq
      exact absurd (heq ▸ hlit) (by decide)
  | @plus s e _ ih =>
      exact List.not_mem_cons_of_ne_of_not_mem (by decide)
        (ih fun d hd => hs d (List.mem_cons_of_mem ' ' hd))
  | @escape c hi lo s e hhi hlo _ ih =>
      have hc := (hs c List.mem_cons_self).2
      refine List.not_mem_cons_of_ne_of_not_mem (by decide)
        (List.not_mem_cons_of_ne_of_not_mem ?_ (List.not_mem_cons_of_ne_of_not_mem ?_
          (ih fun d hd => hs d (List.mem_cons_of_mem c hd))))
      · exact (hhi.ne_nul (by omega)).symm
      · exact (hlo.ne_nul (by omega)).symm

/-! ### The Loop -/

/-- `url_decode` between two turns of its loop: the buffer, with `src` and `dst` as
    positions in it. -/
structure Decoder where
  buf : List Char
  src : Nat
  dst : Nat
  /-- The loop has ended and the terminator is written. -/
  done : Bool
  /-- Every position that was read. -/
  reads : List Nat
  deriving DecidableEq, Repr

namespace Decoder

def start (buf : List Char) : Decoder := ⟨buf, 0, 0, false, []⟩

/-- `src[k]`; `none` is an access outside the buffer. -/
def read (d : Decoder) (k : Nat) : Option (Char × Decoder) :=
  (d.buf[d.src + k]?).map fun c => (c, { d with reads := (d.src + k) :: d.reads })

/-- `*dst = c`. -/
def write (d : Decoder) (c : Char) : Option Decoder :=
  if d.dst < d.buf.length then some { d with buf := d.buf.set d.dst c } else none

/-- `*src == '%' && src[1] && src[2]`, where each byte is read only if the ones before it
    pass. -/
def atEscape (d : Decoder) : Option (Bool × Decoder) := do
  let (c, d) ← d.read 0
  if c = '%' then
    let (hi, d) ← d.read 1
    if hi = nul then return (false, d)
    else
      let (lo, d) ← d.read 2
      return (decide (lo ≠ nul), d)
  else return (false, d)

/-- The body of the loop. -/
def body (d : Decoder) : Option Decoder := do
  let (escape, d) ← d.atEscape
  if escape then
    -- the conversion reads both digits again
    let (hi, d) ← d.read 1
    let (lo, d) ← d.read 2
    let d ← d.write (hexByte hi lo)
    return { d with src := d.src + 3, dst := d.dst + 1 }
  else
    -- `*src` again, for the comparison with `'+'` and for the copy
    let (c, d) ← d.read 0
    let d ← d.write (if c = '+' then ' ' else c)
    return { d with src := d.src + 1, dst := d.dst + 1 }

/-- One turn of the loop, or the terminator behind it. -/
def next (d : Decoder) : Option Decoder :=
  if d.done then none
  else do
    let (c, d) ← d.read 0
    if c = nul then
      let d ← d.write nul
      return { d with done := true }
    else d.body

/-- The runs of `url_decode` on a buffer. -/
def system (buf : List Char) : LTS.System Decoder Unit :=
  .ofNext (fun d => d = start buf) fun d _ => d.next

/-! ### One Turn -/

variable {d : Decoder}

/-- What is unread is the text from `src` on. -/
theorem getElem?_src {l : List Char} (hbuf : d.buf.drop d.src = l) (k : Nat) :
    d.buf[d.src + k]? = l[k]? := by
  rw [← hbuf, List.getElem?_drop]

/-- At an escape three bytes are read for one that is written. -/
theorem body_escape {hi lo : Char} {rest : List Char}
    (hbuf : d.buf.drop d.src = '%' :: hi :: lo :: rest) (hhi : hi ≠ nul) (hlo : lo ≠ nul)
    (hdst : d.dst < d.buf.length) :
    ∃ reads, d.body = some ⟨d.buf.set d.dst (hexByte hi lo), d.src + 3, d.dst + 1, d.done,
      reads ++ d.reads⟩ ∧ ∀ i ∈ reads, i ≤ d.src + 2 := by
  have h0 : d.buf[d.src]? = some '%' := getElem?_src hbuf 0
  have h1 : d.buf[d.src + 1]? = some hi := getElem?_src hbuf 1
  have h2 : d.buf[d.src + 2]? = some lo := getElem?_src hbuf 2
  refine ⟨[d.src + 2, d.src + 1, d.src + 2, d.src + 1, d.src], ?_, by simp⟩
  simp [body, atEscape, read, write, h0, h1, h2, hhi, hlo, hdst]

/-- Elsewhere one byte is read for one, and of what follows at most the terminator. -/
theorem body_plain {c : Char} {unread tail : List Char}
    (hbuf : d.buf.drop d.src = c :: unread ++ nul :: tail) (hunread : nul ∉ unread)
    (hplain : c = '%' → unread.length < 2) (hdst : d.dst < d.buf.length) :
    ∃ reads, d.body = some ⟨d.buf.set d.dst (if c = '+' then ' ' else c), d.src + 1, d.dst + 1,
      d.done, reads ++ d.reads⟩ ∧ ∀ i ∈ reads, i ≤ d.src + (unread.length + 1) := by
  have h0 : d.buf[d.src]? = some c := getElem?_src hbuf 0
  by_cases hc : c = '%'
  · -- the terminator cuts the escape
    subst hc
    cases unread with
    | nil =>
        have h1 : d.buf[d.src + 1]? = some nul := getElem?_src hbuf 1
        refine ⟨[d.src, d.src + 1, d.src], ?_, by simp⟩
        simp [body, atEscape, read, write, h0, h1, hdst]
    | cons hi unread =>
        have hnil : unread = [] := by
          have hlen := hplain rfl
          rw [List.length_cons] at hlen
          exact List.eq_nil_of_length_eq_zero (by omega)
        subst hnil
        have hhi : hi ≠ nul := fun h => hunread (h ▸ List.mem_cons_self)
        have h1 : d.buf[d.src + 1]? = some hi := getElem?_src hbuf 1
        have h2 : d.buf[d.src + 2]? = some nul := getElem?_src hbuf 2
        refine ⟨[d.src, d.src + 2, d.src + 1, d.src], ?_, by simp⟩
        simp [body, atEscape, read, write, h0, h1, h2, hhi, hdst]
  · refine ⟨[d.src, d.src], ?_, by simp⟩
    simp [body, atEscape, read, write, h0, hc, hdst]

theorem next_terminator {tail : List Char} (hdone : d.done = false)
    (hbuf : d.buf.drop d.src = nul :: tail) (hdst : d.dst < d.buf.length) :
    d.next = some ⟨d.buf.set d.dst nul, d.src, d.dst, true, d.src :: d.reads⟩ := by
  have h0 : d.buf[d.src]? = some nul := getElem?_src hbuf 0
  simp [next, read, write, hdone, h0, hdst]

theorem next_body {c : Char} {rest : List Char} (hdone : d.done = false)
    (hbuf : d.buf.drop d.src = c :: rest) (hc : c ≠ nul) :
    d.next = body { d with reads := d.src :: d.reads } := by
  have h0 : d.buf[d.src]? = some c := getElem?_src hbuf 0
  simp [next, read, hdone, h0, hc]

/-! ### Every Turn -/

/-- What holds between two turns on `input`, with `tail` behind its terminator: what is
    written with what the unread bytes decode to is the whole. -/
structure Progress (input tail : List Char) (d : Decoder) : Prop where
  src_le : d.src ≤ input.length
  dst_le : d.dst ≤ d.src
  unread : d.buf.drop d.src = input.drop d.src ++ nul :: tail
  written : d.buf.take d.dst ++ urlDecodeBytes (input.drop d.src) = urlDecodeBytes input
  reads_le : ∀ i ∈ d.reads, i ≤ input.length
  ended : d.done = true → d.src = input.length ∧ d.buf[d.dst]? = some nul

/-- The turns that are left, at most. -/
def turnsLeft (d : Decoder) : Nat := d.buf.length - d.src + if d.done then 0 else 1

variable {input tail : List Char}

theorem progress_start (input tail : List Char) :
    Progress input tail (start (input ++ nul :: tail)) where
  src_le := Nat.zero_le _
  dst_le := Nat.le_refl 0
  unread := rfl
  written := rfl
  reads_le := by simp [start]
  ended := by simp [start]

theorem Progress.src_lt (h : Progress input tail d) : d.src < d.buf.length := by
  have hlen := congrArg List.length h.unread
  rw [List.length_drop, List.length_append, List.length_cons] at hlen
  omega

/-- Writing one byte behind `src` and moving on keeps what holds, if it is the byte that is
    decoded. -/
theorem Progress.advance (h : Progress input tail d) (hdone : d.done = false) {n : Nat} {b : Char}
    (hn : 0 < n) (hle : d.src + n ≤ input.length)
    (hdecode : urlDecodeBytes (input.drop d.src) = b :: urlDecodeBytes (input.drop (d.src + n)))
    {reads : List Nat} (hreads : ∀ i ∈ reads, i ≤ input.length) :
    Progress input tail ⟨d.buf.set d.dst b, d.src + n, d.dst + 1, d.done, reads⟩ where
  src_le := hle
  dst_le := by
    have hdst := h.dst_le
    show d.dst + 1 ≤ d.src + n
    omega
  unread := by
    have hdst := h.dst_le
    show (d.buf.set d.dst b).drop (d.src + n) = input.drop (d.src + n) ++ nul :: tail
    -- the write is in front of what is unread
    rw [List.drop_set_of_lt (by omega), ← List.drop_drop, h.unread, List.drop_append_of_le_length
      (by rw [List.length_drop]; omega), List.drop_drop]
  written := by
    have hdst : d.dst < d.buf.length := Nat.lt_of_le_of_lt h.dst_le h.src_lt
    show (d.buf.set d.dst b).take (d.dst + 1) ++ urlDecodeBytes (input.drop (d.src + n)) = _
    -- it adds the next decoded byte to what is written
    rw [List.take_add_one, List.take_set_of_le (Nat.le_refl _), List.getElem?_set_self hdst,
      ← h.written, hdecode]
    simp
  reads_le := hreads
  ended := fun hend => absurd hend (by simp [hdone])

theorem turnsLeft_advance (hsrc : d.src < d.buf.length) {n : Nat} (hn : 0 < n) (b : Char)
    (reads : List Nat) :
    turnsLeft ⟨d.buf.set d.dst b, d.src + n, d.dst + 1, d.done, reads⟩ < turnsLeft d := by
  unfold turnsLeft
  dsimp only
  rw [List.length_set]
  omega

/-- The terminator goes in front of the old one, or over it. -/
theorem Progress.terminate (h : Progress input tail d) (hend : d.src = input.length) :
    Progress input tail ⟨d.buf.set d.dst nul, d.src, d.dst, true, d.src :: d.reads⟩ where
  src_le := h.src_le
  dst_le := h.dst_le
  unread := by
    have hdst := h.dst_le
    have hunread := h.unread
    rw [hend, List.drop_length, List.nil_append, ← hend] at hunread
    show (d.buf.set d.dst nul).drop d.src = input.drop d.src ++ nul :: tail
    rw [hend, List.drop_length, ← hend, List.drop_set, hunread]
    by_cases hlt : d.dst < d.src
    · rw [if_pos hlt]
      rfl
    · rw [if_neg hlt, Nat.sub_eq_zero_of_le hdst]
      rfl
  written := by
    show (d.buf.set d.dst nul).take d.dst ++ urlDecodeBytes (input.drop d.src) = _
    rw [List.take_set_of_le (Nat.le_refl _)]
    exact h.written
  reads_le := by
    intro i hi
    rcases List.mem_cons.mp hi with rfl | hi
    · exact h.src_le
    · exact h.reads_le i hi
  ended := fun _ => ⟨hend, List.getElem?_set_self (Nat.lt_of_le_of_lt h.dst_le h.src_lt)⟩

/-- A byte opens an escape that is whole, or is decoded by itself. -/
theorem escape_or_plain (c : Char) (rest : List Char) :
    (∃ hi lo more, c = '%' ∧ rest = hi :: lo :: more) ∨
      (c = '%' → rest.length < 2) ∧
        urlDecodeBytes (c :: rest) = (if c = '+' then ' ' else c) :: urlDecodeBytes rest := by
  by_cases hc : c = '%'
  · subst hc
    cases rest with
    | nil => exact .inr ⟨fun _ => by decide, rfl⟩
    | cons hi rest =>
        cases rest with
        | nil => exact .inr ⟨fun _ => Nat.one_lt_two, rfl⟩
        | cons lo more => exact .inl ⟨hi, lo, more, rfl, rfl⟩
  · exact .inr ⟨fun h => absurd h hc, urlDecodeBytes_cons hc rest⟩

/-- The body keeps what holds, where unread bytes remain. -/
theorem Progress.exists_body (hinput : nul ∉ input) (h : Progress input tail d)
    (hdone : d.done = false) (hsrc : d.src < input.length) :
    ∃ d', d.body = some d' ∧ Progress input tail d' ∧ turnsLeft d' < turnsLeft d := by
  have hdst : d.dst < d.buf.length := Nat.lt_of_le_of_lt h.dst_le h.src_lt
  have hclean : nul ∉ input.drop d.src := fun hmem => hinput (List.mem_of_mem_drop hmem)
  have hbuf := h.unread
  have hlen : (input.drop d.src).length = input.length - d.src := List.length_drop
  -- what the next turn finds
  have hnext : ∀ n, input.drop (d.src + n) = (input.drop d.src).drop n :=
    fun n => List.drop_drop.symm
  cases hrest : input.drop d.src with
  | nil =>
      rw [hrest, List.length_nil] at hlen
      omega
  | cons c rest =>
      rw [hrest] at hbuf hlen hclean hnext
      rw [List.length_cons] at hlen
      rw [List.mem_cons, not_or] at hclean
      rcases escape_or_plain c rest with ⟨hi, lo, more, rfl, rfl⟩ | ⟨hplain, hdecode⟩
      · simp only [List.mem_cons, not_or] at hclean
        simp only [List.length_cons] at hlen
        obtain ⟨reads, hbody, hreads⟩ :=
          body_escape hbuf (Ne.symm hclean.2.1) (Ne.symm hclean.2.2.1) hdst
        refine ⟨_, hbody, ?_, turnsLeft_advance h.src_lt (by decide) _ _⟩
        apply h.advance hdone (by decide) (by omega)
        · rw [hnext, hrest]
          rfl
        · intro i hi
          rcases List.mem_append.mp hi with hi | hi
          · have hle := hreads i hi
            omega
          · exact h.reads_le i hi
      · obtain ⟨reads, hbody, hreads⟩ := body_plain hbuf hclean.2 hplain hdst
        refine ⟨_, hbody, ?_, turnsLeft_advance h.src_lt Nat.one_pos _ _⟩
        apply h.advance hdone Nat.one_pos hsrc
        · rw [hnext, hrest]
          exact hdecode
        · intro i hi
          rcases List.mem_append.mp hi with hi | hi
          · have hle := hreads i hi
            omega
          · exact h.reads_le i hi

/-- **One turn** keeps what holds, and fewer turns are left. -/
theorem Progress.exists_next (hinput : nul ∉ input) (h : Progress input tail d)
    (hdone : d.done = false) :
    ∃ d', d.next = some d' ∧ Progress input tail d' ∧ turnsLeft d' < turnsLeft d := by
  have hle := h.src_le
  have hlt := h.src_lt
  have hunread := h.unread
  rcases Nat.lt_or_eq_of_le hle with hsrc | hend
  · -- the byte is read before the body reads it
    have hread : Progress input tail { d with reads := d.src :: d.reads } := by
      refine ⟨hle, h.dst_le, hunread, h.written, ?_, h.ended⟩
      intro i hi
      rcases List.mem_cons.mp hi with rfl | hi
      · exact hle
      · exact h.reads_le i hi
    obtain ⟨d', hbody, hd', hfewer⟩ := hread.exists_body hinput hdone hsrc
    rw [List.drop_eq_getElem_cons hsrc] at hunread
    have hne : input[d.src] ≠ nul := fun heq => hinput (heq ▸ List.getElem_mem hsrc)
    exact ⟨d', (next_body hdone hunread hne).trans hbody, hd', hfewer⟩
  · rw [hend, List.drop_length, List.nil_append, ← hend] at hunread
    have hdst : d.dst < d.buf.length := Nat.lt_of_le_of_lt h.dst_le hlt
    refine ⟨_, next_terminator hdone hunread hdst, h.terminate hend, ?_⟩
    simp [turnsLeft, hdone]

/-! ### Every Run -/

theorem progress_of_reachable (hinput : nul ∉ input)
    (h : LTS.Reachable (system (input ++ nul :: tail)) d) : Progress input tail d := by
  refine LTS.Reachable.invariant ?_ ?_ h
  · intro d hstart
    rw [hstart]
    exact progress_start input tail
  · intro d _ d' hd hnext
    cases hdone : d.done with
    | true =>
        have hnone : d.next = none := by simp [next, hdone]
        cases hnone.symm.trans hnext
    | false =>
        obtain ⟨d'', hnext', hd'', _⟩ := hd.exists_next hinput hdone
        cases hnext'.symm.trans hnext
        exact hd''

/-- Every run comes to its end. -/
theorem exists_done (hinput : nul ∉ input) (tail : List Char) :
    ∃ d, LTS.Reachable (system (input ++ nul :: tail)) d ∧ d.done = true := by
  -- every turn but the last leaves fewer turns
  have hturn : ∀ d, Progress input tail d → ¬ d.done = true →
      ∃ (l : Unit) (d' : Decoder), (system (input ++ nul :: tail)).step d l d' ∧
        Progress input tail d' ∧ turnsLeft d' < turnsLeft d := by
    intro d hd hnot
    obtain ⟨d', hnext, hd', hfewer⟩ := hd.exists_next hinput (eq_false_of_ne_true hnot)
    exact ⟨(), d', hnext, hd', hfewer⟩
  obtain ⟨d, hsteps, hdone⟩ :=
    LTS.Steps.exists_final turnsLeft hturn (progress_start input tail)
  exact ⟨d, hsteps.reachable (.init rfl), hdone⟩

/-- **In place** `url_decode` leaves what decoding the text gives. -/
theorem bufText_of_done (hinput : nul ∉ input)
    (h : LTS.Reachable (system (input ++ nul :: tail)) d) (hdone : d.done = true) :
    bufText d.buf = some (urlDecode input) := by
  have hd := progress_of_reachable hinput h
  obtain ⟨hend, hnul⟩ := hd.ended hdone
  have hwritten := hd.written
  rw [hend, List.drop_length, urlDecodeBytes, List.append_nil] at hwritten
  obtain ⟨hlt, hget⟩ := List.getElem?_eq_some_iff.mp hnul
  -- the buffer holds what is written, its terminator and old bytes
  have hbuf : d.buf = urlDecodeBytes input ++ nul :: d.buf.drop (d.dst + 1) := by
    rw [← hwritten, ← hget, ← List.drop_eq_getElem_cons hlt, List.take_append_drop]
  rw [bufText, hbuf, if_pos (List.mem_append_right _ List.mem_cons_self), takeWhile_append_cons]
  rfl

end Decoder

/-- `url_decode` on a buffer ends, and leaves the string `s` in it. -/
def Leaves (buf : List Char) (s : CStr) : Prop :=
  (∃ d, LTS.Reachable (Decoder.system buf) d ∧ d.done = true) ∧
    ∀ d, LTS.Reachable (Decoder.system buf) d → d.done = true → bufText d.buf = some s

/-- In all that `url_decode` does on a buffer with the string `input` and `tail` behind its
    terminator, it writes at or in front of the byte it reads next, reads nothing behind the
    terminator and never stops half-way. -/
def StaysInside (input tail : List Char) : Prop :=
  ∀ d, LTS.Reachable (Decoder.system (input ++ nul :: tail)) d →
    d.dst ≤ d.src ∧ (∀ i ∈ d.reads, i ≤ input.length) ∧
      (d.done = true ∨ ∃ d', d.next = some d')

/-- **Decoding in place** inverts every encoding, and stays inside the buffer on every
    text. -/
theorem urlDecode_inPlace (tail : List Char) :
    (∀ s e, Bytes s → Encodes s e → Leaves (e ++ nul :: tail) s) ∧
      ∀ input, nul ∉ input → StaysInside input tail := by
  constructor
  · intro s e hs he
    have hnul := he.nul_not_mem hs
    have hdecode := urlDecode_of_bytes (he.urlDecodeBytes_eq hs) hs
    refine ⟨Decoder.exists_done hnul tail, ?_⟩
    intro d hd hdone
    rw [Decoder.bufText_of_done hnul hd hdone, hdecode]
  · intro input hinput d hd
    have h := Decoder.progress_of_reachable hinput hd
    refine ⟨h.dst_le, h.reads_le, ?_⟩
    cases hdone : d.done with
    | true => exact .inl rfl
    | false =>
        obtain ⟨d', hnext, _⟩ := h.exists_next hinput hdone
        exact .inr ⟨d', hnext⟩

end Web
