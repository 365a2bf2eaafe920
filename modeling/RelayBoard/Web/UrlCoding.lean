import RelayBoard.Framework.UrlForm
import RelayBoard.Web.Form

/-! # Decoding What Was Cut

  `url_decode` of `main/web.c` against the standard encoding: it inverts a whole
  encoding, and of one that was cut it leaves a beginning of the text, with what
  remains of a broken escape.
-/

open CString UrlForm

namespace Web

/-! ### Whole Encodings -/

theorem hexByte_hexDigit {c : Char} (hc : c.toNat < 256) :
    hexByte (hexDigit (c.toNat / 16)) (hexDigit (c.toNat % 16)) = c := by
  have hall : ∀ n < 256, hexByte (hexDigit (n / 16)) (hexDigit (n % 16)) = Char.ofNat n := by
    decide +kernel
  rw [hall c.toNat hc, Char.ofNat_toNat]

theorem hexDigit_ne {n : Nat} (hn : n < 16) : hexDigit n ≠ '+' ∧ hexDigit n ≠ '%' := by
  revert n
  decide

/-- A character that opens no escape. -/
theorem urlDecodeBytes_cons {c : Char} (hc : c ≠ '%') (src : CStr) :
    urlDecodeBytes (c :: src) = (if c = '+' then ' ' else c) :: urlDecodeBytes src := by
  rw [urlDecodeBytes]
  intro hi lo rest hpercent
  exact absurd hpercent hc

/-- One encoded byte is decoded. -/
theorem urlDecodeBytes_encodeChar {c : Char} (hc : c.toNat < 256) (src : CStr) :
    urlDecodeBytes (encodeChar c ++ src) = c :: urlDecodeBytes src := by
  rcases encodeChar_cases c with ⟨h, hpercent, hplus⟩ | ⟨h, rfl⟩ | h
  · rw [h]
    show urlDecodeBytes (c :: src) = _
    rw [urlDecodeBytes_cons hpercent, if_neg hplus]
  · rw [h]
    show urlDecodeBytes ('+' :: src) = _
    rw [urlDecodeBytes_cons (by decide), if_pos rfl]
  · rw [h]
    show hexByte _ _ :: urlDecodeBytes src = _
    rw [hexByte_hexDigit hc]

theorem urlDecodeBytes_urlencode {s : CStr} (hs : Bytes s) (src : CStr) :
    urlDecodeBytes (urlencode s ++ src) = s ++ urlDecodeBytes src := by
  induction s with
  | nil => rfl
  | cons c s ih =>
      rw [urlencode_cons, List.append_assoc,
        urlDecodeBytes_encodeChar (hs c List.mem_cons_self).2,
        ih fun d hd => hs d (List.mem_cons_of_mem c hd)]
      rfl

/-- Decoded bytes without a NUL are the string. -/
theorem urlDecode_of_bytes {src s : CStr} (h : urlDecodeBytes src = s) (hs : Bytes s) :
    urlDecode src = s := by
  have hnul : nul ∉ s := fun hmem => absurd (hs nul hmem).1 (by decide)
  have hself : (s ++ []).takeWhile (fun c => c ≠ nul) = s := takeWhile_ne_append hnul (.inl rfl)
  rw [List.append_nil] at hself
  rw [urlDecode, h]
  exact hself

/-! ### Cut Encodings -/

/-- The starts of the encoding of one byte. -/
theorem take_encodeChar_cases {c : Char} {j : Nat} (hj : j < (encodeChar c).length) :
    ((encodeChar c).take j = [] ∧ j = 0) ∨ ((encodeChar c).take j = ['%'] ∧ j = 1) ∨
      ((encodeChar c).take j = ['%', hexDigit (c.toNat / 16)] ∧ j = 2) := by
  rcases encodeChar_cases c with ⟨h, -⟩ | ⟨h, -⟩ | h
  · rw [h] at hj ⊢
    obtain rfl : j = 0 := Nat.lt_one_iff.mp hj
    exact .inl ⟨rfl, rfl⟩
  · rw [h] at hj ⊢
    obtain rfl : j = 0 := Nat.lt_one_iff.mp hj
    exact .inl ⟨rfl, rfl⟩
  · rw [h] at hj ⊢
    have hcases : j = 0 ∨ j = 1 ∨ j = 2 := by
      simp only [List.length_cons, List.length_nil] at hj
      omega
    rcases hcases with rfl | rfl | rfl
    · exact .inl ⟨rfl, rfl⟩
    · exact .inr (.inl ⟨rfl, rfl⟩)
    · exact .inr (.inr ⟨rfl, rfl⟩)

/-- A broken escape is left as it is. -/
theorem urlDecodeBytes_broken {c : Char} (hc : c.toNat < 256) {j : Nat}
    (hj : j < (encodeChar c).length) :
    urlDecodeBytes ((encodeChar c).take j) = (encodeChar c).take j := by
  rcases take_encodeChar_cases hj with ⟨h, -⟩ | ⟨h, -⟩ | ⟨h, -⟩
  · rw [h]
    rfl
  · rw [h]
    rfl
  · obtain ⟨hplus, hpercent⟩ := hexDigit_ne (n := c.toNat / 16) (by omega)
    rw [h]
    show '%' :: urlDecodeBytes [hexDigit (c.toNat / 16)] = _
    rw [urlDecodeBytes_cons hpercent, if_neg hplus]
    rfl

/-- What is decoded of the encoding of `v` cut at `m`: the beginning `v1` of `v` whose
    encoding is whole, and as `junk` the start of the next escape. -/
structure DecodesTo (v : CStr) (m : Nat) (v1 junk : CStr) : Prop where
  room : (urlencode v1).length ≤ m
  rest : v1 = v ∧ junk = [] ∨ ∃ c v3 j, v = v1 ++ c :: v3 ∧ junk = (encodeChar c).take j ∧
    j < (encodeChar c).length ∧ m = (urlencode v1).length + j

theorem DecodesTo.isPrefix {v : CStr} {m : Nat} {v1 junk : CStr} (h : DecodesTo v m v1 junk) :
    v1 <+: v := by
  rcases h.rest with ⟨rfl, -⟩ | ⟨c, v3, _, rfl, -⟩
  · exact List.prefix_rfl
  · exact List.prefix_append v1 _

/-- The beginning that is decoded whole is the longest with room. -/
theorem DecodesTo.length_le_iff {v : CStr} {m : Nat} {v1 junk : CStr}
    (h : DecodesTo v m v1 junk) {t : CStr} (ht : t <+: v) :
    t.length ≤ v1.length ↔ (urlencode t).length ≤ m := by
  constructor
  · intro hle
    obtain ⟨more, rfl⟩ := List.prefix_of_prefix_length_le ht h.isPrefix hle
    have hroom := h.room
    rw [length_urlencode_append] at hroom
    omega
  · intro hm
    rcases h.rest with ⟨rfl, -⟩ | ⟨c, v3, j, rfl, -, hj, hend⟩
    · exact ht.length_le
    · by_contra hlt
      -- then the byte whose escape is broken would be part of `t`
      have hbyte : v1 ++ [c] <+: v1 ++ c :: v3 := ⟨v3, by simp⟩
      obtain ⟨more, rfl⟩ := List.prefix_of_prefix_length_le hbyte ht (by
        rw [List.length_append, List.length_singleton]
        omega)
      rw [length_urlencode_append, length_urlencode_append] at hm
      have hone : urlencode [c] = encodeChar c := List.append_nil _
      rw [hone] at hm
      omega

/-- What is left of a broken escape is at most a `%` and a digit. -/
theorem DecodesTo.junk_cases {v : CStr} {m : Nat} {v1 junk : CStr} (h : DecodesTo v m v1 junk) :
    junk = [] ∨ ∃ more, junk = '%' :: more ∧ more.length ≤ 1 := by
  rcases h.rest with ⟨-, rfl⟩ | ⟨c, v3, j, -, rfl, hj, -⟩
  · exact .inl rfl
  · rcases take_encodeChar_cases hj with ⟨h, -⟩ | ⟨h, -⟩ | ⟨h, -⟩
    · exact .inl h
    · exact .inr ⟨[], h, Nat.zero_le _⟩
    · exact .inr ⟨_, h, Nat.le_refl _⟩

/-- **A cut encoding** decodes to a beginning of the text and the start of an escape. -/
theorem exists_decodesTo {v : CStr} (hv : Bytes v) (m : Nat) :
    ∃ v1 junk, DecodesTo v m v1 junk ∧
      urlDecodeBytes ((urlencode v).take m) = v1 ++ junk := by
  induction v generalizing m with
  | nil =>
      refine ⟨[], [], ⟨Nat.zero_le _, .inl ⟨rfl, rfl⟩⟩, ?_⟩
      rw [urlencode_nil, List.take_nil]
      rfl
  | cons c v ih =>
      have hc := hv c List.mem_cons_self
      rw [urlencode_cons, List.take_append]
      by_cases hm : (encodeChar c).length ≤ m
      · obtain ⟨v1, junk, hcut, hdecode⟩ :=
          ih (fun d hd => hv d (List.mem_cons_of_mem c hd)) (m - (encodeChar c).length)
        have hlen : (urlencode (c :: v1)).length =
            (encodeChar c).length + (urlencode v1).length := by
          rw [urlencode_cons, List.length_append]
        have hroom := hcut.room
        refine ⟨c :: v1, junk, ⟨by omega, ?_⟩, ?_⟩
        · rcases hcut.rest with ⟨rfl, rfl⟩ | ⟨d, v3, j, rfl, hjunk, hj, hend⟩
          · exact .inl ⟨rfl, rfl⟩
          · exact .inr ⟨d, v3, j, rfl, hjunk, hj, by omega⟩
        · rw [List.take_of_length_le hm, urlDecodeBytes_encodeChar hc.2, hdecode]
          rfl
      · have hlt : m < (encodeChar c).length := Nat.lt_of_not_le hm
        refine ⟨[], (encodeChar c).take m,
          ⟨Nat.zero_le _, .inr ⟨c, v, m, rfl, rfl, hlt, (Nat.zero_add m).symm⟩⟩, ?_⟩
        rw [Nat.sub_eq_zero_of_le (Nat.le_of_lt hlt), List.take_zero, List.append_nil]
        exact urlDecodeBytes_broken hc.2 hlt

/-- The bytes of a text with the start of an escape. -/
theorem DecodesTo.bytes {v : CStr} {m : Nat} {v1 junk : CStr} (h : DecodesTo v m v1 junk)
    (hv : Bytes v) : Bytes (v1 ++ junk) := by
  have hv1 := hv.of_prefix h.isPrefix
  rcases h.rest with ⟨-, rfl⟩ | ⟨c, v3, j, rfl, rfl, -⟩
  · rw [List.append_nil]
    exact hv1
  · have hc := hv c (List.mem_append_right _ List.mem_cons_self)
    exact hv1.append fun d hd => (encodeChar_clean hc (List.mem_of_mem_take hd)).1

/-- What is stored of a value whose encoding is cut. -/
theorem exists_urlDecode_take {v : CStr} (hv : Bytes v) (m : Nat) :
    ∃ v1 junk, DecodesTo v m v1 junk ∧ urlDecode ((urlencode v).take m) = v1 ++ junk := by
  obtain ⟨v1, junk, hcut, hdecode⟩ := exists_decodesTo hv m
  exact ⟨v1, junk, hcut, urlDecode_of_bytes hdecode (hcut.bytes hv)⟩

/-- The encoding of `v` fits a field of `size` bytes, or is cut by two characters where the
    escape of a `%` stands for itself. -/
def Fits (size : Nat) (v : CStr) : Prop :=
  (urlencode v).length < size ∨
    (urlencode v).length = size + 1 ∧ (['%'] <:+ v ∨ ['%', '2'] <:+ v)

/-- An encoding of which the last two characters are cut. -/
theorem take_urlencode_append (p s : CStr) {m : Nat}
    (hm : (urlencode (p ++ s)).length = m + 2) (hs : 2 ≤ (urlencode s).length) :
    (urlencode (p ++ s)).take m =
      urlencode p ++ (urlencode s).take ((urlencode s).length - 2) := by
  rw [length_urlencode_append] at hm
  rw [urlencode_append, List.take_append, List.take_of_length_le (by omega)]
  congr 2
  omega

/-- **A value is stored unchanged** exactly if its encoding fits. -/
theorem urlDecode_take_eq_iff {size : Nat} (hsize : 0 < size) {v : CStr} (hv : Bytes v) :
    urlDecode ((urlencode v).take (size - 1)) = v ↔ Fits size v := by
  obtain ⟨m, rfl⟩ : ∃ m, size = m + 1 := ⟨size - 1, by omega⟩
  rw [Nat.add_sub_cancel]
  constructor
  · intro h
    obtain ⟨v1, junk, hcut, hdecode⟩ := exists_urlDecode_take hv m
    rw [hdecode] at h
    rcases hcut.rest with ⟨rfl, -⟩ | ⟨c, v3, j, rfl, rfl, hj, hm⟩
    · exact .inl (Nat.lt_succ_of_le hcut.room)
    · -- the start of the escape is the rest of the value
      have hrest : (encodeChar c).take j = c :: v3 := List.append_cancel_left h
      rcases take_encodeChar_cases hj with ⟨htake, -⟩ | ⟨htake, rfl⟩ | ⟨htake, rfl⟩
      · cases htake.symm.trans hrest
      · obtain ⟨rfl, rfl⟩ := List.cons.inj (htake.symm.trans hrest)
        have hlen := length_urlencode_append v1 ['%']
        have hthree : (urlencode ['%']).length = 3 := rfl
        exact .inr ⟨by omega, .inl (List.suffix_append v1 _)⟩
      · obtain ⟨rfl, rfl⟩ := List.cons.inj (htake.symm.trans hrest)
        have htwo : hexDigit ('%'.toNat / 16) = '2' := rfl
        rw [htwo]
        have hlen := length_urlencode_append v1 ['%', '2']
        have hfour : (urlencode ['%', '2']).length = 4 := rfl
        exact .inr ⟨by omega, .inr (List.suffix_append v1 _)⟩
  · rintro (hfit | ⟨hlen, ⟨p, rfl⟩ | ⟨p, rfl⟩⟩)
    · rw [List.take_of_length_le (by omega)]
      have h := urlDecodeBytes_urlencode hv []
      rw [List.append_nil] at h
      exact urlDecode_of_bytes (h.trans (List.append_nil v)) hv
    · have hp : Bytes p := hv.of_prefix (List.prefix_append p _)
      rw [take_urlencode_append p ['%'] hlen (by decide)]
      exact urlDecode_of_bytes (urlDecodeBytes_urlencode hp _) hv
    · have hp : Bytes p := hv.of_prefix (List.prefix_append p _)
      rw [take_urlencode_append p ['%', '2'] hlen (by decide)]
      exact urlDecode_of_bytes (urlDecodeBytes_urlencode hp _) hv

end Web
