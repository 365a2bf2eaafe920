import Mathlib.Algebra.Order.Group.Nat
import Mathlib.Data.List.Basic

/-! # C Strings

  A C string is the list of its characters before the terminating NUL.
  The file collects the text functions of the C library that decide the
  behaviour of the callers: decimal output, bounded output, and `strtok`
  on one delimiter.
-/

namespace CString

/-- The characters of a C string before the terminating NUL. -/
abbrev CStr : Type := List Char

/-! ### Output -/

/-- `"%d"`. -/
def decimal : Int → CStr
  | .ofNat n => Nat.toDigits 10 n
  | .negSucc n => '-' :: Nat.toDigits 10 (n + 1)

/-- What `snprintf` leaves in a buffer of `size` bytes. -/
def snprintf (size : Nat) (text : CStr) : CStr := text.take (size - 1)

/-- What `sprintf` leaves in a buffer of `size` bytes; `none` is a write behind its end. -/
def sprintf (size : Nat) (text : CStr) : Option CStr :=
  if text.length < size then some text else none

/-- What `strlcpy` leaves in a buffer of `size` bytes. -/
def strlcpy (size : Nat) (text : CStr) : CStr := text.take (size - 1)

/-- A rational of no sign, rounded to an integer; ties go to the even one. -/
def roundHalfEven (num den : Nat) : Nat :=
  let n := num / den
  let rest := 2 * (num % den)
  if den < rest ∨ den = rest ∧ n % 2 = 1 then n + 1 else n

/-- `"%.6f"`. -/
def fixed6 (x : Rat) : CStr :=
  let scaled := roundHalfEven (x.num.natAbs * 1000000) x.den
  let digits := Nat.toDigits 10 (scaled % 1000000)
  (if x.num < 0 then ['-'] else []) ++ Nat.toDigits 10 (scaled / 1000000) ++
    '.' :: List.replicate (6 - digits.length) '0' ++ digits

theorem decimal_natCast (n : Nat) : decimal (n : Int) = Nat.toDigits 10 n := rfl

theorem decimal_ne_nil (n : Nat) : decimal (n : Int) ≠ [] := Nat.toDigits_ne_nil

theorem decimal_natCast_injective {m n : Nat} (h : decimal (m : Int) = decimal (n : Int)) :
    m = n := by
  rw [decimal_natCast, decimal_natCast] at h
  have := congrArg (Nat.ofDigitChars 10 · 0) h
  simpa [Nat.ofDigitChars_ten_toDigits] using this

theorem isDigit_of_mem_decimal {n : Nat} {c : Char} (h : c ∈ decimal (n : Int)) :
    c.isDigit = true :=
  Nat.isDigit_of_mem_toDigits (by decide) (by decide) h

/-- A number has no character but digits. -/
theorem not_mem_append_decimal {pre : CStr} {c : Char} (hpre : c ∉ pre)
    (hc : c.isDigit = false) (n : Nat) : c ∉ pre ++ decimal (n : Int) := by
  intro h
  rcases List.mem_append.mp h with h | h
  · exact hpre h
  · exact absurd (isDigit_of_mem_decimal h) (by simp [hc])

/-- `k` digits are enough for the numbers below `10 ^ k`. -/
theorem length_decimal_le_iff {n k : Nat} (hk : 0 < k) :
    (decimal (n : Int)).length ≤ k ↔ n < 10 ^ k :=
  Nat.length_toDigits_le_iff (by decide) hk

/-- Times ten is a zero at the end. -/
theorem decimal_mul_ten {n : Nat} (hn : 0 < n) :
    decimal ((10 * n : Nat) : Int) = decimal (n : Int) ++ ['0'] := by
  rw [decimal_natCast, decimal_natCast]
  exact (Nat.toDigits_append_toDigits (b := 10) (d := 0) (by decide) hn (by decide)).symm

theorem length_decimal_pow (k : Nat) : (decimal ((10 ^ k : Nat) : Int)).length = k + 1 := by
  induction k with
  | zero => rfl
  | succ k ih =>
      rw [Nat.pow_succ, Nat.mul_comm, decimal_mul_ten (Nat.pow_pos (by decide)),
        List.length_append, ih, List.length_singleton]

/-- A text that fits with its NUL is not cut. -/
theorem snprintf_of_lt {size : Nat} {text : CStr} (h : text.length < size) :
    snprintf size text = text :=
  List.take_of_length_le (by omega)

/-! ### Tokens -/

/-- The tokens `strtok` returns one after the other on a single delimiter:
    the non-empty pieces between delimiters. -/
def strtokAll (s : CStr) (delim : Char) : List CStr :=
  (s.splitOn delim).filter (fun token => token ≠ [])

theorem strtokAll_append_cons (s t : CStr) (delim : Char) :
    strtokAll (s ++ delim :: t) delim = strtokAll s delim ++ strtokAll t delim := by
  unfold strtokAll
  rw [List.splitOn_append_cons_self, List.filter_append]

theorem strtokAll_word {w : CStr} {delim : Char} (hne : w ≠ []) (hd : delim ∉ w) :
    strtokAll w delim = [w] := by
  unfold strtokAll
  rw [List.splitOn_eq_singleton hd]
  simp [hne]

/-- Pieces are one more than delimiters. -/
theorem length_splitOn (s : CStr) (delim : Char) :
    (s.splitOn delim).length = s.count delim + 1 := by
  induction s with
  | nil => rfl
  | cons c s ih =>
      rw [List.splitOn_cons_eq_if_modifyHead]
      by_cases hc : c = delim
      · simp [hc, ih]
      · simp [hc, ih]

/-- As many tokens as pieces means that no piece is empty. -/
theorem length_strtokAll_eq_iff (s : CStr) (delim : Char) :
    (strtokAll s delim).length = s.count delim + 1 ↔ [] ∉ s.splitOn delim := by
  rw [← length_splitOn, strtokAll, List.length_filter_eq_length_iff]
  constructor
  · intro h hmem
    exact absurd (h [] hmem) (by simp)
  · intro h token htoken
    have hne : token ≠ [] := fun heq => h (heq ▸ htoken)
    simp [hne]

theorem strtokAll_eq_splitOn {s : CStr} {delim : Char} (h : [] ∉ s.splitOn delim) :
    strtokAll s delim = s.splitOn delim := by
  unfold strtokAll
  rw [List.filter_eq_self]
  intro token htoken
  have hne : token ≠ [] := fun heq => h (heq ▸ htoken)
  simp [hne]

end CString
