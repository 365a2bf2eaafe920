import RelayBoard.Framework.CSearch
import RelayBoard.Platform.Esp

/-! # Form Bodies

  The receive loop of the form handlers of `main/web.c`, the text it leaves in
  the buffer, and the extraction and decoding of one field.
-/

open CString

namespace Web

/-! ### Receiving -/

/-- What one `httpd_req_recv` does. -/
inductive Recv where
  | data (bytes : CStr)
  /-- `HTTPD_SOCK_ERR_TIMEOUT`. -/
  | timeout
  /-- Any other error. -/
  | error
  deriving DecidableEq, Repr

/-- A form request: `content_len` and the outcomes of the calls that receive it. -/
structure FormRequest where
  contentLen : Nat
  recvs : List Recv

def nul : Char := Char.ofNat 0

/-- The receive loop. Each piece is written to the start of the buffer; `none` is a loop
    that still waits for data. -/
def recvBody : List Recv → Nat → List Char → Option (Except EspErr (List Char))
  | _, 0, buf => some (.ok buf)
  | [], _ + 1, _ => none
  | .timeout :: recvs, remaining + 1, buf => recvBody recvs (remaining + 1) buf
  | .error :: _, _ + 1, _ => some (.error .fail)
  | .data bytes :: recvs, remaining + 1, buf =>
      let piece := bytes.take (min (remaining + 1) buf.length)
      if piece = [] then some (.error .fail)
      else recvBody recvs (remaining + 1 - piece.length) (piece ++ buf.drop piece.length)

/-- The C string in a buffer; without a NUL a reader runs past the end. -/
def bufText (buf : List Char) : Option CStr :=
  if nul ∈ buf then some (buf.takeWhile fun c => c ≠ nul) else none

/-- The text of a request in a zeroed buffer of `size` bytes. -/
def formText (size : Nat) (req : FormRequest) : Option CStr :=
  match recvBody req.recvs req.contentLen (List.replicate size nul) with
  | some (.ok buf) => bufText buf
  | _ => none

/-! ### Fields -/

/-- `extract_param_value`; its result is the length of the output. -/
def extractParamValue (buf paramName : CStr) (outputSize : Nat) : CStr :=
  match strstr paramName buf with
  | some start =>
      ((start.drop paramName.length).takeWhile fun c => c ≠ '&').take (outputSize - 1)
  | none => []

/-- `hex_to_dec`. -/
def hexToDec (c : Char) : Int :=
  if '0' ≤ c ∧ c ≤ '9' then c.toNat - '0'.toNat
  else if 'a' ≤ c ∧ c ≤ 'f' then c.toNat - 'a'.toNat + 10
  else if 'A' ≤ c ∧ c ≤ 'F' then c.toNat - 'A'.toNat + 10
  else -1

/-- `(char)((hex_to_dec(hi) << 4) | hex_to_dec(lo))`. -/
def hexByte (hi lo : Char) : Char :=
  Char.ofNat (BitVec.ofInt 8 (hexToDec hi) <<< 4 ||| BitVec.ofInt 8 (hexToDec lo)).toNat

/-- The bytes the loop of `url_decode` writes. -/
def urlDecodeBytes : CStr → List Char
  | '%' :: hi :: lo :: src => hexByte hi lo :: urlDecodeBytes src
  | c :: src => (if c = '+' then ' ' else c) :: urlDecodeBytes src
  | [] => []

/-- `url_decode`: a decoded NUL ends the string. -/
def urlDecode (src : CStr) : CStr := (urlDecodeBytes src).takeWhile fun c => c ≠ nul

example : urlDecode "a%2Fb+c%2".toList = "a/b c%2".toList := by decide

/-! ### What Extraction Finds -/

/-- The text of a field: from behind the first occurrence of its name to the next `&` or
    the end. -/
def FieldText (text name value : CStr) : Prop :=
  ∃ before rest, FirstAt name text before (value ++ rest) ∧ '&' ∉ value ∧
    (rest = [] ∨ ∃ more, rest = '&' :: more)

theorem extractParamValue_of_fieldText {text name value : CStr}
    (h : FieldText text name value) (size : Nat) :
    extractParamValue text name size = value.take (size - 1) := by
  obtain ⟨before, rest, hfirst, hvalue, hrest⟩ := h
  unfold extractParamValue
  rw [hfirst.strstr]
  dsimp only
  rw [List.drop_left, takeWhile_ne_append hvalue hrest]

/-- A field whose name does not occur reads as the empty string. -/
theorem extractParamValue_of_absent {text name : CStr} (h : ¬ name <:+: text)
    (size : Nat) : extractParamValue text name size = [] := by
  unfold extractParamValue
  rw [strstr_eq_none_iff.mpr h]

/-- A field whose name occurs has a text. -/
theorem exists_fieldText {text name : CStr} (h : name <:+: text) :
    ∃ value, FieldText text name value := by
  obtain ⟨before, after, hfirst⟩ := exists_firstAt h
  obtain ⟨value, rest, rfl, hvalue, hrest⟩ := exists_upTo after '&'
  exact ⟨value, before, rest, hfirst, hvalue, hrest⟩

/-! ### A Body in One Piece -/

/-- The request of a body that arrives in one piece. -/
def FormRequest.onePiece (body : CStr) : FormRequest := ⟨body.length, [.data body]⟩

/-- The buffer after a body that arrives in one piece shorter than it. -/
theorem recvBody_onePiece {size : Nat} {body : CStr} (hlen : body.length < size) :
    recvBody [.data body] body.length (List.replicate size nul) =
      some (.ok (body ++ List.replicate (size - body.length) nul)) := by
  cases body with
  | nil => rfl
  | cons c body =>
      have hpiece : (c :: body).take (min (body.length + 1)
          (List.replicate size nul).length) = c :: body := by
        rw [List.length_replicate]
        exact List.take_of_length_le (by rw [List.length_cons] at hlen ⊢; omega)
      rw [List.length_cons]
      unfold recvBody
      dsimp only
      rw [hpiece, if_neg (List.cons_ne_nil c body), List.length_cons, Nat.sub_self,
        List.drop_replicate]
      unfold recvBody
      rfl

/-- Without a NUL of its own the body is the text of that buffer. -/
theorem bufText_onePiece {size : Nat} {body : CStr} (hlen : body.length < size)
    (hnul : nul ∉ body) :
    bufText (body ++ List.replicate (size - body.length) nul) = some body := by
  obtain ⟨n, hn⟩ : ∃ n, size - body.length = n + 1 := ⟨size - body.length - 1, by omega⟩
  unfold bufText
  rw [hn, if_pos (List.mem_append_right _ (by simp)),
    takeWhile_ne_append hnul (Or.inr ⟨_, List.replicate_succ⟩)]

theorem formText_onePiece {size : Nat} {body : CStr} (hlen : body.length < size)
    (hnul : nul ∉ body) : formText size (.onePiece body) = some body := by
  unfold formText FormRequest.onePiece
  dsimp only
  rw [recvBody_onePiece hlen]
  exact bufText_onePiece hlen hnul

end Web
