import RelayBoard.Certificate.CaCertManager
import RelayBoard.Web.Http
import RelayBoard.Web.UrlCoding

/-! # Saving a Certificate

  `ca_cert_post_handler` of `main/web.c`: the certificate of a form is decoded, cut
  after its last end marker and handed to `save_ca_certificate`.
-/

open CaCertManager CString NvsLarge UrlForm

namespace Web

/-! ### Cutting after the Last Match -/

/-- The end of the last match in the text from `current_position` on. -/
def lastMatchEnd (lookup : CStr) : Nat → CStr → Option Nat
  | 0, _ => none
  | fuel + 1, s =>
      match strstr lookup s with
      | none => none
      | some found =>
          let matchEnd := s.length - found.length + lookup.length
          some (matchEnd + (lastMatchEnd lookup fuel (found.drop lookup.length)).getD 0)

/-- `str_trunc_after`. Each match of a text that is not empty takes some of the string, so
    the loop ends. -/
def strTruncAfter (str lookup : CStr) : CStr :=
  match lastMatchEnd lookup (str.length + 1) str with
  | none => str
  | some matchEnd => str.take matchEnd

example : strTruncAfter "a--b--c".toList "--".toList = "a--b--".toList := by decide

/-! ### The Handler -/

/-- `MAX_CA_CERT_SIZE`. -/
def maxCaCertSize : Nat := 8192

/-- The end marker. -/
def endCertificate : CStr := "-----END CERTIFICATE-----".toList

/-- The receive loop: each piece is copied behind the ones before it. A time-out ends it
    like any other error. -/
def recvContent : List Recv → Nat → CStr → Option (Except EspErr CStr)
  | _, 0, content => some (.ok content)
  | [], _ + 1, _ => none
  | .timeout :: _, _ + 1, _ => some (.error .fail)
  | .error :: _, _ + 1, _ => some (.error .fail)
  | .data bytes :: recvs, remaining + 1, content =>
      let piece := bytes.take (min (remaining + 1) 1024)
      if piece = [] then some (.error .fail)
      else recvContent recvs (remaining + 1 - piece.length) (content ++ piece)

/-- Outcomes of the calls of the handler. -/
structure CaCertEnv where
  /-- Is there memory for the page, the request and the certificate? -/
  allocatesPage : Bool
  allocatesContent : Bool
  allocatesCert : Bool
  /-- Does `/spiffs/ca-cert-saving.html` open? -/
  opensTemplate : Bool
  /-- The template with the path of the certificate filled in. -/
  page : CStr → CStr
  nvsWrite : Nat → Bool

/-- What the handler does: its result, the responses, the text and the path handed to
    `save_ca_certificate`, and NVS. -/
structure CaCertHandled where
  ret : EspErr
  sent : List Sent
  handed : Option (CStr × CStr)
  nvs : LargeStore

/-- A request given up before the certificate is saved. -/
def CaCertHandled.refused (ret : EspErr) (nvs : LargeStore) (sent : List Sent) : CaCertHandled :=
  ⟨ret, sent, none, nvs⟩

/-- `httpd_resp_send_err` with status 500. -/
def sendErr500 (text : CStr) : Sent := .err .internalServerError (some text)

/-- `ca_cert_post_handler` once the request is in memory; a null `ca_cert` is written to. -/
def saveCertificateForm (env : CaCertEnv) (nvs : LargeStore) (content : CStr) :
    Option CaCertHandled :=
  let caType := extractParamValue content "cert_type=".toList maxCaCertSize
  if caType = [] then
    some (.refused .fail nvs [sendErr500 "Failed to extract certificate type".toList])
  else if env.allocatesCert = false then none
  else
    let caKey := if caType = "mqtts".toList then "ca_cert_mqtts=".toList
      else "ca_cert_https=".toList
    let caCert := extractParamValue content caKey maxCaCertSize
    if caCert = [] then
      some (.refused .fail nvs [sendErr500 "Failed to extract certificate".toList])
    else
      let caCert := strTruncAfter (urlDecode caCert) endCertificate
      let caPath := if caType = "mqtts".toList then caCertPathMqtts else caCertPathHttps
      match saveCaCertificate env.nvsWrite nvs (some caCert) (some caPath) with
      | (.ok, nvs) =>
          some ⟨.ok, [.resp status200 "text/html".toList (env.page caPath)],
            some (caCert, caPath), nvs⟩
      | (_, nvs) =>
          some ⟨.fail, [sendErr500 "Failed to save certificate".toList],
            some (caCert, caPath), nvs⟩

/-- `ca_cert_post_handler`; `none` is a handler that does not return. -/
def caCertPostHandler (env : CaCertEnv) (nvs : LargeStore) (req : FormRequest) :
    Option CaCertHandled :=
  if req.contentLen = 0 then some (.refused .fail nvs [])
  else if env.allocatesPage = false then
    some (.refused .fail nvs [.resp "500 Internal Server Error".toList "text/html".toList
      "ESP device is out of free memory".toList])
  else if env.opensTemplate = false then some (.refused .fail nvs [.err .notFound none])
  else if env.allocatesContent = false then
    some (.refused .noMem nvs [sendErr500 "Memory allocation failed".toList])
  else
    match recvContent req.recvs req.contentLen [] with
    | none => none
    | some (.error _) => some (.refused .fail nvs [sendErr500 "Failed to receive data".toList])
    | some (.ok content) =>
        saveCertificateForm env nvs (content.takeWhile fun c => c ≠ nul)

/-! ### What the Search Finds -/

section search
variable {lookup s : CStr}

/-- One turn of the search. -/
theorem lastMatchEnd_of_firstAt {before after : CStr} (h : FirstAt lookup s before after)
    (fuel : Nat) :
    lastMatchEnd lookup (fuel + 1) s =
      some ((before ++ lookup).length + (lastMatchEnd lookup fuel after).getD 0) := by
  rw [lastMatchEnd, h.strstr]
  dsimp only
  rw [List.drop_left]
  have hlen := congrArg List.length h.split
  simp only [List.length_append] at hlen ⊢
  congr 2
  omega

theorem lastMatchEnd_eq_none_iff {fuel : Nat} (hfuel : 0 < fuel) :
    lastMatchEnd lookup fuel s = none ↔ ¬ lookup <:+: s := by
  obtain ⟨fuel, rfl⟩ : ∃ n, fuel = n + 1 := ⟨fuel - 1, by omega⟩
  constructor
  · intro h hfound
    obtain ⟨before, after, hfirst⟩ := exists_firstAt hfound
    rw [lastMatchEnd_of_firstAt hfirst] at h
    cases h
  · intro h
    rw [lastMatchEnd, strstr_eq_none_iff.mpr h]

theorem exists_firstAt_of_lastMatchEnd {fuel matchEnd : Nat}
    (h : lastMatchEnd lookup (fuel + 1) s = some matchEnd) :
    ∃ before after, FirstAt lookup s before after ∧
      (before ++ lookup).length + (lastMatchEnd lookup fuel after).getD 0 = matchEnd := by
  have hfound : lookup <:+: s := by
    by_contra hnot
    rw [(lastMatchEnd_eq_none_iff (Nat.succ_pos fuel)).mpr hnot] at h
    cases h
  obtain ⟨before, after, hfirst⟩ := exists_firstAt hfound
  rw [lastMatchEnd_of_firstAt hfirst] at h
  exact ⟨before, after, hfirst, Option.some.inj h⟩

/-- The search stops at the end of a match, with none behind it. -/
theorem lastMatchEnd_eq_some (hlookup : lookup ≠ []) {fuel matchEnd : Nat}
    (hfuel : s.length < fuel) (h : lastMatchEnd lookup fuel s = some matchEnd) :
    matchEnd ≤ s.length ∧ lookup <:+ s.take matchEnd ∧ ¬ lookup <:+: s.drop matchEnd := by
  have hpos := List.length_pos_of_ne_nil hlookup
  induction fuel generalizing s matchEnd with
  | zero => exact absurd hfuel (Nat.not_lt_zero _)
  | succ fuel ih =>
      obtain ⟨before, after, hfirst, rfl⟩ := exists_firstAt_of_lastMatchEnd h
      have hs := hfirst.split
      have hlen : s.length = (before ++ lookup).length + after.length := by
        rw [hs, List.length_append]
      have hfuel' : after.length < fuel := by
        rw [List.length_append] at hlen
        omega
      cases hrest : lastMatchEnd lookup fuel after with
      | none =>
          rw [Option.getD_none, Nat.add_zero]
          refine ⟨by omega, ?_, ?_⟩
          · rw [hs, List.take_left]
            exact List.suffix_append _ _
          · rw [hs, List.drop_left]
            exact (lastMatchEnd_eq_none_iff (by omega)).mp hrest
      | some restEnd =>
          obtain ⟨hle, hend, hnone⟩ := ih hfuel' hrest
          rw [Option.getD_some]
          refine ⟨by omega, ?_, ?_⟩
          · rw [hs, List.take_length_add_append]
            exact hend.trans (List.suffix_append _ _)
          · rw [hs, List.drop_length_add_append]
            exact hnone

/-- A search of a beginning that holds the last match stops there as well. -/
theorem lastMatchEnd_prefix (hlookup : lookup ≠ []) {t : CStr} (ht : t <+: s)
    {fuel fuel' matchEnd : Nat} (hfuel : s.length < fuel) (hfuel' : t.length < fuel')
    (h : lastMatchEnd lookup fuel s = some matchEnd) (hle : matchEnd ≤ t.length) :
    lastMatchEnd lookup fuel' t = some matchEnd := by
  have hpos := List.length_pos_of_ne_nil hlookup
  induction fuel generalizing s t fuel' matchEnd with
  | zero => exact absurd hfuel (Nat.not_lt_zero _)
  | succ fuel ih =>
      obtain ⟨fuel', rfl⟩ : ∃ n, fuel' = n + 1 := ⟨fuel' - 1, by omega⟩
      obtain ⟨before, after, hfirst, hend⟩ := exists_firstAt_of_lastMatchEnd h
      obtain ⟨after', hfirst', hafter⟩ := hfirst.of_prefix ht (by omega)
      have hlen := congrArg List.length hfirst.split
      have hlen' := congrArg List.length hfirst'.split
      simp only [List.length_append] at hlen hlen' hend
      rw [lastMatchEnd_of_firstAt hfirst', List.length_append]
      congr 1
      cases hrest : lastMatchEnd lookup fuel after with
      | none =>
          rw [hrest] at hend
          have hnone := (lastMatchEnd_eq_none_iff (by omega)).mp hrest
          rw [(lastMatchEnd_eq_none_iff (by omega)).mpr fun h => hnone (h.trans hafter.isInfix)]
          exact hend
      | some restEnd =>
          rw [hrest, Option.getD_some] at hend
          rw [ih hafter (by omega) (by omega) hrest (by omega)]
          exact hend

end search

/-! ### Certificates -/

/-- `t` is the text up to the end of its last `lookup`. -/
structure CutAfterLast (lookup text t : CStr) : Prop where
  isPrefix : t <+: text
  ends : lookup <:+ t
  last : ∀ before after, text = before ++ lookup ++ after →
    (before ++ lookup).length ≤ t.length

/-- A text in PEM format: bytes, in which the end marker ends its line. -/
structure PemText (text : CStr) : Prop where
  bytes : Bytes text
  lines : ∀ before after, text = before ++ endCertificate ++ after →
    ∀ c ∈ after.head?, c = '\n' ∨ c = '\r'

theorem endCertificate_ne_nil : endCertificate ≠ [] := by decide

/-- The search in a certificate stops at the end of the last marker. -/
theorem lastMatchEnd_of_cutAfterLast {text t : CStr} (hpem : PemText text)
    (h : CutAfterLast endCertificate text t) {fuel : Nat} (hfuel : text.length < fuel) :
    lastMatchEnd endCertificate fuel text = some t.length := by
  obtain ⟨b, hb⟩ := h.ends
  obtain ⟨rest, hrest⟩ := h.isPrefix
  have hfound : endCertificate <:+: text := ⟨b, rest, by rw [hb, hrest]⟩
  cases hsearch : lastMatchEnd endCertificate fuel text with
  | none => exact absurd hfound ((lastMatchEnd_eq_none_iff (by omega)).mp hsearch)
  | some matchEnd =>
      obtain ⟨hle, ⟨p, hp⟩, hnone⟩ := lastMatchEnd_eq_some endCertificate_ne_nil hfuel hsearch
      have hsplit : text = p ++ endCertificate ++ text.drop matchEnd := by
        rw [hp, List.take_append_drop]
      have hlast := h.last p _ hsplit
      have hplen : (p ++ endCertificate).length = matchEnd := by
        rw [hp, List.length_take]
        omega
      have hblen := congrArg List.length hb
      rw [List.length_append] at hblen
      -- the last marker cannot start behind the search, nor run over its end
      have hge : t.length ≤ matchEnd := by
        by_contra hlt
        by_cases hstart : matchEnd ≤ b.length
        · apply hnone
          refine ⟨b.drop matchEnd, rest, ?_⟩
          rw [← hrest, ← hb, List.append_assoc b, List.drop_append_of_le_length hstart,
            List.append_assoc]
        · have hlt' : matchEnd - b.length < endCertificate.length := by omega
          have hchar : text[matchEnd]? = some (endCertificate[matchEnd - b.length]) := by
            rw [← hrest, ← hb, List.append_assoc, List.getElem?_append_right (by omega),
              List.getElem?_append_left hlt', List.getElem?_eq_getElem hlt']
          have hline := hpem.lines p _ hsplit (endCertificate[matchEnd - b.length])
            (by rw [List.head?_drop, hchar]; rfl)
          have hmem := List.getElem_mem hlt'
          rcases hline with h | h
          · exact absurd (h ▸ hmem) (by decide)
          · exact absurd (h ▸ hmem) (by decide)
      congr 1
      omega

/-- The start of an escape holds no part of an end marker. -/
theorem le_length_of_decodesTo {v : CStr} {m : Nat} {v1 junk : CStr} (h : DecodesTo v m v1 junk)
    {matchEnd : Nat} (hle : matchEnd ≤ (v1 ++ junk).length)
    (hend : endCertificate <:+ (v1 ++ junk).take matchEnd) : matchEnd ≤ v1.length := by
  by_contra hlt
  have hjunk := h.junk_cases
  rw [List.length_append] at hle
  rcases hjunk with rfl | ⟨more, rfl, hmore⟩
  · rw [List.length_nil] at hle
    omega
  · obtain ⟨k, hk⟩ : ∃ k, matchEnd = v1.length + (k + 1) := ⟨matchEnd - v1.length - 1, by omega⟩
    rw [hk, List.take_length_add_append, List.take_succ_cons] at hend
    have hshort : ('%' :: more.take k).length ≤ endCertificate.length := by
      rw [List.length_cons, List.length_take]
      have hlen : endCertificate.length = 25 := by decide
      omega
    have hsuffix : '%' :: more.take k <:+ endCertificate :=
      List.suffix_of_suffix_length_le (List.suffix_append v1 _) hend hshort
    exact absurd (hsuffix.subset List.mem_cons_self) (by decide)

/-- **A certificate survives** exactly if the encoding of what is saved of it is not cut. -/
theorem strTruncAfter_decoded_iff {v t : CStr} (hpem : PemText v)
    (ht : CutAfterLast endCertificate v t) (m : Nat) :
    strTruncAfter (urlDecode ((urlencode v).take m)) endCertificate = t ↔
      (urlencode t).length ≤ m := by
  obtain ⟨v1, junk, hcut, hdecode⟩ := exists_urlDecode_take hpem.bytes m
  rw [hdecode]
  have hsearch : ∀ matchEnd, lastMatchEnd endCertificate ((v1 ++ junk).length + 1) (v1 ++ junk) =
      some matchEnd → matchEnd ≤ (v1 ++ junk).length ∧ matchEnd ≤ v1.length := by
    intro matchEnd h
    obtain ⟨hle, hend, -⟩ := lastMatchEnd_eq_some endCertificate_ne_nil (Nat.lt_succ_self _) h
    exact ⟨hle, le_length_of_decodesTo hcut hle hend⟩
  rw [← hcut.length_le_iff ht.isPrefix]
  constructor
  · intro heq
    -- the text that is saved has a marker, so the search has found one
    unfold strTruncAfter at heq
    split at heq
    · next hnone =>
        rw [heq] at hnone
        exact absurd ht.ends.isInfix ((lastMatchEnd_eq_none_iff (Nat.succ_pos _)).mp hnone)
    · next matchEnd hsome =>
        obtain ⟨hle, hle'⟩ := hsearch matchEnd hsome
        rw [← heq, List.length_take]
        omega
  · intro hle
    have htv1 : t <+: v1 := List.prefix_of_prefix_length_le ht.isPrefix hcut.isPrefix hle
    have hsome : lastMatchEnd endCertificate (v1.length + 1) v1 = some t.length :=
      lastMatchEnd_prefix endCertificate_ne_nil hcut.isPrefix (Nat.lt_succ_self _)
        (Nat.lt_succ_self _) (lastMatchEnd_of_cutAfterLast hpem ht (Nat.lt_succ_self _)) hle
    have hfound : endCertificate <:+: v1 ++ junk :=
      (ht.ends.isInfix.trans htv1.isInfix).trans (List.prefix_append v1 junk).isInfix
    unfold strTruncAfter
    split
    · next hnone => exact absurd hfound ((lastMatchEnd_eq_none_iff (Nat.succ_pos _)).mp hnone)
    · next matchEnd hmatch =>
        have hsame := lastMatchEnd_prefix endCertificate_ne_nil (List.prefix_append v1 junk)
          (Nat.lt_succ_self _) (Nat.lt_succ_self _) hmatch (hsearch matchEnd hmatch).2
        obtain rfl : t.length = matchEnd := Option.some.inj (hsome.symm.trans hsame)
        rw [List.take_append_of_le_length hle]
        exact (List.prefix_iff_eq_take.mp htv1).symm

end Web
