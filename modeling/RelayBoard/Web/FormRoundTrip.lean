import RelayBoard.Web.CaCertPost
import RelayBoard.Web.FormArrival

/-! # Form Values Survive Encoding

  `submit_config_handler` and `ca_cert_post_handler` against the standard encoding of
  their forms: a field is found in any order of the fields, and what is stored of it
  is its value exactly if the encoding of the value fits the buffer of the field.
-/

open CString Relay Settings SubmitConfig UrlForm
open CaCertManager (caCertPathHttps caCertPathMqtts)
open NvsLarge (LargeStore)

namespace Web

/-! ### Fields -/

/-- What a handler extracts of a field is the beginning of its encoding. -/
theorem extractParamValue_form {names : List CStr} (hsearch : Searchable names)
    (form : Form names) {field : CStr × CStr} (hmem : field ∈ form.fields) (size : Nat) :
    extractParamValue form.body (field.1 ++ ['=']) size =
      (urlencode field.2).take (size - 1) := by
  obtain ⟨before, rest, hfirst, hrest⟩ := form.firstAt hsearch hmem
  have hvalue : '&' ∉ urlencode field.2 :=
    fun h => ((form.bytes field hmem).urlencode_clean h).2.2 rfl
  exact extractParamValue_of_fieldText ⟨before, rest, hfirst, hvalue, hrest⟩ size

theorem nul_not_mem_body {names : List CStr} (hsearch : Searchable names) (form : Form names) :
    nul ∉ form.body :=
  fun h => absurd (form.body_pos hsearch nul h) (by decide)

/-! ### The Configuration Form -/

/-- The fields of the configuration form are named after the settings. -/
def configNames : List CStr := sSettings.map SettingEntry.key

/-- The string fields, with the sizes of their buffers. -/
def stringFields : List (CStr × Nat) :=
  [(sKeyMqttServer, mqttServerLength), (sKeyMqttProtocol, mqttProtocolLength),
    (sKeyMqttUser, mqttUserLength), (sKeyMqttPassword, mqttPasswordLength),
    (sKeyMqttPrefix, mqttPrefixLength), (sKeyHaPrefix, haPrefixLength),
    (sKeyOtaUpdateUrl, otaUpdateUrlLength), (sKeyNetLoggingHost, netLoggingHostLength)]

/-- The strings of a form are stored as they are. -/
def StoresStrings (form : Form configNames) (nvs : Nvs.Store RelayUnit) : Prop :=
  ∀ f ∈ stringFields, ∀ value, (f.1, value) ∈ form.fields →
    nvs sNamespace f.1 = some (.str value)

theorem searchable_configNames : Searchable configNames := ⟨by decide, by decide +kernel⟩

theorem stringFields_pos : ∀ f ∈ stringFields, 0 < f.2 := by decide

/-- Every string field is among the writes. -/
theorem mem_submitParams_string (text : CStr) {f : CStr × Nat} (hf : f ∈ stringFields) :
    (f.1, stringParam text (f.1 ++ ['=']) f.2) ∈ submitParams text := by
  simp only [stringFields, List.mem_cons, List.not_mem_nil, or_false] at hf
  rcases hf with rfl | rfl | rfl | rfl | rfl | rfl | rfl | rfl
  · exact List.mem_of_getElem? (i := 0) rfl
  · exact List.mem_of_getElem? (i := 2) rfl
  · exact List.mem_of_getElem? (i := 3) rfl
  · exact List.mem_of_getElem? (i := 4) rfl
  · exact List.mem_of_getElem? (i := 5) rfl
  · exact List.mem_of_getElem? (i := 6) rfl
  · exact List.mem_of_getElem? (i := 12) rfl
  · exact List.mem_of_getElem? (i := 14) rfl

/-- The strings that are written are those of the form exactly if their encodings fit. -/
theorem storesStrings_iff (nvs : Nvs.Store RelayUnit) (form : Form configNames) :
    StoresStrings form (Nvs.setAll nvs sNamespace (submitParams form.body)) ↔
      ∀ f ∈ stringFields, ∀ value, (f.1, value) ∈ form.fields → Fits f.2 value := by
  have hfield : ∀ f ∈ stringFields, ∀ value, (f.1, value) ∈ form.fields →
      (Nvs.setAll nvs sNamespace (submitParams form.body) sNamespace f.1 = some (.str value) ↔
        Fits f.2 value) := by
    intro f hf value hmem
    rw [Nvs.setAll_of_mem (submitParams_keys_nodup form.body)
      (mem_submitParams_string form.body hf), stringParam,
      extractParamValue_form searchable_configNames form hmem,
      ← urlDecode_take_eq_iff (stringFields_pos f hf) (form.bytes _ hmem)]
    constructor
    · exact fun h => Nvs.Value.str.inj (Option.some.inj h)
    · intro h
      rw [h]
  constructor
  · exact fun h f hf value hmem => (hfield f hf value hmem).mp (h f hf value hmem)
  · exact fun h f hf value hmem => (hfield f hf value hmem).mpr (h f hf value hmem)

/-- The handler stores the strings of a form that arrives in this way. -/
def KeepsStrings (nvs : Nvs.Store RelayUnit) (form : Form configNames) (a : Arrival) : Prop :=
  ∃ nvs', submitConfigHandler SubmitEnv.ok nvs (.arriving a form.body) = some (.ok, nvs') ∧
    StoresStrings form nvs'

/-- **A configuration form**: its strings are stored as they are exactly if their encodings
    fit the buffers of their fields. -/
theorem keepsStrings_iff {nvs : Nvs.Store RelayUnit} (hid : HasIdentity nvs)
    (form : Form configNames) (hroom : form.body.length < bufSize) {a : Arrival}
    (ha : a.length = form.body.length) (hone : a.sizes.length ≤ 1) :
    KeepsStrings nvs form a ↔
      ∀ f ∈ stringFields, ∀ value, (f.1, value) ∈ form.fields → Fits f.2 value := by
  have htext : formText bufSize (.arriving a form.body) = some form.body := by
    rw [formText_arriving hroom (nul_not_mem_body searchable_configNames form) ha,
      overAll_cut_of_le_one ha hone]
  have hrun := submitConfigHandler_formText hid htext
  rw [← storesStrings_iff nvs form]
  constructor
  · rintro ⟨nvs', hrun', hstored⟩
    obtain ⟨-, rfl⟩ := Prod.mk.inj (Option.some.inj (hrun.symm.trans hrun'))
    exact hstored
  · exact fun hstored => ⟨_, hrun, hstored⟩

/-! ### The Certificate Form -/

/-- The fields of the certificate forms. -/
def certNames : List CStr :=
  ["cert_type".toList, "ca_cert_mqtts".toList, "ca_cert_https".toList]

/-- The value of `cert_type`, the field of the text, and the path of the certificate. -/
def certType (mqtts : Bool) : CStr := if mqtts then "mqtts".toList else "https".toList
def certName (mqtts : Bool) : CStr :=
  if mqtts then "ca_cert_mqtts".toList else "ca_cert_https".toList
def certPath (mqtts : Bool) : CStr := if mqtts then caCertPathMqtts else caCertPathHttps

/-- Every allocation succeeds, and the template opens. -/
structure CaCertEnv.Ready (env : CaCertEnv) : Prop where
  page : env.allocatesPage = true
  content : env.allocatesContent = true
  cert : env.allocatesCert = true
  template : env.opensTemplate = true

/-- A certificate form that carries this text. -/
structure CertForm (mqtts : Bool) (text : CStr) extends Form certNames where
  type_mem : ("cert_type".toList, certType mqtts) ∈ fields
  text_mem : (certName mqtts, text) ∈ fields

/-- A request that is received whole, in pieces of these sizes. -/
def FormRequest.pieces (sizes : List Nat) (body : CStr) : FormRequest :=
  ⟨body.length, (Overwrite.cut sizes body).map .data⟩

theorem searchable_certNames : Searchable certNames := ⟨by decide, by decide⟩

/-- **Loop lemma**: the pieces end up behind each other. -/
theorem recvContent_cut {sizes : List Nat} (hsizes : ∀ n ∈ sizes, 0 < n ∧ n ≤ 1024)
    {body : CStr} (hsum : sizes.sum = body.length) (content : CStr) :
    recvContent ((Overwrite.cut sizes body).map .data) body.length content =
      some (.ok (content ++ body)) := by
  induction sizes generalizing body content with
  | nil =>
      obtain rfl : body = [] := List.length_eq_zero_iff.mp hsum.symm
      rw [List.append_nil]
      rfl
  | cons n sizes ih =>
      obtain ⟨hpos, hle⟩ := hsizes n List.mem_cons_self
      rw [List.sum_cons] at hsum
      obtain ⟨r, hr⟩ : ∃ r, body.length = r + 1 := ⟨body.length - 1, by omega⟩
      have htake : (body.take n).length = n := by
        rw [List.length_take]
        omega
      have hdrop : (body.drop n).length = body.length - n := List.length_drop
      have hpiece : (body.take n).take (min (r + 1) 1024) = body.take n :=
        List.take_of_length_le (by omega)
      have hne : body.take n ≠ [] := by
        apply List.ne_nil_of_length_pos
        omega
      rw [Overwrite.cut, List.map_cons, hr, recvContent, hpiece, if_neg hne, htake, ← hr, ← hdrop,
        ih (fun m hm => hsizes m (List.mem_cons_of_mem n hm)) (by omega), List.append_assoc,
        List.take_append_drop]

/-- With a type and a text, the text is decoded, cut and handed over. -/
theorem saveCertificateForm_handed {env : CaCertEnv} (halloc : env.allocatesCert = true)
    {nvs : LargeStore} {content cert : CStr} {mqtts : Bool}
    (htype : extractParamValue content "cert_type=".toList maxCaCertSize = certType mqtts)
    (hcert : extractParamValue content (certName mqtts ++ ['=']) maxCaCertSize = cert)
    (hne : cert ≠ []) :
    ∃ handled, saveCertificateForm env nvs content = some handled ∧
      handled.handed = some (strTruncAfter (urlDecode cert) endCertificate, certPath mqtts) := by
  have hempty : certType mqtts ≠ [] := by
    cases mqtts <;> decide
  have hkey : (if certType mqtts = "mqtts".toList then "ca_cert_mqtts=".toList
      else "ca_cert_https=".toList) = certName mqtts ++ ['='] := by
    cases mqtts <;> decide
  have hpath : (if certType mqtts = "mqtts".toList then caCertPathMqtts
      else caCertPathHttps) = certPath mqtts := by
    cases mqtts <;> decide
  unfold saveCertificateForm
  dsimp only
  rw [htype, if_neg hempty, halloc, if_neg (by decide), hkey, hcert, if_neg hne, hpath]
  split
  · exact ⟨_, rfl, rfl⟩
  · exact ⟨_, rfl, rfl⟩

/-- A form whose text is not empty gets as far as the certificate. -/
theorem caCertPostHandler_handed {env : CaCertEnv} (hready : env.Ready) (nvs : LargeStore)
    {mqtts : Bool} {text : CStr} (form : CertForm mqtts text) (htext : text ≠ [])
    {sizes : List Nat} (hsizes : ∀ n ∈ sizes, 0 < n ∧ n ≤ 1024)
    (hsum : sizes.sum = form.body.length) :
    ∃ handled, caCertPostHandler env nvs (.pieces sizes form.body) = some handled ∧
      handled.handed = some (strTruncAfter (urlDecode ((urlencode text).take (maxCaCertSize - 1)))
        endCertificate, certPath mqtts) := by
  have htype : extractParamValue form.body "cert_type=".toList maxCaCertSize = certType mqtts := by
    have h := extractParamValue_form searchable_certNames form.toForm form.type_mem maxCaCertSize
    have hself : (urlencode (certType mqtts)).take (maxCaCertSize - 1) = certType mqtts := by
      cases mqtts <;> decide
    exact h.trans hself
  have hcert : extractParamValue form.body (certName mqtts ++ ['=']) maxCaCertSize =
      (urlencode text).take (maxCaCertSize - 1) :=
    extractParamValue_form searchable_certNames form.toForm form.text_mem maxCaCertSize
  -- a text that is not empty is not cut to nothing
  have hcut : (urlencode text).take (maxCaCertSize - 1) ≠ [] := by
    rw [ne_eq, List.take_eq_nil_iff, not_or]
    exact ⟨by decide, fun h => htext (urlencode_eq_nil h)⟩
  -- a form that has its fields is not empty
  have hlen : form.body.length ≠ 0 := by
    intro h
    rw [List.length_eq_zero_iff.mp h, extractParamValue_of_absent] at htype
    · cases mqtts <;> exact absurd htype (by decide)
    · exact fun h => absurd (List.infix_nil.mp h) (by decide)
  have hcontent : form.body.takeWhile (fun c => c ≠ nul) = form.body := by
    have h : (form.body ++ []).takeWhile (fun c => c ≠ nul) = form.body :=
      takeWhile_ne_append (nul_not_mem_body searchable_certNames form.toForm) (.inl rfl)
    rwa [List.append_nil] at h
  -- the pieces come together again in the buffer
  have hrecv : recvContent ((Overwrite.cut sizes form.body).map .data) form.body.length [] =
      some (.ok form.body) := recvContent_cut hsizes hsum []
  have hhandler : caCertPostHandler env nvs (.pieces sizes form.body) =
      saveCertificateForm env nvs form.body := by
    unfold caCertPostHandler FormRequest.pieces
    dsimp only
    rw [if_neg hlen, hready.page, hready.template, hready.content, if_neg (by decide),
      if_neg (by decide), if_neg (by decide), hrecv]
    dsimp only
    rw [hcontent]
  rw [hhandler]
  exact saveCertificateForm_handed hready.cert htype hcert hcut

/-- The handler hands this text and path to `save_ca_certificate`. -/
def HandsOver (env : CaCertEnv) (nvs : LargeStore) (req : FormRequest) (t path : CStr) : Prop :=
  ∃ handled, caCertPostHandler env nvs req = some handled ∧ handled.handed = some (t, path)

/-- **A certificate form**: the text up to its last end marker is handed over exactly if its
    encoding is not cut. -/
theorem handsOver_iff {env : CaCertEnv} (hready : env.Ready) (nvs : LargeStore)
    {mqtts : Bool} {text t : CStr} (hpem : PemText text)
    (ht : CutAfterLast endCertificate text t) (form : CertForm mqtts text)
    {sizes : List Nat} (hsizes : ∀ n ∈ sizes, 0 < n ∧ n ≤ 1024)
    (hsum : sizes.sum = form.body.length) :
    HandsOver env nvs (.pieces sizes form.body) t (certPath mqtts) ↔
      (urlencode t).length < maxCaCertSize := by
  have htext : text ≠ [] := by
    rintro rfl
    exact endCertificate_ne_nil
      (List.suffix_nil.mp (List.prefix_nil.mp ht.isPrefix ▸ ht.ends))
  obtain ⟨handled, hrun, hhanded⟩ := caCertPostHandler_handed hready nvs form htext hsizes hsum
  rw [← Nat.le_sub_one_iff_lt (by decide), ← strTruncAfter_decoded_iff hpem ht]
  constructor
  · rintro ⟨handled', hrun', hhanded'⟩
    obtain rfl : handled = handled' := Option.some.inj (hrun.symm.trans hrun')
    exact (Prod.mk.inj (Option.some.inj (hhanded.symm.trans hhanded'))).1
  · rintro rfl
    exact ⟨handled, hrun, hhanded⟩

/-! ### Single Forms -/

/-- A text with one end marker: the `D` of the marker is its only one. -/
theorem one_marker {front back before after : CStr} (hfront : 'D' ∉ front) (hback : 'D' ∉ back)
    (h : front ++ endCertificate ++ back = before ++ endCertificate ++ after) :
    front = before ∧ back = after := by
  have hmark : endCertificate = "-----EN".toList ++ 'D' :: " CERTIFICATE-----".toList := by
    decide
  have hsplit : (front ++ "-----EN".toList) ++ 'D' :: (" CERTIFICATE-----".toList ++ back) =
      (before ++ "-----EN".toList) ++ 'D' :: (" CERTIFICATE-----".toList ++ after) := by
    rw [hmark] at h
    simpa using h
  have hl : 'D' ∉ front ++ "-----EN".toList := by
    rw [List.mem_append, not_or]
    exact ⟨hfront, by decide⟩
  have hr : 'D' ∉ " CERTIFICATE-----".toList ++ back := by
    rw [List.mem_append, not_or]
    exact ⟨by decide, hback⟩
  obtain rfl : front = before := List.append_cancel_right (append_cons_unique hl hr hsplit)
  exact ⟨rfl, List.append_cancel_left h⟩

/-- Such a text is a certificate if the marker ends its line. -/
theorem pemText_of_one_marker {front back : CStr} (hfront : 'D' ∉ front) (hback : 'D' ∉ back)
    (hbytes : Bytes front) (hbytes' : Bytes back)
    (hline : ∀ c ∈ back.head?, c = '\n' ∨ c = '\r') :
    PemText (front ++ endCertificate ++ back) ∧
      CutAfterLast endCertificate (front ++ endCertificate ++ back) (front ++ endCertificate) := by
  have hend : Bytes endCertificate := by decide
  refine ⟨⟨(hbytes.append hend).append hbytes', ?_⟩, List.prefix_append _ _,
    List.suffix_append _ _, ?_⟩
  · intro before after h
    obtain ⟨-, rfl⟩ := one_marker hfront hback h
    exact hline
  · intro before after h
    obtain ⟨rfl, -⟩ := one_marker hfront hback h
    exact Nat.le_refl _

/-- The form with these fields: a certificate for HTTPS. -/
def httpsForm (text : CStr) (htext : Bytes text) : CertForm false text where
  fields := [("ca_cert_https".toList, text), ("cert_type".toList, "https".toList)]
  nodup := by
    show ["ca_cert_https".toList, "cert_type".toList].Nodup
    decide
  named := by
    intro f hf
    rcases List.mem_pair.mp hf with rfl | rfl
    · show "ca_cert_https".toList ∈ certNames
      decide
    · decide
  bytes := by
    intro f hf
    rcases List.mem_pair.mp hf with rfl | rfl
    · exact htext
    · show Bytes "https".toList
      decide
  type_mem := List.mem_cons_of_mem _ List.mem_cons_self
  text_mem := List.mem_cons_self

/-- A body may arrive byte by byte. -/
theorem bytewise_sizes (n : Nat) : ∀ m ∈ List.replicate n 1, 0 < m ∧ m ≤ 1024 := by
  intro m hm
  rw [List.eq_of_mem_replicate hm]
  decide

theorem bytewise_sum (n : Nat) : (List.replicate n 1).sum = n := by
  rw [List.sum_replicate_nat, Nat.mul_one]

/-- Every call of the handler succeeds. -/
def CaCertEnv.ok : CaCertEnv := ⟨true, true, true, true, fun path => path, fun _ => true⟩

theorem CaCertEnv.ok_ready : CaCertEnv.ok.Ready := ⟨rfl, rfl, rfl, rfl⟩

/-- A form with a slash and an `@` in its strings. -/
def slashForm : Form configNames where
  fields := [(sKeyMqttPrefix, "home/relays".toList), (sKeyMqttPort, "1883".toList),
    (sKeyMqttPassword, "p@ss word%".toList)]
  nodup := by decide
  named := by decide
  bytes := by decide +kernel

/-- A form whose protocol is a scheme with `://`. -/
def schemeForm : Form configNames where
  fields := [(sKeyMqttServer, "h".toList), (sKeyMqttProtocol, "ws://h".toList),
    (sKeyMqttUser, []), (sKeyMqttPassword, []), (sKeyMqttPrefix, "p".toList),
    (sKeyHaPrefix, "a".toList), (sKeyOtaUpdateUrl, []), (sKeyNetLoggingHost, [])]
  nodup := by decide
  named := by decide
  bytes := by decide +kernel

def beginCertificate : CStr := "-----BEGIN CERTIFICATE-----\n".toList

/-- A certificate of slashes, as they occur in base64, up to its end marker. -/
def slashFront (n : Nat) : CStr := beginCertificate ++ (List.replicate n '/' ++ ['\n'])

theorem slashFront_noD (n : Nat) : 'D' ∉ slashFront n := by
  intro h
  rcases List.mem_append.mp h with h | h
  · exact absurd h (by decide +kernel)
  · rcases List.mem_append.mp h with h | h
    · exact absurd (List.eq_of_mem_replicate h) (by decide)
    · exact absurd h (by decide)

theorem slashFront_bytes (n : Nat) : Bytes (slashFront n) := by
  have hhead : Bytes beginCertificate := by decide
  have hslash : Bytes (List.replicate n '/') := by
    intro c hc
    rw [List.eq_of_mem_replicate hc]
    decide
  have hnewline : Bytes ['\n'] := by decide
  exact hhead.append (hslash.append hnewline)

theorem pemText_slashFront (n : Nat) :
    PemText (slashFront n ++ endCertificate ++ ['\n']) ∧
      CutAfterLast endCertificate (slashFront n ++ endCertificate ++ ['\n'])
        (slashFront n ++ endCertificate) := by
  have hnewline : Bytes ['\n'] := by decide
  apply pemText_of_one_marker (slashFront_noD n) (by decide) (slashFront_bytes n) hnewline
  intro c hc
  obtain rfl : '\n' = c := Option.some.inj hc
  exact .inl rfl

/-- The form of such a certificate. -/
def slashCert (n : Nat) : CertForm false (slashFront n ++ endCertificate ++ ['\n']) :=
  httpsForm _ (pemText_slashFront n).1.bytes

theorem length_slashFront (n : Nat) : (slashFront n).length = n + 29 := by
  have hhead : beginCertificate.length = 28 := by decide
  rw [slashFront, List.length_append, List.length_append, List.length_replicate, hhead,
    List.length_singleton]
  omega

/-- Each slash is encoded by three characters. -/
theorem length_urlencode_slashFront (n : Nat) :
    (urlencode (slashFront n)).length = 3 * n + 33 := by
  have hslash : (urlencode (List.replicate n '/')).length = 3 * n := by
    induction n with
    | zero => rfl
    | succ n ih =>
        have hone : (encodeChar '/').length = 3 := rfl
        rw [List.replicate_succ, urlencode_cons, List.length_append, ih, hone]
        omega
  have hhead : (urlencode beginCertificate).length = 30 := by decide
  have hnewline : (urlencode ['\n']).length = 3 := by decide
  rw [slashFront, length_urlencode_append, length_urlencode_append, hslash, hhead, hnewline]
  omega

/-! ### Round Trips -/

/-- **What survives of a form**: the strings of a configuration form whose encodings fit
    their fields, and a certificate whose encoding up to the last end marker is shorter
    than the buffer. -/
theorem form_survives_iff {nvs : Nvs.Store RelayUnit} (hid : HasIdentity nvs)
    {env : CaCertEnv} (hready : env.Ready) (certs : LargeStore) :
    (∀ (form : Form configNames) (a : Arrival), form.body.length < bufSize →
      a.length = form.body.length → a.sizes.length ≤ 1 →
      (KeepsStrings nvs form a ↔
        ∀ f ∈ stringFields, ∀ value, (f.1, value) ∈ form.fields → Fits f.2 value)) ∧
    ∀ (mqtts : Bool) (text t : CStr) (form : CertForm mqtts text) (sizes : List Nat),
      PemText text → CutAfterLast endCertificate text t →
      (∀ n ∈ sizes, 0 < n ∧ n ≤ 1024) → sizes.sum = form.body.length →
      (HandsOver env certs (.pieces sizes form.body) t (certPath mqtts) ↔
        (urlencode t).length < maxCaCertSize) := by
  constructor
  · intro form a hroom ha hone
    exact keepsStrings_iff hid form hroom ha hone
  · intro mqtts text t form sizes hpem ht hsizes hsum
    exact handsOver_iff hready certs hpem ht form hsizes hsum

/-- Two short forms survive: the configuration behind a time-out, the certificate byte by
    byte. -/
theorem form_survives_iff_short :
    KeepsStrings defaultNvs slashForm (.ofSteps [none, some 69] (by decide)) ∧
      HandsOver .ok (fun _ _ => none) (.pieces (List.replicate (slashCert 4).body.length 1)
        (slashCert 4).body) (slashFront 4 ++ endCertificate) (certPath false) := by
  obtain ⟨hconfig, hcert⟩ := form_survives_iff hasIdentity_defaultNvs CaCertEnv.ok_ready
    (fun _ _ => none)
  constructor
  · rw [hconfig slashForm (.ofSteps [none, some 69] (by decide)) (by decide +kernel)
      (by decide +kernel) (by decide)]
    have hroom : ∀ field ∈ slashForm.fields, ∀ f ∈ stringFields, f.1 = field.1 →
        (urlencode field.2).length < f.2 := by
      decide
    exact fun f hf value hmem => .inl (hroom (f.1, value) hmem f hf rfl)
  · obtain ⟨hpem, hcut⟩ := pemText_slashFront 4
    rw [hcert false _ _ (slashCert 4) _ hpem hcut (bytewise_sizes _) (bytewise_sum _),
      length_urlencode_append, length_urlencode_slashFront]
    decide

/-- A protocol of 6 characters in a field of 10, and a certificate of 2775 characters in a
    buffer of 8192, do not survive. -/
theorem not_form_survives :
    (¬ ∀ (nvs : Nvs.Store RelayUnit) (form : Form configNames) (a : Arrival),
      HasIdentity nvs →
      (∀ f ∈ stringFields, ∃ value, (f.1, value) ∈ form.fields ∧ value.length < f.2) →
      form.body.length < bufSize → a.length = form.body.length → a.sizes.length ≤ 1 →
      KeepsStrings nvs form a) ∧
    ¬ ∀ (env : CaCertEnv) (nvs : LargeStore) (mqtts : Bool) (text t : CStr)
      (form : CertForm mqtts text) (sizes : List Nat),
      env.Ready → PemText text → text.length < maxCaCertSize →
      CutAfterLast endCertificate text t →
      (∀ n ∈ sizes, 0 < n ∧ n ≤ 1024) → sizes.sum = form.body.length →
      HandsOver env nvs (.pieces sizes form.body) t (certPath mqtts) := by
  constructor
  · intro h
    have hid := hasIdentity_defaultNvs
    have hshort : ∀ f ∈ stringFields, ∃ value, (f.1, value) ∈ schemeForm.fields ∧
        value.length < f.2 := by
      have hroom : ∀ f ∈ stringFields, ∃ field ∈ schemeForm.fields, field.1 = f.1 ∧
          field.2.length < f.2 := by
        decide
      intro f hf
      obtain ⟨⟨name, value⟩, hmem, hname, hlt⟩ := hroom f hf
      exact ⟨value, hname ▸ hmem, hlt⟩
    have hkeeps := h defaultNvs schemeForm (.ofSteps [some 122] (by decide)) hid hshort
      (by decide +kernel) (by decide +kernel) (by decide)
    rw [keepsStrings_iff hid schemeForm (by decide +kernel) (by decide +kernel) (by decide)]
      at hkeeps
    have hfits := hkeeps (sKeyMqttProtocol, mqttProtocolLength) (by decide) "ws://h".toList
      (by decide)
    exact absurd hfits (by unfold Fits; decide)
  · intro h
    obtain ⟨hpem, hcut⟩ := pemText_slashFront 2720
    have hsizes := bytewise_sizes (slashCert 2720).body.length
    have hsum := bytewise_sum (slashCert 2720).body.length
    have hlen : (slashFront 2720 ++ endCertificate ++ ['\n']).length < maxCaCertSize := by
      rw [List.length_append, List.length_append, length_slashFront]
      decide
    have hhands := h .ok (fun _ _ => none) false _ _ (slashCert 2720) _ CaCertEnv.ok_ready hpem
      hlen hcut hsizes hsum
    rw [handsOver_iff CaCertEnv.ok_ready _ hpem hcut _ hsizes hsum, length_urlencode_append,
      length_urlencode_slashFront] at hhands
    exact absurd hhands (by decide)

end Web
