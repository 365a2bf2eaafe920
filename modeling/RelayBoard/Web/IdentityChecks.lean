import RelayBoard.Web.FormRoundTrip
import RelayBoard.Web.Reset

/-! # Four Checks of One Identity

  The device identity is checked by four handlers on their own: from a query, from
  JSON in two ways, and from a form. The file determines on which credentials they
  come to one verdict.
-/

open CString Relay Settings UrlForm

namespace Web

/-! ### Credentials -/

/-- A device id and a device serial. -/
@[ext] structure Credentials where
  deviceId : CStr
  deviceSerial : CStr
  deriving DecidableEq

/-- The credentials of the device. -/
def Credentials.StoredIn (c : Credentials) (nvs : Nvs.Store RelayUnit) : Prop :=
  nvs sNamespace sKeyDeviceId = some (.str c.deviceId) ∧
    nvs sNamespace sKeyDeviceSerial = some (.str c.deviceSerial)

/-- A string of letters and digits. -/
def Alphanumeric (s : CStr) : Prop := s ≠ [] ∧ s.all Char.isAlphanum = true

instance (s : CStr) : Decidable (Alphanumeric s) :=
  inferInstanceAs (Decidable (s ≠ [] ∧ s.all Char.isAlphanum = true))

/-- Both strings fit the fields of the device. -/
def Credentials.Fit (c : Credentials) : Prop :=
  c.deviceId.length ≤ deviceIdLength ∧ c.deviceSerial.length ≤ deviceSerialLength

/-- Both strings, cut to the fields of the device. -/
def Credentials.cut (c : Credentials) : Credentials :=
  ⟨c.deviceId.take deviceIdLength, c.deviceSerial.take deviceSerialLength⟩

theorem Credentials.Fit.cut_eq {c : Credentials} (h : c.Fit) : c.cut = c := by
  unfold Credentials.cut
  rw [List.take_of_length_le h.1, List.take_of_length_le h.2]

/-! ### Submissions -/

/-- The only member of an object under a name, letter case aside. -/
def SoleMember (json : Json) (name value : CStr) : Prop :=
  ∃ members, json = .object members ∧ (name, .string value) ∈ members ∧
    ∀ m ∈ members, Json.caseInsensitiveEq name m.1 = true → m = (name, .string value)

/-- The calls of a query return the text of a form and its alphanumeric values; a value
    that does not fit is an error. -/
structure Query.Carries {names : List CStr} (q : Query) (form : Form names) : Prop where
  queryLen : q.queryLen ≠ 0
  mallocOk : ∀ name, q.mallocOk name = true
  queryStr : q.queryStr = .ok form.body
  fits : ∀ f ∈ form.fields, Alphanumeric f.2 → ∀ size, f.2.length < size →
    q.keyValue form.body f.1 size = .ok f.2
  truncated : ∀ f ∈ form.fields, Alphanumeric f.2 → ∀ size, size ≤ f.2.length →
    ∃ err, q.keyValue form.body f.1 size = .error err

/-- One pair of credentials as each of the handlers may receive it. -/
structure Submission (c : Credentials) where
  names : List CStr
  searchable : Searchable names
  form : Form names
  formId : ("device_id".toList, c.deviceId) ∈ form.fields
  formSerial : ("device_serial".toList, c.deviceSerial) ∈ form.fields
  query : Query
  carries : query.Carries form
  json : Json
  jsonId : SoleMember json "device_id".toList c.deviceId
  jsonSerial : SoleMember json "device_serial".toList c.deviceSerial
  req : Request
  received : receiveJson req = .ok json

/-- The verdict of every check is `accepted`. An accepted request goes on; the responses to
    a refused one are those of the handlers. -/
structure Verdicts {c : Credentials} (nvs : Nvs.Store RelayUnit) (s : Submission c)
    (accepted : Prop) : Prop where
  getQuery : validateDeviceIdentityFromGetQuery nvs s.query = .ok () ↔ accepted
  json : validateDeviceIdentityFromJson nvs s.json = .ok ↔ accepted
  settingAccepted : accepted → ∀ o,
    setSettingValuePostHandler o nvs s.req = some (updateSettings o nvs s.json)
  settingRefused : ¬ accepted → ∀ o, setSettingValuePostHandler o nvs s.req =
    some (.refused nvs (.err .forbidden (some "Device ID or serial mismatch".toList)))
  resetAccepted : accepted → ∀ e, resetRequest e nvs s.form.body =
    some (resetAction e nvs (atoi (extractParamValue s.form.body "action=".toList 8)))
  resetRefused : ¬ accepted → ∀ e, resetRequest e nvs s.form.body =
    some (.refused nvs (.err .forbidden (some "Device validation failed".toList)))

/-! ### What Each Check Reads -/

theorem SoleMember.getObjectItemCaseSensitive {json : Json} {name value : CStr}
    (h : SoleMember json name value) :
    json.getObjectItemCaseSensitive name = some (.string value) := by
  obtain ⟨members, rfl, hmem, hsole⟩ := h
  show (members.find? fun member => name = member.1).map Prod.snd = _
  cases hfind : members.find? fun member => name = member.1 with
  | none =>
      have := List.find?_eq_none.mp hfind _ hmem
      simp at this
  | some m =>
      have hname : name = m.1 := by simpa using List.find?_some hfind
      have hm := hsole m (List.mem_of_find?_eq_some hfind) (by
        rw [← hname]
        simp [Json.caseInsensitiveEq])
      rw [hm]
      rfl

theorem SoleMember.getObjectItem {json : Json} {name value : CStr}
    (h : SoleMember json name value) : json.getObjectItem name = some (.string value) := by
  obtain ⟨members, rfl, hmem, hsole⟩ := h
  show (members.find? fun member => Json.caseInsensitiveEq name member.1).map Prod.snd = _
  cases hfind : members.find? fun member => Json.caseInsensitiveEq name member.1 with
  | none =>
      have := List.find?_eq_none.mp hfind _ hmem
      simp [Json.caseInsensitiveEq] at this
  | some m =>
      have hname : Json.caseInsensitiveEq name m.1 = true := by
        simpa using List.find?_some hfind
      rw [hsole m (List.mem_of_find?_eq_some hfind) hname]
      rfl

theorem Alphanumeric.urlencode {s : CStr} (h : Alphanumeric s) : urlencode s = s := by
  apply urlencode_literal
  rw [List.all_eq_true]
  intro c hc
  unfold isLiteral
  rw [List.all_eq_true.mp h.2 c hc, Bool.true_or]

/-- A parameter read into a buffer of `size` bytes. -/
theorem Query.Carries.extract {names : List CStr} {q : Query} {form : Form names}
    (h : q.Carries form) {name value : CStr} (hmem : (name, value) ∈ form.fields)
    (hvalue : Alphanumeric value) (size : Nat) :
    (value.length < size → extractParamValueFromGetQuery q name size = .ok value) ∧
      (size ≤ value.length → ∃ err, extractParamValueFromGetQuery q name size = .error err) := by
  have hread : extractParamValueFromGetQuery q name size = q.keyValue form.body name size := by
    unfold extractParamValueFromGetQuery
    rw [if_neg h.queryLen, if_neg (by rw [h.mallocOk]; decide), h.queryStr]
  rw [hread]
  exact ⟨h.fits _ hmem hvalue size, h.truncated _ hmem hvalue size⟩

section checks
variable {stored c : Credentials} {nvs : Nvs.Store RelayUnit} (hstored : stored.StoredIn nvs)
include hstored

theorem Credentials.StoredIn.readId : Nvs.readString nvs sNamespace sKeyDeviceId =
    .ok stored.deviceId := by
  unfold Nvs.readString
  rw [hstored.1]

theorem Credentials.StoredIn.readSerial : Nvs.readString nvs sNamespace sKeyDeviceSerial =
    .ok stored.deviceSerial := by
  unfold Nvs.readString
  rw [hstored.2]

/-- The check of a query accepts what fits and is stored. -/
theorem validateFromGetQuery_iff (s : Submission c) (hid : Alphanumeric c.deviceId)
    (hserial : Alphanumeric c.deviceSerial) :
    validateDeviceIdentityFromGetQuery nvs s.query = .ok () ↔ c.Fit ∧ c = stored := by
  have hreadId := s.carries.extract s.formId hid (deviceIdLength + 1)
  have hreadSerial := s.carries.extract s.formSerial hserial (deviceSerialLength + 1)
  unfold validateDeviceIdentityFromGetQuery
  by_cases hfitId : c.deviceId.length ≤ deviceIdLength
  · rw [hreadId.1 (Nat.lt_succ_of_le hfitId)]
    by_cases hfitSerial : c.deviceSerial.length ≤ deviceSerialLength
    · rw [hreadSerial.1 (Nat.lt_succ_of_le hfitSerial), hstored.readId, hstored.readSerial]
      dsimp only
      have heq : c = stored ↔ c.deviceId = stored.deviceId ∧
          c.deviceSerial = stored.deviceSerial := Credentials.ext_iff
      rw [heq]
      split
      · next hsame => exact ⟨fun _ => ⟨⟨hfitId, hfitSerial⟩, hsame⟩, fun _ => rfl⟩
      · next hdiff => exact ⟨fun h => absurd h (by simp), fun h => absurd h.2 hdiff⟩
    · obtain ⟨err, herr⟩ := hreadSerial.2 (Nat.lt_of_not_le hfitSerial)
      rw [herr]
      exact ⟨fun h => absurd h (by simp), fun h => absurd h.1.2 hfitSerial⟩
  · obtain ⟨err, herr⟩ := hreadId.2 (Nat.lt_of_not_le hfitId)
    rw [herr]
    exact ⟨fun h => absurd h (by simp), fun h => absurd h.1.1 hfitId⟩

/-- The check of a JSON object accepts what is stored. -/
theorem validateFromJson_iff (s : Submission c) :
    validateDeviceIdentityFromJson nvs s.json = .ok ↔ c = stored := by
  unfold validateDeviceIdentityFromJson
  rw [s.jsonId.getObjectItemCaseSensitive, s.jsonSerial.getObjectItemCaseSensitive]
  simp only [Option.bind_some, Json.valuestring, hstored.readId, hstored.readSerial]
  have heq : c = stored ↔ c.deviceId = stored.deviceId ∧
      c.deviceSerial = stored.deviceSerial := Credentials.ext_iff
  rw [heq]
  split
  · next hsame => exact ⟨fun _ => hsame, fun _ => rfl⟩
  · next hdiff => exact ⟨fun h => absurd h (by simp), fun h => absurd h hdiff⟩

/-- So does the check that the settings handler makes itself. -/
theorem setSettingValuePostHandler_eq (s : Submission c) (o : SettingOutcomes) :
    setSettingValuePostHandler o nvs s.req =
      if c = stored then some (updateSettings o nvs s.json)
      else some (.refused nvs
        (.err .forbidden (some "Device ID or serial mismatch".toList))) := by
  unfold setSettingValuePostHandler
  rw [s.received]
  dsimp only
  rw [s.jsonId.getObjectItem, s.jsonSerial.getObjectItem]
  simp only [Option.bind_some, Json.valuestring, hstored.readId, hstored.readSerial]
  by_cases heq : c = stored
  · rw [if_pos heq, if_neg (by rw [heq]; simp)]
  · rw [if_neg heq, if_pos]
    by_contra hnot
    rw [not_or, not_not, not_not] at hnot
    exact heq (Credentials.ext_iff.mpr hnot)

/-- The check of a form compares what is left of the credentials. -/
theorem resetRequest_eq (s : Submission c) (hid : Alphanumeric c.deviceId)
    (hserial : Alphanumeric c.deviceSerial) (e : Erasure RelayUnit) :
    resetRequest e nvs s.form.body =
      if c.cut = stored then
        some (resetAction e nvs (atoi (extractParamValue s.form.body "action=".toList 8)))
      else some (.refused nvs (.err .forbidden (some "Device validation failed".toList))) := by
  have hreadId : extractParamValue s.form.body "device_id=".toList (deviceIdLength + 1) =
      c.cut.deviceId := by
    have h := extractParamValue_form s.searchable s.form s.formId (deviceIdLength + 1)
    rwa [hid.urlencode] at h
  have hreadSerial : extractParamValue s.form.body "device_serial=".toList
      (deviceSerialLength + 1) = c.cut.deviceSerial := by
    have h := extractParamValue_form s.searchable s.form s.formSerial (deviceSerialLength + 1)
    rwa [hserial.urlencode] at h
  unfold resetRequest
  rw [hstored.readId, hstored.readSerial]
  dsimp only
  rw [hreadId, hreadSerial]
  by_cases heq : c.cut = stored
  · rw [if_pos heq, if_neg (by rw [heq]; simp)]
  · rw [if_neg heq, if_pos]
    by_contra hnot
    rw [not_or, not_not, not_not] at hnot
    exact heq (Credentials.ext_iff.mpr ⟨hnot.1.symm, hnot.2.symm⟩)

end checks

/-! ### One Verdict -/

/-- **When the checks agree**: all four accept exactly the stored credentials if and only if
    what is submitted fits the fields of the device, or differs from the stored credentials
    both as it is and when it is cut. -/
theorem verdicts_iff {stored c : Credentials} {nvs : Nvs.Store RelayUnit}
    (hstored : stored.StoredIn nvs) (hid : Alphanumeric c.deviceId)
    (hserial : Alphanumeric c.deviceSerial) (s : Submission c) :
    Verdicts nvs s (c = stored) ↔ c.Fit ∨ c ≠ stored ∧ c.cut ≠ stored := by
  have hquery := validateFromGetQuery_iff hstored s hid hserial
  have hreset := resetRequest_eq hstored s hid hserial
  constructor
  · intro h
    by_cases hfit : c.Fit
    · exact .inl hfit
    · right
      have hne : c ≠ stored := by
        intro heq
        exact hfit (hquery.mp (h.getQuery.mpr heq)).1
      refine ⟨hne, ?_⟩
      intro hcut
      -- the form is accepted though the credentials differ
      have hrefused := h.resetRefused hne ⟨.ok, nvs⟩
      rw [hreset, if_pos hcut, Option.some.injEq] at hrefused
      exact resetAction_ne_refused _ nvs _ hrefused
  · intro hcond
    have hcut : c.cut = stored ↔ c = stored := by
      rcases hcond with hfit | ⟨hne, hcut⟩
      · rw [hfit.cut_eq]
      · exact ⟨fun h => absurd h hcut, fun h => absurd h hne⟩
    exact {
      getQuery := by
        rw [hquery]
        rcases hcond with hfit | ⟨hne, _⟩
        · exact ⟨fun h => h.2, fun h => ⟨hfit, h⟩⟩
        · exact ⟨fun h => h.2, fun h => absurd h hne⟩
      json := validateFromJson_iff hstored s
      settingAccepted := fun heq o => by
        rw [setSettingValuePostHandler_eq hstored s, if_pos heq]
      settingRefused := fun hne o => by
        rw [setSettingValuePostHandler_eq hstored s, if_neg hne]
      resetAccepted := fun heq e => by rw [hreset, if_pos (hcut.mpr heq)]
      resetRefused := fun hne e => by rw [hreset, if_neg fun h => hne (hcut.mp h)] }

/-! ### A Device and Its Clients -/

/-- `httpd_query_key_value` on fields that are not empty. -/
def queryKeyValue (query name : CStr) (size : Nat) : Except EspErr CStr :=
  match (query.splitOn '&').find? fun field => (name ++ ['=']).isPrefixOf field with
  | none => .error .notFound
  | some field =>
      let value := field.drop (name.length + 1)
      if value.length < size then .ok value else .error .invalidSize

/-- A device with its id and serial. -/
def deviceStore : Nvs.Store RelayUnit :=
  Nvs.setAll Nvs.empty sNamespace [(sKeyDeviceId, .str "A1B2C3D4E5F6".toList),
    (sKeyDeviceSerial, .str "0123456789ABCDEF0123456789ABCDEF".toList)]

def deviceCredentials : Credentials :=
  ⟨"A1B2C3D4E5F6".toList, "0123456789ABCDEF0123456789ABCDEF".toList⟩

def identityNames : List CStr := ["device_id".toList, "device_serial".toList]

/-- The form of the credentials `c`. -/
def Credentials.fields (c : Credentials) : List (CStr × CStr) :=
  [("device_id".toList, c.deviceId), ("device_serial".toList, c.deviceSerial)]

def Credentials.json (c : Credentials) : Json :=
  .object (c.fields.map fun f => (f.1, .string f.2))

theorem deviceCredentials_stored : deviceCredentials.StoredIn deviceStore := by
  unfold Credentials.StoredIn
  decide +kernel

theorem searchable_identityNames : Searchable identityNames := ⟨by decide, by decide +kernel⟩

/-- A submission of credentials whose fields are found in the text of their form. -/
def submission (c : Credentials) (hbytes : ∀ f ∈ c.fields, Bytes f.2)
    (hfind : ∀ f ∈ c.fields, (((encodeForm c.fields).splitOn '&').find? fun field =>
      (f.1 ++ ['=']).isPrefixOf field) = some (f.1 ++ '=' :: f.2)) : Submission c where
  names := identityNames
  searchable := searchable_identityNames
  form := ⟨c.fields, by simp [Credentials.fields],
    by simp [Credentials.fields, identityNames], hbytes⟩
  formId := List.mem_cons_self
  formSerial := List.mem_cons_of_mem _ List.mem_cons_self
  query := ⟨1, fun _ => true, .ok (encodeForm c.fields), queryKeyValue⟩
  carries :=
    { queryLen := Nat.one_ne_zero
      mallocOk := fun _ => rfl
      queryStr := rfl
      fits := by
        intro f hf _ size hsize
        show queryKeyValue (encodeForm c.fields) f.1 size = _
        unfold queryKeyValue
        rw [hfind f hf]
        simp [hsize]
      truncated := by
        intro f hf _ size hsize
        refine ⟨.invalidSize, ?_⟩
        show queryKeyValue (encodeForm c.fields) f.1 size = _
        unfold queryKeyValue
        rw [hfind f hf]
        simp [Nat.not_lt.mpr hsize] }
  json := c.json
  jsonId := ⟨_, rfl, List.mem_cons_self, by
    unfold Credentials.fields
    simp [Json.caseInsensitiveEq]⟩
  jsonSerial := ⟨_, rfl, List.mem_cons_of_mem _ List.mem_cons_self, by
    unfold Credentials.fields
    simp [Json.caseInsensitiveEq]⟩
  req := ⟨100, true, some c.json⟩
  received := rfl

theorem verdicts_iff_device : ∃ s : Submission deviceCredentials,
    Verdicts deviceStore s (deviceCredentials = deviceCredentials) := by
  have s : Submission deviceCredentials :=
    submission deviceCredentials (by decide) (by decide +kernel)
  exact ⟨s, (verdicts_iff deviceCredentials_stored (by decide) (by decide) s).mpr
    (.inl (by unfold Credentials.Fit; decide))⟩

/-- An id with one character more. -/
def longCredentials : Credentials :=
  ⟨"A1B2C3D4E5F60".toList, "0123456789ABCDEF0123456789ABCDEF".toList⟩

/-- The form accepts the id with one character more, the other checks do not. -/
theorem not_verdicts : ¬ ∀ (stored c : Credentials) (nvs : Nvs.Store RelayUnit),
    stored.StoredIn nvs → Alphanumeric c.deviceId → Alphanumeric c.deviceSerial →
      ∀ s : Submission c, Verdicts nvs s (c = stored) := by
  intro h
  have s : Submission longCredentials :=
    submission longCredentials (by decide) (by decide +kernel)
  have hverdicts := h deviceCredentials longCredentials deviceStore deviceCredentials_stored
    (by decide) (by decide) s
  have hrefused := hverdicts.resetRefused (by decide) ⟨.ok, deviceStore⟩
  rw [resetRequest_eq deviceCredentials_stored s (by decide) (by decide),
    if_pos (by decide), Option.some.injEq] at hrefused
  exact resetAction_ne_refused _ deviceStore _ hrefused

end Web
