import RelayBoard.Framework.Transition
import RelayBoard.Settings.Ranges
import RelayBoard.Web.Http

/-! # The Settings Update Request

  `set_setting_value_post_handler` of `main/web.c`: every member of the `data`
  object is applied as a setting. The numeric settings in NVS stay in their
  ranges over any sequence of such requests.
-/

open CString LTS Settings

namespace Web

variable {Blob : Type}

/-! ### The Handler -/

/-- `json_value_to_string`. A double that survives the way through `int64_t` is printed
    as an integer. -/
def jsonValueToString (print : Print) (outSz : Nat) : Json → CStr
  | .string s => strlcpy outSz s
  | .number x =>
      if x.den = 1 ∧ -9223372036854775808 ≤ x.num ∧ x.num ≤ 9223372036854775808 then
        snprintf outSz (decimal (min x.num 9223372036854775807))
      else snprintf outSz (fixed6 x)
  | .bool b => strlcpy outSz (if b then "true".toList else "false".toList)
  | .null => strlcpy outSz "null".toList
  | v => strlcpy outSz ((print v).getD "<unprintable>".toList)

/-- The calls of one request: the outcome of each NVS write, and cJSON's printing. -/
structure SettingOutcomes where
  writeOk : Nat → Bool
  print : Print

/-- The details on one setting in the response. -/
def settingDetails (print : Print) (v : Json) (err : EspErr) (updateMsg : SettingUpdateMsg) :
    Json :=
  .object [("old_value".toList,
      if updateMsg.hasOld then .string updateMsg.oldValueStr else .null),
    ("new_value".toList, .string (jsonValueToString print 128 v)),
    ("status".toList, .number (if err = .ok then 0 else 1)),
    ("error_msg".toList, .string (if updateMsg.msg ≠ [] then updateMsg.msg else err.name))]

/-- The loop variables over the settings of a request. -/
structure Applied (Blob : Type) where
  nvs : Nvs.Store Blob
  respDetails : List (CStr × Json)
  successCount : Nat
  failureCount : Nat
  totalCount : Nat

/-- One turn of the loop over `data`; an item without a name is skipped. -/
def applyChild (o : SettingOutcomes) (acc : Applied Blob) (setting : Option CStr × Json) :
    Applied Blob :=
  match setting.1 with
  | none => acc
  | some settingKey =>
      let (err, updateMsg, nvs) := applySetting (o.writeOk acc.totalCount) acc.nvs
        (some settingKey) (some setting.2) SettingUpdateMsg.zero
      { nvs := nvs
        respDetails := acc.respDetails ++
          [(settingKey, settingDetails o.print setting.2 err updateMsg)]
        successCount := if err = .ok then acc.successCount + 1 else acc.successCount
        failureCount := if err = .ok then acc.failureCount else acc.failureCount + 1
        totalCount := acc.totalCount + 1 }

/-- The loop over `data`. -/
def applyChildren (o : SettingOutcomes) (nvs : Nvs.Store Blob) (data : Json) : Applied Blob :=
  data.children.foldl (applyChild o) ⟨nvs, [], 0, 0, 0⟩

/-- Does the `action` of the request ask for a reboot? -/
def rebootRequired (jsonRequest : Json) (failureCount : Nat) : Bool :=
  match jsonRequest.getObjectItem "action".toList with
  | none => false
  | some actionItem =>
      if actionItem.isNumber then
        actionItem.valueint = 2 ∨ actionItem.valueint = 1 ∧ failureCount = 0
      else false

/-- The response on the settings applied. -/
def settingsResponse (acc : Applied Blob) : Json :=
  .object [("status".toList, .object [("success".toList, .number acc.successCount),
      ("failed".toList, .number acc.failureCount), ("total".toList, .number acc.totalCount)]),
    ("details".toList, .object acc.respDetails)]

/-- What a handler does: its result, the responses sent, whether it reboots the device,
    and NVS. -/
structure Handled (Blob : Type) where
  ret : EspErr
  sent : List Sent
  reboots : Bool
  nvs : Nvs.Store Blob

/-- A request refused with one response. -/
def Handled.refused (nvs : Nvs.Store Blob) (response : Sent) : Handled Blob :=
  ⟨.fail, [response], false, nvs⟩

/-- `set_setting_value_post_handler` once the identity is accepted. -/
def updateSettings (o : SettingOutcomes) (nvs : Nvs.Store Blob) (jsonRequest : Json) :
    Handled Blob :=
  match jsonRequest.getObjectItem "data".toList with
  | none =>
      .refused nvs
        (.err .badRequest (some "Invalid JSON format: missing 'data' object".toList))
  | some data =>
      let acc := applyChildren o nvs data
      match o.print (settingsResponse acc) with
      | none =>
          .refused acc.nvs
            (.err .internalServerError (some "Failed to build response JSON".toList))
      | some respStr =>
          ⟨.ok, [.resp status200 applicationJson respStr],
            rebootRequired jsonRequest acc.failureCount, acc.nvs⟩

/-- `set_setting_value_post_handler`; `none` is a failed `ESP_ERROR_CHECK` of the stored
    identity. -/
def setSettingValuePostHandler (o : SettingOutcomes) (nvs : Nvs.Store Blob) (req : Request) :
    Option (Handled Blob) :=
  match receiveJson req with
  | .error response => some (.refused nvs response)
  | .ok jsonRequest =>
      match (jsonRequest.getObjectItem "device_id".toList).bind Json.valuestring,
          (jsonRequest.getObjectItem "device_serial".toList).bind Json.valuestring with
      | some deviceIdItem, some deviceSerialItem =>
          match Nvs.readString nvs sNamespace sKeyDeviceId,
              Nvs.readString nvs sNamespace sKeyDeviceSerial with
          | .ok deviceId, .ok deviceSerial =>
              if deviceIdItem ≠ deviceId ∨ deviceSerialItem ≠ deviceSerial then
                some (.refused nvs
                  (.err .forbidden (some "Device ID or serial mismatch".toList)))
              else some (updateSettings o nvs jsonRequest)
          | _, _ => none
      | _, _ =>
          some (.refused nvs (.err .badRequest
            (some "Missing or invalid 'device_id' or 'device_serial'".toList)))

/-! ### Ranges Are Kept -/

/-- The loop keeps the numeric settings in range. -/
theorem applyChildren_inRange (o : SettingOutcomes) {nvs : Nvs.Store Blob}
    (h : NumericSettingsInRange nvs) (data : Json) :
    NumericSettingsInRange (applyChildren o nvs data).nvs := by
  have hstep : ∀ (acc : Applied Blob) (setting : Option CStr × Json),
      NumericSettingsInRange acc.nvs → NumericSettingsInRange (applyChild o acc setting).nvs := by
    intro acc setting hacc
    obtain ⟨key, v⟩ := setting
    match key with
    | none => exact hacc
    | some key => exact hacc.applySetting _ (some key) (some v) _
  have hloop : ∀ (settings : List (Option CStr × Json)) (acc : Applied Blob),
      NumericSettingsInRange acc.nvs →
        NumericSettingsInRange (settings.foldl (applyChild o) acc).nvs := by
    intro settings
    induction settings with
    | nil => exact fun acc hacc => hacc
    | cons setting settings ih => exact fun acc hacc => ih _ (hstep acc setting hacc)
  exact hloop _ _ h

theorem updateSettings_inRange (o : SettingOutcomes) {nvs : Nvs.Store Blob}
    (h : NumericSettingsInRange nvs) (jsonRequest : Json) :
    NumericSettingsInRange (updateSettings o nvs jsonRequest).nvs := by
  unfold updateSettings
  split
  · exact h
  · next data _ =>
      dsimp only
      split <;> exact applyChildren_inRange o h data

/-- NVS after a request. A request that ends in a panic has not written yet. -/
def storeAfter (nvs : Nvs.Store Blob) (o : SettingOutcomes) (req : Request) : Nvs.Store Blob :=
  match setSettingValuePostHandler o nvs req with
  | some handled => handled.nvs
  | none => nvs

/-- **Step lemma**: one request keeps the numeric settings in range. -/
theorem storeAfter_inRange (o : SettingOutcomes) {nvs : Nvs.Store Blob}
    (h : NumericSettingsInRange nvs) (req : Request) :
    NumericSettingsInRange (storeAfter nvs o req) := by
  unfold storeAfter setSettingValuePostHandler
  split
  · next handled hhandled =>
      split at hhandled
      · simp only [Option.some.injEq] at hhandled
        subst hhandled
        exact h
      · split at hhandled
        · split at hhandled
          · split at hhandled
            · simp only [Option.some.injEq] at hhandled
              subst hhandled
              exact h
            · simp only [Option.some.injEq] at hhandled
              subst hhandled
              exact updateSettings_inRange o h _
          · simp at hhandled
        · simp only [Option.some.injEq] at hhandled
          subst hhandled
          exact h
  · exact h

/-- Requests one after the other, from settings in range. -/
def settingsSystem (Blob : Type) : System (Nvs.Store Blob) (SettingOutcomes × Request) where
  init := NumericSettingsInRange
  step := fun nvs l nvs' => nvs' = storeAfter nvs l.1 l.2

/-- **Range invariant**: over any sequence of update requests, whatever keys and values
    they carry, every numeric setting in NVS stays in its range. -/
theorem numericSettingsInRange_of_reachable {nvs : Nvs.Store Blob}
    (h : Reachable (settingsSystem Blob) nvs) : NumericSettingsInRange nvs := by
  apply h.invariant
  · exact fun nvs hinit => hinit
  · rintro nvs ⟨o, req⟩ nvs' hnvs rfl
    exact storeAfter_inRange o hnvs req

/-- The stored identity of a device. -/
def identityStore : Nvs.Store Unit :=
  Nvs.setAll Nvs.empty sNamespace
    [(sKeyDeviceId, .str "id".toList), (sKeyDeviceSerial, .str "serial".toList)]

/-- A request that sets a port, and a mode out of range. -/
def portAndMode : Request where
  contentLen := 100
  received := true
  json := some (.object [("device_id".toList, .string "id".toList),
    ("device_serial".toList, .string "serial".toList),
    ("data".toList, .object [(sKeyMqttPort, .number 8883), (sKeyMqttConnect, .number 7)])])

theorem numericSettingsInRange_of_reachable_portAndMode :
    let nvs := storeAfter identityStore ⟨fun _ => true, fun _ => none⟩ portAndMode
    nvs sNamespace sKeyMqttPort = some (.u16 8883) ∧ NumericSettingsInRange nvs := by
  have hnone : ∀ r ∈ numericSettings, identityStore sNamespace r.key = none := by
    decide +kernel
  have hinit : NumericSettingsInRange identityStore := by
    intro r hr value hvalue
    rw [hnone r hr] at hvalue
    simp at hvalue
  refine ⟨by decide +kernel, numericSettingsInRange_of_reachable
    (.step (l := (⟨fun _ => true, fun _ => none⟩, portAndMode)) (.init hinit) rfl)⟩

end Web
