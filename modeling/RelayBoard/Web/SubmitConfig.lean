import RelayBoard.Boot.Provisioning
import RelayBoard.Settings.Ranges
import RelayBoard.Web.Form

/-! # The Configuration Form

  `submit_config_handler` of `main/web.c`: the fields of the form are stored
  as they come, without the checks that `apply_setting` makes on the other
  write path. The numeric settings stay in range exactly if the form's own
  numbers are.
-/

open Boot CString Relay Settings Web

namespace SubmitConfig

/-! ### The Handler -/

/-- Outcomes of the calls the handler makes. -/
structure SubmitEnv where
  nvsWrite : CStr → Bool
  /-- Is there memory for the page? -/
  allocatesPage : Bool
  /-- Does `/spiffs/config.html` open? -/
  opensTemplate : Bool
  /-- Is there memory for the string fields? -/
  allocatesFields : Bool

/-- `sizeof(buf)` in `submit_config_handler`. -/
def bufSize : Nat := 1024

/-- A string field, extracted and decoded. -/
def stringParam (text paramName : CStr) (size : Nat) : Nvs.Value RelayUnit :=
  .str (urlDecode (extractParamValue text paramName size))

/-- `(uint16_t)atoi(...)` and `(uint32_t)atoi(...)` of a field. -/
def uintParam (text paramName : CStr) (size : Nat) (w : Width) : Nat :=
  (atoi (extractParamValue text paramName size) % w.modulus).toNat

/-- A numeric field as it is written. -/
def numberParam (text paramName : CStr) (size : Nat) (w : Width) : Nvs.Value RelayUnit :=
  w.value (uintParam text paramName size w)

/-- The writes of the handler, in order. -/
def submitParams (text : CStr) : List (CStr × Nvs.Value RelayUnit) :=
  [(sKeyMqttServer, stringParam text "mqtt_server=".toList mqttServerLength),
    (sKeyMqttPort, numberParam text "mqtt_port=".toList 6 .w16),
    (sKeyMqttProtocol, stringParam text "mqtt_protocol=".toList mqttProtocolLength),
    (sKeyMqttUser, stringParam text "mqtt_user=".toList mqttUserLength),
    (sKeyMqttPassword, stringParam text "mqtt_password=".toList mqttPasswordLength),
    (sKeyMqttPrefix, stringParam text "mqtt_prefix=".toList mqttPrefixLength),
    (sKeyHaPrefix, stringParam text "ha_prefix=".toList haPrefixLength),
    (sKeyHaUpdateInterval, numberParam text "ha_upd_intervl=".toList 10 .w32),
    (sKeyMqttConnect, numberParam text "mqtt_connect=".toList 10 .w16),
    (sKeyRelayRefreshInterval, numberParam text "relay_refr_int=".toList 10 .w16),
    (sKeyChannelCount, numberParam text "relay_ch_count=".toList 10 .w16),
    (sKeyContactSensorsCount, numberParam text "relay_sn_count=".toList 10 .w16),
    (sKeyOtaUpdateUrl, stringParam text "ota_update_url=".toList otaUpdateUrlLength),
    (sKeyNetLoggingType, numberParam text "net_log_type=".toList 6 .w16),
    (sKeyNetLoggingHost, stringParam text "net_log_host=".toList netLoggingHostLength),
    (sKeyNetLoggingPort, numberParam text "net_log_port=".toList 6 .w16),
    (sKeyNetLoggingKeepStdout, numberParam text "net_log_stdout=".toList 6 .w16)]

/-- Writes under `ESP_ERROR_CHECK`. -/
def writeParams (nvsWrite : CStr → Bool) :
    List (CStr × Nvs.Value RelayUnit) → Nvs.Store RelayUnit → Option (Nvs.Store RelayUnit)
  | [], nvs => some nvs
  | (key, value) :: params, nvs =>
      if nvsWrite key then writeParams nvsWrite params (Nvs.set nvs sNamespace key value)
      else none

/-- `submit_config_handler`; `none` is a handler that does not return. The template is
    shorter than the buffer it is read into. -/
def submitConfigHandler (env : SubmitEnv) (nvs : Nvs.Store RelayUnit) (req : FormRequest) :
    Option (EspErr × Nvs.Store RelayUnit) :=
  match recvBody req.recvs req.contentLen (List.replicate bufSize nul) with
  | none => none
  | some (.error err) => some (err, nvs)
  | some (.ok buf) =>
      match bufText buf with
      | none => none
      | some text =>
          if env.allocatesPage = false then some (.fail, nvs)
          else if env.opensTemplate = false then some (.fail, nvs)
          else if env.allocatesFields = false then none
          else
            match writeParams env.nvsWrite (submitParams text) nvs with
            | none => none
            | some nvs =>
                -- the answer names the device
                match Nvs.readString nvs sNamespace sKeyDeviceId,
                    Nvs.readString nvs sNamespace sKeyDeviceSerial with
                | .ok _, .ok _ => some (.ok, nvs)
                | _, _ => none

/-! ### Numeric Settings -/

/-- A numeric field of the form and the range `apply_setting` accepts for its
    setting. -/
structure NumericField where
  key : CStr
  paramName : CStr
  size : Nat
  w : Width
  lo : Int
  hi : Int

/-- The field with the number of actuators. -/
def relayChCount : NumericField :=
  ⟨sKeyChannelCount, "relay_ch_count=".toList, 10, .w16, channelCountMin, channelCountMax⟩

/-- The field with the number of sensors. -/
def relaySnCount : NumericField :=
  ⟨sKeyContactSensorsCount, "relay_sn_count=".toList, 10, .w16, contactSensorsCountMin,
    contactSensorsCountMax⟩

/-- The field's setting, as NVS stores it. -/
def NumericField.value (f : NumericField) (n : Nat) : Nvs.Value RelayUnit := f.w.value n

/-- Is a number in the range of the setting? -/
def NumericField.InBounds (f : NumericField) (n : Nat) : Prop := f.lo ≤ n ∧ (n : Int) ≤ f.hi

instance (f : NumericField) (n : Nat) : Decidable (f.InBounds n) :=
  inferInstanceAs (Decidable (f.lo ≤ n ∧ (n : Int) ≤ f.hi))

variable {nvs nvs' : Nvs.Store RelayUnit}

theorem writeParams_ok {nvsWrite : CStr → Bool} (hwrite : ∀ key, nvsWrite key = true)
    (params : List (CStr × Nvs.Value RelayUnit)) (nvs : Nvs.Store RelayUnit) :
    writeParams nvsWrite params nvs = some (Nvs.setAll nvs sNamespace params) := by
  induction params generalizing nvs with
  | nil => rfl
  | cons p params ih =>
      unfold writeParams
      rw [if_pos (hwrite p.1), ih]
      rfl

/-- Every call succeeds. -/
def SubmitEnv.ok : SubmitEnv := ⟨fun _ => true, true, true, true⟩

/-- The identity of the device is stored. -/
structure HasIdentity (nvs : Nvs.Store RelayUnit) : Prop where
  deviceId : ∃ id, nvs sNamespace sKeyDeviceId = some (.str id)
  deviceSerial : ∃ serial, nvs sNamespace sKeyDeviceSerial = some (.str serial)

/-- No field of the form is the identity. -/
theorem submitParams_ne_identity (text : CStr) :
    ∀ w ∈ submitParams text, w.1 ≠ sKeyDeviceId ∧ w.1 ≠ sKeyDeviceSerial := by
  have hkeys : ∀ key ∈ (submitParams text).map Prod.fst,
      key ≠ sKeyDeviceId ∧ key ≠ sKeyDeviceSerial := by
    simp only [submitParams, List.map_cons, List.map_nil]
    decide
  exact fun w hw => hkeys w.1 (List.mem_map_of_mem hw)

/-- A text is written when every call succeeds. -/
theorem submitConfigHandler_formText (hid : HasIdentity nvs) {req : FormRequest} {text : CStr}
    (htext : formText bufSize req = some text) :
    submitConfigHandler SubmitEnv.ok nvs req =
      some (.ok, Nvs.setAll nvs sNamespace (submitParams text)) := by
  obtain ⟨⟨id, hdevice⟩, ⟨serial, hserial⟩⟩ := hid
  have hdevice' : Nvs.readString (Nvs.setAll nvs sNamespace (submitParams text)) sNamespace
      sKeyDeviceId = .ok id := by
    rw [Nvs.readString,
      Nvs.setAll_of_not_mem fun w hw => (submitParams_ne_identity text w hw).1, hdevice]
  have hserial' : Nvs.readString (Nvs.setAll nvs sNamespace (submitParams text)) sNamespace
      sKeyDeviceSerial = .ok serial := by
    rw [Nvs.readString,
      Nvs.setAll_of_not_mem fun w hw => (submitParams_ne_identity text w hw).2, hserial]
  have hwrite : ∀ key, SubmitEnv.ok.nvsWrite key = true := fun _ => rfl
  unfold formText at htext
  unfold submitConfigHandler
  split at htext
  · next buf hrecv =>
      rw [hrecv]
      dsimp only
      rw [htext]
      dsimp only
      rw [if_neg (by decide), if_neg (by decide), if_neg (by decide), writeParams_ok hwrite]
      dsimp only
      rw [hdevice', hserial']
  · cases htext

theorem submitParams_keys_nodup (text : CStr) : ((submitParams text).map Prod.fst).Nodup := by
  simp only [submitParams, List.map_cons, List.map_nil]
  decide

/-- A count in range, or one that is missing, is below the number of keys. -/
theorem uint16OrDefault_lt {f : NumericField} (hw : f.w = .w16) {limit default : Nat}
    (hhi : f.hi < limit) (hdefault : default < limit)
    (h : ∀ value, nvs sNamespace f.key = some value → ∃ n, f.InBounds n ∧ value = f.value n) :
    uint16OrDefault nvs f.key default < limit := by
  unfold uint16OrDefault
  split
  · next n hread =>
      obtain ⟨m, hm, heq⟩ := h _ (Nvs.readUint16_eq_ok_iff.mp hread)
      unfold NumericField.value at heq
      rw [hw] at heq
      cases heq
      have hle := hm.2
      omega
  · exact hdefault

/-- A device with its default settings. -/
def defaultNvs : Nvs.Store RelayUnit :=
  Nvs.setAll Nvs.empty sNamespace
    (baseParameters "DC".toList "S".toList ++ deviceParameters)

theorem hasIdentity_defaultNvs : HasIdentity defaultNvs := ⟨⟨_, rfl⟩, ⟨_, rfl⟩⟩

end SubmitConfig
