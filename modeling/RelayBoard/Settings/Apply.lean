import Mathlib.Data.List.Nodup
import RelayBoard.Platform.Json
import RelayBoard.Platform.Nvs
import RelayBoard.Settings.Keys

/-! # Applying One Setting

  `apply_setting` of `main/settings.c`: the table `s_settings`, the handlers
  that validate a new value, and the write of the value under its key. This
  is the write path of the settings API.
-/

open CString

namespace Settings

variable {Blob : Type}

/-! ### The Result Message -/

/-- `setting_update_msg_t`. -/
structure SettingUpdateMsg where
  msg : CStr
  errCode : EspErr
  hasOld : Bool
  oldValueStr : CStr
  deriving DecidableEq, Repr

/-- A zeroed message. -/
def SettingUpdateMsg.zero : SettingUpdateMsg := ⟨[], .ok, false, []⟩

/-- `OLD_VALUE_STR_MAX_LEN`. -/
def oldValueStrMaxLen : Nat := 256

/-- `sizeof(out->msg)`. -/
def msgSize : Nat := 256

/-- `set_result`. -/
def setResult (out : SettingUpdateMsg) (err : EspErr) (text : CStr) : SettingUpdateMsg :=
  { out with errCode := err, msg := snprintf msgSize text }

/-! ### Handlers -/

/-- `setting_handler_t`; no handler reads its key. -/
abbrev SettingHandler : Type := Json → SettingUpdateMsg → EspErr × SettingUpdateMsg

/-- The common body of the handlers: a number is read from the item and
    accepted, or refused with a message. -/
def checkNumber (read : Json → Int) (accepts : Int → Bool) (message : Int → CStr) :
    SettingHandler := fun v out =>
  if accepts (read v) then (.ok, out)
  else (.invalidArg, setResult out .invalidArg (message (read v)))

/-- Bounds, both included. -/
def inRange (lo hi : Int) (n : Int) : Bool := !(n < lo || n > hi)

/-- `"<name> value out of range (%d - %d)"`. -/
def outOfRange (name : CStr) (lo hi : Int) : CStr :=
  name ++ " value out of range (".toList ++ decimal lo ++ " - ".toList ++ decimal hi ++ [')']

/-- `"<name> invalid (%d). Allowed: %d..%d"`. -/
def invalidAllowed (name : CStr) (lo hi n : Int) : CStr :=
  name ++ " invalid (".toList ++ decimal n ++ "). Allowed: ".toList ++ decimal lo ++
    "..".toList ++ decimal hi

/-- `handle_setting_ha_upd_intervl`. -/
def handleSettingHaUpdIntervl : SettingHandler :=
  checkNumber Json.valueint (inRange haUpdateIntervalMin haUpdateIntervalMax)
    fun _ => outOfRange "Home Assistant auto-discovery interval".toList haUpdateIntervalMin
      haUpdateIntervalMax

/-- `mqtt_conn_mode_is_valid`. -/
def mqttConnModeIsValid (v : Int) : Bool :=
  v ≥ mqttConnModeDisable && v ≤ mqttConnModeAutoconnect

/-- `handle_setting_mqtt_connect`. -/
def handleSettingMqttConnect : SettingHandler :=
  checkNumber Json.intOfDouble mqttConnModeIsValid
    (invalidAllowed "mqtt_conn_mode".toList mqttConnModeDisable mqttConnModeAutoconnect)

/-- `handle_setting_mqtt_port`. -/
def handleSettingMqttPort : SettingHandler :=
  checkNumber Json.valueint (inRange 1 65535) fun _ => outOfRange "MQTT Port".toList 1 65535

/-- `handle_setting_relay_refr_int`. -/
def handleSettingRelayRefrInt : SettingHandler :=
  checkNumber Json.valueint (inRange relayRefreshIntervalMin relayRefreshIntervalMax)
    fun _ => outOfRange "Relay refresh interval".toList relayRefreshIntervalMin
      relayRefreshIntervalMax

/-- `handle_setting_relay_ch_count`. -/
def handleSettingRelayChCount : SettingHandler :=
  checkNumber Json.valueint (inRange channelCountMin channelCountMax)
    fun _ => outOfRange "Relay channel count".toList channelCountMin channelCountMax

/-- `handle_setting_relay_sn_count`. -/
def handleSettingRelaySnCount : SettingHandler :=
  checkNumber Json.valueint (inRange contactSensorsCountMin contactSensorsCountMax)
    fun _ => outOfRange "Contact sensors count".toList contactSensorsCountMin
      contactSensorsCountMax

/-- `handle_setting_net_log_type`. -/
def handleSettingNetLogType : SettingHandler :=
  checkNumber Json.intOfDouble (inRange 0 3) (invalidAllowed "net_log_type".toList 0 3)

/-- `handle_setting_net_log_port`. -/
def handleSettingNetLogPort : SettingHandler :=
  checkNumber Json.valueint (inRange 1 65535)
    fun _ => outOfRange "TCP/UDP Logging port".toList 1 65535

/-- `handle_setting_net_log_stdout`. -/
def handleSettingNetLogStdout : SettingHandler :=
  checkNumber Json.intOfDouble (inRange 0 1) (invalidAllowed "net_log_stdout".toList 0 1)

/-- The three modes `handle_setting_memgrd_mode` compares with. -/
def memgrdModeIsValid (mode : Int) : Bool :=
  !(mode ≠ memgrdModeDisabled && mode ≠ memgrdModeWarn && mode ≠ memgrdModeRestart)

/-- `handle_setting_memgrd_mode`; its message lists the modes. -/
def handleSettingMemgrdMode : SettingHandler :=
  checkNumber Json.intOfDouble memgrdModeIsValid fun mode =>
    "memgrd_mode invalid (".toList ++ decimal mode ++ "). Allowed: ".toList ++
      decimal memgrdModeDisabled ++ ", ".toList ++ decimal memgrdModeWarn ++ ", ".toList ++
      decimal memgrdModeRestart

/-- `handle_setting_memgrd_trshld`. -/
def handleSettingMemgrdTrshld : SettingHandler :=
  checkNumber Json.intOfDouble (inRange memguardThresholdMin memguardThresholdMax)
    (invalidAllowed "memgrd_trshld".toList memguardThresholdMin memguardThresholdMax)

/-- `handle_setting_ota_upd_rescfg`. -/
def handleSettingOtaUpdRescfg : SettingHandler :=
  checkNumber Json.intOfDouble (inRange otaUpdateResetConfigMin otaUpdateResetConfigMax)
    (invalidAllowed "ota_upd_rescfg".toList otaUpdateResetConfigMin otaUpdateResetConfigMax)

/-! ### The Table -/

/-- `settings_type_t`, the types `s_settings` uses. -/
inductive SettingsType where
  | uint16
  | uint32
  | string
  deriving DecidableEq, Repr

/-- `setting_entry_t`. -/
structure SettingEntry where
  key : CStr
  handler : Option SettingHandler
  maxStrSize : Nat
  typeT : SettingsType

/-- `s_settings`. -/
def sSettings : List SettingEntry :=
  [⟨sKeyOtaUpdateUrl, none, otaUpdateUrlLength, .string⟩,
    ⟨sKeyHaUpdateInterval, some handleSettingHaUpdIntervl, 0, .uint32⟩,
    ⟨sKeyMqttConnect, some handleSettingMqttConnect, 0, .uint16⟩,
    ⟨sKeyMqttServer, none, mqttServerLength, .string⟩,
    ⟨sKeyMqttPort, some handleSettingMqttPort, 0, .uint16⟩,
    ⟨sKeyMqttProtocol, none, mqttProtocolLength, .string⟩,
    ⟨sKeyMqttUser, none, mqttUserLength, .string⟩,
    ⟨sKeyMqttPassword, none, mqttPasswordLength, .string⟩,
    ⟨sKeyMqttPrefix, none, mqttPrefixLength, .string⟩,
    ⟨sKeyHaPrefix, none, haPrefixLength, .string⟩,
    ⟨sKeyRelayRefreshInterval, some handleSettingRelayRefrInt, 0, .uint16⟩,
    ⟨sKeyChannelCount, some handleSettingRelayChCount, 0, .uint16⟩,
    ⟨sKeyContactSensorsCount, some handleSettingRelaySnCount, 0, .uint16⟩,
    ⟨sKeyNetLoggingType, some handleSettingNetLogType, 0, .uint16⟩,
    ⟨sKeyNetLoggingHost, none, netLoggingHostLength, .string⟩,
    ⟨sKeyNetLoggingPort, some handleSettingNetLogPort, 0, .uint16⟩,
    ⟨sKeyNetLoggingKeepStdout, some handleSettingNetLogStdout, 0, .uint16⟩,
    ⟨sKeyStatusMemguardMode, some handleSettingMemgrdMode, 0, .uint16⟩,
    ⟨sKeyStatusMemguardThreshold, some handleSettingMemgrdTrshld, 0, .uint32⟩,
    ⟨sKeyOtaUpdateResetConfig, some handleSettingOtaUpdRescfg, 0, .uint16⟩]

/-- `find_setting`. -/
def findSetting (key : CStr) : Option SettingEntry :=
  sSettings.find? fun e => e.key = key

/-! ### Reading and Writing a Value -/

/-- `get_setting_as_string`, into `old_value_str`. -/
def getSettingAsString (nvs : Nvs.Store Blob) (e : SettingEntry) (key : CStr)
    (out : SettingUpdateMsg) : EspErr × SettingUpdateMsg :=
  let text : Except EspErr CStr :=
    match e.typeT with
    | .uint32 =>
        (Nvs.readUint32 nvs sNamespace key).map fun n => snprintf oldValueStrMaxLen (decimal n)
    | .uint16 =>
        (Nvs.readUint16 nvs sNamespace key).map fun n => snprintf oldValueStrMaxLen (decimal n)
    | .string =>
        -- the copy is cut to the smaller of the buffer and the setting's own size
        let cap := if 0 < e.maxStrSize ∧ e.maxStrSize < oldValueStrMaxLen then e.maxStrSize
          else oldValueStrMaxLen
        (Nvs.readString nvs sNamespace key).map fun s => s.take (cap - 1)
  match text with
  | .ok text => (.ok, { out with hasOld := true, oldValueStr := text })
  | .error err => (err, { out with hasOld := false, oldValueStr := [] })

/-- The value `write_setting_value` hands to NVS. -/
def settingValue (e : SettingEntry) (v : Json) : Except EspErr (Nvs.Value Blob) :=
  match e.typeT with
  | .uint32 => if v.isNumber then .ok (.u32 v.uint32OfDouble) else .error .invalidArg
  | .uint16 => if v.isNumber then .ok (.u16 v.uint16OfDouble) else .error .invalidArg
  | .string =>
      match v.valuestring with
      | none => .error .invalidArg
      | some s =>
          if 0 < e.maxStrSize ∧ s.length ≥ e.maxStrSize then .error .invalidSize
          else .ok (.str s)

/-- `write_setting_value`; `writeOk` is the outcome of the write. -/
def writeSettingValue (writeOk : Bool) (nvs : Nvs.Store Blob) (e : SettingEntry) (key : CStr)
    (v : Json) : EspErr × Nvs.Store Blob :=
  match settingValue e v with
  | .error err => (err, nvs)
  | .ok value =>
      if writeOk then (.ok, Nvs.set nvs sNamespace key value) else (.fail, nvs)

/-- The optional validation in `apply_setting`. -/
def runHandler (e : SettingEntry) (v : Json) (out : SettingUpdateMsg) :
    EspErr × SettingUpdateMsg :=
  match e.handler with
  | some handler => handler v out
  | none => (.ok, out)

/-- `"Updated setting '%s'%s%s%s"`. -/
def updatedMessage (key : CStr) (out : SettingUpdateMsg) : CStr :=
  "Updated setting '".toList ++ key ++ "'".toList ++
    if out.hasOld then " (was ".toList ++ out.oldValueStr ++ ")".toList else []

/-- `apply_setting`; `none` is a null key or value. -/
def applySetting (writeOk : Bool) (nvs : Nvs.Store Blob) (key : Option CStr)
    (val : Option Json) (out : SettingUpdateMsg) :
    EspErr × SettingUpdateMsg × Nvs.Store Blob :=
  let out := setResult out .ok "OK".toList
  match key, val with
  | some key, some val =>
      match findSetting key with
      | none =>
          (.notFound, setResult out .notFound
            ("Unknown setting key or setting is protected (read-only): ".toList ++ key), nvs)
      | some e =>
          -- a failed read leaves no old value and does not stop the update
          let out := (getSettingAsString nvs e key out).2
          match runHandler e val out with
          | (.ok, out) =>
              match writeSettingValue writeOk nvs e key val with
              | (.ok, nvs) => (.ok, setResult out .ok (updatedMessage key out), nvs)
              | (err, nvs) =>
                  (err, setResult out err ("Failed to write '".toList ++ key ++ "': ".toList ++
                    err.name), nvs)
          | (err, out) => (err, out, nvs)
  | _, _ => (.invalidArg, setResult out .invalidArg "Invalid key or val (NULL)".toList, nvs)

/-! ### Finding a Setting -/

theorem sSettings_keys_nodup : (sSettings.map SettingEntry.key).Nodup := by decide

/-- An entry of the table is found under its key. -/
theorem findSetting_of_mem {e : SettingEntry} (hmem : e ∈ sSettings) :
    findSetting e.key = some e := by
  have hsome : (findSetting e.key).isSome = true := by
    unfold findSetting
    rw [List.find?_isSome]
    exact ⟨e, hmem, by simp⟩
  obtain ⟨e', he'⟩ := Option.isSome_iff_exists.mp hsome
  have hkey : e'.key = e.key := by
    unfold findSetting at he'
    simpa using List.find?_some he'
  -- two entries under one key are the same entry
  have heq : e' = e :=
    List.inj_on_of_nodup_map sSettings_keys_nodup (List.mem_of_find?_eq_some he') hmem hkey
  rw [he', heq]

theorem findSetting_eq_some {key : CStr} {e : SettingEntry} (h : findSetting key = some e) :
    e ∈ sSettings ∧ e.key = key := by
  unfold findSetting at h
  exact ⟨List.mem_of_find?_eq_some h, by simpa using List.find?_some h⟩

/-! ### Accepted Changes -/

/-- A handler's verdict does not depend on the message it is given. -/
theorem checkNumber_fst (read : Json → Int) (accepts : Int → Bool) (message : Int → CStr)
    (v : Json) (out : SettingUpdateMsg) :
    (checkNumber read accepts message v out).1 = .ok ↔ accepts (read v) = true := by
  unfold checkNumber
  by_cases h : accepts (read v) = true
  · simp [h]
  · simp [h]

theorem settingValue_ne_ok (e : SettingEntry) (v : Json) :
    (settingValue e v : Except EspErr (Nvs.Value Blob)) ≠ .error .ok := by
  unfold settingValue
  cases e.typeT with
  | uint32 => cases v.isNumber <;> simp
  | uint16 => cases v.isNumber <;> simp
  | string =>
      cases v.valuestring with
      | none => simp
      | some s => dsimp only; split <;> simp

theorem writeSettingValue_eq_ok {writeOk : Bool} {nvs nvs' : Nvs.Store Blob}
    {e : SettingEntry} {key : CStr} {v : Json}
    (h : writeSettingValue writeOk nvs e key v = (.ok, nvs')) :
    ∃ value, settingValue e v = .ok value ∧ nvs' = Nvs.set nvs sNamespace key value := by
  unfold writeSettingValue at h
  split at h
  · next err herr =>
      cases h
      exact absurd herr (settingValue_ne_ok e v)
  · next value hvalue =>
      split at h
      · cases h
        exact ⟨value, hvalue, rfl⟩
      · cases h

/-- What a successful `apply_setting` has done: the key is in the table, its
    handler accepts the value, and the value is stored under the key. -/
theorem applySetting_eq_ok {writeOk : Bool} {nvs nvs' : Nvs.Store Blob} {key : CStr}
    {v : Json} {out out' : SettingUpdateMsg}
    (h : applySetting writeOk nvs (some key) (some v) out = (.ok, out', nvs')) :
    ∃ e value, findSetting key = some e ∧ (∃ out, (runHandler e v out).1 = .ok) ∧
      settingValue e v = .ok value ∧ nvs' = Nvs.set nvs sNamespace key value := by
  unfold applySetting at h
  dsimp only at h
  split at h
  · cases h
  · next e he =>
      split at h
      · next hrun =>
          split at h
          · next hwrite =>
              cases h
              obtain ⟨value, hvalue, hset⟩ := writeSettingValue_eq_ok hwrite
              exact ⟨e, value, he, ⟨_, congrArg Prod.fst hrun⟩, hvalue, hset⟩
          · next hne _ =>
              cases h
              exact absurd rfl hne
      · next hne _ =>
          cases h
          exact absurd rfl hne

/-- Only a key and a value can be applied. -/
theorem applySetting_ok_some {writeOk : Bool} {nvs : Nvs.Store Blob} {key : Option CStr}
    {val : Option Json} {out : SettingUpdateMsg}
    (h : (applySetting writeOk nvs key val out).1 = .ok) :
    ∃ k v, key = some k ∧ val = some v := by
  cases key with
  | none => cases h
  | some k =>
      cases val with
      | none => cases h
      | some v => exact ⟨k, v, rfl, rfl⟩

/-- An `apply_setting` that does not succeed leaves NVS as it was. -/
theorem applySetting_of_ne_ok {writeOk : Bool} {nvs : Nvs.Store Blob} {key : Option CStr}
    {val : Option Json} {out : SettingUpdateMsg}
    (h : (applySetting writeOk nvs key val out).1 ≠ .ok) :
    (applySetting writeOk nvs key val out).2.2 = nvs := by
  cases key with
  | none => rfl
  | some key =>
      cases val with
      | none => rfl
      | some v =>
          unfold applySetting at h ⊢
          dsimp only at h ⊢
          split
          · rfl
          · next e he =>
              rw [he] at h
              dsimp only at h
              -- only the last stage writes, and its failure is the function's
              split
              · next hrun =>
                  rw [hrun] at h
                  dsimp only at h
                  split
                  · next hwrite =>
                      rw [hwrite] at h
                      exact absurd rfl h
                  · next nvs' hne hwrite =>
                      unfold writeSettingValue at hwrite
                      split at hwrite
                      · cases hwrite
                        rfl
                      · split at hwrite
                        · cases hwrite
                          exact absurd rfl hne
                        · cases hwrite
                          rfl
              · rfl

/-! ### One Key at a Time -/

section key
variable {nvs nvs' : Nvs.Store Blob} {key : CStr}

theorem getSettingAsString_congr (h : nvs sNamespace key = nvs' sNamespace key)
    (e : SettingEntry) (out : SettingUpdateMsg) :
    getSettingAsString nvs e key out = getSettingAsString nvs' e key out := by
  simp only [getSettingAsString, Nvs.readUint32, Nvs.readUint16, Nvs.readString, h]

theorem writeSettingValue_congr (h : nvs sNamespace key = nvs' sNamespace key)
    (writeOk : Bool) (e : SettingEntry) (v : Json) :
    (writeSettingValue writeOk nvs e key v).1 = (writeSettingValue writeOk nvs' e key v).1 ∧
      (writeSettingValue writeOk nvs e key v).2 sNamespace key =
        (writeSettingValue writeOk nvs' e key v).2 sNamespace key := by
  unfold writeSettingValue
  split
  · exact ⟨rfl, h⟩
  · next value hvalue =>
      cases writeOk with
      | true => exact ⟨rfl, (Nvs.set_self _ _ _ _).trans (Nvs.set_self _ _ _ _).symm⟩
      | false => exact ⟨rfl, h⟩

/-- What `apply_setting` answers and stores depends on NVS through the record of its key
    only. -/
theorem applySetting_congr (h : nvs sNamespace key = nvs' sNamespace key) (writeOk : Bool)
    (val : Option Json) (out : SettingUpdateMsg) :
    (applySetting writeOk nvs (some key) val out).1 =
        (applySetting writeOk nvs' (some key) val out).1 ∧
      (applySetting writeOk nvs (some key) val out).2.1 =
        (applySetting writeOk nvs' (some key) val out).2.1 ∧
      (applySetting writeOk nvs (some key) val out).2.2 sNamespace key =
        (applySetting writeOk nvs' (some key) val out).2.2 sNamespace key := by
  cases val with
  | none => exact ⟨rfl, rfl, h⟩
  | some v =>
      unfold applySetting
      dsimp only
      split
      · exact ⟨rfl, rfl, h⟩
      · next e he =>
          rw [getSettingAsString_congr h]
          obtain ⟨herr, hvalue⟩ := writeSettingValue_congr h writeOk e v
          generalize writeSettingValue writeOk nvs e key v = r at herr hvalue
          generalize writeSettingValue writeOk nvs' e key v = r' at herr hvalue
          obtain ⟨err, nvs₁⟩ := r
          obtain ⟨err', nvs₂⟩ := r'
          cases herr
          split
          · cases err <;> exact ⟨rfl, rfl, hvalue⟩
          · exact ⟨rfl, rfl, h⟩

/-- `apply_setting` leaves every other record alone. -/
theorem applySetting_frame (writeOk : Bool) (nvs : Nvs.Store Blob) (key : CStr)
    (val : Option Json) (out : SettingUpdateMsg) {ns k : CStr}
    (hne : ¬ (ns = sNamespace ∧ k = key)) :
    (applySetting writeOk nvs (some key) val out).2.2 ns k = nvs ns k := by
  by_cases hok : (applySetting writeOk nvs (some key) val out).1 = .ok
  · obtain ⟨_, v, _, rfl⟩ := applySetting_ok_some hok
    generalize hr : applySetting writeOk nvs (some key) (some v) out = r at hok
    obtain ⟨err, out', nvs'⟩ := r
    cases hok
    obtain ⟨_, _, _, _, _, rfl⟩ := applySetting_eq_ok hr
    exact if_neg hne
  · rw [applySetting_of_ne_ok hok]

end key

/-- An accepted value whose write succeeds is stored. -/
theorem applySetting_ok {nvs : Nvs.Store Blob} {e : SettingEntry} {v : Json}
    {value : Nvs.Value Blob} (hmem : e ∈ sSettings)
    (hrun : ∀ out, (runHandler e v out).1 = .ok) (hvalue : settingValue e v = .ok value)
    (out : SettingUpdateMsg) :
    ∃ out', applySetting true nvs (some e.key) (some v) out =
      (.ok, out', Nvs.set nvs sNamespace e.key value) := by
  have hwrite : ∀ nvs : Nvs.Store Blob, writeSettingValue true nvs e e.key v =
      (.ok, Nvs.set nvs sNamespace e.key value) := by
    intro nvs
    simp [writeSettingValue, hvalue]
  unfold applySetting
  dsimp only
  rw [findSetting_of_mem hmem]
  dsimp only
  split
  · rw [hwrite]
    exact ⟨_, rfl⟩
  · next hne hrun' =>
      exact absurd ((congrArg Prod.fst hrun').symm.trans (hrun _)) hne

/-! ### Numeric Settings -/

/-- The widths in which `s_settings` stores numbers. -/
inductive Width where
  | w16
  | w32
  deriving DecidableEq, Repr

/-- The type of an entry of this width. -/
def Width.settingsType : Width → SettingsType
  | .w16 => .uint16
  | .w32 => .uint32

/-- The number of values of this width. -/
def Width.modulus : Width → Nat
  | .w16 => 65536
  | .w32 => 4294967296

/-- A number stored in this width. -/
def Width.value : Width → Nat → Nvs.Value Blob
  | .w16, n => .u16 n
  | .w32, n => .u32 n

/-- What the writer stores for a number that the handler reads as within the width. -/
theorem settingValue_number {e : SettingEntry} {v : Json} {value : Nvs.Value Blob} {w : Width}
    (htype : e.typeT = w.settingsType) (hlo : 0 ≤ v.intOfDouble)
    (hhi : v.intOfDouble < w.modulus ∧ v.intOfDouble < Json.intMax)
    (h : settingValue e v = .ok value) :
    ∃ n : Nat, (n : Int) = v.intOfDouble ∧ value = w.value n := by
  unfold settingValue at h
  rw [htype] at h
  cases w with
  | w16 =>
      have hn := Json.uint16OfDouble_of_range hlo (Int.lt_add_one_iff.mp hhi.1)
      change (if v.isNumber = true then _ else _) = _ at h
      split at h
      · cases h
        exact ⟨v.uint16OfDouble, hn, rfl⟩
      · cases h
  | w32 =>
      have hn := Json.uint32OfDouble_of_range hlo hhi.2
      change (if v.isNumber = true then _ else _) = _ at h
      split at h
      · cases h
        exact ⟨v.uint32OfDouble, hn, rfl⟩
      · cases h

/-- A setting whose handler accepts numbers of its width only: a value that passes it
    and is written is a number, and is stored truncated toward zero. -/
theorem settingValue_of_accepted {e : SettingEntry} {v : Json} {value : Nvs.Value Blob}
    {out : SettingUpdateMsg} {read : Json → Int} {accepts : Int → Bool}
    {message : Int → CStr} {w : Width} (htype : e.typeT = w.settingsType)
    (hhandler : e.handler = some (checkNumber read accepts message))
    (hread : read = Json.valueint ∨ read = Json.intOfDouble)
    (hrange : ∀ n, accepts n = true → 0 ≤ n ∧ n < w.modulus ∧ n < Json.intMax)
    (hrun : (runHandler e v out).1 = .ok) (hvalue : settingValue e v = .ok value) :
    ∃ (x : Rat) (n : Nat), v = .number x ∧ (n : Int) = x.num.tdiv x.den ∧
      accepts n = true ∧ value = w.value n := by
  -- the handler has accepted the number
  have haccept : accepts (read v) = true := by
    unfold runHandler at hrun
    rw [hhandler] at hrun
    exact (checkNumber_fst read accepts message v out).mp hrun
  -- the store would refuse anything but a number
  have hnum : v.isNumber = true := by
    unfold settingValue at hvalue
    rw [htype] at hvalue
    cases hisNum : v.isNumber with
    | true => rfl
    | false =>
        rw [hisNum] at hvalue
        cases w <;> cases hvalue
  -- on a number both readings are the double cut to an `int`
  have hint : read v = v.intOfDouble := by
    rcases hread with rfl | rfl
    · exact Json.valueint_of_isNumber hnum
    · rfl
  rw [hint] at haccept
  obtain ⟨hlo, hhi⟩ := hrange _ haccept
  obtain ⟨n, hn, rfl⟩ := settingValue_number htype hlo hhi hvalue
  obtain ⟨x, rfl⟩ := Json.exists_of_isNumber hnum
  exact ⟨x, n, rfl, hn.trans (Json.toInt_of_range hlo hhi.2), hn ▸ haccept, rfl⟩

/-- A number that the handler accepts is stored. -/
theorem applySetting_number_ok (nvs : Nvs.Store Blob) {e : SettingEntry} {n : Nat}
    {read : Json → Int} {accepts : Int → Bool} {message : Int → CStr} {w : Width}
    (hmem : e ∈ sSettings) (htype : e.typeT = w.settingsType)
    (hhandler : e.handler = some (checkNumber read accepts message))
    (hread : read = Json.valueint ∨ read = Json.intOfDouble)
    (hn : n < w.modulus ∧ (n : Int) < Json.intMax)
    (haccept : accepts n = true) (out : SettingUpdateMsg) :
    ∃ out', applySetting true nvs (some e.key) (some (.number (n : Rat))) out =
      (.ok, out', Nvs.set nvs sNamespace e.key (w.value n)) := by
  have hint : read (.number (n : Rat)) = n := by
    have hle : n ≤ 2147483647 := by
      have := hn.2
      unfold Json.intMax at this
      omega
    rcases hread with rfl | rfl
    · exact Json.toInt_natCast hle
    · exact Json.toInt_natCast hle
  apply applySetting_ok hmem
  · intro out
    unfold runHandler
    rw [hhandler]
    apply (checkNumber_fst read accepts message _ out).mpr
    rw [hint, haccept]
  · unfold settingValue
    rw [htype]
    cases w with
    | w16 =>
        show (if true = true then _ else _) = _
        rw [if_pos rfl, Json.uint16OfDouble_natCast (Nat.le_of_lt_succ hn.1)]
        rfl
    | w32 =>
        show (if true = true then _ else _) = _
        rw [if_pos rfl, Json.uint32OfDouble_natCast (Nat.le_of_lt_succ hn.1)]
        rfl

end Settings
