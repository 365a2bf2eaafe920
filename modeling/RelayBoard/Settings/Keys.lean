import RelayBoard.Framework.CString

/-! # Setting Keys, Bounds and Defaults

  The constants of `main/settings.h` that the modelled functions read.
-/

open CString

namespace Settings

/-! ### Sizes and Bounds -/

def deviceIdLength : Nat := 12
def deviceSerialLength : Nat := 32
def mqttServerLength : Nat := 128
def mqttProtocolLength : Nat := 10
def mqttUserLength : Nat := 64
def mqttPasswordLength : Nat := 64
def mqttPrefixLength : Nat := 128
def haPrefixLength : Nat := 128
def netLoggingHostLength : Nat := 256
def otaUpdateUrlLength : Nat := 256

def haUpdateIntervalMin : Int := 60000
def haUpdateIntervalMax : Int := 86400000
def channelCountMin : Int := 0
def channelCountMax : Int := 15
def contactSensorsCountMin : Int := 0
def contactSensorsCountMax : Int := 8
def relayRefreshIntervalMin : Int := 1
def relayRefreshIntervalMax : Int := 10000
def memguardThresholdMin : Int := 16384
def memguardThresholdMax : Int := 131072
def otaUpdateResetConfigMin : Int := 0
def otaUpdateResetConfigMax : Int := 1

def memgrdModeDisabled : Int := 0
def memgrdModeWarn : Int := 1
def memgrdModeRestart : Int := 2

def mqttConnModeDisable : Int := 0
def mqttConnModeNoReconnect : Int := 1
def mqttConnModeAutoconnect : Int := 2

/-! ### Keys -/

/-- `S_NAMESPACE`. -/
def sNamespace : CStr := "settings".toList

def sKeyDeviceId : CStr := "device_id".toList
def sKeyDeviceSerial : CStr := "device_serial".toList
def sKeyMqttConnect : CStr := "mqtt_connect".toList
def sKeyMqttServer : CStr := "mqtt_server".toList
def sKeyMqttPort : CStr := "mqtt_port".toList
def sKeyMqttProtocol : CStr := "mqtt_protocol".toList
def sKeyMqttUser : CStr := "mqtt_user".toList
def sKeyMqttPassword : CStr := "mqtt_password".toList
def sKeyMqttPrefix : CStr := "mqtt_prefix".toList
def sKeyHaPrefix : CStr := "ha_prefix".toList
def sKeyHaUpdateInterval : CStr := "ha_upd_intervl".toList
/-- `S_KEY_CH_PREFIX`: an actuator record is stored under this and its channel. -/
def sKeyChPrefix : CStr := "relay_ch_".toList
/-- `S_KEY_SN_PREFIX`: a sensor record is stored under this and its channel. -/
def sKeySnPrefix : CStr := "relay_sn_".toList
def sKeyChannelCount : CStr := "relay_ch_count".toList
def sKeyContactSensorsCount : CStr := "relay_sn_count".toList
def sKeyRelayRefreshInterval : CStr := "relay_refr_int".toList
def sKeyOtaUpdateUrl : CStr := "ota_update_url".toList
def sKeyOtaUpdateResetConfig : CStr := "ota_upd_rescfg".toList
def sKeyNetLoggingType : CStr := "net_log_type".toList
def sKeyNetLoggingHost : CStr := "net_log_host".toList
def sKeyNetLoggingPort : CStr := "net_log_port".toList
def sKeyNetLoggingKeepStdout : CStr := "net_log_stdout".toList
def sKeyStatusMemguardMode : CStr := "memgrd_mode".toList
def sKeyStatusMemguardThreshold : CStr := "memgrd_trshld".toList

/-! ### Defaults -/

def sDefaultMqttConnect : Nat := 0
def sDefaultMqttServer : CStr := "127.0.0.1".toList
def sDefaultMqttPort : Nat := 1883
def sDefaultMqttProtocol : CStr := "mqtt".toList
def sDefaultMqttUser : CStr := []
def sDefaultMqttPassword : CStr := []
def sDefaultMqttPrefix : CStr := "relay_board".toList
def sDefaultHaPrefix : CStr := "homeassistant".toList
def sDefaultHaUpdateInterval : Nat := 600000
def sDefaultNetLoggingType : Nat := 0
def sDefaultNetLoggingHost : CStr := "127.0.0.1".toList
def sDefaultNetLoggingPort : Nat := 514
def sDefaultNetLoggingKeepStdout : Nat := 1
def sDefaultChannelCount : Nat := 2
def sDefaultContactSensorsCount : Nat := 0
def sDefaultRelayRefreshInterval : Nat := 1000
def sDefaultOtaUpdateUrl : CStr :=
  ("https://dist-repo-public.s3.eu-central-1.amazonaws.com/firmware/" ++
    "ESPRelayBoard/latest/ESPRelayBoard.bin").toList
def sDefaultOtaUpdateResetConfig : Nat := 0
def sDefaultStatusMemguardMode : Nat := 0
def sDefaultStatusMemguardThreshold : Nat := 65536

/-! ### Unit Keys -/

/-- `S_KEY_CH_PREFIX` followed by a channel number. -/
def chKey (channel : Nat) : CStr := sKeyChPrefix ++ decimal channel

/-- `S_KEY_SN_PREFIX` followed by a channel number. -/
def snKey (channel : Nat) : CStr := sKeySnPrefix ++ decimal channel

@[simp] theorem chKey_inj {i j : Nat} : chKey i = chKey j ↔ i = j := by
  unfold chKey
  rw [List.append_cancel_left_eq]
  exact ⟨decimal_natCast_injective, fun h => by rw [h]⟩

@[simp] theorem snKey_inj {i j : Nat} : snKey i = snKey j ↔ i = j := by
  unfold snKey
  rw [List.append_cancel_left_eq]
  exact ⟨decimal_natCast_injective, fun h => by rw [h]⟩

@[simp] theorem chKey_ne_snKey (i j : Nat) : chKey i ≠ snKey j := by
  intro h
  unfold chKey snKey at h
  have hpre : sKeyChPrefix = sKeySnPrefix := (List.append_inj h (by decide)).1
  exact absurd hpre (by decide)

@[simp] theorem snKey_ne_chKey (i j : Nat) : snKey i ≠ chKey j :=
  fun h => chKey_ne_snKey j i h.symm

/-- The character of a unit key right after its prefix is a digit. -/
theorem isDigit_unitKey {pre : CStr} (hlen : pre.length = 9) (n : Nat) :
    ∃ c, (pre ++ decimal (n : Int))[9]? = some c ∧ c.isDigit = true := by
  obtain ⟨c, cs, hcs⟩ := List.exists_cons_of_ne_nil (decimal_ne_nil n)
  refine ⟨c, ?_, ?_⟩
  · rw [List.getElem?_append_right (by omega), hlen]
    simp [hcs]
  · exact isDigit_of_mem_decimal (n := n) (by simp [hcs])

/-- The keys of all settings outside the unit records. -/
def settingKeys : List CStr :=
  [sKeyDeviceId, sKeyDeviceSerial, sKeyMqttConnect, sKeyMqttServer, sKeyMqttPort,
    sKeyMqttProtocol, sKeyMqttUser, sKeyMqttPassword, sKeyMqttPrefix, sKeyHaPrefix,
    sKeyHaUpdateInterval, sKeyChannelCount, sKeyContactSensorsCount,
    sKeyRelayRefreshInterval, sKeyOtaUpdateUrl, sKeyOtaUpdateResetConfig,
    sKeyNetLoggingType, sKeyNetLoggingHost, sKeyNetLoggingPort, sKeyNetLoggingKeepStdout,
    sKeyStatusMemguardMode, sKeyStatusMemguardThreshold]

/-- No setting is stored under a unit's key. -/
theorem settingKey_ne_unitKey {key : CStr} (hkey : key ∈ settingKeys) (i : Nat) :
    key ≠ chKey i ∧ key ≠ snKey i := by
  -- a setting key starts otherwise, or has no digit at index 9
  have hshape : key.take 9 ≠ sKeyChPrefix ∧ key.take 9 ≠ sKeySnPrefix ∨
      (key[9]?.all (fun c => !c.isDigit)) = true := by
    revert key
    decide
  constructor
  · intro heq
    unfold chKey at heq
    obtain ⟨c, hc, hd⟩ := isDigit_unitKey (show sKeyChPrefix.length = 9 from rfl) i
    rw [heq] at hshape
    rcases hshape with h | h
    · exact h.1 (List.take_left' rfl)
    · rw [hc] at h
      simp [hd] at h
  · intro heq
    unfold snKey at heq
    obtain ⟨c, hc, hd⟩ := isDigit_unitKey (show sKeySnPrefix.length = 9 from rfl) i
    rw [heq] at hshape
    rcases hshape with h | h
    · exact h.2 (List.take_left' rfl)
    · rw [hc] at h
      simp [hd] at h

end Settings
