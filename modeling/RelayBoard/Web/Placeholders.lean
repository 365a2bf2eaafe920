import RelayBoard.Framework.BracketLoops
import RelayBoard.Framework.CSearch
import RelayBoard.Settings.Keys

/-! # Placeholders

  `replace_placeholder` of `main/web.c` and the placeholders that every page has. The
  loop has no bound of its own; the model counts its turns down.
-/

open CString Settings Rewriting

namespace Web

/-! ### The Loop -/

/-- `replace_placeholder` in at most `fuel` turns. Every turn searches from the start of
    the page; the page may be of any length. -/
def replacePlaceholder (placeholder value : CStr) : Nat → CStr → Option CStr
  | 0, _ => none
  | fuel + 1, htmlOutput =>
      match strstr placeholder htmlOutput with
      | none => some htmlOutput
      | some pos =>
          replacePlaceholder placeholder value fuel
            (htmlOutput.take (htmlOutput.length - pos.length) ++ value ++
              pos.drop placeholder.length)

variable {placeholder value htmlOutput page : CStr}

/-- A turn is a step of rewriting. -/
theorem replacePlaceholder_of_firstAt {before after : CStr}
    (h : FirstAt placeholder htmlOutput before after) (fuel : Nat) :
    replacePlaceholder placeholder value (fuel + 1) htmlOutput =
      replacePlaceholder placeholder value fuel (before ++ value ++ after) := by
  conv_lhs => unfold replacePlaceholder
  rw [h.strstr]
  have hbefore : htmlOutput.take (htmlOutput.length - (placeholder ++ after).length) =
      before := by
    rw [h.split, List.append_assoc, List.length_append, Nat.add_sub_cancel, List.take_left]
  dsimp only
  rw [hbefore, List.drop_left]

theorem replacePlaceholder_of_absent (h : ¬ placeholder <:+: htmlOutput) (fuel : Nat) :
    replacePlaceholder placeholder value (fuel + 1) htmlOutput = some htmlOutput := by
  unfold replacePlaceholder
  rw [strstr_eq_none_iff.mpr h]

/-- `RELAY_GPIO_PIN_MIN`. -/
def relayGpioPinMin : Int := 0

/-- `RELAY_GPIO_PIN_MAX`. -/
def relayGpioPinMax : Int := 39

/-- `CA_CERT_LENGTH`. -/
def caCertLength : Int := 8192

/-- `DEVICE_SW_VERSION_NUM`, which the build gets from `CMakeLists.txt`. -/
def deviceSwVersionNum : CStr := "1.0.7".toList

/-- `DEVICE_SW_BUILD_NUM`, the time of the build. -/
structure BuildNum where
  text : CStr
  digits : text.all Char.isDigit = true

/-- `DEVICE_SW_VERSION`. -/
def deviceSwVersion (build : BuildNum) : CStr :=
  deviceSwVersionNum ++ " build ".toList ++ build.text

/-- A number as `assign_static_page_variables` prints it into `f_len`. -/
def fLen (n : Int) : CStr := snprintf 10 (decimal n)

/-- The placeholders of `assign_static_page_variables` and their values, in order. -/
def staticPageVariables (build : BuildNum) : List (CStr × CStr) :=
  [("\x7bLEN_MQTT_SERVER\x7d".toList, fLen mqttServerLength),
    ("\x7bLEN_MQTT_PROTOCOL\x7d".toList, fLen mqttProtocolLength),
    ("\x7bLEN_MQTT_USER\x7d".toList, fLen mqttUserLength),
    ("\x7bLEN_MQTT_PASSWORD\x7d".toList, fLen mqttPasswordLength),
    ("\x7bLEN_MQTT_PREFIX\x7d".toList, fLen mqttPrefixLength),
    ("\x7bLEN_HA_PREFIX\x7d".toList, fLen haPrefixLength),
    ("\x7bMIN_HA_UPDATE_INTERVAL\x7d".toList, fLen haUpdateIntervalMin),
    ("\x7bMAX_HA_UPDATE_INTERVAL\x7d".toList, fLen haUpdateIntervalMax),
    ("\x7bMIN_RELAY_REFRESH_INTERVAL\x7d".toList, fLen relayRefreshIntervalMin),
    ("\x7bMAX_RELAY_REFRESH_INTERVAL\x7d".toList, fLen relayRefreshIntervalMax),
    ("\x7bMIN_RELAY_CHANNEL_COUNT\x7d".toList, fLen (channelCountMin + 1)),
    ("\x7bMAX_RELAY_CHANNEL_COUNT\x7d".toList, fLen (channelCountMax + 1)),
    ("\x7bMIN_CONTACT_SENSORS_COUNT\x7d".toList, fLen contactSensorsCountMin),
    ("\x7bMAX_CONTACT_SENSORS_COUNT\x7d".toList, fLen contactSensorsCountMax),
    ("\x7bMIN_RELAY_GPIO_PIN\x7d".toList, fLen relayGpioPinMin),
    ("\x7bMAX_RELAY_GPIO_PIN\x7d".toList, fLen relayGpioPinMax),
    ("\x7bVAL_CA_CERT_LEN_MAX\x7d".toList, fLen caCertLength),
    ("\x7bVAL_SW_VERSION\x7d".toList, deviceSwVersion build),
    ("\x7bVAL_SW_VERSION_NUM\x7d".toList, deviceSwVersionNum),
    ("\x7bVAL_SW_BUILD_NUM\x7d".toList, build.text),
    ("\x7bLEN_NET_LOGGING_HOST\x7d".toList, fLen netLoggingHostLength),
    ("\x7bMIN_MEMGUARD_THRESHOLD\x7d".toList, fLen memguardThresholdMin),
    ("\x7bMAX_MEMGUARD_THRESHOLD\x7d".toList, fLen memguardThresholdMax)]

/-- Calls of `replace_placeholder` one after another, each in at most `fuel` turns. -/
def replaceAllIn (fuel : Nat) : List (CStr × CStr) → CStr → Option CStr
  | [], htmlOutput => some htmlOutput
  | (placeholder, value) :: rest, htmlOutput =>
      match replacePlaceholder placeholder value fuel htmlOutput with
      | none => none
      | some htmlOutput => replaceAllIn fuel rest htmlOutput

/-- More turns than the loop needs change nothing. -/
theorem replacePlaceholder_mono {fuel fuel' : Nat} (hle : fuel ≤ fuel')
    (h : replacePlaceholder placeholder value fuel htmlOutput = some page) :
    replacePlaceholder placeholder value fuel' htmlOutput = some page := by
  induction fuel generalizing fuel' htmlOutput with
  | zero => cases h
  | succ fuel ih =>
      obtain ⟨fuel', rfl⟩ : ∃ n, fuel' = n + 1 := ⟨fuel' - 1, by omega⟩
      by_cases hin : placeholder <:+: htmlOutput
      · obtain ⟨before, after, hfirst⟩ := exists_firstAt hin
        rw [replacePlaceholder_of_firstAt hfirst] at h ⊢
        exact ih (by omega) h
      · rw [replacePlaceholder_of_absent hin] at h ⊢
        exact h

theorem replaceAllIn_mono {fuel fuel' : Nat} (hle : fuel ≤ fuel')
    {vars : List (CStr × CStr)}
    (h : replaceAllIn fuel vars htmlOutput = some page) :
    replaceAllIn fuel' vars htmlOutput = some page := by
  induction vars generalizing htmlOutput with
  | nil => exact h
  | cons v vars ih =>
      unfold replaceAllIn at h ⊢
      split at h
      · cases h
      · next hturns =>
          rw [replacePlaceholder_mono hle hturns]
          exact ih h

end Web
