import RelayBoard.Settings.Apply
import RelayBoard.Web.Http

/-! # Reading Settings

  `get_settings_all_handler` and `get_setting_one_handler` of `main/web.c`,
  with the JSON that `main/settings.c` builds for them.
-/

open CString Settings

namespace Web

variable {Blob : Type}

/-! ### Settings as JSON -/

/-- The number of a `settings_type_t`. -/
def settingsTypeNumber : SettingsType → Nat
  | .uint32 => 0
  | .uint16 => 1
  | .string => 2

/-- `setting_type_default_size`. -/
def settingTypeDefaultSize (t : SettingsType) (e : SettingEntry) : Nat :=
  match t with
  | .uint32 => 4
  | .uint16 => 2
  | .string => e.maxStrSize

/-- The stored value of a setting and its `size`; a string is cut to the setting's own
    size. -/
def settingPayloadValue (nvs : Nvs.Store Blob) (e : SettingEntry) : Except EspErr (Json × Nat) :=
  match e.typeT with
  | .uint32 =>
      (Nvs.readUint32 nvs sNamespace e.key).map fun v =>
        (.number v, settingTypeDefaultSize e.typeT e)
  | .uint16 =>
      (Nvs.readUint16 nvs sNamespace e.key).map fun v =>
        (.number v, settingTypeDefaultSize e.typeT e)
  | .string =>
      (Nvs.readString nvs sNamespace e.key).map fun s =>
        let s := if 0 < e.maxStrSize ∧ s.length ≥ e.maxStrSize then s.take (e.maxStrSize - 1)
          else s
        (.string s, s.length + 1)

/-- `build_setting_payload_json`; an error is the message left in `msg_out`. -/
def buildSettingPayloadJson (allocOk : Bool) (nvs : Nvs.Store Blob) (e : SettingEntry) :
    Except SettingUpdateMsg Json :=
  if allocOk = false then
    .error (setResult .zero .noMem "No memory for JSON payload".toList)
  else
    match settingPayloadValue nvs e with
    | .error err =>
        .error (setResult .zero err
          ("Failed to read '".toList ++ e.key ++ "': ".toList ++ err.name))
    | .ok (value, size) =>
        .ok (.object [("type".toList, .number (settingsTypeNumber e.typeT)),
          ("max_size".toList, .number (settingTypeDefaultSize e.typeT e)),
          ("value".toList, value), ("size".toList, .number size)])

/-- Which objects of an answer find memory, and cJSON's printing. -/
structure ReadOutcomes where
  /-- The payload of this setting. -/
  payloadOk : CStr → Bool
  rootOk : Bool
  dataOk : Bool
  print : Print

/-- `get_setting_value_JSON`. -/
def getSettingValueJSON (o : ReadOutcomes) (nvs : Nvs.Store Blob) (key : CStr) :
    Except SettingUpdateMsg Json :=
  match findSetting key with
  | none =>
      .error (setResult .zero .notFound
        ("Setting '".toList ++ key ++ "' not found".toList))
  | some e =>
      match buildSettingPayloadJson (o.payloadOk e.key) nvs e with
      | .error msgOut => .error msgOut
      | .ok payload =>
          if o.rootOk then .ok (.object [(key, payload)])
          else .error (setResult .zero .noMem "No memory for JSON root".toList)

/-- The settings that can be read. -/
def readableSettings (o : ReadOutcomes) (nvs : Nvs.Store Blob) : List (CStr × Json) :=
  sSettings.filterMap fun e =>
    match buildSettingPayloadJson (o.payloadOk e.key) nvs e with
    | .error _ => none
    | .ok payload => some (e.key, payload)

/-- `get_all_settings_value_JSON`. -/
def getAllSettingsValueJSON (o : ReadOutcomes) (nvs : Nvs.Store Blob) :
    Except SettingUpdateMsg Json :=
  if o.rootOk = false then
    .error (setResult .zero .noMem "No memory for JSON root".toList)
  else if o.dataOk = false then
    .error (setResult .zero .noMem "No memory for JSON data".toList)
  else
    .ok (.object [("data".toList, .object (readableSettings o nvs)),
      ("total".toList, .number sSettings.length)])

/-! ### Handlers -/

/-- The end of both handlers: the item is printed and sent. -/
def sendSettings (print : Print) (root : Json) : EspErr × List Sent :=
  match print root with
  | none =>
      (.fail, [.err .internalServerError (some "Failed to serialize JSON".toList)])
  | some jsonStr => (.ok, [.resp status200 applicationJson jsonStr])

/-- `get_settings_all_handler`. -/
def getSettingsAllHandler (o : ReadOutcomes) (nvs : Nvs.Store Blob) (q : Query) :
    EspErr × List Sent :=
  match validateDeviceIdentityFromGetQuery nvs q with
  | .error response => (.fail, [response])
  | .ok () =>
      match getAllSettingsValueJSON o nvs with
      | .error _ =>
          (.fail, [.err .internalServerError (some "Failed to build settings JSON".toList)])
      | .ok root => sendSettings o.print root

/-- The characters `get_setting_one_handler` allows in a key. -/
def isKeyChar (c : Char) : Bool :=
  ('a' ≤ c && c ≤ 'z') || ('A' ≤ c && c ≤ 'Z') || ('0' ≤ c && c ≤ '9') || c == '_' || c == '-'

/-- `get_setting_one_handler`. -/
def getSettingOneHandler (o : ReadOutcomes) (nvs : Nvs.Store Blob) (q : Query) :
    EspErr × List Sent :=
  match validateDeviceIdentityFromGetQuery nvs q with
  | .error response => (.fail, [response])
  | .ok () =>
      match extractParamValueFromGetQuery q "key".toList 64 with
      | .error _ => (.fail, [.err .badRequest (some "Missing key".toList)])
      | .ok key =>
          if key = [] then (.fail, [.err .badRequest (some "Missing key".toList)])
          else if key.all isKeyChar = false then
            (.fail, [.err .badRequest (some "Invalid key format".toList)])
          else
            match getSettingValueJSON o nvs key with
            | .error msg =>
                (.fail, [.err .notFound
                  (some (if msg.msg ≠ [] then msg.msg else "Setting not found".toList))])
            | .ok root => sendSettings o.print root

end Web
