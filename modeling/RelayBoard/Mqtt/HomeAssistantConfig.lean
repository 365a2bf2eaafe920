import RelayBoard.Mqtt.EntityDiscovery

/-! # Publishing the Discovery Records

  `mqtt_publish_home_assistant_config` of `main/mqtt.c`: for every unit its discovery
  record, and that the device is online.
-/

open CString Settings Relay UnitData Discovery EntityDiscovery

namespace HomeAssistantConfig

/-! ### Texts and Sizes -/

/-- `HA_DEVICE_DEVICE_CLASS`. -/
def haDeviceDeviceClass : CStr := "switch".toList

/-- `HA_DEVICE_METRIC_STATE`. -/
def haDeviceMetricState : CStr := "state".toList

/-- `HA_DEVICE_CONFIG_PATH`. -/
def haDeviceConfigPath : CStr := "config".toList

/-- `sizeof(discovery_path)`. -/
def discoveryPathSize : Nat := 256

/-- `sizeof(topic)`. -/
def configTopicSize : Nat := 512

/-- `"%s/%s"`. -/
def discoveryPath (homeassistantPrefix : CStr) : CStr :=
  homeassistantPrefix ++ '/' :: MqttTopic.haDeviceFamily

/-- `"%s/%s_%s/%s/%s"`. -/
def configTopic (discoveryPath deviceId relayKey : CStr) : CStr :=
  discoveryPath ++ '/' :: (deviceId ++ '_' :: (relayKey ++ '/' ::
    (MqttTopic.haDeviceFamily ++ '/' :: haDeviceConfigPath)))

/-- `ha_availability_entry_to_JSON("online")`. -/
def availabilityEntry : Json := .object [("state".toList, .string "online".toList)]

/-! ### The Loop -/

/-- What ends the function without a result. -/
inductive Crash where
  /-- A failed `ESP_ERROR_CHECK`. -/
  | check
  /-- A formatting call with a null destination. -/
  | nullWrite
  /-- A write behind the end of a buffer. -/
  | overrun
  deriving DecidableEq, Repr

/-- What the function meets. The units are told apart by their index. -/
structure ConfigCalls where
  /-- Are both bits set before the wait ends? -/
  ready : Bool
  /-- Is there memory for the entity of a unit? -/
  mallocOk : Nat → Bool
  /-- The allocations that `ha_entity_discovery_fullfill` makes for it. -/
  malloc : Nat → Alloc → Bool
  ip : Option Ip
  /-- `DEVICE_SW_VERSION`. -/
  swVersion : CStr
  /-- `esp_get_idf_version()`. -/
  idfVersion : CStr
  /-- `ha_entity_discovery_print_JSON`. -/
  printEntity : InitEntities → HaEntityDiscovery → Option CStr
  print : Web.Print
  publishOk : Message → Bool

/-- What `ha_entity_discovery_fullfill` meets for the unit at an index. -/
def ConfigCalls.env (calls : ConfigCalls) (nvs : Nvs.Store RelayUnit) (i : Nat) :
    EntityDiscovery.Env RelayUnit :=
  ⟨calls.malloc i, nvs, calls.ip, calls.swVersion, calls.idfVersion⟩

/-- The loop over the units from index `i` on: the messages and the result. -/
def configLoop (calls : ConfigCalls) (nvs : Nvs.Store RelayUnit)
    (deviceId homeassistantPrefix : CStr) :
    Nat → List RelayUnit → Bool → List Message × Except Crash EspErr
  | _, [], isError => ([], .ok (if isError then .fail else .ok))
  | i, relay :: relayList, isError =>
      match getUnitNvsKey relay with
      | none => configLoop calls nvs deviceId homeassistantPrefix (i + 1) relayList isError
      | some relayKey =>
          if calls.mallocOk i = false then
            configLoop calls nvs deviceId homeassistantPrefix (i + 1) relayList true
          else
            match EntityDiscovery.haEntityDiscoveryFullfill (calls.env nvs i)
              (some haDeviceDeviceClass) (some relayKey) (some haDeviceMetricState) relay.type with
            | none => ([], .error .nullWrite)
            | some (.ok, some entities, d) =>
                match sprintf discoveryPathSize (discoveryPath homeassistantPrefix) with
                | none => ([], .error .overrun)
                | some path =>
                    match sprintf configTopicSize (configTopic path deviceId relayKey) with
                    | none => ([], .error .overrun)
                    | some topic =>
                        let config : Message :=
                          ⟨topic, (calls.printEntity entities d).getD [], true⟩
                        let online : Message := ⟨entities.availability.topic,
                          (calls.print availabilityEntry).getD [], true⟩
                        let failed := !calls.publishOk config || !calls.publishOk online
                        let (messages, result) := configLoop calls nvs deviceId
                          homeassistantPrefix (i + 1) relayList (isError || failed)
                        (config :: online :: messages, result)
            -- a success has its entities
            | some _ => ([], .ok .fail)

/-- `mqtt_publish_home_assistant_config`: the messages, the result and the board. Its
    `mqtt_prefix` is not used. -/
def mqttPublishHomeAssistantConfig (calls : ConfigCalls) (env : Relay.Env) (b : Board)
    (deviceId _mqttPrefix homeassistantPrefix : CStr) :
    List Message × Except Crash EspErr × Board :=
  match Nvs.readUint16 b.nvs sNamespace sKeyMqttConnect with
  | .error _ => ([], .error .check, b)
  | .ok mqttConnectionMode =>
      if (mqttConnectionMode : Int) < mqttConnModeNoReconnect then ([], .ok .ok, b)
      else if calls.ready = false then ([], .ok .fail, b)
      else
        match getAllRelayUnits env b with
        | none => ([], .error .check, b)
        | some (relayList, b) =>
            if relayList = [] then ([], .ok .ok, b)
            else
              let (messages, result) :=
                configLoop calls b.nvs deviceId homeassistantPrefix 0 relayList false
              (messages, result, b)

end HomeAssistantConfig
