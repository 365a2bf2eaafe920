import RelayBoard.Mqtt.Topic
import RelayBoard.Web.Http

/-! # Unit Data over MQTT

  `mqtt_publish_relay_data` and `mqtt_relay_subscribe` of `main/mqtt.c`: what a unit
  publishes, under which topics, and the topic on which it takes commands.
-/

open CString Settings Relay MqttTopic

namespace UnitData

variable {Blob : Type}

/-! ### Publishing -/

/-- One call of `esp_mqtt_client_publish`. -/
structure Message where
  topic : CStr
  data : CStr
  retain : Bool
  deriving DecidableEq, Repr

/-- What `mqtt_publish_relay_data` meets: the client, and the results of its calls. -/
structure PublishCalls where
  /-- Is there a client, and `BIT_MQTT_CONNECTED` set? -/
  connected : Bool
  /-- Does `mqtt_init` succeed? -/
  initOk : Bool
  publishOk : Message → Bool
  print : Web.Print

/-- `HA_DEVICE_STATE_PATH_RELAY` or `HA_DEVICE_STATE_PATH_SENSOR`. -/
def haDeviceStatePath : RelayType → CStr
  | .actuator => "switch".toList
  | .sensor => "sensor".toList

/-- The topic of a unit: `"%s/%s/%s/%s"`. -/
def unitTopic (mqttPrefix deviceId relayKey : CStr) (path : CStr) : CStr :=
  mqttPrefix ++ '/' :: (deviceId ++ '/' :: (relayKey ++ '/' :: path))

/-- `sizeof(topic)` in `mqtt_publish_relay_data`. -/
def topicSize : Nat := 256

/-- A message on one field of the unit, under a topic below that of the unit. -/
def fieldMessage (topic field : CStr) (value : Int) (retain : Bool) : Message :=
  ⟨snprintf topicSize (topic ++ '/' :: field), snprintf 32 (decimal value), retain⟩

/-- The messages on the fields of a unit. -/
def fieldMessages (topic : CStr) (relay : RelayUnit) : List Message :=
  [fieldMessage topic "state".toList relay.state.toBool.toNat true,
    fieldMessage topic "channel".toList relay.channel false,
    fieldMessage topic "inverted".toList relay.inverted.toNat false,
    fieldMessage topic "gpio_pin".toList relay.gpioPin false,
    fieldMessage topic "enabled".toList relay.enabled.toNat false,
    fieldMessage topic "type".toList (Web.typeNumber relay.type) false]

/-- The messages on a unit. The last one is its JSON, if that can be printed. -/
def unitMessages (print : Web.Print) (topic : CStr) (relay : RelayUnit) : List Message :=
  fieldMessages topic relay ++
    match print (Web.serializeRelayUnit relay) with
    | some relayJson => [⟨snprintf topicSize topic, relayJson, true⟩]
    | none => []

/-- Can the client be used, after a reconnection if the mode allows one? -/
def clientUsable (ready initOk : Bool) (mqttConnectionMode : Nat) : Bool :=
  ready || decide ((mqttConnectionMode : Int) > mqttConnModeNoReconnect) && initOk

/-- `mqtt_publish_relay_data`: its result and the messages. -/
def mqttPublishRelayData (calls : PublishCalls) (nvs : Nvs.Store Blob) (relay : RelayUnit) :
    EspErr × List Message :=
  match Nvs.readUint16 nvs sNamespace sKeyMqttConnect with
  | .error _ => (.fail, [])
  | .ok mqttConnectionMode =>
      if (mqttConnectionMode : Int) < mqttConnModeNoReconnect then (.ok, [])
      else if clientUsable calls.connected calls.initOk mqttConnectionMode = false then (.fail, [])
      else
        match Nvs.readString nvs sNamespace sKeyMqttPrefix with
        | .error _ => (.nvsBase, [])
        | .ok mqttPrefix =>
            match Nvs.readString nvs sNamespace sKeyDeviceId with
            | .error _ => (.nvsBase, [])
            | .ok deviceId =>
                match getUnitNvsKey relay with
                | none => (.invalidArg, [])
                | some relayKey =>
                    let messages := unitMessages calls.print
                      (unitTopic mqttPrefix deviceId relayKey (haDeviceStatePath relay.type)) relay
                    if messages.all calls.publishOk ∧
                        calls.print (Web.serializeRelayUnit relay) ≠ none then (.ok, messages)
                    else (.fail, messages)

/-! ### Subscribing -/

/-- What `mqtt_relay_subscribe` meets. -/
structure SubscribeCalls where
  /-- Is there a client, with `BIT_MQTT_CONNECTED` and `BIT_MQTT_READY` set? -/
  ready : Bool
  /-- Is there a client, and does `mqtt_init` succeed? Without a client it is not called. -/
  initOk : Bool
  mallocOk : Bool
  subscribeOk : CStr → Bool

/-- `mqtt_relay_subscribe`: its result and the topics subscribed to; `none` is the length
    taken of a null key. -/
def mqttRelaySubscribe (calls : SubscribeCalls) (nvs : Nvs.Store Blob) (relay : RelayUnit) :
    Option (EspErr × List CStr) :=
  match Nvs.readUint16 nvs sNamespace sKeyMqttConnect with
  | .error _ => some (.fail, [])
  | .ok mqttConnectionMode =>
      if (mqttConnectionMode : Int) < mqttConnModeNoReconnect then some (.ok, [])
      else if clientUsable calls.ready calls.initOk mqttConnectionMode = false then
        some (.fail, [])
      else
        match Nvs.readString nvs sNamespace sKeyMqttPrefix with
        | .error err => some (err, [])
        | .ok mqttPrefix =>
            match Nvs.readString nvs sNamespace sKeyDeviceId with
            | .error err => some (err, [])
            | .ok deviceId =>
                match commandTopic mqttPrefix deviceId relay with
                | none => none
                | some topic =>
                    if calls.mallocOk = false then some (.noMem, [])
                    else if calls.subscribeOk topic = false then some (.fail, [topic])
                    else some (.ok, [topic])

/-! ### With MQTT Enabled -/

/-- The settings of a device that uses MQTT. -/
structure Topics (nvs : Nvs.Store Blob) (mqttPrefix deviceId deviceSerial : CStr) : Prop where
  connect : ∃ mode : Nat, nvs sNamespace sKeyMqttConnect = some (.u16 mode) ∧
    mqttConnModeNoReconnect ≤ (mode : Int)
  mqttPrefix : nvs sNamespace sKeyMqttPrefix = some (.str mqttPrefix)
  deviceId : nvs sNamespace sKeyDeviceId = some (.str deviceId)
  deviceSerial : nvs sNamespace sKeyDeviceSerial = some (.str deviceSerial)

theorem readString_of_some {nvs : Nvs.Store Blob} {ns key s : CStr}
    (h : nvs ns key = some (.str s)) : Nvs.readString nvs ns key = .ok s := by
  unfold Nvs.readString
  rw [h]

section topics
variable {nvs : Nvs.Store Blob} {mqttPrefix deviceId deviceSerial relayKey : CStr}
  (h : Topics nvs mqttPrefix deviceId deviceSerial) {relay : RelayUnit}
  (hkey : getUnitNvsKey relay = some relayKey)
include h hkey

/-- A unit publishes its messages on its topic. -/
theorem Topics.published {calls : PublishCalls} (hconnected : calls.connected = true) :
    (mqttPublishRelayData calls nvs relay).2 = unitMessages calls.print
      (unitTopic mqttPrefix deviceId relayKey (haDeviceStatePath relay.type)) relay := by
  obtain ⟨mode, hmode, hle⟩ := h.connect
  have husable : clientUsable calls.connected calls.initOk mode = true := by
    unfold clientUsable
    rw [hconnected, Bool.true_or]
  unfold mqttPublishRelayData
  rw [Nvs.readUint16_eq_ok_iff.mpr hmode]
  dsimp only
  rw [if_neg (Int.not_lt.mpr hle), if_neg (by rw [husable]; decide),
    readString_of_some h.mqttPrefix, readString_of_some h.deviceId, hkey]
  dsimp only
  split <;> rfl

/-- Actuators and sensors subscribe alike. -/
theorem Topics.subscribed {calls : SubscribeCalls} (hready : calls.ready = true)
    (hmalloc : calls.mallocOk = true) :
    (mqttRelaySubscribe calls nvs relay).map Prod.snd =
      some [unitTopic mqttPrefix deviceId relayKey haDeviceFamily ++ "/set".toList] := by
  obtain ⟨mode, hmode, hle⟩ := h.connect
  have husable : clientUsable calls.ready calls.initOk mode = true := by
    unfold clientUsable
    rw [hready, Bool.true_or]
  unfold mqttRelaySubscribe
  rw [Nvs.readUint16_eq_ok_iff.mpr hmode]
  dsimp only
  rw [if_neg (Int.not_lt.mpr hle), if_neg (by rw [husable]; decide),
    readString_of_some h.mqttPrefix, readString_of_some h.deviceId]
  dsimp only
  rw [commandTopic_eq hkey]
  dsimp only
  rw [if_neg (by rw [hmalloc]; decide)]
  have htopic : (mqttPrefix ++ '/' :: (deviceId ++ '/' :: (relayKey ++ '/' ::
      haDeviceFamily))) ++ '/' :: "set".toList =
        unitTopic mqttPrefix deviceId relayKey haDeviceFamily ++ "/set".toList := rfl
  rw [htopic]
  split <;> rfl

end topics

end UnitData
