import RelayBoard.Mqtt.UnitData

/-! # System Information over MQTT

  `mqtt_publish_system_info` of `main/mqtt.c`: the status of the device, as one JSON text
  and field by field.
-/

open CString Settings UnitData

namespace SystemInfo

variable {Blob : Type}

/-- `device_status_t`. -/
structure DeviceStatus where
  freeHeap : Nat
  minFreeHeap : Nat
  timeSinceBoot : Int
  memguardThreshold : Nat
  memguardMode : Nat

/-- `device_status_to_JSON`. -/
def deviceStatusToJson (s : DeviceStatus) : Json :=
  .object [("free_heap".toList, .number s.freeHeap),
    ("min_free_heap".toList, .number s.minFreeHeap),
    ("time_since_boot".toList, .number s.timeSinceBoot),
    ("memguard_threshold".toList, .number s.memguardThreshold),
    ("memguard_mode".toList, .number s.memguardMode)]

/-- `"%s/%s/system"`. -/
def systemTopic (mqttPrefix deviceId : CStr) : CStr :=
  mqttPrefix ++ '/' :: (deviceId ++ "/system".toList)

/-- The status as one text; a null text is published as an empty one. -/
def systemMessage (print : Web.Print) (topic : CStr) (status : DeviceStatus) : Message :=
  ⟨snprintf topicSize topic, (print (deviceStatusToJson status)).getD [], false⟩

/-- The messages on the fields of the status. -/
def systemFields (topic : CStr) (status : DeviceStatus) : List Message :=
  [fieldMessage topic "uptime".toList (status.timeSinceBoot % 0x10000000000000000) false,
    fieldMessage topic "free_heap".toList status.freeHeap false,
    fieldMessage topic "min_free_heap".toList status.minFreeHeap false,
    fieldMessage topic "memguard_threshold".toList status.memguardThreshold false,
    fieldMessage topic "memguard_mode".toList status.memguardMode false]

/-- `mqtt_publish_system_info`: its result and the messages; `none` is a failed
    `ESP_ERROR_CHECK`. -/
def mqttPublishSystemInfo (calls : PublishCalls) (nvs : Nvs.Store Blob)
    (status : Option DeviceStatus) : Option (EspErr × List Message) :=
  match status with
  | none => some (.invalidArg, [])
  | some status =>
      match Nvs.readUint16 nvs sNamespace sKeyMqttConnect with
      | .error _ => some (.fail, [])
      | .ok mqttConnectionMode =>
          if (mqttConnectionMode : Int) < mqttConnModeNoReconnect then some (.ok, [])
          else if clientUsable calls.connected calls.initOk mqttConnectionMode = false then
            some (.fail, [])
          else
            match Nvs.readString nvs sNamespace sKeyMqttPrefix with
            | .error _ => none
            | .ok mqttPrefix =>
                match Nvs.readString nvs sNamespace sKeyDeviceId with
                | .error _ => none
                | .ok deviceId =>
                    let topic := systemTopic mqttPrefix deviceId
                    let whole := systemMessage calls.print topic status
                    -- without the text the fields are not published
                    if calls.publishOk whole = false then some (.fail, [whole])
                    else
                      let messages := systemFields topic status
                      if messages.all calls.publishOk then some (.ok, whole :: messages)
                      else some (.fail, whole :: messages)

/-- What is published begins with the text, and goes on with all fields or none. -/
theorem mqttPublishSystemInfo_cases {calls : PublishCalls} {nvs : Nvs.Store Blob}
    {mqttPrefix deviceId : CStr} (hpre : nvs sNamespace sKeyMqttPrefix = some (.str mqttPrefix))
    (hid : nvs sNamespace sKeyDeviceId = some (.str deviceId)) {status : Option DeviceStatus}
    {err : EspErr} {messages : List Message}
    (h : mqttPublishSystemInfo calls nvs status = some (err, messages)) :
    messages = [] ∨ ∃ status, messages <+:
      systemMessage calls.print (systemTopic mqttPrefix deviceId) status ::
        systemFields (systemTopic mqttPrefix deviceId) status := by
  cases status with
  | none =>
      cases h
      exact .inl rfl
  | some status =>
      unfold mqttPublishSystemInfo at h
      dsimp only at h
      rw [readString_of_some hpre, readString_of_some hid] at h
      cases hmode : Nvs.readUint16 nvs sNamespace sKeyMqttConnect with
      | error err =>
          rw [hmode] at h
          cases h
          exact .inl rfl
      | ok mode =>
          rw [hmode] at h
          dsimp only at h
          split at h
          · cases h
            exact .inl rfl
          split at h
          · cases h
            exact .inl rfl
          -- the text is published first; the fields follow if that succeeds
          right
          refine ⟨status, ?_⟩
          split at h
          · cases h
            exact List.prefix_append [_] _
          · split at h
            · cases h
              exact List.prefix_rfl
            · cases h
              exact List.prefix_rfl

end SystemInfo
