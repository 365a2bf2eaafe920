import RelayBoard.Mqtt.UnitData

/-! # Home Assistant Discovery

  `ha_entity_discovery_fullfill` of `main/hass.c` fills in the record that describes a
  unit to Home Assistant. The file determines for which units the topics in it are those
  that the device publishes on and subscribes to.
-/

open CString Settings Relay MqttTopic UnitData

namespace Discovery

variable {Blob : Type}

/-! ### The Record -/

/-- `ha_entity_discovery_t` without its device, origin and availability; `none` is a text
    that was not filled in. -/
structure HaEntityDiscovery where
  name : Option CStr
  deviceClass : Option CStr
  enabledByDefault : Bool
  jsonAttributesTopic : Option CStr
  objectId : Option CStr
  stateTopic : Option CStr
  uniqueId : Option CStr
  valueTemplate : Option CStr
  optimistic : Bool
  payloadOff : Bool
  payloadOn : Bool
  commandTopic : Option CStr
  deriving DecidableEq, Repr

/-- A record with nothing in it. -/
def HaEntityDiscovery.blank : HaEntityDiscovery :=
  ⟨none, none, false, none, none, none, none, none, false, false, false, none⟩

/-- The result of `ha_entity_discovery_init` and the allocations, by what they are for. -/
structure FullfillCalls where
  init : EspErr
  objectId : Bool
  jsonAttributesTopic : Bool
  stateTopic : Bool
  uniqueId : Bool
  valueTemplate : Bool
  commandTopic : Bool
  name : Bool

/-- The name of a unit starts with its kind. -/
def namePrefix : RelayType → CStr
  | .actuator => "Relay ".toList
  | .sensor => "Contact sensor ".toList

/-- The template that picks `metric` from the JSON of the unit. -/
def valueTemplate (metric : CStr) : CStr :=
  "\x7b\x7b value_json.".toList ++ metric ++ " \x7d\x7d".toList

/-- The end of `ha_entity_discovery_fullfill`, once the topics are there. A failed
    allocation of the command topic is not noticed: `none` is the write through the null
    pointer. -/
def fullfillCommand (calls : FullfillCalls) (relayKey stateTopic : CStr) (relayType : RelayType)
    (d : HaEntityDiscovery) : Option (EspErr × HaEntityDiscovery) :=
  if calls.commandTopic = false then none
  else
    let commandLen := stateTopic.length + "/set".length + 1
    let d := { d with
      optimistic := false
      commandTopic := some (snprintf commandLen (stateTopic ++ "/set".toList))
      payloadOn := true
      payloadOff := false }
    if calls.name = false then some (.noMem, d)
    else
      let nameLen := relayKey.length + (namePrefix relayType).length + 1
      some (.ok, { d with name := some (snprintf nameLen (namePrefix relayType ++ relayKey)) })

/-- `ha_entity_discovery_fullfill` once the settings are read. -/
def fullfillTopics (calls : FullfillCalls) (mqttPrefix deviceId deviceSerial deviceClass relayKey
    metric : CStr) (relayType : RelayType) (d : HaEntityDiscovery) :
    Option (EspErr × HaEntityDiscovery) :=
  let topicLen := mqttPrefix.length + deviceId.length + (haDeviceStatePath relayType).length +
    relayKey.length + 4
  let topic := snprintf topicLen
    (unitTopic mqttPrefix deviceId relayKey (haDeviceStatePath relayType))
  if calls.jsonAttributesTopic = false then some (.noMem, d)
  else
    let d := { d with jsonAttributesTopic := some topic }
    if calls.stateTopic = false then some (.noMem, d)
    else
      let d := { d with stateTopic := some topic }
      if calls.uniqueId = false then some (.noMem, d)
      else
        let d := { d with
          uniqueId := some (deviceId ++ '_' :: (deviceSerial ++ '_' :: relayKey))
          deviceClass := some deviceClass }
        if calls.valueTemplate = false then some (.noMem, d)
        else
          fullfillCommand calls relayKey topic relayType
            { d with valueTemplate := some (valueTemplate metric) }

/-- `ha_entity_discovery_fullfill`. An empty id or serial ends it with the result of the
    read, which is `ESP_OK`. -/
def haEntityDiscoveryFullfill (calls : FullfillCalls) (nvs : Nvs.Store Blob)
    (d : HaEntityDiscovery) (deviceClass relayKey metric : Option CStr)
    (relayType : RelayType) : Option (EspErr × HaEntityDiscovery) :=
  match deviceClass, relayKey, metric with
  | some deviceClass, some relayKey, some metric =>
      if calls.init ≠ .ok then some (calls.init, d)
      else
        let d := { d with enabledByDefault := true }
        match Nvs.readString nvs sNamespace sKeyDeviceId with
        | .error err => some (err, d)
        | .ok deviceId =>
            if deviceId = [] then some (.ok, d)
            else
              match Nvs.readString nvs sNamespace sKeyDeviceSerial with
              | .error err => some (err, d)
              | .ok deviceSerial =>
                  if deviceSerial = [] then some (.ok, d)
                  else if calls.objectId = false then some (.noMem, d)
                  else
                    let d := { d with objectId := some (deviceId ++ '_' :: relayKey) }
                    match Nvs.readString nvs sNamespace sKeyMqttPrefix with
                    | .error err => some (err, d)
                    | .ok mqttPrefix =>
                        fullfillTopics calls mqttPrefix deviceId deviceSerial deviceClass
                          relayKey metric relayType d
  | _, _, _ => some (.invalidArg, d)

/-! ### What Is Filled In -/

/-- Every call succeeds. -/
structure FullfillCalls.Succeed (calls : FullfillCalls) : Prop where
  init : calls.init = .ok
  objectId : calls.objectId = true
  jsonAttributesTopic : calls.jsonAttributesTopic = true
  stateTopic : calls.stateTopic = true
  uniqueId : calls.uniqueId = true
  valueTemplate : calls.valueTemplate = true
  commandTopic : calls.commandTopic = true
  name : calls.name = true

/-- The record of a unit. -/
def entityOf (mqttPrefix deviceId deviceSerial deviceClass relayKey metric : CStr)
    (relayType : RelayType) : HaEntityDiscovery where
  name := some (namePrefix relayType ++ relayKey)
  deviceClass := some deviceClass
  enabledByDefault := true
  jsonAttributesTopic :=
    some (unitTopic mqttPrefix deviceId relayKey (haDeviceStatePath relayType))
  objectId := some (deviceId ++ '_' :: relayKey)
  stateTopic := some (unitTopic mqttPrefix deviceId relayKey (haDeviceStatePath relayType))
  uniqueId := some (deviceId ++ '_' :: (deviceSerial ++ '_' :: relayKey))
  valueTemplate := some (valueTemplate metric)
  optimistic := false
  payloadOff := false
  payloadOn := true
  commandTopic :=
    some (unitTopic mqttPrefix deviceId relayKey (haDeviceStatePath relayType) ++ "/set".toList)

/-- The length allocated for the topics of a unit is enough. -/
theorem snprintf_unitTopic (mqttPrefix deviceId relayKey path : CStr) :
    snprintf (mqttPrefix.length + deviceId.length + path.length + relayKey.length + 4)
      (unitTopic mqttPrefix deviceId relayKey path) =
        unitTopic mqttPrefix deviceId relayKey path := by
  apply snprintf_of_lt
  simp only [unitTopic, List.length_append, List.length_cons]
  omega

/-- The length allocated for the command topic is enough. -/
theorem snprintf_set (topic : CStr) :
    snprintf (topic.length + "/set".length + 1) (topic ++ "/set".toList) =
      topic ++ "/set".toList := by
  apply snprintf_of_lt
  rw [List.length_append]
  exact Nat.lt_succ_self _

/-- The lengths allocated for the topics and the name are enough. -/
theorem fullfillTopics_eq {calls : FullfillCalls} (hcalls : calls.Succeed)
    (mqttPrefix deviceId deviceSerial deviceClass relayKey metric : CStr)
    (relayType : RelayType) :
    fullfillTopics calls mqttPrefix deviceId deviceSerial deviceClass relayKey metric relayType
        { HaEntityDiscovery.blank with
          enabledByDefault := true, objectId := some (deviceId ++ '_' :: relayKey) } =
      some (.ok, entityOf mqttPrefix deviceId deviceSerial deviceClass relayKey metric
        relayType) := by
  have hname : snprintf (relayKey.length + (namePrefix relayType).length + 1)
      (namePrefix relayType ++ relayKey) = namePrefix relayType ++ relayKey := by
    apply snprintf_of_lt
    rw [List.length_append]
    omega
  simp only [fullfillTopics, fullfillCommand, snprintf_unitTopic, snprintf_set, hname,
    hcalls.jsonAttributesTopic, hcalls.stateTopic, hcalls.uniqueId, hcalls.valueTemplate,
    hcalls.commandTopic, hcalls.name]
  rfl

section fullfill
variable {nvs : Nvs.Store Blob} {mqttPrefix deviceId deviceSerial : CStr}
  (h : Topics nvs mqttPrefix deviceId deviceSerial) {calls : FullfillCalls}
  (hcalls : calls.Succeed) (deviceClass relayKey metric : CStr) (relayType : RelayType)
include h hcalls

/-- A device with an id and a serial fills in the record. -/
theorem fullfill_of_ne_nil (hid : deviceId ≠ []) (hserial : deviceSerial ≠ []) :
    haEntityDiscoveryFullfill calls nvs .blank (some deviceClass) (some relayKey) (some metric)
        relayType =
      some (.ok, entityOf mqttPrefix deviceId deviceSerial deviceClass relayKey metric
        relayType) := by
  unfold haEntityDiscoveryFullfill
  dsimp only
  rw [if_neg (by rw [hcalls.init]; decide), readString_of_some h.deviceId]
  dsimp only
  rw [if_neg hid, readString_of_some h.deviceSerial]
  dsimp only
  rw [if_neg hserial, if_neg (by rw [hcalls.objectId]; decide), readString_of_some h.mqttPrefix]
  exact fullfillTopics_eq hcalls mqttPrefix deviceId deviceSerial deviceClass relayKey metric
    relayType

/-- Without an id or a serial it reports success on a record without topics. -/
theorem fullfill_of_nil (hnil : deviceId = [] ∨ deviceSerial = []) :
    haEntityDiscoveryFullfill calls nvs .blank (some deviceClass) (some relayKey) (some metric)
        relayType = some (.ok, { HaEntityDiscovery.blank with enabledByDefault := true }) := by
  unfold haEntityDiscoveryFullfill
  dsimp only
  rw [if_neg (by rw [hcalls.init]; decide), readString_of_some h.deviceId]
  dsimp only
  by_cases hid : deviceId = []
  · rw [if_pos hid]
  · rw [if_neg hid, readString_of_some h.deviceSerial]
    dsimp only
    rw [if_pos (hnil.resolve_left hid)]

end fullfill

/-! ### Topics -/

/-- The topics in the record are those of the unit's JSON, which is published last, and of
    the subscription. -/
structure TopicsMatch (d : HaEntityDiscovery) (relayJson : CStr) (published : List Message)
    (subscribed : Option (List CStr)) : Prop where
  state : ∃ topic, d.stateTopic = some topic ∧
    published.getLast? = some ⟨topic, relayJson, true⟩
  jsonAttributes : ∃ topic, d.jsonAttributesTopic = some topic ∧
    published.getLast? = some ⟨topic, relayJson, true⟩
  command : ∃ topic, d.commandTopic = some topic ∧ subscribed = some [topic]

/-- The record of a unit matches what the unit does. -/
def Advertised (calls : FullfillCalls) (publish : PublishCalls) (subscribe : SubscribeCalls)
    (nvs : Nvs.Store Blob) (relay : RelayUnit) (deviceClass metric relayJson : CStr) : Prop :=
  ∃ err d, haEntityDiscoveryFullfill calls nvs .blank (some deviceClass) (getUnitNvsKey relay)
      (some metric) relay.type = some (err, d) ∧
    TopicsMatch d relayJson (mqttPublishRelayData publish nvs relay).2
      ((mqttRelaySubscribe subscribe nvs relay).map Prod.snd)

/-- The paths of the two kinds of units differ. -/
theorem unitTopic_inj {mqttPrefix deviceId relayKey path path' : CStr}
    (h : unitTopic mqttPrefix deviceId relayKey path =
      unitTopic mqttPrefix deviceId relayKey path') : path = path' := by
  unfold unitTopic at h
  simpa using h

/-- A text that fits is the only one that is not cut. -/
theorem snprintf_eq_self_iff {size : Nat} (hsize : 0 < size) {text : CStr} :
    snprintf size text = text ↔ text.length < size := by
  constructor
  · intro h
    have hlen := congrArg List.length h
    rw [snprintf, List.length_take] at hlen
    omega
  · exact snprintf_of_lt

/-- **Advertised topics**: for a unit with a key, the topics are the ones in use exactly if
    the unit is an actuator, the device has an id and a serial, and the topic fits the
    buffer it is published from. -/
theorem advertised_iff {nvs : Nvs.Store Blob} {mqttPrefix deviceId deviceSerial relayKey : CStr}
    (h : Topics nvs mqttPrefix deviceId deviceSerial) {relay : RelayUnit}
    (hkey : getUnitNvsKey relay = some relayKey) {calls : FullfillCalls}
    (hcalls : calls.Succeed) {publish : PublishCalls} (hconnected : publish.connected = true)
    {relayJson : CStr} (hprint : publish.print (Web.serializeRelayUnit relay) = some relayJson)
    {subscribe : SubscribeCalls} (hready : subscribe.ready = true)
    (hmalloc : subscribe.mallocOk = true) (deviceClass metric : CStr) :
    Advertised calls publish subscribe nvs relay deviceClass metric relayJson ↔
      relay.type = .actuator ∧ deviceId ≠ [] ∧ deviceSerial ≠ [] ∧
        (unitTopic mqttPrefix deviceId relayKey haDeviceFamily).length < topicSize := by
  have hlast : (mqttPublishRelayData publish nvs relay).2.getLast? =
      some ⟨snprintf topicSize (unitTopic mqttPrefix deviceId relayKey
        (haDeviceStatePath relay.type)), relayJson, true⟩ := by
    rw [h.published hkey hconnected, unitMessages, hprint]
    exact List.getLast?_concat
  have hsubscribed := h.subscribed hkey hready hmalloc
  by_cases hnil : deviceId = [] ∨ deviceSerial = []
  · -- without an id or a serial the record has no topics
    have hfull := fullfill_of_nil h hcalls deviceClass relayKey metric relay.type hnil
    constructor
    · rintro ⟨err, d, hd, hmatch⟩
      rw [hkey, hfull] at hd
      cases hd
      obtain ⟨topic, htopic, _⟩ := hmatch.state
      cases htopic
    · rintro ⟨_, hid, hserial, _⟩
      exact (hnil.elim hid hserial).elim
  · rw [not_or] at hnil
    have hfull := fullfill_of_ne_nil h hcalls deviceClass relayKey metric relay.type hnil.1 hnil.2
    constructor
    · rintro ⟨err, d, hd, hmatch⟩
      rw [hkey, hfull] at hd
      cases hd
      obtain ⟨command, hcommand, hcommand'⟩ := hmatch.command
      rw [hsubscribed] at hcommand'
      -- the command topic is of the actuators, so the path of the unit is theirs
      have hpath : haDeviceStatePath relay.type = haDeviceFamily := by
        have htopic := (List.cons.inj (Option.some.inj hcommand')).1
        rw [← Option.some.inj hcommand] at htopic
        exact unitTopic_inj (List.append_cancel_right htopic.symm)
      have htype : relay.type = .actuator := by
        cases hrelay : relay.type with
        | actuator => rfl
        | sensor =>
            rw [hrelay] at hpath
            exact absurd hpath (by decide)
      refine ⟨htype, hnil.1, hnil.2, ?_⟩
      obtain ⟨topic, htopic, hpublished⟩ := hmatch.state
      rw [hlast] at hpublished
      -- the topic of the record is whole, so the one in use is
      have hcut := congrArg Message.topic (Option.some.inj hpublished)
      rw [← Option.some.inj htopic, hpath] at hcut
      exact (snprintf_eq_self_iff (by decide)).mp hcut
    · rintro ⟨htype, _, _, hlen⟩
      have hpath : haDeviceStatePath relay.type = haDeviceFamily := by
        rw [htype]
        rfl
      rw [hpath, (snprintf_eq_self_iff (by decide)).mpr hlen] at hlast
      refine ⟨.ok, _, by rw [hkey]; exact hfull, ⟨?_, ?_, ?_⟩⟩
      · exact ⟨_, congrArg (fun path => some (unitTopic mqttPrefix deviceId relayKey path)) hpath,
          hlast⟩
      · exact ⟨_, congrArg (fun path => some (unitTopic mqttPrefix deviceId relayKey path)) hpath,
          hlast⟩
      · exact ⟨_, congrArg (fun path =>
          some (unitTopic mqttPrefix deviceId relayKey path ++ "/set".toList)) hpath, hsubscribed⟩

/-! ### A Device -/

/-- A device with MQTT enabled. -/
def mqttStore : Nvs.Store Unit :=
  Nvs.setAll Nvs.empty sNamespace [(sKeyMqttConnect, .u16 2), (sKeyMqttPrefix, .str "home".toList),
    (sKeyDeviceId, .str "DCDA0C7E08A4".toList), (sKeyDeviceSerial, .str "0123456789".toList)]

theorem topics_mqttStore :
    Topics mqttStore "home".toList "DCDA0C7E08A4".toList "0123456789".toList :=
  ⟨⟨2, by decide +kernel, by decide⟩, by decide +kernel, by decide +kernel, by decide +kernel⟩

/-- Calls that succeed. -/
def fullfillOk : FullfillCalls := ⟨.ok, true, true, true, true, true, true, true⟩

theorem fullfillOk_succeed : fullfillOk.Succeed := ⟨rfl, rfl, rfl, rfl, rfl, rfl, rfl, rfl⟩

def publishOk : PublishCalls := ⟨true, true, fun _ => true, fun _ => some "\x7b\x7d".toList⟩

def subscribeOk : SubscribeCalls := ⟨true, true, true, fun _ => true⟩

/-- The topics of an actuator are in use. -/
theorem advertised_iff_actuator :
    Advertised fullfillOk publishOk subscribeOk mqttStore { RelayUnit.zero with channel := 3 }
      "switch".toList "state".toList "\x7b\x7d".toList := by
  have hkey : getUnitNvsKey { RelayUnit.zero with channel := 3 } =
      some "relay_ch_3".toList := by
    decide
  exact (advertised_iff topics_mqttStore hkey fullfillOk_succeed rfl rfl rfl rfl _ _).mpr
    ⟨rfl, by decide, by decide, by decide⟩

/-- A sensor is told to take commands under a topic that no one subscribes to. -/
theorem not_advertised : ¬ ∀ (relay : RelayUnit) (relayKey : CStr),
    getUnitNvsKey relay = some relayKey →
      Advertised fullfillOk publishOk subscribeOk mqttStore relay
        "switch".toList "state".toList "\x7b\x7d".toList := by
  intro h
  obtain ⟨err, d, hd, hmatch⟩ := h { RelayUnit.zero with channel := 3, type := .sensor }
    "relay_sn_3".toList (by decide)
  have hfull := fullfill_of_ne_nil topics_mqttStore fullfillOk_succeed "switch".toList
    "relay_sn_3".toList "state".toList .sensor (by decide) (by decide)
  have hkey : getUnitNvsKey { RelayUnit.zero with channel := 3, type := .sensor } =
    some "relay_sn_3".toList := by decide
  rw [hkey, hfull] at hd
  cases hd
  obtain ⟨command, hcommand, hcommand'⟩ := hmatch.command
  rw [topics_mqttStore.subscribed hkey rfl rfl] at hcommand'
  have htopic := (List.cons.inj (Option.some.inj hcommand')).1
  rw [← Option.some.inj hcommand] at htopic
  exact absurd htopic (by decide)

end Discovery
