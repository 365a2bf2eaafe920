import RelayBoard.Framework.CSearch
import RelayBoard.Mqtt.HomeAssistantConfig
import RelayBoard.Mqtt.SystemInfo

/-! # Topic Buffers

  Every topic of `main/mqtt.c` and `main/hass.c` is formatted into a buffer of fixed size or
  of a length added up by hand. The file shows that for prefixes of any length that can be
  stored no topic is cut, and that no two values share a topic.
-/

open CString Settings Relay MqttTopic UnitData Discovery EntityDiscovery SystemInfo
  HomeAssistantConfig

namespace TopicBuffers

/-! ### Keys of Units -/

section key
variable {relay relay' : RelayUnit} {relayKey : CStr}

/-- A unit with a key has a channel of at most two digits. -/
theorem exists_of_getUnitNvsKey (h : getUnitNvsKey relay = some relayKey) :
    ∃ n : Nat, relay.channel = n ∧ n ≤ 15 ∧
      (relay.type = .actuator ∧ relayKey = chKey n ∨ relay.type = .sensor ∧ relayKey = snKey n) := by
  unfold getUnitNvsKey at h
  split at h
  · next htype =>
      obtain ⟨n, hn, hle, rfl⟩ := exists_of_getContactSensorNvsKey h
      exact ⟨n, hn, by omega, .inr ⟨htype, rfl⟩⟩
  · next htype =>
      obtain ⟨n, hn, hle, rfl⟩ := exists_of_getRelayNvsKey h
      exact ⟨n, hn, hle, .inl ⟨htype, rfl⟩⟩

theorem slash_not_mem_key (h : getUnitNvsKey relay = some relayKey) : '/' ∉ relayKey := by
  obtain ⟨n, _, _, ⟨_, rfl⟩ | ⟨_, rfl⟩⟩ := exists_of_getUnitNvsKey h
  · exact slash_not_mem_chKey n
  · exact not_mem_append_decimal (by decide) (by decide) n

theorem length_key_le (h : getUnitNvsKey relay = some relayKey) : relayKey.length ≤ 11 := by
  obtain ⟨n, _, hle, hkey⟩ := exists_of_getUnitNvsKey h
  have hdigits : (decimal (n : Nat)).length ≤ 2 :=
    (length_decimal_le_iff (by decide)).mpr (by omega)
  have hch : sKeyChPrefix.length = 9 := by decide
  have hsn : sKeySnPrefix.length = 9 := by decide
  rcases hkey with ⟨_, rfl⟩ | ⟨_, rfl⟩
  · rw [chKey, List.length_append, hch]
    exact Nat.add_le_add_left hdigits 9
  · rw [snKey, List.length_append, hsn]
    exact Nat.add_le_add_left hdigits 9

/-- Units with one key are of one type and channel. -/
theorem eq_of_key (h : getUnitNvsKey relay = some relayKey)
    (h' : getUnitNvsKey relay' = some relayKey) :
    relay.type = relay'.type ∧ relay.channel = relay'.channel := by
  obtain ⟨n, hn, _, hkey⟩ := exists_of_getUnitNvsKey h
  obtain ⟨n', hn', _, hkey'⟩ := exists_of_getUnitNvsKey h'
  rw [hn, hn']
  -- the two kinds of keys start differently
  rcases hkey with ⟨htype, rfl⟩ | ⟨htype, rfl⟩
  · rcases hkey' with ⟨htype', heq⟩ | ⟨_, heq⟩
    · rw [chKey_inj.mp heq]
      exact ⟨htype.trans htype'.symm, rfl⟩
    · exact absurd heq (chKey_ne_snKey n n')
  · rcases hkey' with ⟨_, heq⟩ | ⟨htype', heq⟩
    · exact absurd heq (snKey_ne_chKey n n')
    · rw [snKey_inj.mp heq]
      exact ⟨htype.trans htype'.symm, rfl⟩

end key

/-! ### Topics of Fields -/

/-- What `mqtt_publish_relay_data` publishes of a unit. -/
inductive Field where
  | state
  | channel
  | inverted
  | gpioPin
  | enabled
  | type
  | json
  deriving DecidableEq, Repr

/-- The fields, in the order in which they are published. -/
def Field.all : List Field := [.state, .channel, .inverted, .gpioPin, .enabled, .type, .json]

/-- What follows the topic of the unit. -/
def Field.path : Field → CStr
  | .state => "/state".toList
  | .channel => "/channel".toList
  | .inverted => "/inverted".toList
  | .gpioPin => "/gpio_pin".toList
  | .enabled => "/enabled".toList
  | .type => "/type".toList
  | .json => []

/-- The whole topic of a field. -/
def fieldTopic (mqttPrefix deviceId relayKey : CStr) (type : RelayType) (f : Field) : CStr :=
  unitTopic mqttPrefix deviceId relayKey (haDeviceStatePath type) ++ f.path

theorem Field.path_inj {f g : Field} (h : f.path = g.path) : f = g := by
  revert h
  cases f <;> cases g <;> decide

theorem Field.length_path_le (f : Field) : f.path.length ≤ 9 := by
  cases f <;> decide

theorem length_haDeviceStatePath (type : RelayType) : (haDeviceStatePath type).length = 6 := by
  cases type <;> rfl

/-- Fields of one topic are one field of one unit. -/
theorem fieldTopic_inj {mqttPrefix deviceId relayKey relayKey' : CStr} {relay relay' : RelayUnit}
    (hkey : getUnitNvsKey relay = some relayKey) (hkey' : getUnitNvsKey relay' = some relayKey')
    {f g : Field} (h : fieldTopic mqttPrefix deviceId relayKey relay.type f =
      fieldTopic mqttPrefix deviceId relayKey' relay'.type g) :
    relay.type = relay'.type ∧ relay.channel = relay'.channel ∧ f = g := by
  unfold fieldTopic unitTopic at h
  simp only [List.append_assoc, List.cons_append] at h
  -- the prefix and the id are common, and a key ends at the next slash
  have hrest := (List.cons.inj (List.append_cancel_left
    (List.cons.inj (List.append_cancel_left h)).2)).2
  obtain ⟨rfl, hpath⟩ :=
    eq_of_append_cons (slash_not_mem_key hkey) (slash_not_mem_key hkey') hrest
  obtain ⟨htype, hchannel⟩ := eq_of_key hkey hkey'
  rw [htype] at hpath
  exact ⟨htype, hchannel, Field.path_inj (List.append_cancel_left hpath)⟩

/-! ### Lengths -/

/-- The settings that topics are made of, within their bounds. -/
structure Configured (nvs : Nvs.Store RelayUnit) (mqttPrefix deviceId : CStr) : Prop where
  mqttStored : nvs sNamespace sKeyMqttPrefix = some (.str mqttPrefix)
  idStored : nvs sNamespace sKeyDeviceId = some (.str deviceId)
  mqttShort : mqttPrefix.length < mqttPrefixLength
  idLength : deviceId.length = deviceIdLength

section configured
variable {nvs : Nvs.Store RelayUnit} {mqttPrefix deviceId : CStr}
  (h : Configured nvs mqttPrefix deviceId)
include h

/-- A field of a unit fits its buffer. -/
theorem Configured.length_fieldTopic_lt {relay : RelayUnit} {relayKey : CStr}
    (hkey : getUnitNvsKey relay = some relayKey) (type : RelayType) (f : Field) :
    (fieldTopic mqttPrefix deviceId relayKey type f).length < topicSize := by
  have hpre : mqttPrefix.length < 128 := h.mqttShort
  have hid : deviceId.length = 12 := h.idLength
  have hrelayKey := length_key_le hkey
  have hfield := f.length_path_le
  have hpath := length_haDeviceStatePath type
  -- 127, 12, 11, 6 and 9 characters, and three slashes
  unfold fieldTopic unitTopic topicSize
  simp only [List.length_append, List.length_cons]
  omega

/-- So do the topics of the system. -/
theorem Configured.length_systemTopic_lt {path : CStr} (hpath : path.length ≤ 19) :
    (systemTopic mqttPrefix deviceId ++ path).length < topicSize := by
  have hpre : mqttPrefix.length < 128 := h.mqttShort
  have hid : deviceId.length = 12 := h.idLength
  have hsystem : "/system".toList.length = 7 := by decide
  unfold systemTopic topicSize
  simp only [List.length_append, List.length_cons, hsystem]
  omega

end configured

/-- The topic of a discovery record fits, and the path in front of it. -/
theorem sprintf_configTopic {homeassistantPrefix deviceId relayKey : CStr} {relay : RelayUnit}
    (hha : homeassistantPrefix.length < haPrefixLength) (hid : deviceId.length = deviceIdLength)
    (hkey : getUnitNvsKey relay = some relayKey) :
    sprintf discoveryPathSize (discoveryPath homeassistantPrefix) =
        some (discoveryPath homeassistantPrefix) ∧
      sprintf configTopicSize (configTopic (discoveryPath homeassistantPrefix) deviceId relayKey) =
        some (configTopic (discoveryPath homeassistantPrefix) deviceId relayKey) := by
  have hshort : homeassistantPrefix.length < 128 := hha
  have hid' : deviceId.length = 12 := hid
  have hrelayKey := length_key_le hkey
  have hfamily : haDeviceFamily.length = 6 := by decide
  have hconfig : haDeviceConfigPath.length = 6 := by decide
  constructor
  · apply if_pos
    unfold discoveryPath discoveryPathSize
    simp only [List.length_append, List.length_cons, hfamily]
    omega
  · apply if_pos
    unfold configTopic discoveryPath configTopicSize
    simp only [List.length_append, List.length_cons, hfamily, hconfig]
    omega

/-! ### What Is Published -/

/-- The unit publishes nothing, or all its messages. -/
theorem mqttPublishRelayData_cases {Blob : Type} (calls : PublishCalls) {nvs : Nvs.Store Blob}
    {mqttPrefix deviceId relayKey : CStr} {relay : RelayUnit}
    (hpre : nvs sNamespace sKeyMqttPrefix = some (.str mqttPrefix))
    (hid : nvs sNamespace sKeyDeviceId = some (.str deviceId))
    (hkey : getUnitNvsKey relay = some relayKey) :
    (mqttPublishRelayData calls nvs relay).2 = [] ∨
      (mqttPublishRelayData calls nvs relay).2 = unitMessages calls.print
        (unitTopic mqttPrefix deviceId relayKey (haDeviceStatePath relay.type)) relay := by
  unfold mqttPublishRelayData
  rw [readString_of_some hpre, readString_of_some hid, hkey]
  dsimp only
  cases Nvs.readUint16 nvs sNamespace sKeyMqttConnect with
  | error err => exact .inl rfl
  | ok mode =>
      dsimp only
      split
      · exact .inl rfl
      split
      · exact .inl rfl
      right
      split <;> rfl

/-- The topics of the fields before they are cut. -/
theorem topics_fieldMessages (topic : CStr) (relay : RelayUnit) :
    (fieldMessages topic relay).map Message.topic =
      Field.all.dropLast.map fun f => snprintf topicSize (topic ++ f.path) := rfl

/-- What follows the topic of the system. -/
def systemPaths : List CStr :=
  [[], "/uptime".toList, "/free_heap".toList, "/min_free_heap".toList,
    "/memguard_threshold".toList, "/memguard_mode".toList]

theorem topics_systemMessages (print : Web.Print) (topic : CStr) (status : DeviceStatus) :
    (systemMessage print topic status :: systemFields topic status).map Message.topic =
      systemPaths.map fun path => snprintf topicSize (topic ++ path) := by
  show snprintf topicSize topic :: _ = snprintf topicSize (topic ++ []) :: _
  rw [List.append_nil]
  rfl

section runs
variable {nvs : Nvs.Store RelayUnit} {mqttPrefix deviceId : CStr}
  (h : Configured nvs mqttPrefix deviceId)
include h

/-- In every run the topics of a unit are the whole ones, in the order of the fields. -/
theorem Configured.published {relay : RelayUnit} {relayKey : CStr}
    (hkey : getUnitNvsKey relay = some relayKey) (calls : PublishCalls) :
    (mqttPublishRelayData calls nvs relay).2.map Message.topic <+:
      Field.all.map (fieldTopic mqttPrefix deviceId relayKey relay.type) := by
  have hwhole : ∀ f : Field, snprintf topicSize
      (unitTopic mqttPrefix deviceId relayKey (haDeviceStatePath relay.type) ++ f.path) =
        fieldTopic mqttPrefix deviceId relayKey relay.type f :=
    fun f => snprintf_of_lt (h.length_fieldTopic_lt hkey relay.type f)
  have hfields := topics_fieldMessages
    (unitTopic mqttPrefix deviceId relayKey (haDeviceStatePath relay.type)) relay
  rw [List.map_congr_left fun f _ => hwhole f] at hfields
  have hall : Field.all.map (fieldTopic mqttPrefix deviceId relayKey relay.type) =
      Field.all.dropLast.map (fieldTopic mqttPrefix deviceId relayKey relay.type) ++
        [fieldTopic mqttPrefix deviceId relayKey relay.type .json] :=
    rfl
  rw [hall]
  generalize Field.all.dropLast.map (fieldTopic mqttPrefix deviceId relayKey relay.type) = topics
    at hfields ⊢
  rcases mqttPublishRelayData_cases calls h.mqttStored h.idStored hkey with hnone | hsome
  · rw [hnone]
    exact List.nil_prefix
  · -- the JSON comes last, and only if it can be printed
    rw [hsome, unitMessages, List.map_append, hfields]
    cases hprint : calls.print (Web.serializeRelayUnit relay) with
    | none =>
        dsimp only
        rw [List.map_nil, List.append_nil]
        exact List.prefix_append topics _
    | some relayJson =>
        have hjson : snprintf topicSize
            (unitTopic mqttPrefix deviceId relayKey (haDeviceStatePath relay.type)) =
              fieldTopic mqttPrefix deviceId relayKey relay.type .json := by
          rw [← hwhole .json]
          show _ = snprintf topicSize (_ ++ [])
          rw [List.append_nil]
        show topics ++ [snprintf topicSize _] <+: _
        exact hjson ▸ List.prefix_rfl

/-- In every run the topics of the system are the whole ones. -/
theorem Configured.publishedSystem {calls : PublishCalls} {status : Option DeviceStatus}
    {err : EspErr} {messages : List Message}
    (hrun : mqttPublishSystemInfo calls nvs status = some (err, messages)) :
    messages.map Message.topic <+:
      systemPaths.map fun path => systemTopic mqttPrefix deviceId ++ path := by
  have hwhole : ∀ path ∈ systemPaths, snprintf topicSize (systemTopic mqttPrefix deviceId ++ path) =
      systemTopic mqttPrefix deviceId ++ path := by
    intro path hpath
    have hlen : ∀ path ∈ systemPaths, path.length ≤ 19 := by decide
    exact snprintf_of_lt (h.length_systemTopic_lt (hlen path hpath))
  rcases mqttPublishSystemInfo_cases h.mqttStored h.idStored hrun with rfl | ⟨status, hmessages⟩
  · exact List.nil_prefix
  · have htopics := hmessages.map Message.topic
    rw [topics_systemMessages, List.map_congr_left hwhole] at htopics
    exact htopics

/-- The topic subscribed to is the whole one. -/
theorem Configured.subscribed {relay : RelayUnit} {relayKey : CStr}
    (hkey : getUnitNvsKey relay = some relayKey) {calls : SubscribeCalls} {err : EspErr}
    {topics : List CStr} (hrun : mqttRelaySubscribe calls nvs relay = some (err, topics)) :
    topics <+: [unitTopic mqttPrefix deviceId relayKey haDeviceFamily ++ "/set".toList] := by
  have hcommand := commandTopic_eq hkey mqttPrefix deviceId
  unfold mqttRelaySubscribe at hrun
  rw [readString_of_some h.mqttStored, readString_of_some h.idStored] at hrun
  dsimp only at hrun
  rw [hcommand] at hrun
  cases hmode : Nvs.readUint16 nvs sNamespace sKeyMqttConnect with
  | error err =>
      rw [hmode] at hrun
      cases hrun
      exact List.nil_prefix
  | ok mode =>
      rw [hmode] at hrun
      dsimp only at hrun
      split at hrun
      · cases hrun
        exact List.nil_prefix
      split at hrun
      · cases hrun
        exact List.nil_prefix
      split at hrun
      · cases hrun
        exact List.nil_prefix
      split at hrun
      · cases hrun
        exact List.prefix_rfl
      · cases hrun
        exact List.prefix_rfl

end runs

/-! ### Discovery Records -/

/-- The topics and ids of a record are whole, as far as they are filled in. -/
structure RecordComplete (mqttPrefix deviceId deviceSerial relayKey : CStr) (type : RelayType)
    (d : HaEntityDiscovery) : Prop where
  jsonAttributesTopic : d.jsonAttributesTopic = none ∨ d.jsonAttributesTopic =
    some (unitTopic mqttPrefix deviceId relayKey (haDeviceStatePath type))
  stateTopic : d.stateTopic = none ∨ d.stateTopic =
    some (unitTopic mqttPrefix deviceId relayKey (haDeviceStatePath type))
  commandTopic : d.commandTopic = none ∨ d.commandTopic =
    some (unitTopic mqttPrefix deviceId relayKey (haDeviceStatePath type) ++ "/set".toList)
  objectId : d.objectId = none ∨ d.objectId = some (deviceId ++ '_' :: relayKey)
  uniqueId : d.uniqueId = none ∨
    d.uniqueId = some (deviceId ++ '_' :: (deviceSerial ++ '_' :: relayKey))

section record
variable {mqttPrefix deviceId deviceSerial relayKey : CStr} {type : RelayType}
  {d d' : HaEntityDiscovery} {err : EspErr}

/-- A record that is started keeps this. -/
theorem recordComplete_blank (enabled : Bool) :
    RecordComplete mqttPrefix deviceId deviceSerial relayKey type
      { HaEntityDiscovery.blank with enabledByDefault := enabled } :=
  ⟨.inl rfl, .inl rfl, .inl rfl, .inl rfl, .inl rfl⟩

/-- The end of the function fills in a whole command topic. -/
theorem RecordComplete.fullfillCommand
    (h : RecordComplete mqttPrefix deviceId deviceSerial relayKey type d) {calls : FullfillCalls}
    (hrun : fullfillCommand calls relayKey
      (unitTopic mqttPrefix deviceId relayKey (haDeviceStatePath type)) type d =
        some (err, d')) :
    RecordComplete mqttPrefix deviceId deviceSerial relayKey type d' := by
  unfold Discovery.fullfillCommand at hrun
  dsimp only at hrun
  rw [snprintf_set] at hrun
  split at hrun
  · cases hrun
  split at hrun
  · cases hrun
    exact ⟨h.jsonAttributesTopic, h.stateTopic, .inr rfl, h.objectId, h.uniqueId⟩
  · cases hrun
    exact ⟨h.jsonAttributesTopic, h.stateTopic, .inr rfl, h.objectId, h.uniqueId⟩

/-- Behind the settings every topic is filled in whole. -/
theorem RecordComplete.fullfillTopics
    (h : RecordComplete mqttPrefix deviceId deviceSerial relayKey type d) {calls : FullfillCalls}
    {deviceClass metric : CStr}
    (hrun : fullfillTopics calls mqttPrefix deviceId deviceSerial deviceClass relayKey metric type
      d = some (err, d')) :
    RecordComplete mqttPrefix deviceId deviceSerial relayKey type d' := by
  unfold Discovery.fullfillTopics at hrun
  dsimp only at hrun
  rw [snprintf_unitTopic] at hrun
  split at hrun
  · cases hrun
    exact h
  split at hrun
  · cases hrun
    exact ⟨.inr rfl, h.stateTopic, h.commandTopic, h.objectId, h.uniqueId⟩
  split at hrun
  · cases hrun
    exact ⟨.inr rfl, .inr rfl, h.commandTopic, h.objectId, h.uniqueId⟩
  split at hrun
  · cases hrun
    exact ⟨.inr rfl, .inr rfl, h.commandTopic, h.objectId, .inr rfl⟩
  · refine RecordComplete.fullfillCommand ?_ hrun
    exact ⟨.inr rfl, .inr rfl, h.commandTopic, h.objectId, .inr rfl⟩

/-- Behind the initialisers, until the topics only the id of the object is filled in. -/
theorem recordComplete_of_init {Blob : Type} {env : EntityDiscovery.Env Blob}
    (hstored : Stored env.nvs mqttPrefix deviceId deviceSerial) {made : InitEntities}
    (hinit : haEntityDiscoveryInit env = .ok made) {deviceClass metric : CStr}
    {entities : Option InitEntities}
    (hrun : EntityDiscovery.haEntityDiscoveryFullfill env (some deviceClass) (some relayKey)
      (some metric) type = some (err, entities, d)) :
    entities = some made ∧
      RecordComplete mqttPrefix deviceId deviceSerial relayKey type d := by
  have hobject : RecordComplete mqttPrefix deviceId deviceSerial relayKey type
      { HaEntityDiscovery.blank with
        enabledByDefault := true, objectId := some (deviceId ++ '_' :: relayKey) } :=
    ⟨.inl rfl, .inl rfl, .inl rfl, .inr rfl, .inl rfl⟩
  unfold EntityDiscovery.haEntityDiscoveryFullfill at hrun
  dsimp only at hrun
  rw [hinit] at hrun
  dsimp only at hrun
  rw [Env.nvsReadString_of_str hstored.deviceId, Env.nvsReadString_of_str hstored.deviceSerial,
    Env.nvsReadString_of_str hstored.mqttPrefix] at hrun
  -- a read or an allocation that fails ends the function with what it has
  by_cases hidMem : env.malloc .deviceId = true
  · rw [if_pos hidMem] at hrun
    dsimp only at hrun
    split at hrun
    · cases hrun
      exact ⟨rfl, recordComplete_blank true⟩
    by_cases hserialMem : env.malloc .deviceSerial = true
    · rw [if_pos hserialMem] at hrun
      dsimp only at hrun
      split at hrun
      · cases hrun
        exact ⟨rfl, recordComplete_blank true⟩
      split at hrun
      · cases hrun
        exact ⟨rfl, recordComplete_blank true⟩
      by_cases hmqttMem : env.malloc .mqttPrefix = true
      · rw [if_pos hmqttMem] at hrun
        obtain ⟨⟨err', d'⟩, htopics, heq⟩ := Option.map_eq_some_iff.mp hrun
        cases heq
        exact ⟨rfl, hobject.fullfillTopics htopics⟩
      · rw [if_neg hmqttMem] at hrun
        cases hrun
        exact ⟨rfl, hobject⟩
    · rw [if_neg hserialMem] at hrun
      cases hrun
      exact ⟨rfl, recordComplete_blank true⟩
  · rw [if_neg hidMem] at hrun
    cases hrun
    exact ⟨rfl, recordComplete_blank true⟩

/-- **A record** is filled in with whole topics, whatever fails. -/
theorem recordComplete_of_fullfill {Blob : Type} {env : EntityDiscovery.Env Blob}
    (hpre : env.nvs sNamespace sKeyMqttPrefix = some (.str mqttPrefix))
    (hid : env.nvs sNamespace sKeyDeviceId = some (.str deviceId))
    {deviceClass metric : Option CStr} {entities : Option InitEntities}
    (hrun : EntityDiscovery.haEntityDiscoveryFullfill env deviceClass (some relayKey) metric type =
      some (err, entities, d)) :
    (∀ e, entities = some e → e.availability.topic = availabilityTopic mqttPrefix deviceId) ∧
      ∃ deviceSerial, RecordComplete mqttPrefix deviceId deviceSerial relayKey type d := by
  have hnone : ∀ e, (none : Option InitEntities) = some e →
      e.availability.topic = availabilityTopic mqttPrefix deviceId := by
    intro e he
    cases he
  cases deviceClass with
  | none =>
      cases hrun
      exact ⟨hnone, [], recordComplete_blank false⟩
  | some deviceClass =>
      cases metric with
      | none =>
          cases hrun
          exact ⟨hnone, [], recordComplete_blank false⟩
      | some metric =>
          cases hinit : haEntityDiscoveryInit env with
          | error err' =>
              unfold EntityDiscovery.haEntityDiscoveryFullfill at hrun
              dsimp only at hrun
              rw [hinit] at hrun
              cases hrun
              exact ⟨hnone, [], recordComplete_blank false⟩
          | ok made =>
              obtain ⟨p, i, deviceSerial, hstored, _, hmade⟩ :=
                haEntityDiscoveryInit_eq_ok_iff.mp hinit
              obtain ⟨rfl, rfl, _⟩ := hstored.unique ⟨hpre, hid, hstored.deviceSerial⟩
              obtain ⟨rfl, hd⟩ := recordComplete_of_init hstored hinit hrun
              refine ⟨?_, deviceSerial, hd⟩
              intro e he
              cases he
              rw [hmade]
              rfl

end record

/-- The topic of the availability is the whole one. -/
theorem topic_of_haAvailabilityInit {Blob : Type} {env : EntityDiscovery.Env Blob}
    {mqttPrefix deviceId : CStr} (hpre : env.nvs sNamespace sKeyMqttPrefix = some (.str mqttPrefix))
    (hid : env.nvs sNamespace sKeyDeviceId = some (.str deviceId))
    {availability : HaEntityAvailability} (hrun : haAvailabilityInit env = .ok availability) :
    availability.topic = availabilityTopic mqttPrefix deviceId := by
  obtain ⟨p, i, hp, hi, _, _, _, rfl⟩ := haAvailabilityInit_eq_ok_iff.mp hrun
  rw [hpre] at hp
  rw [hid] at hi
  cases hp
  cases hi
  rfl

/-- The lengths allocated for the other texts of a record are enough. -/
theorem sprintf_record (deviceId deviceSerial relayKey metric : CStr) :
    sprintf (deviceId.length + relayKey.length + 2) (deviceId ++ '_' :: relayKey) =
        some (deviceId ++ '_' :: relayKey) ∧
      sprintf (deviceId.length + deviceSerial.length + relayKey.length + 3)
          (deviceId ++ '_' :: (deviceSerial ++ '_' :: relayKey)) =
        some (deviceId ++ '_' :: (deviceSerial ++ '_' :: relayKey)) ∧
      sprintf ("\x7b\x7b value_json.".length + metric.length + " \x7d\x7d".length + 1)
          (valueTemplate metric) = some (valueTemplate metric) := by
  refine ⟨if_pos ?_, if_pos ?_, if_pos ?_⟩
  · simp only [List.length_append, List.length_cons]
    omega
  · simp only [List.length_append, List.length_cons]
    omega
  · unfold valueTemplate
    rw [List.length_append, List.length_append]
    exact Nat.lt_succ_self _

/-! ### The Loop over the Units -/

/-- The topics that are published for the units, if nothing fails. -/
def configTopics (mqttPrefix homeassistantPrefix deviceId storedId : CStr)
    (relayList : List RelayUnit) : List CStr :=
  (relayList.filterMap getUnitNvsKey).flatMap fun relayKey =>
    [configTopic (discoveryPath homeassistantPrefix) deviceId relayKey,
      availabilityTopic mqttPrefix storedId]

/-- **The loop** overruns no buffer, and publishes on whole topics in the order of the
    units. -/
theorem configLoop_complete {calls : ConfigCalls} {nvs : Nvs.Store RelayUnit}
    {mqttPrefix storedId : CStr} (hpre : nvs sNamespace sKeyMqttPrefix = some (.str mqttPrefix))
    (hstored : nvs sNamespace sKeyDeviceId = some (.str storedId))
    {homeassistantPrefix deviceId : CStr} (hha : homeassistantPrefix.length < haPrefixLength)
    (hid : deviceId.length = deviceIdLength) (i : Nat) (relayList : List RelayUnit)
    (isError : Bool) :
    (configLoop calls nvs deviceId homeassistantPrefix i relayList isError).2 ≠
        .error .overrun ∧
      ((configLoop calls nvs deviceId homeassistantPrefix i relayList isError).1.map
        Message.topic).Sublist
          (configTopics mqttPrefix homeassistantPrefix deviceId storedId relayList) := by
  induction relayList generalizing i isError with
  | nil =>
      refine ⟨?_, List.nil_sublist _⟩
      rw [configLoop]
      intro h
      cases h
  | cons relay relayList ih =>
      rw [configLoop, configTopics, List.filterMap_cons]
      cases hkey : getUnitNvsKey relay with
      | none => exact ih (i + 1) isError
      | some relayKey =>
          -- a unit that is skipped leaves its topics out
          have hskip : ∀ topics : List CStr,
              topics.Sublist (configTopics mqttPrefix homeassistantPrefix deviceId storedId
                relayList) →
              topics.Sublist ((relayKey :: relayList.filterMap getUnitNvsKey).flatMap
                fun relayKey => [configTopic (discoveryPath homeassistantPrefix) deviceId relayKey,
                  availabilityTopic mqttPrefix storedId]) :=
            fun topics h => (h.cons _).cons _
          dsimp only
          by_cases hmem : calls.mallocOk i = false
          · rw [if_pos hmem]
            exact ⟨(ih (i + 1) true).1, hskip _ (ih (i + 1) true).2⟩
          · rw [if_neg hmem]
            split
            · refine ⟨?_, List.nil_sublist _⟩
              intro h
              cases h
            · next entities d hrun =>
                -- the unit is published on the topics that it has in the list
                have htopic := (recordComplete_of_fullfill hpre hstored hrun).1 entities rfl
                obtain ⟨hpath, hconfig⟩ := sprintf_configTopic hha hid hkey
                rw [hpath]
                dsimp only
                rw [hconfig]
                dsimp only
                refine ⟨(ih (i + 1) _).1, ?_⟩
                rw [List.map_cons, List.map_cons, htopic]
                exact ((ih (i + 1) _).2.cons_cons _).cons_cons _
            · refine ⟨?_, List.nil_sublist _⟩
              intro h
              cases h

/-- The units that the loop runs over. -/
def loadedUnits (env : Relay.Env) (b : Board) : List RelayUnit :=
  ((getAllRelayUnits env b).map Prod.fst).getD []

/-- The function overruns no buffer either, for the units of any board. -/
theorem mqttPublishHomeAssistantConfig_complete {calls : ConfigCalls} {env : Relay.Env} {b : Board}
    {mqttPrefix storedId : CStr}
    (hpre : b.nvs sNamespace sKeyMqttPrefix = some (.str mqttPrefix))
    (hstored : b.nvs sNamespace sKeyDeviceId = some (.str storedId))
    {homeassistantPrefix deviceId : CStr} (hha : homeassistantPrefix.length < haPrefixLength)
    (hid : deviceId.length = deviceIdLength) (argPrefix : CStr) :
    (mqttPublishHomeAssistantConfig calls env b deviceId argPrefix homeassistantPrefix).2.1 ≠
        .error .overrun ∧
      ((mqttPublishHomeAssistantConfig calls env b deviceId argPrefix homeassistantPrefix).1.map
        Message.topic).Sublist
          (configTopics mqttPrefix homeassistantPrefix deviceId storedId (loadedUnits env b)) := by
  unfold mqttPublishHomeAssistantConfig
  cases Nvs.readUint16 b.nvs sNamespace sKeyMqttConnect with
  | error err => exact ⟨by simp, List.nil_sublist _⟩
  | ok mode =>
      dsimp only
      split
      · exact ⟨by simp, List.nil_sublist _⟩
      split
      · exact ⟨by simp, List.nil_sublist _⟩
      split
      · exact ⟨by simp, List.nil_sublist _⟩
      · next relayList b' hunits =>
          have hnvs := getAllRelayUnits_nvs hunits
          split
          · exact ⟨by simp, List.nil_sublist _⟩
          · have hloaded : loadedUnits env b = relayList := by
              rw [loadedUnits, hunits]
              rfl
            rw [← hnvs] at hpre hstored
            rw [hloaded]
            exact configLoop_complete hpre hstored hha hid 0 relayList false

/-! ### Distinct Topics -/

/-- The records of different units are published on different topics. -/
theorem configTopic_inj {path deviceId relayKey relayKey' : CStr} {relay relay' : RelayUnit}
    (hkey : getUnitNvsKey relay = some relayKey) (hkey' : getUnitNvsKey relay' = some relayKey')
    (h : configTopic path deviceId relayKey = configTopic path deviceId relayKey') :
    relay.type = relay'.type ∧ relay.channel = relay'.channel := by
  unfold configTopic at h
  have hrest := (List.cons.inj (List.append_cancel_left
    (List.cons.inj (List.append_cancel_left h)).2)).2
  obtain ⟨rfl, _⟩ :=
    eq_of_append_cons (slash_not_mem_key hkey) (slash_not_mem_key hkey') hrest
  exact eq_of_key hkey hkey'

/-- The message at a place is on the field of that place. -/
theorem exists_field {mqttPrefix deviceId relayKey : CStr} {type : RelayType}
    {messages : List Message}
    (h : messages.map Message.topic <+:
      Field.all.map (fieldTopic mqttPrefix deviceId relayKey type))
    {i : Nat} {m : Message} (hm : messages[i]? = some m) :
    ∃ f, Field.all[i]? = some f ∧ m.topic = fieldTopic mqttPrefix deviceId relayKey type f := by
  have htopic : (messages.map Message.topic)[i]? = some m.topic := by
    rw [List.getElem?_map, hm]
    rfl
  obtain ⟨more, hmore⟩ := h
  have hwhole : (Field.all.map (fieldTopic mqttPrefix deviceId relayKey type))[i]? =
      some m.topic := by
    rw [← hmore, List.getElem?_append_left (List.getElem?_eq_some_iff.mp htopic).1, htopic]
  rw [List.getElem?_map] at hwhole
  obtain ⟨f, hf, heq⟩ := Option.map_eq_some_iff.mp hwhole
  exact ⟨f, hf, heq.symm⟩

/-! ### All Topics -/

/-- What is written to the topic buffers of a device is whole. -/
structure TopicsComplete (nvs : Nvs.Store RelayUnit)
    (mqttPrefix homeassistantPrefix deviceId : CStr) : Prop where
  /-- The fixed buffers have room for every topic. -/
  fits : ∀ relay relayKey, getUnitNvsKey relay = some relayKey →
    (∀ f, (fieldTopic mqttPrefix deviceId relayKey relay.type f).length < topicSize) ∧
      ∀ path ∈ systemPaths, (systemTopic mqttPrefix deviceId ++ path).length < topicSize
  /-- `mqtt_publish_relay_data`. -/
  fields : ∀ relay relayKey, getUnitNvsKey relay = some relayKey → ∀ calls : PublishCalls,
    (mqttPublishRelayData calls nvs relay).2.map Message.topic <+:
      Field.all.map (fieldTopic mqttPrefix deviceId relayKey relay.type)
  /-- `mqtt_publish_system_info`. -/
  system : ∀ (calls : PublishCalls) status err messages,
    mqttPublishSystemInfo calls nvs status = some (err, messages) →
      messages.map Message.topic <+:
        systemPaths.map fun path => systemTopic mqttPrefix deviceId ++ path
  /-- `mqtt_relay_subscribe`. -/
  subscription : ∀ relay relayKey, getUnitNvsKey relay = some relayKey →
    ∀ (calls : SubscribeCalls) err topics,
      mqttRelaySubscribe calls nvs relay = some (err, topics) →
        topics <+: [unitTopic mqttPrefix deviceId relayKey haDeviceFamily ++ "/set".toList]
  /-- `mqtt_publish_home_assistant_config`. -/
  config : ∀ (calls : ConfigCalls) (env : Relay.Env) (b : Board) (argPrefix : CStr),
    b.nvs = nvs →
      (mqttPublishHomeAssistantConfig calls env b deviceId argPrefix homeassistantPrefix).2.1 ≠
          .error .overrun ∧
        ((mqttPublishHomeAssistantConfig calls env b deviceId argPrefix
          homeassistantPrefix).1.map Message.topic).Sublist
            (configTopics mqttPrefix homeassistantPrefix deviceId deviceId (loadedUnits env b))
  /-- `ha_availability_init`. -/
  availability : ∀ (env : EntityDiscovery.Env RelayUnit) availability, env.nvs = nvs →
    haAvailabilityInit env = .ok availability →
      availability.topic = availabilityTopic mqttPrefix deviceId
  /-- `ha_entity_discovery_fullfill`. -/
  record : ∀ (env : EntityDiscovery.Env RelayUnit) deviceClass relayKey metric relayType err
    entities d, env.nvs = nvs →
      EntityDiscovery.haEntityDiscoveryFullfill env deviceClass (some relayKey) metric relayType =
          some (err, entities, d) →
        ∃ deviceSerial, RecordComplete mqttPrefix deviceId deviceSerial relayKey relayType d
  /-- The texts that it formats without a bound fit what is allocated for them. -/
  texts : ∀ deviceSerial relayKey metric : CStr,
    sprintf (deviceId.length + relayKey.length + 2) (deviceId ++ '_' :: relayKey) =
        some (deviceId ++ '_' :: relayKey) ∧
      sprintf (deviceId.length + deviceSerial.length + relayKey.length + 3)
          (deviceId ++ '_' :: (deviceSerial ++ '_' :: relayKey)) =
        some (deviceId ++ '_' :: (deviceSerial ++ '_' :: relayKey)) ∧
      sprintf ("\x7b\x7b value_json.".length + metric.length + " \x7d\x7d".length + 1)
          (valueTemplate metric) = some (valueTemplate metric)
  /-- Messages on different units or different fields have different topics. -/
  distinct : ∀ relay relay' relayKey relayKey', getUnitNvsKey relay = some relayKey →
    getUnitNvsKey relay' = some relayKey' → ∀ (calls calls' : PublishCalls) (i j : Nat) m m',
      (mqttPublishRelayData calls nvs relay).2[i]? = some m →
      (mqttPublishRelayData calls' nvs relay').2[j]? = some m' → m.topic = m'.topic →
        relay.type = relay'.type ∧ relay.channel = relay'.channel ∧ i = j
  /-- So do the records of different units. -/
  distinctRecords : ∀ relay relay' relayKey relayKey', getUnitNvsKey relay = some relayKey →
    getUnitNvsKey relay' = some relayKey' →
      configTopic (discoveryPath homeassistantPrefix) deviceId relayKey =
          configTopic (discoveryPath homeassistantPrefix) deviceId relayKey' →
        relay.type = relay'.type ∧ relay.channel = relay'.channel

theorem Configured.distinct {nvs : Nvs.Store RelayUnit} {mqttPrefix deviceId : CStr}
    (h : Configured nvs mqttPrefix deviceId) {relay relay' : RelayUnit} {relayKey relayKey' : CStr}
    (hkey : getUnitNvsKey relay = some relayKey) (hkey' : getUnitNvsKey relay' = some relayKey')
    {calls calls' : PublishCalls} {i j : Nat} {m m' : Message}
    (hm : (mqttPublishRelayData calls nvs relay).2[i]? = some m)
    (hm' : (mqttPublishRelayData calls' nvs relay').2[j]? = some m') (htopic : m.topic = m'.topic) :
    relay.type = relay'.type ∧ relay.channel = relay'.channel ∧ i = j := by
  -- every message is on the whole topic of its field, and those differ
  obtain ⟨f, hf, heq⟩ := exists_field (h.published hkey calls) hm
  obtain ⟨g, hg, heq'⟩ := exists_field (h.published hkey' calls') hm'
  obtain ⟨htype, hchannel, rfl⟩ := fieldTopic_inj hkey hkey' (heq.symm.trans (htopic.trans heq'))
  have hnodup : Field.all.Nodup := by decide
  have hlt := (List.getElem?_eq_some_iff.mp hf).1
  exact ⟨htype, hchannel, (List.getElem?_inj hlt hnodup).mp (hf.trans hg.symm)⟩

/-- **No topic is cut**: for every prefix that fits its setting, all topics of the device are
    whole, and different values are published on different ones. -/
theorem topicsComplete {nvs : Nvs.Store RelayUnit} {mqttPrefix homeassistantPrefix deviceId : CStr}
    (h : Configured nvs mqttPrefix deviceId)
    (hha : homeassistantPrefix.length < haPrefixLength) :
    TopicsComplete nvs mqttPrefix homeassistantPrefix deviceId where
  fits := by
    intro relay relayKey hkey
    have hlen : ∀ path ∈ systemPaths, path.length ≤ 19 := by decide
    exact ⟨h.length_fieldTopic_lt hkey relay.type,
      fun path hpath => h.length_systemTopic_lt (hlen path hpath)⟩
  fields := fun _ _ hkey calls => h.published hkey calls
  system := fun _ _ _ _ hrun => h.publishedSystem hrun
  subscription := fun _ _ hkey _ _ _ hrun => h.subscribed hkey hrun
  config := by
    intro calls env b argPrefix hnvs
    subst hnvs
    exact mqttPublishHomeAssistantConfig_complete h.mqttStored h.idStored hha h.idLength argPrefix
  availability := by
    intro env availability hnvs hrun
    subst hnvs
    exact topic_of_haAvailabilityInit h.mqttStored h.idStored hrun
  record := by
    intro env deviceClass relayKey metric relayType err entities d hnvs hrun
    subst hnvs
    exact (recordComplete_of_fullfill h.mqttStored h.idStored hrun).2
  texts := fun deviceSerial relayKey metric => sprintf_record deviceId deviceSerial relayKey metric
  distinct := fun _ _ _ _ hkey hkey' _ _ _ _ _ _ hm hm' htopic =>
    h.distinct hkey hkey' hm hm' htopic
  distinctRecords := fun _ _ _ _ hkey hkey' htopic => configTopic_inj hkey hkey' htopic

/-- A device with the longest prefixes. -/
def longestStore : Nvs.Store RelayUnit :=
  Nvs.setAll Nvs.empty sNamespace [(sKeyMqttConnect, .u16 1),
    (sKeyMqttPrefix, .str (List.replicate 127 'm')), (sKeyDeviceId, .str "DCDA0C7E08A4".toList)]

/-- It has whole topics. -/
theorem topicsComplete_longest : TopicsComplete longestStore (List.replicate 127 'm')
    (List.replicate 127 'h') "DCDA0C7E08A4".toList :=
  topicsComplete ⟨by decide +kernel, by decide +kernel,
    by simp [mqttPrefixLength], by decide⟩
      (by simp [haPrefixLength])

end TopicBuffers
