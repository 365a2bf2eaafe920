import RelayBoard.Framework.Heap
import RelayBoard.Mqtt.HomeAssistantConfig

/-! # The Memory of the Discovery Records

  What `main/hass.c` allocates for the discovery record of a unit, and what
  `mqtt_publish_home_assistant_config` frees of it, under every pattern of failing
  allocations and reads. The initialisers are those of the texts; here a text is the
  pointer to it.
-/

open CString Settings Relay Memory EntityDiscovery HomeAssistantConfig

namespace EntityHeap

variable {Blob : Type}

/-! ### Records of Pointers -/

/-- `ha_entity_availability_t`. -/
structure AvailabilityPointers where
  topic : Pointer := .unset
  valueTemplate : Pointer := .unset

/-- `ha_device_t`. -/
structure DevicePointers where
  configurationUrl : Pointer := .unset
  manufacturer : Pointer := .unset
  model : Pointer := .unset
  name : Pointer := .unset
  viaDevice : Pointer := .unset
  swVersion : Pointer := .unset
  identifier : Pointer := .unset

/-- `ha_entity_origin_t`. -/
structure OriginPointers where
  name : Pointer := .unset
  sw : Pointer := .unset
  url : Pointer := .unset

/-- `ha_entity_discovery_t`, with the three records it points to. -/
structure DiscoveryPointers where
  availability : Pointer := .unset
  availabilityFields : AvailabilityPointers := {}
  device : Pointer := .unset
  deviceFields : DevicePointers := {}
  origin : Pointer := .unset
  originFields : OriginPointers := {}
  name : Pointer := .unset
  jsonAttributesTopic : Pointer := .unset
  objectId : Pointer := .unset
  stateTopic : Pointer := .unset
  uniqueId : Pointer := .unset
  valueTemplate : Pointer := .unset
  commandTopic : Pointer := .unset

/-- The pointers that are followed are not null. -/
def DiscoveryPointers.Complete (d : DiscoveryPointers) : Prop :=
  ∀ p ∈ [d.availability, d.availabilityFields.topic, d.device, d.origin], p ≠ .null

/-- In the order of `ha_availability_free`. -/
def AvailabilityPointers.pointers (a : AvailabilityPointers) : List Pointer :=
  [a.topic, a.valueTemplate]

/-- In the order of `ha_device_free`. -/
def DevicePointers.pointers (d : DevicePointers) : List Pointer :=
  [d.manufacturer, d.model, d.configurationUrl, d.name, d.viaDevice, d.swVersion, d.identifier]

/-- In the order of `ha_origin_free`. -/
def OriginPointers.pointers (o : OriginPointers) : List Pointer := [o.name, o.url, o.sw]

/-- The three records, in the order of `ha_entity_discovery_free`. -/
def DiscoveryPointers.records (d : DiscoveryPointers) : List Pointer :=
  d.availabilityFields.pointers ++ [d.availability] ++
    (d.deviceFields.pointers ++ [d.device]) ++ (d.originFields.pointers ++ [d.origin])

/-- The texts behind the records, in the same order. -/
def DiscoveryPointers.texts (d : DiscoveryPointers) : List Pointer :=
  [d.jsonAttributesTopic, d.stateTopic, d.objectId, d.uniqueId, d.valueTemplate,
    d.commandTopic, d.name]

/-! ### The Initialisers -/

/-- A `malloc` or `strdup`. -/
def alloc (env : Env Blob) (a : Alloc) : HeapM Pointer := malloc (env.malloc a)

/-- `nvs_read_string` into a pointer that was null. -/
def nvsReadString (env : Env Blob) (a : Alloc) (key : CStr) : HeapM (EspErr × Pointer) :=
  match Nvs.readString env.nvs sNamespace key with
  | .error err => pure (err, .null)
  | .ok _ => do
      let p ← alloc env a
      pure (if p = .null then .noMem else .ok, p)

/-- `ha_availability_init`. -/
def haAvailabilityInit (env : Env Blob) : HeapM (EspErr × AvailabilityPointers) := do
  let (err, mqttPrefix) ← nvsReadString env .availabilityPrefix sKeyMqttPrefix
  if err ≠ .ok then
    pure (err, {})
  else
    let (err, deviceId) ← nvsReadString env .availabilityDeviceId sKeyDeviceId
    if err ≠ .ok then
      forAll free [mqttPrefix]
      pure (err, {})
    else
      forAll access [mqttPrefix, deviceId]
      let topic ← alloc env .availabilityTopic
      if topic = .null then
        forAll free [mqttPrefix, deviceId]
        pure (.noMem, { topic := topic })
      else
        forAll access [topic, mqttPrefix, deviceId]
        let valueTemplate ← alloc env .availabilityValueTemplate
        forAll free [mqttPrefix, deviceId]
        pure (.ok, ⟨topic, valueTemplate⟩)

/-- `ha_device_init`. The URL is written if there is an address. -/
def haDeviceInit (env : Env Blob) : HeapM (EspErr × DevicePointers) := do
  let manufacturer ← alloc env .deviceManufacturer
  if manufacturer = .null then
    pure (.noMem, {})
  else
    let model ← alloc env .deviceModel
    if model = .null then
      forAll free [manufacturer]
      pure (.noMem, {})
    else
      let configurationUrl ← alloc env .deviceConfigurationUrl
      if configurationUrl = .null then
        forAll free [manufacturer, model]
        pure (.noMem, {})
      else
        forAll access (if env.ip.isSome then [configurationUrl] else [])
        let (err, name) ← nvsReadString env .deviceName sKeyDeviceId
        if err ≠ .ok then
          forAll free [manufacturer, model, configurationUrl]
          pure (err, {})
        else
          let viaDevice ← alloc env .deviceViaDevice
          if viaDevice = .null then
            forAll free [manufacturer, model, configurationUrl, name]
            pure (.noMem, {})
          else
            let swVersion ← alloc env .deviceSwVersion
            if swVersion = .null then
              forAll free [manufacturer, model, configurationUrl, name, viaDevice]
              pure (.noMem, {})
            else
              let (err, identifier) ← nvsReadString env .deviceIdentifier sKeyDeviceSerial
              if err ≠ .ok then
                forAll free [manufacturer, model, configurationUrl, name, viaDevice, swVersion]
                pure (err, {})
              else
                pure (.ok, ⟨configurationUrl, manufacturer, model, name, viaDevice, swVersion,
                  identifier⟩)

/-- `ha_origin_init`. -/
def haOriginInit (env : Env Blob) : HeapM (EspErr × OriginPointers) := do
  let name ← alloc env .originName
  if name = .null then
    pure (.noMem, {})
  else
    let url ← alloc env .originUrl
    if url = .null then
      forAll free [name]
      pure (.noMem, {})
    else
      let sw ← alloc env .originSw
      if sw = .null then
        forAll free [name, url]
        pure (.noMem, {})
      else
        pure (.ok, ⟨name, sw, url⟩)

/-- `ha_entity_discovery_init`. An error frees the records, and not what they point to. -/
def haEntityDiscoveryInit (env : Env Blob) : HeapM (EspErr × DiscoveryPointers) := do
  let availability ← alloc env .availability
  if availability = .null then
    pure (.noMem, {})
  else
    let (err, availabilityFields) ← haAvailabilityInit env
    if err ≠ .ok then
      forAll free [availability]
      pure (err, {})
    else
      let device ← alloc env .device
      if device = .null then
        forAll free [availability]
        pure (.noMem, {})
      else
        let (err, deviceFields) ← haDeviceInit env
        if err ≠ .ok then
          forAll free [availability, device]
          pure (err, {})
        else
          let origin ← alloc env .origin
          if origin = .null then
            forAll free [availability, device]
            pure (.noMem, {})
          else
            let (err, originFields) ← haOriginInit env
            if err ≠ .ok then
              forAll free [availability, device, origin]
              pure (err, {})
            else
              pure (.ok, {
                availability := availability
                availabilityFields := availabilityFields
                device := device
                deviceFields := deviceFields
                origin := origin
                originFields := originFields })

/-! ### The Whole Record -/

/-- Is the setting the empty text? -/
def isEmpty (env : Env Blob) (key : CStr) : Bool := Nvs.readString env.nvs sNamespace key = .ok []

/-- `ha_entity_discovery_fullfill` on a fresh record, from its command topic on. The check
    behind the allocation looks at another topic. -/
def fullfillCommand (env : Env Blob) (mqttPrefix deviceId deviceSerial relayKey : Pointer)
    (d : DiscoveryPointers) : HeapM (Except Crash (EspErr × DiscoveryPointers)) := do
  forAll access [d.stateTopic]
  let commandTopic ← alloc env .commandTopic
  if d.jsonAttributesTopic = .null then
    forAll free [d.jsonAttributesTopic, d.stateTopic, d.uniqueId, d.objectId, d.valueTemplate,
      mqttPrefix, deviceId, deviceSerial]
    pure (.ok (.noMem, d))
  else if commandTopic = .null then
    pure (.error .nullWrite)
  else
    forAll access [commandTopic, d.stateTopic]
    forAll access [relayKey]
    let name ← alloc env .name
    if name = .null then
      forAll free [commandTopic]
      forAll free [d.jsonAttributesTopic, d.stateTopic, d.uniqueId, d.objectId, d.valueTemplate,
        mqttPrefix, deviceId, deviceSerial]
      pure (.ok (.noMem, d))
    else
      forAll access [name, relayKey]
      forAll free [deviceId, deviceSerial]
      pure (.ok (.ok, { d with commandTopic := commandTopic, name := name }))

/-- `ha_entity_discovery_fullfill` from its topics on. -/
def fullfillTopics (env : Env Blob) (mqttPrefix deviceId deviceSerial relayKey : Pointer)
    (d : DiscoveryPointers) : HeapM (Except Crash (EspErr × DiscoveryPointers)) := do
  forAll access [mqttPrefix, deviceId, relayKey]
  let jsonAttributesTopic ← alloc env .jsonAttributesTopic
  if jsonAttributesTopic = .null then
    forAll free [mqttPrefix, deviceId, deviceSerial]
    pure (.ok (.noMem, d))
  else
    forAll access [jsonAttributesTopic, mqttPrefix, deviceId, relayKey]
    let stateTopic ← alloc env .stateTopic
    if stateTopic = .null then
      forAll free [jsonAttributesTopic, mqttPrefix, deviceId, deviceSerial]
      pure (.ok (.noMem, d))
    else
      forAll access [stateTopic, mqttPrefix, deviceId, relayKey]
      let uniqueId ← alloc env .uniqueId
      if uniqueId = .null then
        forAll free [jsonAttributesTopic, stateTopic, mqttPrefix, deviceId, deviceSerial]
        pure (.ok (.noMem, d))
      else
        forAll access [uniqueId, deviceId, deviceSerial, relayKey]
        let valueTemplate ← alloc env .valueTemplate
        if valueTemplate = .null then
          forAll free [jsonAttributesTopic, stateTopic, uniqueId, d.objectId, mqttPrefix, deviceId,
            deviceSerial]
          pure (.ok (.noMem, d))
        else
          forAll access [valueTemplate]
          fullfillCommand env mqttPrefix deviceId deviceSerial relayKey
            { d with
              jsonAttributesTopic := jsonAttributesTopic
              stateTopic := stateTopic
              uniqueId := uniqueId
              valueTemplate := valueTemplate }

/-- `ha_entity_discovery_fullfill` on a fresh record. An empty id or serial ends it with the
    result of the read. -/
def haEntityDiscoveryFullfill (env : Env Blob) (relayKey : Pointer) :
    HeapM (Except Crash (EspErr × DiscoveryPointers)) := do
  let (err, d) ← haEntityDiscoveryInit env
  if err ≠ .ok then
    pure (.ok (err, {}))
  else
    let (err, deviceId) ← nvsReadString env .deviceId sKeyDeviceId
    forAll access (if err = .ok then [deviceId] else [])
    if err ≠ .ok ∨ isEmpty env sKeyDeviceId then
      pure (.ok (err, d))
    else
      let (err, deviceSerial) ← nvsReadString env .deviceSerial sKeyDeviceSerial
      forAll access (if err = .ok then [deviceSerial] else [])
      if err ≠ .ok ∨ isEmpty env sKeyDeviceSerial then
        forAll free [deviceId]
        pure (.ok (err, d))
      else
        forAll access [deviceId, relayKey]
        let objectId ← alloc env .objectId
        if objectId = .null then
          forAll free [deviceId, deviceSerial]
          pure (.ok (.noMem, d))
        else
          forAll access [objectId, deviceId, relayKey]
          let (err, mqttPrefix) ← nvsReadString env .mqttPrefix sKeyMqttPrefix
          if err ≠ .ok then
            forAll free [deviceId, deviceSerial]
            pure (.ok (err, { d with objectId := objectId }))
          else
            fullfillTopics env mqttPrefix deviceId deviceSerial relayKey
              { d with objectId := objectId }

/-! ### What the Initialisers Own -/

/-- The outcome of an initialiser is that of the texts; a success owns what `good` says, and
    an error has lost at most `n` blocks. -/
def Ends {α β : Type} (n : Nat) (x : Except EspErr α) (good : β → Multiset Nat → Prop)
    (r : EspErr × β) (own : Multiset Nat) : Prop :=
  match x with
  | .ok _ => r.1 = .ok ∧ good r.2 own
  | .error err => r.1 = err ∧ err ≠ .ok ∧ own.card ≤ n

/-- All pointers of a record are set, and it owns what they refer to. -/
def Holds (ps : List Pointer) (own : Multiset Nat) : Prop :=
  .unset ∉ ps ∧ own = blocksOf ps

/-- The two ways an initialiser can end. -/
theorem Ends.cases {α β : Type} {n : Nat} {x : Except EspErr α} {good : β → Multiset Nat → Prop}
    {r : EspErr × β} {own : Multiset Nat} (h : Ends n x good r own) :
    (∃ err, x = .error err ∧ r.1 = err ∧ err ≠ .ok ∧ own.card ≤ n) ∨
      ∃ a, x = .ok a ∧ r.1 = .ok ∧ good r.2 own := by
  cases x with
  | error err => exact .inl ⟨err, rfl, h⟩
  | ok a => exact .inr ⟨a, rfl, h⟩

variable {env : Env Blob} {β : Type} {pre : Multiset Nat} {post : β → Multiset Nat → Prop}

/-- The outcome is that of the texts. A success owns the key of the unit, the record, and a
    copy of the prefix that is in no record; an error has lost at most `17` blocks. -/
def Fullfilled (x : Option EspErr) (key : Nat) (r : Except Crash (EspErr × DiscoveryPointers))
    (own : Multiset Nat) : Prop :=
  match x, r with
  | none, .error crash => crash = .nullWrite
  | some err, .ok (err', d) =>
      err' = err ∧
      (err = .ok → d.Complete ∧ .unset ∉ d.records ++ d.texts ∧
        ∃ mqttPrefix, own = {key} + {mqttPrefix} + blocksOf (d.records ++ d.texts)) ∧
      (err ≠ .ok → own.card ≤ 17)
  | _, _ => False

/-- The ways the whole function can end. -/
theorem Fullfilled.cases {x : Option EspErr} {key : Nat} {own : Multiset Nat}
    {r : Except Crash (EspErr × DiscoveryPointers)} (h : Fullfilled x key r own) :
    (∃ crash, r = .error crash) ∨
      (∃ err d, r = .ok (err, d) ∧ err ≠ .ok ∧ own.card ≤ 17) ∨
      ∃ d mqttPrefix, r = .ok (.ok, d) ∧ d.Complete ∧ .unset ∉ d.records ++ d.texts ∧
        own = {key} + {mqttPrefix} + blocksOf (d.records ++ d.texts) := by
  rcases r with crash | ⟨err, d⟩
  · exact .inl ⟨crash, rfl⟩
  · cases x with
    | none => exact absurd h id
    | some err' =>
        obtain ⟨rfl, hok, herr⟩ := h
        by_cases hne : err = .ok
        · subst hne
          obtain ⟨hcomplete, hset, mqttPrefix, hown⟩ := hok rfl
          exact .inr (.inr ⟨d, mqttPrefix, rfl, hcomplete, hset, hown⟩)
        · exact .inr (.inl ⟨err, d, rfl, hne, herr hne⟩)

end EntityHeap
