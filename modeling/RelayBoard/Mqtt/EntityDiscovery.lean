import RelayBoard.Mqtt.Discovery

/-! # Building a Discovery Entity

  `ha_entity_discovery_fullfill` of `main/hass.c` with its four initialisers, under every
  pattern of failing allocations. The file determines when it reports an error or leaves
  an entity with all its texts.
-/

open CString Settings Relay MqttTopic UnitData Discovery

namespace EntityDiscovery

variable {Blob : Type}

/-! ### Entities -/

/-- `ha_entity_availability_t`; `none` is a null pointer. -/
structure HaEntityAvailability where
  topic : CStr
  valueTemplate : Option CStr
  deriving DecidableEq, Repr

/-- `ha_device_t`; `none` is a buffer that nothing was written to. -/
structure HaDevice where
  configurationUrl : Option CStr
  manufacturer : CStr
  model : CStr
  name : CStr
  viaDevice : CStr
  swVersion : CStr
  identifier : CStr
  deriving DecidableEq, Repr

/-- `ha_entity_origin_t`. -/
structure HaEntityOrigin where
  name : CStr
  sw : CStr
  url : CStr
  deriving DecidableEq, Repr

/-- The three entities that `ha_entity_discovery_init` makes. -/
structure InitEntities where
  availability : HaEntityAvailability
  device : HaDevice
  origin : HaEntityOrigin
  deriving DecidableEq, Repr

/-! ### What Can Fail -/

/-- The allocations of one call, by what they are for. -/
inductive Alloc where
  | availability
  | availabilityPrefix
  | availabilityDeviceId
  | availabilityTopic
  | availabilityValueTemplate
  | device
  | deviceManufacturer
  | deviceModel
  | deviceConfigurationUrl
  | deviceName
  | deviceViaDevice
  | deviceSwVersion
  | deviceIdentifier
  | origin
  | originName
  | originUrl
  | originSw
  | deviceId
  | deviceSerial
  | objectId
  | mqttPrefix
  | jsonAttributesTopic
  | stateTopic
  | uniqueId
  | valueTemplate
  | commandTopic
  | name
  deriving DecidableEq, Repr

/-- An address of the station, from `esp_netif_get_ip_info`. -/
structure Ip where
  a : UInt8
  b : UInt8
  c : UInt8
  d : UInt8
  deriving DecidableEq, Repr

/-- What a call meets. -/
structure Env (Blob : Type) where
  malloc : Alloc → Bool
  nvs : Nvs.Store Blob
  ip : Option Ip
  /-- `DEVICE_SW_VERSION`. -/
  swVersion : CStr
  /-- `esp_get_idf_version()`. -/
  idfVersion : CStr

/-- A text in memory of its own, with the check for a null pointer behind the allocation. -/
def Env.checked (env : Env Blob) (a : Alloc) (text : CStr) : Except EspErr CStr :=
  if env.malloc a then .ok text else .error .noMem

/-- `nvs_read_string`, which allocates what it reads. -/
def Env.nvsReadString (env : Env Blob) (a : Alloc) (key : CStr) : Except EspErr CStr := do
  let text ← Nvs.readString env.nvs sNamespace key
  env.checked a text

/-! ### The Initialisers -/

/-- `HA_DEVICE_STATUS_PATH`. -/
def haDeviceStatusPath : CStr := "status".toList

/-- `HA_DEVICE_AVAILABILITY_VAL_TPL`. -/
def haDeviceAvailabilityValTpl : CStr := "\x7b\x7b value_json.state \x7d\x7d".toList

/-- `HA_DEVICE_MANUFACTURER`. -/
def haDeviceManufacturer : CStr := "Roman Pavlyuk".toList

/-- `HA_DEVICE_MODEL`. -/
def haDeviceModel : CStr := "ESP Relay Board".toList

/-- `HA_DEVICE_ORIGIN_NAME`. -/
def haDeviceOriginName : CStr := "ESP-IDF".toList

/-- `HA_DEVICE_ORIGIN_URL`. -/
def haDeviceOriginUrl : CStr := "https://github.com/espressif/esp-idf".toList

/-- `CFG_URL_LEN`. -/
def cfgUrlLen : Nat := 26

/-- `"%s/%s/%s"`. -/
def availabilityTopic (mqttPrefix deviceId : CStr) : CStr :=
  mqttPrefix ++ '/' :: (deviceId ++ '/' :: haDeviceStatusPath)

/-- `"http://%d.%d.%d.%d/"`. -/
def configurationUrl (ip : Ip) : CStr :=
  "http://".toList ++ (decimal ip.a.toNat ++ '.' :: (decimal ip.b.toNat ++ '.' ::
    (decimal ip.c.toNat ++ '.' :: (decimal ip.d.toNat ++ ['/']))))

/-- `ha_availability_init`. The copy of the template is not checked. -/
def haAvailabilityInit (env : Env Blob) : Except EspErr HaEntityAvailability := do
  let mqttPrefix ← env.nvsReadString .availabilityPrefix sKeyMqttPrefix
  let deviceId ← env.nvsReadString .availabilityDeviceId sKeyDeviceId
  let topicLen := mqttPrefix.length + deviceId.length + haDeviceStatusPath.length + 3
  let topic ← env.checked .availabilityTopic
    (snprintf topicLen (availabilityTopic mqttPrefix deviceId))
  let valueTemplate :=
    if env.malloc .availabilityValueTemplate then some haDeviceAvailabilityValTpl else none
  return ⟨topic, valueTemplate⟩

/-- `ha_device_init`. Without an address nothing is written to the URL. -/
def haDeviceInit (env : Env Blob) : Except EspErr HaDevice := do
  let manufacturer ← env.checked .deviceManufacturer haDeviceManufacturer
  let model ← env.checked .deviceModel haDeviceModel
  let _ ← env.checked .deviceConfigurationUrl []
  let name ← env.nvsReadString .deviceName sKeyDeviceId
  let viaDevice ← env.checked .deviceViaDevice []
  let swVersion ← env.checked .deviceSwVersion env.swVersion
  let identifier ← env.nvsReadString .deviceIdentifier sKeyDeviceSerial
  return ⟨env.ip.map configurationUrl, manufacturer, model, name, viaDevice, swVersion,
    identifier⟩

/-- `ha_origin_init`. -/
def haOriginInit (env : Env Blob) : Except EspErr HaEntityOrigin := do
  let name ← env.checked .originName haDeviceOriginName
  let url ← env.checked .originUrl haDeviceOriginUrl
  let sw ← env.checked .originSw env.idfVersion
  return ⟨name, sw, url⟩

/-- `ha_entity_discovery_init`. -/
def haEntityDiscoveryInit (env : Env Blob) : Except EspErr InitEntities := do
  let _ ← env.checked .availability []
  let availability ← haAvailabilityInit env
  let _ ← env.checked .device []
  let device ← haDeviceInit env
  let _ ← env.checked .origin []
  let origin ← haOriginInit env
  return ⟨availability, device, origin⟩

/-! ### The Whole Entity -/

/-- The allocations behind the initialisers, as the rest of the function meets them. -/
def Env.calls (env : Env Blob) : FullfillCalls where
  init :=
    match haEntityDiscoveryInit env with
    | .ok _ => .ok
    | .error err => err
  objectId := env.malloc .objectId
  jsonAttributesTopic := env.malloc .jsonAttributesTopic
  stateTopic := env.malloc .stateTopic
  uniqueId := env.malloc .uniqueId
  valueTemplate := env.malloc .valueTemplate
  commandTopic := env.malloc .commandTopic
  name := env.malloc .name

/-- `ha_entity_discovery_fullfill` on a fresh record. `none` is a formatting call with a null
    destination. An empty id or serial ends it with the result of the read, which is
    `ESP_OK`. -/
def haEntityDiscoveryFullfill (env : Env Blob) (deviceClass relayKey metric : Option CStr)
    (relayType : RelayType) : Option (EspErr × Option InitEntities × HaEntityDiscovery) :=
  match deviceClass, relayKey, metric with
  | some deviceClass, some relayKey, some metric =>
      match haEntityDiscoveryInit env with
      | .error err => some (err, none, .blank)
      | .ok entities =>
          let d := { HaEntityDiscovery.blank with enabledByDefault := true }
          match env.nvsReadString .deviceId sKeyDeviceId with
          | .error err => some (err, some entities, d)
          | .ok deviceId =>
              if deviceId = [] then some (.ok, some entities, d)
              else
                match env.nvsReadString .deviceSerial sKeyDeviceSerial with
                | .error err => some (err, some entities, d)
                | .ok deviceSerial =>
                    if deviceSerial = [] then some (.ok, some entities, d)
                    else if env.malloc .objectId = false then some (.noMem, some entities, d)
                    else
                      let d := { d with objectId := some (deviceId ++ '_' :: relayKey) }
                      match env.nvsReadString .mqttPrefix sKeyMqttPrefix with
                      | .error err => some (err, some entities, d)
                      | .ok mqttPrefix =>
                          (fullfillTopics env.calls mqttPrefix deviceId deviceSerial deviceClass
                            relayKey metric relayType d).map fun r => (r.1, some entities, r.2)
  | _, _, _ => some (.invalidArg, none, .blank)

/-! ### Checked Calls -/

theorem bind_eq_ok_iff {ε α β : Type} {x : Except ε α} {f : α → Except ε β} {r : β} :
    (x >>= f) = .ok r ↔ ∃ a, x = .ok a ∧ f a = .ok r := by
  cases x with
  | error err => simp [Bind.bind, Except.bind]
  | ok a => simp [Bind.bind, Except.bind]

theorem pure_eq_ok_iff {ε α : Type} {a r : α} :
    (pure a : Except ε α) = .ok r ↔ r = a := by
  simp [Pure.pure, Except.pure, eq_comm]

theorem Env.checked_eq_ok_iff {env : Env Blob} {a : Alloc} {text r : CStr} :
    env.checked a text = .ok r ↔ env.malloc a = true ∧ r = text := by
  unfold Env.checked
  by_cases h : env.malloc a = true
  · simp [h, eq_comm]
  · simp [h]

/-- A setting that is a string is read if there is memory for it. -/
theorem Env.nvsReadString_of_str {env : Env Blob} {key text : CStr}
    (h : env.nvs sNamespace key = some (.str text)) (a : Alloc) :
    env.nvsReadString a key = if env.malloc a then .ok text else .error .noMem := by
  unfold Env.nvsReadString
  rw [readString_of_some h]
  rfl

/-- With memory for it a read is that of the store. -/
theorem Env.nvsReadString_of_malloc {env : Env Blob} {a : Alloc} (h : env.malloc a = true)
    (key : CStr) : env.nvsReadString a key = Nvs.readString env.nvs sNamespace key := by
  unfold Env.nvsReadString Env.checked
  rw [h]
  cases Nvs.readString env.nvs sNamespace key <;> rfl

theorem Env.nvsReadString_eq_ok_iff {env : Env Blob} {a : Alloc} {key r : CStr} :
    env.nvsReadString a key = .ok r ↔
      env.nvs sNamespace key = some (.str r) ∧ env.malloc a = true := by
  unfold Env.nvsReadString
  rw [bind_eq_ok_iff]
  constructor
  · intro ⟨text, hread, hcheck⟩
    obtain ⟨hmalloc, rfl⟩ := Env.checked_eq_ok_iff.mp hcheck
    exact ⟨Nvs.readString_eq_ok_iff.mp hread, hmalloc⟩
  · intro ⟨hread, hmalloc⟩
    exact ⟨r, Nvs.readString_eq_ok_iff.mpr hread, Env.checked_eq_ok_iff.mpr ⟨hmalloc, rfl⟩⟩

/-- A call that fails says so. -/
def FailsWithError {α : Type} (x : Except EspErr α) : Prop := ∀ err, x = .error err → err ≠ .ok

theorem FailsWithError.bind {α β : Type} {x : Except EspErr α} {f : α → Except EspErr β}
    (hx : FailsWithError x) (hf : ∀ a, FailsWithError (f a)) : FailsWithError (x >>= f) := by
  intro err h
  cases x with
  | error err' =>
      have herr : (Except.error err' : Except EspErr β) = .error err := h
      cases herr
      exact hx err rfl
  | ok a => exact hf a err h

theorem failsWithError_pure {α : Type} (a : α) :
    FailsWithError (pure a : Except EspErr α) := by
  intro err h
  cases h

theorem Env.failsWithError_checked (env : Env Blob) (a : Alloc) (text : CStr) :
    FailsWithError (env.checked a text) := by
  intro err h
  unfold Env.checked at h
  split at h
  · cases h
  · cases h
    decide

theorem Env.failsWithError_nvsReadString (env : Env Blob) (a : Alloc) (key : CStr) :
    FailsWithError (env.nvsReadString a key) := by
  refine FailsWithError.bind ?_ fun text => env.failsWithError_checked a text
  intro err h
  unfold Nvs.readString at h
  split at h
  · cases h
  · cases h
    decide
  · cases h
    decide

theorem failsWithError_init (env : Env Blob) : FailsWithError (haEntityDiscoveryInit env) := by
  have hchecked := env.failsWithError_checked
  have hread := env.failsWithError_nvsReadString
  have havailability : FailsWithError (haAvailabilityInit env) :=
    (hread _ _).bind fun _ => (hread _ _).bind fun _ => (hchecked _ _).bind fun _ =>
      failsWithError_pure _
  have hdevice : FailsWithError (haDeviceInit env) :=
    (hchecked _ _).bind fun _ => (hchecked _ _).bind fun _ => (hchecked _ _).bind fun _ =>
      (hread _ _).bind fun _ => (hchecked _ _).bind fun _ => (hchecked _ _).bind fun _ =>
        (hread _ _).bind fun _ => failsWithError_pure _
  have horigin : FailsWithError (haOriginInit env) :=
    (hchecked _ _).bind fun _ => (hchecked _ _).bind fun _ => (hchecked _ _).bind fun _ =>
      failsWithError_pure _
  exact (hchecked _ _).bind fun _ => havailability.bind fun _ => (hchecked _ _).bind fun _ =>
    hdevice.bind fun _ => (hchecked _ _).bind fun _ => horigin.bind fun _ =>
      failsWithError_pure _

/-! ### What the Initialisers Make -/

/-- The settings in every entity. -/
structure Stored (nvs : Nvs.Store Blob) (mqttPrefix deviceId deviceSerial : CStr) : Prop where
  mqttPrefix : nvs sNamespace sKeyMqttPrefix = some (.str mqttPrefix)
  deviceId : nvs sNamespace sKeyDeviceId = some (.str deviceId)
  deviceSerial : nvs sNamespace sKeyDeviceSerial = some (.str deviceSerial)

/-- The allocations of the initialisers that are checked. -/
def initAllocs : List Alloc :=
  [.availability, .availabilityPrefix, .availabilityDeviceId, .availabilityTopic, .device,
    .deviceManufacturer, .deviceModel, .deviceConfigurationUrl, .deviceName, .deviceViaDevice,
    .deviceSwVersion, .deviceIdentifier, .origin, .originName, .originUrl, .originSw]

/-- The entities of a device, with what was not checked as it came out. -/
def entitiesOf (env : Env Blob) (mqttPrefix deviceId deviceSerial : CStr) : InitEntities where
  availability := ⟨availabilityTopic mqttPrefix deviceId,
    if env.malloc .availabilityValueTemplate then some haDeviceAvailabilityValTpl else none⟩
  device := ⟨env.ip.map configurationUrl, haDeviceManufacturer, haDeviceModel, deviceId, [],
    env.swVersion, deviceSerial⟩
  origin := ⟨haDeviceOriginName, env.idfVersion, haDeviceOriginUrl⟩

/-- The length allocated for the topic is enough. -/
theorem snprintf_availabilityTopic (mqttPrefix deviceId : CStr) :
    snprintf (mqttPrefix.length + deviceId.length + haDeviceStatusPath.length + 3)
      (availabilityTopic mqttPrefix deviceId) = availabilityTopic mqttPrefix deviceId := by
  apply snprintf_of_lt
  simp only [availabilityTopic, List.length_append, List.length_cons]
  omega

theorem haAvailabilityInit_eq_ok_iff {env : Env Blob} {availability : HaEntityAvailability} :
    haAvailabilityInit env = .ok availability ↔ ∃ mqttPrefix deviceId,
      env.nvs sNamespace sKeyMqttPrefix = some (.str mqttPrefix) ∧
      env.nvs sNamespace sKeyDeviceId = some (.str deviceId) ∧
      env.malloc .availabilityPrefix = true ∧ env.malloc .availabilityDeviceId = true ∧
      env.malloc .availabilityTopic = true ∧
      availability = ⟨availabilityTopic mqttPrefix deviceId,
        if env.malloc .availabilityValueTemplate then some haDeviceAvailabilityValTpl
        else none⟩ := by
  simp only [haAvailabilityInit, bind_eq_ok_iff, pure_eq_ok_iff, Env.checked_eq_ok_iff,
    Env.nvsReadString_eq_ok_iff, snprintf_availabilityTopic]
  constructor
  · intro ⟨mqttPrefix, hpre, deviceId, hid, topic, htopic, heq⟩
    rw [htopic.2] at heq
    exact ⟨mqttPrefix, deviceId, hpre.1, hid.1, hpre.2, hid.2, htopic.1, heq⟩
  · intro ⟨mqttPrefix, deviceId, hpre, hid, hpreMem, hidMem, htopicMem, heq⟩
    exact ⟨mqttPrefix, ⟨hpre, hpreMem⟩, deviceId, ⟨hid, hidMem⟩, _, ⟨htopicMem, rfl⟩, heq⟩

theorem haDeviceInit_eq_ok_iff {env : Env Blob} {device : HaDevice} :
    haDeviceInit env = .ok device ↔ ∃ deviceId deviceSerial,
      env.nvs sNamespace sKeyDeviceId = some (.str deviceId) ∧
      env.nvs sNamespace sKeyDeviceSerial = some (.str deviceSerial) ∧
      (∀ a ∈ [Alloc.deviceManufacturer, .deviceModel, .deviceConfigurationUrl, .deviceName,
        .deviceViaDevice, .deviceSwVersion, .deviceIdentifier], env.malloc a = true) ∧
      device = ⟨env.ip.map configurationUrl, haDeviceManufacturer, haDeviceModel, deviceId, [],
        env.swVersion, deviceSerial⟩ := by
  simp only [haDeviceInit, bind_eq_ok_iff, pure_eq_ok_iff, Env.checked_eq_ok_iff,
    Env.nvsReadString_eq_ok_iff, List.forall_mem_cons]
  constructor
  · intro ⟨_, ⟨hman, rfl⟩, _, ⟨hmodel, rfl⟩, _, ⟨hurl, _⟩, deviceId, ⟨hid, hidMem⟩, _,
      ⟨hvia, rfl⟩, _, ⟨hsw, rfl⟩, deviceSerial, ⟨hserial, hserialMem⟩, heq⟩
    exact ⟨deviceId, deviceSerial, hid, hserial,
      ⟨hman, hmodel, hurl, hidMem, hvia, hsw, hserialMem, by simp⟩, heq⟩
  · intro ⟨deviceId, deviceSerial, hid, hserial,
      ⟨hman, hmodel, hurl, hidMem, hvia, hsw, hserialMem, _⟩, heq⟩
    exact ⟨_, ⟨hman, rfl⟩, _, ⟨hmodel, rfl⟩, _, ⟨hurl, rfl⟩, deviceId, ⟨hid, hidMem⟩, _,
      ⟨hvia, rfl⟩, _, ⟨hsw, rfl⟩, deviceSerial, ⟨hserial, hserialMem⟩, heq⟩

theorem haOriginInit_eq_ok_iff {env : Env Blob} {origin : HaEntityOrigin} :
    haOriginInit env = .ok origin ↔
      (env.malloc .originName = true ∧ env.malloc .originUrl = true ∧
        env.malloc .originSw = true) ∧
      origin = ⟨haDeviceOriginName, env.idfVersion, haDeviceOriginUrl⟩ := by
  simp only [haOriginInit, bind_eq_ok_iff, pure_eq_ok_iff, Env.checked_eq_ok_iff]
  constructor
  · intro ⟨_, ⟨hname, rfl⟩, _, ⟨hurl, rfl⟩, _, ⟨hsw, rfl⟩, heq⟩
    exact ⟨⟨hname, hurl, hsw⟩, heq⟩
  · intro ⟨⟨hname, hurl, hsw⟩, heq⟩
    exact ⟨_, ⟨hname, rfl⟩, _, ⟨hurl, rfl⟩, _, ⟨hsw, rfl⟩, heq⟩

/-- The initialisers succeed exactly if the settings are strings and no checked allocation
    fails. -/
theorem haEntityDiscoveryInit_eq_ok_iff {env : Env Blob} {entities : InitEntities} :
    haEntityDiscoveryInit env = .ok entities ↔
      ∃ mqttPrefix deviceId deviceSerial, Stored env.nvs mqttPrefix deviceId deviceSerial ∧
        (∀ a ∈ initAllocs, env.malloc a = true) ∧
          entities = entitiesOf env mqttPrefix deviceId deviceSerial := by
  simp only [haEntityDiscoveryInit, bind_eq_ok_iff, pure_eq_ok_iff, Env.checked_eq_ok_iff,
    haAvailabilityInit_eq_ok_iff, haDeviceInit_eq_ok_iff, haOriginInit_eq_ok_iff, initAllocs,
    List.forall_mem_cons]
  constructor
  · intro ⟨_, ⟨havail, _⟩, _, ⟨mqttPrefix, deviceId, hpre, hid, hpreMem, hidMem, htopic,
      rfl⟩, _, ⟨hdevice, _⟩, _, ⟨deviceId', deviceSerial, hid', hserial, hdeviceMem, rfl⟩, _,
      ⟨horigin, _⟩, _, ⟨horiginMem, rfl⟩, heq⟩
    -- the id is read twice
    obtain rfl : deviceId' = deviceId := by
      rw [hid] at hid'
      cases hid'
      rfl
    refine ⟨mqttPrefix, deviceId', deviceSerial, ⟨hpre, hid, hserial⟩, ?_, heq⟩
    simp_all
  · intro ⟨mqttPrefix, deviceId, deviceSerial, hstored, hmem, heq⟩
    refine ⟨_, ⟨hmem.1, rfl⟩, _, ⟨mqttPrefix, deviceId, hstored.mqttPrefix, hstored.deviceId,
      hmem.2.1, hmem.2.2.1, hmem.2.2.2.1, rfl⟩, _, ⟨hmem.2.2.2.2.1, rfl⟩, _, ⟨deviceId,
      deviceSerial, hstored.deviceId, hstored.deviceSerial, ?_, rfl⟩, _, ⟨?_, rfl⟩, _, ⟨?_, rfl⟩,
      heq⟩ <;> simp_all

/-! ### Every Failure -/

/-- The allocations between the id and the command topic. -/
def topicAllocs : List Alloc :=
  [.objectId, .mqttPrefix, .jsonAttributesTopic, .stateTopic, .uniqueId, .valueTemplate]

/-- An entity with all its texts. -/
def FullyBuilt (env : Env Blob) (deviceClass relayKey metric : CStr) (relayType : RelayType)
    (entities : Option InitEntities) (d : HaEntityDiscovery) : Prop :=
  ∃ mqttPrefix deviceId deviceSerial ip, Stored env.nvs mqttPrefix deviceId deviceSerial ∧
    entities = some ⟨⟨availabilityTopic mqttPrefix deviceId, some haDeviceAvailabilityValTpl⟩,
      ⟨some (configurationUrl ip), haDeviceManufacturer, haDeviceModel, deviceId, [],
        env.swVersion, deviceSerial⟩,
      ⟨haDeviceOriginName, env.idfVersion, haDeviceOriginUrl⟩⟩ ∧
    d = entityOf mqttPrefix deviceId deviceSerial deviceClass relayKey metric relayType

/-- An error or an entity with all its texts, and no formatting call with a null
    destination. -/
def ErrorOrBuilt (env : Env Blob) (deviceClass relayKey metric : CStr) (relayType : RelayType) :
    Prop :=
  ∃ err entities d, haEntityDiscoveryFullfill env (some deviceClass) (some relayKey) (some metric)
      relayType = some (err, entities, d) ∧
    (err = .ok → FullyBuilt env deviceClass relayKey metric relayType entities d)

/-- Where the calls up to a place succeed that are checked, what is not checked there is as
    it should be. -/
def NothingMissed (env : Env Blob) : Prop :=
  ∀ mqttPrefix deviceId deviceSerial, Stored env.nvs mqttPrefix deviceId deviceSerial →
    (∀ a ∈ initAllocs, env.malloc a = true) → env.malloc .deviceId = true →
      deviceId ≠ [] ∧ (env.malloc .deviceSerial = true →
        deviceSerial ≠ [] ∧ ((∀ a ∈ topicAllocs, env.malloc a = true) →
          env.malloc .commandTopic = true ∧ (env.malloc .name = true →
            env.malloc .availabilityValueTemplate = true ∧ env.ip ≠ none)))

theorem Stored.unique {nvs : Nvs.Store Blob} {p i s p' i' s' : CStr} (h : Stored nvs p i s)
    (h' : Stored nvs p' i' s') : p = p' ∧ i = i' ∧ s = s' := by
  have hp := h.mqttPrefix.symm.trans h'.mqttPrefix
  have hi := h.deviceId.symm.trans h'.deviceId
  have hs := h.deviceSerial.symm.trans h'.deviceSerial
  rw [Option.some.injEq, Nvs.Value.str.injEq] at hp hi hs
  exact ⟨hp, hi, hs⟩

/-- The end of the function, under every pattern of failures. -/
theorem fullfillTopics_cases (calls : FullfillCalls) (mqttPrefix deviceId deviceSerial
    deviceClass relayKey metric : CStr) (relayType : RelayType) (d : HaEntityDiscovery) :
    let topics := calls.jsonAttributesTopic = true ∧ calls.stateTopic = true ∧
      calls.uniqueId = true ∧ calls.valueTemplate = true
    let run := fullfillTopics calls mqttPrefix deviceId deviceSerial deviceClass relayKey metric
      relayType d
    (topics ∧ calls.commandTopic = false ∧ run = none) ∨
      (topics ∧ calls.commandTopic = true ∧ calls.name = true) ∨
      ((topics → calls.commandTopic = true ∧ calls.name = false) ∧
        ∃ d', run = some (.noMem, d')) := by
  intro topics run
  by_cases htopics : topics
  · obtain ⟨hjson, hstate, hunique, htemplate⟩ := htopics
    have hrun : run = fullfillTopics calls mqttPrefix deviceId deviceSerial deviceClass relayKey
      metric relayType d := rfl
    simp only [fullfillTopics, hjson, hstate, hunique, htemplate, Bool.true_eq_false,
      if_false, fullfillCommand] at hrun
    -- these four are checked; the check behind the command topic is of another pointer
    cases hcommand : calls.commandTopic with
    | false =>
        rw [if_pos hcommand] at hrun
        exact .inl ⟨⟨hjson, hstate, hunique, htemplate⟩, rfl, hrun⟩
    | true =>
        rw [if_neg (by rw [hcommand]; decide)] at hrun
        cases hname : calls.name with
        | false =>
            rw [if_pos hname] at hrun
            exact .inr (.inr ⟨fun _ => ⟨rfl, rfl⟩, _, hrun⟩)
        | true => exact .inr (.inl ⟨⟨hjson, hstate, hunique, htemplate⟩, rfl, rfl⟩)
  · refine .inr (.inr ⟨fun h => absurd h htopics, ?_⟩)
    show ∃ d', fullfillTopics _ _ _ _ _ _ _ _ _ = some (.noMem, d')
    unfold fullfillTopics
    -- the first that is not allocated ends the function
    by_cases hjson : calls.jsonAttributesTopic = false
    · exact ⟨_, if_pos hjson⟩
    by_cases hstate : calls.stateTopic = false
    · exact ⟨_, (if_neg hjson).trans (if_pos hstate)⟩
    by_cases hunique : calls.uniqueId = false
    · exact ⟨_, (if_neg hjson).trans ((if_neg hstate).trans (if_pos hunique))⟩
    have htemplate : calls.valueTemplate = false := by
      by_contra htemplate
      rw [Bool.not_eq_false] at hjson hstate hunique htemplate
      exact htopics ⟨hjson, hstate, hunique, htemplate⟩
    exact ⟨_, (if_neg hjson).trans ((if_neg hstate).trans ((if_neg hunique).trans
      (if_pos htemplate)))⟩

section fullfill
variable {env : Env Blob} {mqttPrefix deviceId deviceSerial : CStr}
  (hstored : Stored env.nvs mqttPrefix deviceId deviceSerial)
  (hinit : ∀ a ∈ initAllocs, env.malloc a = true) (deviceClass relayKey metric : CStr)
  (relayType : RelayType)
include hstored hinit

theorem init_of_stored : haEntityDiscoveryInit env =
    .ok (entitiesOf env mqttPrefix deviceId deviceSerial) :=
  haEntityDiscoveryInit_eq_ok_iff.mpr
    ⟨mqttPrefix, deviceId, deviceSerial, hstored, hinit, rfl⟩

/-- Where an allocation fails that is checked, the result is an error. -/
theorem fullfill_of_unread (hunread : env.malloc .deviceId = false ∨
    deviceId ≠ [] ∧ (env.malloc .deviceSerial = false ∨
      deviceSerial ≠ [] ∧ (env.malloc .objectId = false ∨ env.malloc .mqttPrefix = false))) :
    ∃ entities d, haEntityDiscoveryFullfill env (some deviceClass) (some relayKey) (some metric)
      relayType = some (.noMem, entities, d) := by
  unfold haEntityDiscoveryFullfill
  dsimp only
  rw [init_of_stored hstored hinit, Env.nvsReadString_of_str hstored.deviceId,
    Env.nvsReadString_of_str hstored.deviceSerial, Env.nvsReadString_of_str hstored.mqttPrefix]
  by_cases hid : env.malloc .deviceId = true
  · rw [hid] at hunread ⊢
    obtain ⟨hne, hunread⟩ := hunread.resolve_left (by decide)
    simp only [if_true, if_neg hne]
    by_cases hserial : env.malloc .deviceSerial = true
    · rw [hserial] at hunread ⊢
      obtain ⟨hserialNe, hunread⟩ := hunread.resolve_left (by decide)
      simp only [if_true, if_neg hserialNe]
      rcases hunread with hobject | hmqtt
      · exact ⟨_, _, if_pos hobject⟩
      · by_cases hobject : env.malloc .objectId = false
        · exact ⟨_, _, if_pos hobject⟩
        · simp [hmqtt, hobject]
    · simp [hserial]
  · simp [hid]

/-- An empty id or serial is a success. -/
theorem fullfill_of_empty (hid : env.malloc .deviceId = true)
    (hempty : deviceId = [] ∨ env.malloc .deviceSerial = true ∧ deviceSerial = []) :
    ∃ entities, haEntityDiscoveryFullfill env (some deviceClass) (some relayKey) (some metric)
      relayType =
        some (.ok, entities, { HaEntityDiscovery.blank with enabledByDefault := true }) := by
  unfold haEntityDiscoveryFullfill
  dsimp only
  rw [init_of_stored hstored hinit, Env.nvsReadString_of_str hstored.deviceId, if_pos hid,
    Env.nvsReadString_of_str hstored.deviceSerial]
  dsimp only
  by_cases hne : deviceId = []
  · exact ⟨_, if_pos hne⟩
  · obtain ⟨hserial, hnil⟩ := hempty.resolve_left hne
    rw [if_neg hne, if_pos hserial]
    dsimp only
    exact ⟨_, if_pos hnil⟩

/-- With an id, a serial and the prefix read, the rest is that of the topics. -/
theorem fullfill_of_read (hid : env.malloc .deviceId = true) (hne : deviceId ≠ [])
    (hserial : env.malloc .deviceSerial = true) (hserialNe : deviceSerial ≠ [])
    (hobject : env.malloc .objectId = true) (hmqtt : env.malloc .mqttPrefix = true) :
    haEntityDiscoveryFullfill env (some deviceClass) (some relayKey) (some metric) relayType =
      (fullfillTopics env.calls mqttPrefix deviceId deviceSerial deviceClass relayKey metric
        relayType { HaEntityDiscovery.blank with
          enabledByDefault := true, objectId := some (deviceId ++ '_' :: relayKey) }).map
        fun r => (r.1, some (entitiesOf env mqttPrefix deviceId deviceSerial), r.2) := by
  unfold haEntityDiscoveryFullfill
  dsimp only
  rw [init_of_stored hstored hinit, Env.nvsReadString_of_str hstored.deviceId, if_pos hid,
    Env.nvsReadString_of_str hstored.deviceSerial, if_pos hserial,
    Env.nvsReadString_of_str hstored.mqttPrefix, if_pos hmqtt]
  dsimp only
  rw [if_neg hne, if_neg hserialNe, if_neg (by rw [hobject]; decide)]

end fullfill

theorem topicAllocs_iff (env : Env Blob) : (∀ a ∈ topicAllocs, env.malloc a = true) ↔
    (env.malloc .objectId = true ∧ env.malloc .mqttPrefix = true) ∧
      env.calls.jsonAttributesTopic = true ∧ env.calls.stateTopic = true ∧
        env.calls.uniqueId = true ∧ env.calls.valueTemplate = true := by
  simp [topicAllocs, Env.calls, and_assoc]

/-- A record without an object id is not the one of a unit. -/
theorem not_fullyBuilt_blank {env : Env Blob} {deviceClass relayKey metric : CStr}
    {relayType : RelayType} {entities : Option InitEntities} :
    ¬ FullyBuilt env deviceClass relayKey metric relayType entities
      { HaEntityDiscovery.blank with enabledByDefault := true } := by
  intro ⟨_, _, _, _, _, _, hd⟩
  have hobject := congrArg HaEntityDiscovery.objectId hd
  exact absurd hobject (by simp [entityOf, HaEntityDiscovery.blank])

/-- What comes out with all texts is whole if the template was copied and there was an
    address. -/
theorem fullyBuilt_iff {env : Env Blob} {mqttPrefix deviceId deviceSerial : CStr}
    (hstored : Stored env.nvs mqttPrefix deviceId deviceSerial)
    (deviceClass relayKey metric : CStr) (relayType : RelayType) :
    FullyBuilt env deviceClass relayKey metric relayType
        (some (entitiesOf env mqttPrefix deviceId deviceSerial))
        (entityOf mqttPrefix deviceId deviceSerial deviceClass relayKey metric relayType) ↔
      env.malloc .availabilityValueTemplate = true ∧ env.ip ≠ none := by
  constructor
  · intro ⟨_, _, _, ip, _, hentities, _⟩
    have htemplate := congrArg (fun e => e.availability.valueTemplate) (Option.some.inj hentities)
    have hurl := congrArg (fun e => e.device.configurationUrl) (Option.some.inj hentities)
    simp only [entitiesOf] at htemplate hurl
    constructor
    · by_contra hmalloc
      rw [if_neg hmalloc] at htemplate
      cases htemplate
    · intro hip
      rw [hip] at hurl
      cases hurl
  · intro ⟨htemplate, hip⟩
    obtain ⟨ip, hip⟩ := Option.ne_none_iff_exists'.mp hip
    refine ⟨mqttPrefix, deviceId, deviceSerial, ip, hstored, ?_, rfl⟩
    unfold entitiesOf
    rw [htemplate, hip]
    rfl

theorem errorOrBuilt_of_noMem {env : Env Blob} {deviceClass relayKey metric : CStr}
    {relayType : RelayType} (h : ∃ entities d, haEntityDiscoveryFullfill env (some deviceClass)
      (some relayKey) (some metric) relayType = some (.noMem, entities, d)) :
    ErrorOrBuilt env deviceClass relayKey metric relayType := by
  obtain ⟨entities, d, hrun⟩ := h
  exact ⟨.noMem, entities, d, hrun, fun hok => absurd hok (by decide)⟩

theorem not_errorOrBuilt_of_empty {env : Env Blob} {deviceClass relayKey metric : CStr}
    {relayType : RelayType} (h : ∃ entities, haEntityDiscoveryFullfill env (some deviceClass)
      (some relayKey) (some metric) relayType =
        some (.ok, entities, { HaEntityDiscovery.blank with enabledByDefault := true })) :
    ¬ ErrorOrBuilt env deviceClass relayKey metric relayType := by
  obtain ⟨entities, hrun⟩ := h
  intro ⟨err, entities', d, hrun', hbuilt⟩
  rw [hrun] at hrun'
  cases hrun'
  exact not_fullyBuilt_blank (hbuilt rfl)

/-- Without the settings or the memory of an initialiser there is an error. -/
theorem errorOrBuilt_of_not_init {env : Env Blob}
    (h : ¬ ∃ mqttPrefix deviceId deviceSerial, Stored env.nvs mqttPrefix deviceId deviceSerial ∧
      ∀ a ∈ initAllocs, env.malloc a = true)
    (deviceClass relayKey metric : CStr) (relayType : RelayType) :
    ErrorOrBuilt env deviceClass relayKey metric relayType := by
  cases hinit : haEntityDiscoveryInit env with
  | ok entities =>
      obtain ⟨mqttPrefix, deviceId, deviceSerial, hstored, hmem, _⟩ :=
        haEntityDiscoveryInit_eq_ok_iff.mp hinit
      exact absurd ⟨mqttPrefix, deviceId, deviceSerial, hstored, hmem⟩ h
  | error err =>
      have hrun : haEntityDiscoveryFullfill env (some deviceClass) (some relayKey) (some metric)
          relayType = some (err, none, .blank) := by
        unfold haEntityDiscoveryFullfill
        dsimp only
        rw [hinit]
      exact ⟨err, none, .blank, hrun, fun hok => absurd hok (failsWithError_init env err hinit)⟩

/-- The settings of the store are the only ones. -/
theorem nothingMissed_iff {env : Env Blob} {mqttPrefix deviceId deviceSerial : CStr}
    (hstored : Stored env.nvs mqttPrefix deviceId deviceSerial)
    (hinit : ∀ a ∈ initAllocs, env.malloc a = true) :
    NothingMissed env ↔ (env.malloc .deviceId = true →
      deviceId ≠ [] ∧ (env.malloc .deviceSerial = true →
        deviceSerial ≠ [] ∧ ((∀ a ∈ topicAllocs, env.malloc a = true) →
          env.malloc .commandTopic = true ∧ (env.malloc .name = true →
            env.malloc .availabilityValueTemplate = true ∧ env.ip ≠ none)))) := by
  constructor
  · exact fun h => h mqttPrefix deviceId deviceSerial hstored hinit
  · intro h p i s hstored' _
    obtain ⟨rfl, rfl, rfl⟩ := hstored.unique hstored'
    exact h

/-- With all settings read, what is missed is the command topic, the template or the
    address. -/
theorem errorOrBuilt_of_read {env : Env Blob} {mqttPrefix deviceId deviceSerial : CStr}
    (hstored : Stored env.nvs mqttPrefix deviceId deviceSerial)
    (hinit : ∀ a ∈ initAllocs, env.malloc a = true) {deviceClass relayKey metric : CStr}
    {relayType : RelayType} (hid : env.malloc .deviceId = true) (hne : deviceId ≠ [])
    (hserial : env.malloc .deviceSerial = true) (hserialNe : deviceSerial ≠ [])
    (hread : env.malloc .objectId = true ∧ env.malloc .mqttPrefix = true) :
    ErrorOrBuilt env deviceClass relayKey metric relayType ↔
      ((∀ a ∈ topicAllocs, env.malloc a = true) →
        env.malloc .commandTopic = true ∧ (env.malloc .name = true →
          env.malloc .availabilityValueTemplate = true ∧ env.ip ≠ none)) := by
  have hrun := fullfill_of_read hstored hinit deviceClass relayKey metric relayType hid hne
    hserial hserialNe hread.1 hread.2
  rw [topicAllocs_iff]
  rcases fullfillTopics_cases env.calls mqttPrefix deviceId deviceSerial deviceClass relayKey
    metric relayType { HaEntityDiscovery.blank with
      enabledByDefault := true, objectId := some (deviceId ++ '_' :: relayKey) } with
    ⟨htopics, hcommand, hnull⟩ | ⟨htopics, hcommand, hname⟩ | ⟨htopics, d', hfail⟩
  · -- the write through the null pointer
    rw [hnull] at hrun
    constructor
    · intro ⟨_, _, _, hrun', _⟩
      rw [hrun] at hrun'
      cases hrun'
    · intro h
      have hmalloc : env.malloc .commandTopic = false := hcommand
      rw [hmalloc] at h
      exact absurd (h ⟨hread, htopics⟩).1 (by decide)
  · have hcalls : env.calls.Succeed :=
      ⟨by unfold Env.calls; rw [init_of_stored hstored hinit], hread.1, htopics.1, htopics.2.1,
        htopics.2.2.1, htopics.2.2.2, hcommand, hname⟩
    rw [fullfillTopics_eq hcalls] at hrun
    rw [← fullyBuilt_iff hstored deviceClass relayKey metric relayType]
    constructor
    · intro ⟨_, _, _, hrun', hbuilt⟩ _
      rw [hrun] at hrun'
      cases hrun'
      exact ⟨hcommand, fun _ => hbuilt rfl⟩
    · intro h
      exact ⟨_, _, _, hrun, fun _ => (h ⟨hread, htopics⟩).2 hname⟩
  · rw [hfail] at hrun
    refine ⟨fun _ hall => ?_, fun _ => errorOrBuilt_of_noMem ⟨_, _, hrun⟩⟩
    obtain ⟨hcommand, hname⟩ := htopics hall.2
    refine ⟨hcommand, fun hmalloc => ?_⟩
    have hname' : env.malloc .name = false := hname
    rw [hname'] at hmalloc
    exact absurd hmalloc (by decide)

/-- **Every failure**: the function reports an error or builds the whole entity exactly if
    nothing is missed that it does not check. -/
theorem errorOrBuilt_iff (env : Env Blob) (deviceClass relayKey metric : CStr)
    (relayType : RelayType) :
    ErrorOrBuilt env deviceClass relayKey metric relayType ↔ NothingMissed env := by
  by_cases hinitialised : ∃ mqttPrefix deviceId deviceSerial,
      Stored env.nvs mqttPrefix deviceId deviceSerial ∧ ∀ a ∈ initAllocs, env.malloc a = true
  · obtain ⟨mqttPrefix, deviceId, deviceSerial, hstored, hmem⟩ := hinitialised
    have hunread := fullfill_of_unread hstored hmem deviceClass relayKey metric relayType
    have hempty := fullfill_of_empty hstored hmem deviceClass relayKey metric relayType
    rw [nothingMissed_iff hstored hmem]
    by_cases hid : env.malloc .deviceId = true
    · by_cases hne : deviceId = []
      · have hnot := not_errorOrBuilt_of_empty (hempty hid (.inl hne))
        exact ⟨fun h => absurd h hnot, fun h => absurd hne (h hid).1⟩
      · by_cases hserial : env.malloc .deviceSerial = true
        · by_cases hserialNe : deviceSerial = []
          · have hnot := not_errorOrBuilt_of_empty (hempty hid (.inr ⟨hserial, hserialNe⟩))
            exact ⟨fun h => absurd h hnot, fun h => absurd hserialNe ((h hid).2 hserial).1⟩
          · by_cases hread : env.malloc .objectId = true ∧ env.malloc .mqttPrefix = true
            · rw [errorOrBuilt_of_read hstored hmem hid hne hserial hserialNe hread]
              exact ⟨fun h _ => ⟨hne, fun _ => ⟨hserialNe, h⟩⟩, fun h => ((h hid).2 hserial).2⟩
            · have hfails := hread
              rw [not_and_or, Bool.not_eq_true, Bool.not_eq_true] at hfails
              have herr := errorOrBuilt_of_noMem (hunread (.inr ⟨hne, .inr ⟨hserialNe, hfails⟩⟩))
              rw [topicAllocs_iff]
              exact ⟨fun _ _ => ⟨hne, fun _ => ⟨hserialNe, fun h => absurd h.1 hread⟩⟩,
                fun _ => herr⟩
        · have herr := errorOrBuilt_of_noMem
            (hunread (.inr ⟨hne, .inl (eq_false_of_ne_true hserial)⟩))
          exact ⟨fun _ _ => ⟨hne, fun h => absurd h hserial⟩, fun _ => herr⟩
    · have herr := errorOrBuilt_of_noMem (hunread (.inl (eq_false_of_ne_true hid)))
      exact ⟨fun _ h => absurd h hid, fun _ => herr⟩
  · refine ⟨fun _ p i s hstored hmem => ?_, fun _ => ?_⟩
    · exact absurd ⟨p, i, s, hstored, hmem⟩ hinitialised
    · exact errorOrBuilt_of_not_init hinitialised deviceClass relayKey metric relayType

/-- A device with an address, where the command topic cannot be allocated. -/
def noCommandTopic : Env Unit :=
  ⟨fun a => a ≠ .commandTopic, mqttStore, some ⟨192, 168, 4, 1⟩, "1.1.3".toList, "v5.4".toList⟩

/-- The check behind the allocation of the command topic is of another pointer. -/
theorem not_errorOrBuilt : ¬ ∀ (env : Env Unit) (deviceClass relayKey metric : CStr)
    (relayType : RelayType), ErrorOrBuilt env deviceClass relayKey metric relayType := by
  intro h
  obtain ⟨err, entities, d, hrun, _⟩ := h noCommandTopic "switch".toList "relay_ch_3".toList
    "state".toList .actuator
  have hnull : haEntityDiscoveryFullfill noCommandTopic (some "switch".toList)
      (some "relay_ch_3".toList) (some "state".toList) .actuator = none := by
    decide +kernel
  rw [hnull] at hrun
  cases hrun

/-! ### The Other Results -/

/-- The URL of an address fits its buffer. -/
theorem length_configurationUrl_lt (ip : Ip) : (configurationUrl ip).length < cfgUrlLen := by
  have hdigits : ∀ n : UInt8, (decimal (n.toNat : Int)).length ≤ 3 := by
    intro n
    have hlt := n.toNat_lt
    rw [length_decimal_le_iff (by omega)]
    omega
  have ha := hdigits ip.a
  have hb := hdigits ip.b
  have hc := hdigits ip.c
  have hd := hdigits ip.d
  have hscheme : "http://".toList.length = 7 := by decide
  unfold configurationUrl cfgUrlLen
  generalize decimal ip.a.toNat = a at ha ⊢
  generalize decimal ip.b.toNat = b at hb ⊢
  generalize decimal ip.c.toNat = c at hc ⊢
  generalize decimal ip.d.toNat = d at hd ⊢
  simp only [List.length_append, List.length_cons, List.length_nil, hscheme]
  omega

/-- With memory for the settings that are read last, the record is the one without the
    initialisers. -/
theorem fullfill_record (env : Env Blob) (hid : env.malloc .deviceId = true)
    (hserial : env.malloc .deviceSerial = true) (hmqtt : env.malloc .mqttPrefix = true)
    (deviceClass relayKey metric : Option CStr) (relayType : RelayType) :
    (haEntityDiscoveryFullfill env deviceClass relayKey metric relayType).map
        (fun r => (r.1, r.2.2)) =
      Discovery.haEntityDiscoveryFullfill env.calls env.nvs .blank deviceClass relayKey metric
        relayType := by
  cases deviceClass with
  | none => rfl
  | some deviceClass =>
      cases relayKey with
      | none => rfl
      | some relayKey =>
          cases metric with
          | none => rfl
          | some metric =>
              unfold haEntityDiscoveryFullfill Discovery.haEntityDiscoveryFullfill
              dsimp only
              cases hinit : haEntityDiscoveryInit env with
              | error err =>
                  have hcalls : env.calls.init = err := by
                    unfold Env.calls
                    rw [hinit]
                  have hne := failsWithError_init env err hinit
                  rw [hcalls, if_pos hne]
                  rfl
              | ok entities =>
                  have hcalls : env.calls.init = .ok := by
                    unfold Env.calls
                    rw [hinit]
                  rw [hcalls, if_neg (not_not.mpr rfl)]
                  dsimp only
                  rw [Env.nvsReadString_of_malloc hid, Env.nvsReadString_of_malloc hserial,
                    Env.nvsReadString_of_malloc hmqtt]
                  -- the two run through the same reads
                  cases Nvs.readString env.nvs sNamespace sKeyDeviceId with
                  | error err => rfl
                  | ok deviceId =>
                      dsimp only
                      split
                      · rfl
                      cases Nvs.readString env.nvs sNamespace sKeyDeviceSerial with
                      | error err => rfl
                      | ok deviceSerial =>
                          dsimp only
                          split
                          · rfl
                          by_cases hobject : env.malloc .objectId = false
                          · have hobject' : env.calls.objectId = false := hobject
                            rw [if_pos hobject, if_pos hobject']
                            rfl
                          · have hobject' : ¬ env.calls.objectId = false := hobject
                            rw [if_neg hobject, if_neg hobject']
                            cases Nvs.readString env.nvs sNamespace sKeyMqttPrefix with
                            | error err => rfl
                            | ok mqttPrefix =>
                                dsimp only
                                rw [Option.map_map]
                                exact Option.map_id'

end EntityDiscovery
