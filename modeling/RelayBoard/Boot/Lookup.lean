import RelayBoard.Boot.Table

/-! # Lookups in the Loaded Table

  The slices, the scans and the keys that `main/relay.c` takes its units from
  describe the same partition of the table: the actuators and the sensors
  whose records `init_relay_units_in_memory` has loaded.
-/

open CString Relay Settings

namespace Boot

/-! ### Stored Units -/

/-- NVS holds the two counts, and under its key the record of every channel below
    them. -/
structure HoldsUnits (nvs : Nvs.Store RelayUnit) (counts : Counts)
    (record : RelayType → Nat → RelayUnit) : Prop where
  channel_count : Nvs.readUint16 nvs sNamespace sKeyChannelCount = .ok (counts .actuator)
  sensors_count :
    Nvs.readUint16 nvs sNamespace sKeyContactSensorsCount = .ok (counts .sensor)
  stored : ∀ type, ∀ i < counts type,
    nvs sNamespace (unitKey type i) = some (.blob (record type i))
  type_eq : ∀ type, ∀ i < counts type, (record type i).type = type
  channel_eq : ∀ type, ∀ i < counts type, (record type i).channel = i

/-- The records of the units in use of a type, without driver bookkeeping. -/
def recordsOf (counts : Counts) (record : RelayType → Nat → RelayUnit) (type : RelayType) :
    List RelayUnit :=
  (List.range (counts type)).map fun i => storedCopy (record type i)

variable {b : Board} {counts : Counts} {record : RelayType → Nat → RelayUnit}

theorem getElem?_recordsOf {type : RelayType} {i : Nat} (hi : i < counts type) :
    (recordsOf counts record type)[i]? = some (storedCopy (record type i)) := by
  simp [recordsOf, hi]

@[simp] theorem length_recordsOf (counts : Counts)
    (record : RelayType → Nat → RelayUnit) (type : RelayType) :
    (recordsOf counts record type).length = counts type := by
  simp [recordsOf]

theorem HoldsUnits.nvsReadRelay_ok (h : HoldsUnits b.nvs counts record) {type : RelayType} {i : Nat}
    (hi : i < counts type) : nvsReadRelay b (some (unitKey type i)) = .ok (record type i) := by
  simp [nvsReadRelay, Nvs.readBlob, h.stored type i hi]

/-! ### Loading -/

/-- When every load succeeds, the list is what was loaded. -/
theorem packLoaded_ok (units : List RelayUnit) : packLoaded (units.map Except.ok) = units := by
  have hcount : (units.map Except.ok).countP loadSucceeded = units.length := by
    rw [List.countP_map, List.countP_eq_length]
    intro relay _
    rfl
  have hloaded : (units.map Except.ok).map loadedUnit = units := by
    rw [List.map_map]
    exact List.map_id units
  rw [packLoaded, hcount, hloaded, List.take_length]

/-- The actuators are loaded from their records. -/
theorem HoldsUnits.getRelayList_ok (h : HoldsUnits b.nvs counts record)
    (hlim : counts .actuator ≤ channelLimit .actuator) (hmem : b.unitsInMemory = false) :
    ∃ actuators, getRelayList b = some actuators ∧
      actuators.map storedCopy = recordsOf counts record .actuator := by
  have hloads : loadActuators b (List.range (counts .actuator)) =
      ((List.range (counts .actuator)).map
        fun i => { record .actuator i with ioConf := Gpio.Config.zero }).map Except.ok := by
    rw [loadActuators, List.map_map]
    apply List.map_congr_left
    intro i hi
    have hi' := List.mem_range.mp hi
    rw [getRelayNvsKey_of_lt (by omega), loadRelayActuatorFromNvs, h.nvsReadRelay_ok hi']
    rfl
  refine ⟨packLoaded (loadActuators b (List.range (counts .actuator))), ?_, ?_⟩
  · rw [getRelayList, hmem, h.channel_count]
    rfl
  · rw [hloads, packLoaded_ok, List.map_map]
    rfl

/-- The sensor loop loads the records and touches nothing but the pins. -/
theorem HoldsUnits.loadSensors_ok (env : Env) (channels : List Nat) {b : Board}
    (h : HoldsUnits b.nvs counts record) (hlim : counts .sensor ≤ channelLimit .sensor)
    (hchannels : ∀ i ∈ channels, i < counts .sensor) :
    ∃ (sensors : List RelayUnit) (b' : Board), loadSensors env b channels = (sensors.map Except.ok, b') ∧ OnlyGpio b b' ∧
      sensors.map storedCopy = channels.map fun i => storedCopy (record .sensor i) := by
  induction channels generalizing b with
  | nil => exact ⟨[], b, rfl, OnlyGpio.refl b, rfl⟩
  | cons i channels ih =>
      have hi := hchannels i (by simp)
      have honly := relayGpioInit_onlyGpio env b (record .sensor i)
      have hload : loadRelaySensorFromNvs env b (getContactSensorNvsKey i) =
          (.ok (relayGpioInit env b (record .sensor i)).2.1,
            (relayGpioInit env b (record .sensor i)).2.2) := by
        rw [getContactSensorNvsKey_of_lt (by omega), loadRelaySensorFromNvs, h.nvsReadRelay_ok hi]
      obtain ⟨sensors, b', hrest, honly', hsensors⟩ :=
        ih (b := (relayGpioInit env b (record .sensor i)).2.2) (by rw [honly.nvs]; exact h)
          (fun j hj => hchannels j (by simp [hj]))
      refine ⟨(relayGpioInit env b (record .sensor i)).2.1 :: sensors, b', ?_, honly.trans honly', ?_⟩
      · simp only [loadSensors, hload, hrest, List.map_cons]
      · rw [List.map_cons, List.map_cons, hsensors, storedCopy_relayGpioInit]

theorem HoldsUnits.getContactSensorList_ok (env : Env) (h : HoldsUnits b.nvs counts record)
    (hlim : counts .sensor ≤ channelLimit .sensor) (hmem : b.unitsInMemory = false) :
    ∃ sensors b', getContactSensorList env b = some (sensors, b') ∧
      sensors.map storedCopy = recordsOf counts record .sensor := by
  obtain ⟨sensors, b', hloads, _, hsensors⟩ :=
    h.loadSensors_ok env (List.range (counts .sensor)) hlim (fun i hi => List.mem_range.mp hi)
  refine ⟨sensors, b', ?_, hsensors⟩
  rw [getContactSensorList, hmem, h.sensors_count]
  simp [hloads, packLoaded_ok]

/-! ### The Loaded Table -/

/-- Among the records of one type there are only units of that type. -/
theorem HoldsUnits.countP_recordsOf {nvs : Nvs.Store RelayUnit} (h : HoldsUnits nvs counts record)
    (type type' : RelayType) :
    (recordsOf counts record type').countP (fun relay => relay.type = type) =
      if type' = type then counts type else 0 := by
  have htype : ∀ relay ∈ recordsOf counts record type', relay.type = type' := by
    intro relay hmem
    obtain ⟨i, hi, rfl⟩ := List.mem_map.mp hmem
    exact h.type_eq type' i (List.mem_range.mp hi)
  by_cases heq : type' = type
  · subst heq
    rw [if_pos rfl, ← length_recordsOf counts record type',
      List.countP_eq_length]
    simpa using htype
  · rw [if_neg heq, List.countP_eq_zero]
    intro relay hmem
    simpa [htype relay hmem] using heq

/-- `init_relay_units_in_memory` loads the records into the table, actuators
    first. -/
theorem HoldsUnits.initRelayUnitsInMemory_ok (env : Env) (h : HoldsUnits b.nvs counts record)
    (hlim : ∀ type, counts type ≤ channelLimit type) (hmem : b.unitsInMemory = false) :
    ∃ b', initRelayUnitsInMemory env b = some (.ok, b') ∧
      b'.sUnits.map storedCopy =
        recordsOf counts record .actuator ++ recordsOf counts record .sensor ∧
      LoadedTable b' (counts .actuator) (counts .sensor) := by
  obtain ⟨actuators, hact, hactuators⟩ := h.getRelayList_ok (hlim .actuator) hmem
  obtain ⟨sensors, b₁, hsens, hsensors⟩ := h.getContactSensorList_ok env (hlim .sensor) hmem
  have hall : getAllRelayUnits env b = some (actuators ++ sensors, b₁) := by
    simp [getAllRelayUnits, hmem, hact, hsens]
  have hunits : (actuators ++ sensors).map storedCopy =
      recordsOf counts record .actuator ++ recordsOf counts record .sensor := by
    rw [List.map_append, hactuators, hsensors]
  -- the type and the channel of a unit are those of its record
  have hunit : ∀ (i : Nat) (copy : RelayUnit),
      (recordsOf counts record .actuator ++ recordsOf counts record .sensor)[i]? = some copy →
      ∃ relay, (actuators ++ sensors)[i]? = some relay ∧ relay.type = copy.type ∧
        relay.channel = copy.channel := by
    intro i copy hget
    rw [← hunits, List.getElem?_map, Option.map_eq_some_iff] at hget
    obtain ⟨relay, hrelay, rfl⟩ := hget
    exact ⟨relay, hrelay, rfl, rfl⟩
  have hcount : ∀ type, (actuators ++ sensors).countP (fun relay => relay.type = type) =
      counts type := by
    intro type
    have hcopies : (actuators ++ sensors).countP (fun relay => relay.type = type) =
        ((actuators ++ sensors).map storedCopy).countP (fun relay => relay.type = type) := by
      rw [List.countP_map]
      rfl
    rw [hcopies, hunits, List.countP_append, h.countP_recordsOf, h.countP_recordsOf]
    cases type <;> simp
  unfold initRelayUnitsInMemory
  rw [hall]
  refine ⟨_, rfl, hunits, rfl, ?_, ?_, ?_, hcount .actuator, hcount .sensor⟩
  · rw [← List.length_map (f := storedCopy), hunits]
    simp
  · intro i hi
    obtain ⟨relay, hget, htype, hchannel⟩ := hunit i (storedCopy (record .actuator i)) (by
      rw [List.getElem?_append_left (by simpa using hi), getElem?_recordsOf hi])
    exact ⟨relay, hget, htype.trans (h.type_eq .actuator i hi),
      hchannel.trans (h.channel_eq .actuator i hi)⟩
  · intro i hi
    obtain ⟨relay, hget, htype, hchannel⟩ :=
      hunit (counts .actuator + i) (storedCopy (record .sensor i)) (by
        rw [List.getElem?_append_right (by simp), length_recordsOf, Nat.add_sub_cancel_left,
          getElem?_recordsOf hi])
    exact ⟨relay, hget, htype.trans (h.type_eq .sensor i hi),
      hchannel.trans (h.channel_eq .sensor i hi)⟩

/-! ### Lookups -/

/-- The only entry that satisfies a predicate is the one a scan finds. -/
theorem findIdx?_of_unique {α : Type} {l : List α} {p : α → Bool} {i : Nat} {a : α}
    (hget : l[i]? = some a) (hp : p a = true)
    (hunique : ∀ j a', l[j]? = some a' → p a' = true → j = i) : l.findIdx? p = some i := by
  obtain ⟨hi, rfl⟩ := List.getElem?_eq_some_iff.mp hget
  rw [List.findIdx?_eq_some_iff_getElem]
  refine ⟨hi, hp, ?_⟩
  intro j hji hpj
  have := hunique j _ (List.getElem?_eq_getElem (by omega)) hpj
  omega

/-- The lookups a type selects. -/
def getRelayFromMemoryByChannel (b : Board) (relayType : RelayType) (channel : Int) :
    Except EspErr Nat :=
  match relayType with
  | .actuator => getRelayActuatorFromMemoryByChannel b channel
  | .sensor => getRelaySensorFromMemoryByChannel b channel

section lookups
variable (htab : LoadedTable b (counts .actuator) (counts .sensor))
include htab

/-- Every channel in use has its unit at its place. -/
theorem tableIndex_getElem? {type : RelayType} {c : Nat} (hc : c < counts type) :
    ∃ relay, b.sUnits[tableIndex counts type c]? = some relay ∧ relay.type = type ∧
      relay.channel = c := by
  match type with
  | .actuator => exact htab.actuator c hc
  | .sensor => exact htab.sensor c hc

/-- A unit of the table is at the place of its type and channel. -/
theorem tableIndex_unique {i : Nat} {relay : RelayUnit} (hget : b.sUnits[i]? = some relay) :
    ∃ c < counts relay.type, relay.channel = c ∧ i = tableIndex counts relay.type c := by
  rcases htab.cases hget with ⟨hi, htype, hchannel⟩ | ⟨j, hj, hij, htype, hchannel⟩
  · exact ⟨i, by rwa [htype], hchannel, by rw [htype]; rfl⟩
  · exact ⟨j, by rwa [htype], hchannel, by rw [htype]; exact hij⟩

/-- The scan by channel finds the unit of the channel. -/
theorem getRelayFromMemoryByChannel_tableIndex {type : RelayType} {c : Nat} (hc : c < counts type) :
    getRelayFromMemoryByChannel b type c = .ok (tableIndex counts type c) := by
  obtain ⟨relay, hget, htype, hchannel⟩ := tableIndex_getElem? htab hc
  have hscan : b.sUnits.findIdx?
      (fun relay => relay.type = type ∧ relay.channel = (c : Int)) =
      some (tableIndex counts type c) := by
    apply findIdx?_of_unique hget (by simp [htype, hchannel])
    intro j relay' hget' hp
    simp only [decide_eq_true_eq] at hp
    obtain ⟨c', _, hchannel', hj⟩ := tableIndex_unique htab hget'
    have hcc : c' = c := by omega
    rw [hj, hp.1, hcc]
  have hunit : getUnitFromMemoryByChannel b type c = .ok (tableIndex counts type c) := by
    rw [getUnitFromMemoryByChannel, if_neg (by simp [htab.in_memory]), hscan]
  cases type <;> exact hunit

/-- So does the scan by its key, for the sensors among the tail of the table. -/
theorem getRelayFromMemoryByKey_tableIndex {type : RelayType} {c : Nat} (hc : c < counts type)
    (hlim : ∀ type, counts type ≤ channelLimit type) :
    getRelayFromMemoryByKey b type (unitKey type c) = .ok (tableIndex counts type c) := by
  obtain ⟨relay, hget, htype, hchannel⟩ := tableIndex_getElem? htab hc
  have hkey : getUnitNvsKey relay = some (unitKey type c) :=
    getUnitNvsKey_of_lt (Nat.lt_of_lt_of_le hc (hlim type)) htype hchannel
  -- no other unit of the type has this key
  have hunique : ∀ j relay', b.sUnits[j]? = some relay' → relay'.type = type →
      getUnitNvsKey relay' = some (unitKey type c) → j = tableIndex counts type c := by
    intro j relay' hget' htype' hkey'
    obtain ⟨c', hc', hchannel', hj⟩ := tableIndex_unique htab hget'
    rw [getUnitNvsKey_of_lt (Nat.lt_of_lt_of_le hc' (hlim _)) rfl hchannel', htype'] at hkey'
    rw [hj, htype', (unitKey_inj.mp (Option.some.inj hkey')).2]
  cases type with
  | actuator =>
      rw [getUnitNvsKey, htype] at hkey
      have hscan : b.sUnits.findIdx? (isActuatorWithKey (unitKey .actuator c)) = some c := by
        apply findIdx?_of_unique hget (by simp [isActuatorWithKey, htype, hkey])
        intro j relay' hget' hp
        simp only [isActuatorWithKey, decide_eq_true_eq] at hp
        exact hunique j relay' hget' hp.1 (by rw [getUnitNvsKey, hp.1]; exact hp.2)
      simp [getRelayFromMemoryByKey, getRelayActuatorFromMemoryByKey, htab.in_memory, hscan,
        tableIndex]
  | sensor =>
      rw [getUnitNvsKey, htype] at hkey
      have hstart : b.sUnits.length - b.sSensorsCount = counts .actuator := by
        rw [htab.length, htab.sensors_count]
        omega
      have hscan : (b.sUnits.drop (counts .actuator)).findIdx?
          (isSensorWithKey (unitKey .sensor c)) = some c := by
        apply findIdx?_of_unique (a := relay) (by rw [List.getElem?_drop]; exact hget)
          (by simp [isSensorWithKey, htype, hkey])
        intro j relay' hget' hp
        rw [List.getElem?_drop] at hget'
        simp only [isSensorWithKey, decide_eq_true_eq] at hp
        have hj := hunique _ relay' hget' hp.1 (by rw [getUnitNvsKey, hp.1]; exact hp.2)
        exact Nat.add_left_cancel hj
      simp [getRelayFromMemoryByKey, getRelaySensorFromMemoryByKey, htab.in_memory, hstart, hscan,
        tableIndex]

/-- A unit that is found under a key is that of a channel in use, and the key is its
    own. -/
theorem tableIndex_of_byKey {type : RelayType} {key : CStr} {i : Nat}
    (hlim : ∀ type, counts type ≤ channelLimit type)
    (h : getRelayFromMemoryByKey b type key = .ok i) :
    ∃ c < counts type, i = tableIndex counts type c ∧ key = unitKey type c ∧
      ∃ relay, b.sUnits[i]? = some relay ∧ relay.type = type ∧ getUnitNvsKey relay = some key := by
  have hget : ∃ relay, b.sUnits[i]? = some relay := by
    match type with
    | .actuator =>
        obtain ⟨_, relay, hget, _⟩ := getRelayActuatorFromMemoryByKey_eq_ok h
        exact ⟨relay, hget⟩
    | .sensor =>
        obtain ⟨_, relay, hget, _⟩ := getRelaySensorFromMemoryByKey_eq_ok h
        exact ⟨relay, hget⟩
  obtain ⟨relay, hget⟩ := hget
  obtain ⟨htype, hkey⟩ := getRelayFromMemoryByKey_eq_ok h hget
  obtain ⟨c, hc, hchannel, hi⟩ := tableIndex_unique htab hget
  rw [htype] at hc hi
  have hown := getUnitNvsKey_of_lt (Nat.lt_of_lt_of_le hc (hlim type)) htype hchannel
  rw [hkey] at hown
  exact ⟨c, hc, hi, Option.some.inj hown, relay, hget, htype, hkey⟩

/-- The slices of the table: its actuators, its sensors, and all of it. -/
theorem lists_of_loadedTable (env : Env) :
    getRelayList b = some (b.sUnits.take (counts .actuator)) ∧
      getContactSensorList env b = some (b.sUnits.drop (counts .actuator), b) ∧
      getAllRelayUnits env b = some (b.sUnits, b) := by
  have hsensors : (b.sUnits.drop (counts .actuator)).take (counts .sensor) =
      b.sUnits.drop (counts .actuator) := by
    apply List.take_of_length_le
    rw [List.length_drop, htab.length]
    omega
  refine ⟨?_, ?_, ?_⟩
  · simp [getRelayList, htab.in_memory, htab.relays_count]
  · simp [getContactSensorList, htab.in_memory, htab.relays_count, htab.sensors_count, hsensors]
  · simp [getAllRelayUnits, htab.in_memory]

end lookups

/-! ### Main Theorem -/

/-- What the lists and the lookups of a board say about its units. -/
structure ExactLookups (b : Board) (counts : Counts)
    (record : RelayType → Nat → RelayUnit) : Prop where
  /-- The lists are the actuators and the sensors, and make up the list of all units. -/
  lists : ∀ env, ∃ actuators sensors, getRelayList b = some actuators ∧
    getContactSensorList env b = some (sensors, b) ∧
    getAllRelayUnits env b = some (actuators ++ sensors, b) ∧
    actuators.map storedCopy = recordsOf counts record .actuator ∧
    sensors.map storedCopy = recordsOf counts record .sensor
  /-- A key is found exactly if it is the key of a channel in use. -/
  found_iff : ∀ type key, (∃ i, getRelayFromMemoryByKey b type key = .ok i) ↔
    ∃ c < counts type, key = unitKey type c
  /-- What is found is the unit of that channel, and the key is its own. -/
  found : ∀ type key i, getRelayFromMemoryByKey b type key = .ok i →
    ∃ c < counts type, key = unitKey type c ∧
      getRelayFromMemoryByChannel b type c = .ok i ∧
      ∃ relay, b.sUnits[i]? = some relay ∧ storedCopy relay = storedCopy (record type c) ∧
        getUnitNvsKey relay = some key

/-- Where the table has the record of a channel. -/
theorem getElem?_tableIndex {type : RelayType} {c : Nat} (hc : c < counts type) :
    (recordsOf counts record .actuator ++ recordsOf counts record .sensor)[tableIndex counts type
      c]? = some (storedCopy (record type c)) := by
  match type with
  | .actuator =>
      rw [tableIndex, List.getElem?_append_left (by simpa using hc), getElem?_recordsOf hc]
  | .sensor =>
      rw [tableIndex, List.getElem?_append_right (by simp), length_recordsOf,
        Nat.add_sub_cancel_left, getElem?_recordsOf hc]

/-- After `init_relay_units_in_memory` on records for the counts, whatever the driver
    answers, the in-memory lists and lookups are exact. -/
theorem initRelayUnitsInMemory_exact (env : Env) (b : Board) (counts : Counts)
    (record : RelayType → Nat → RelayUnit) (hlim : ∀ type, counts type ≤ channelLimit type)
    (hmem : b.unitsInMemory = false) (hrecords : HoldsUnits b.nvs counts record) :
    ∃ b', initRelayUnitsInMemory env b = some (.ok, b') ∧ ExactLookups b' counts record := by
  obtain ⟨b', hinit, hunits, htab⟩ := hrecords.initRelayUnitsInMemory_ok env hlim hmem
  refine ⟨b', hinit, ?_, ?_, ?_⟩
  · intro env'
    obtain ⟨hact, hsens, hall⟩ := lists_of_loadedTable htab env'
    refine ⟨_, _, hact, hsens, ?_, ?_, ?_⟩
    · rw [List.take_append_drop, hall]
    · rw [List.map_take, hunits, List.take_left' (length_recordsOf counts record .actuator)]
    · rw [List.map_drop, hunits, List.drop_left' (length_recordsOf counts record .actuator)]
  · intro type key
    constructor
    · rintro ⟨i, h⟩
      obtain ⟨c, hc, _, hkey, _⟩ := tableIndex_of_byKey htab hlim h
      exact ⟨c, hc, hkey⟩
    · rintro ⟨c, hc, rfl⟩
      exact ⟨_, getRelayFromMemoryByKey_tableIndex htab hc hlim⟩
  · intro type key i h
    obtain ⟨c, hc, hi, hkey, relay, hget, _, hown⟩ := tableIndex_of_byKey htab hlim h
    refine ⟨c, hc, hkey, ?_, relay, hget, ?_, hown⟩
    · rw [getRelayFromMemoryByChannel_tableIndex htab hc, hi]
    · have hcopy : _ = some (storedCopy (record type c)) := getElem?_tableIndex hc
      rw [← hunits, ← hi, List.getElem?_map, hget] at hcopy
      exact Option.some.inj hcopy

/-- NVS with one actuator and one sensor. -/
def oneOfEach : Nvs.Store RelayUnit :=
  Nvs.setAll Nvs.empty sNamespace
    [(sKeyChannelCount, .u16 1), (sKeyContactSensorsCount, .u16 1),
      (unitKey .actuator 0, .blob (freshUnit .actuator 0 4)),
      (unitKey .sensor 0, .blob (freshUnit .sensor 0 4))]

theorem initRelayUnitsInMemory_exact_oneOfEach :
    ∃ b', initRelayUnitsInMemory Env.ok (Board.reset oneOfEach Gpio.State.initial) =
      some (.ok, b') ∧ ExactLookups b' (fun _ => 1) (fun type i => freshUnit type i 4) := by
  have hzero : ∀ i : Nat, i < 1 → i = 0 := by omega
  refine initRelayUnitsInMemory_exact Env.ok _ _ _ ?_ rfl ⟨?_, ?_, ?_, ?_, ?_⟩
  · intro type
    cases type <;> decide
  · decide +kernel
  · decide +kernel
  · intro type i hi
    rw [hzero i hi]
    cases type <;> decide +kernel
  · exact fun type i _ => rfl
  · exact fun type i _ => rfl

end Boot
