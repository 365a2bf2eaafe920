import Mathlib.Data.List.Nodup
import RelayBoard.Relay.Board

/-! # Unit Lists and Lookups

  Where `main/relay.c` gets its units from: the in-memory table `s_units`
  once `BIT_UNITS_IN_MEMORY` is set, the NVS records below the configured
  counts before. The scan for a free pin goes through the same lists.
-/

open CString Settings

namespace Relay

/-! ### Lists of Units -/

/-- The unit a load leaves in its place of the zeroed array. -/
def loadedUnit : Except EspErr RelayUnit → RelayUnit
  | .ok relay => relay
  | .error _ => RelayUnit.zero

/-- Did a load succeed? -/
def loadSucceeded : Except EspErr RelayUnit → Bool
  | .ok _ => true
  | .error _ => false

/-- A list filled by index, with the number of loads that succeeded: what a
    caller reads is the first `count` entries of the zeroed array. -/
def packLoaded (loads : List (Except EspErr RelayUnit)) : List RelayUnit :=
  (loads.map loadedUnit).take (loads.countP loadSucceeded)

/-- The loading loop of `get_relay_list`. -/
def loadActuators (b : Board) (channels : List Nat) : List (Except EspErr RelayUnit) :=
  channels.map fun (channel : Nat) => loadRelayActuatorFromNvs b (getRelayNvsKey channel)

/-- The loading loop of `get_contact_sensor_list`: each load initializes a pin. -/
def loadSensors (env : Env) : Board → List Nat → List (Except EspErr RelayUnit) × Board
  | b, [] => ([], b)
  | b, channel :: channels =>
      let (load, b) := loadRelaySensorFromNvs env b (getContactSensorNvsKey channel)
      let (loads, b) := loadSensors env b channels
      (load :: loads, b)

/-- `get_relay_list`. -/
def getRelayList (b : Board) : Option (List RelayUnit) :=
  if b.unitsInMemory then some (b.sUnits.take b.sRelaysCount)
  else
    match Nvs.readUint16 b.nvs sNamespace sKeyChannelCount with
    | .error _ => none
    | .ok relayChCount => some (packLoaded (loadActuators b (List.range relayChCount)))

/-- `get_contact_sensor_list`. -/
def getContactSensorList (env : Env) (b : Board) : Option (List RelayUnit × Board) :=
  if b.unitsInMemory then some ((b.sUnits.drop b.sRelaysCount).take b.sSensorsCount, b)
  else
    match Nvs.readUint16 b.nvs sNamespace sKeyContactSensorsCount with
    | .error _ => none
    | .ok count =>
        let (loads, b) := loadSensors env b (List.range count)
        some (packLoaded loads, b)

/-- `get_all_relay_units`: actuators first, then sensors. -/
def getAllRelayUnits (env : Env) (b : Board) : Option (List RelayUnit × Board) :=
  if b.unitsInMemory then some (b.sUnits, b)
  else
    match getRelayList b with
    | none => none
    | some actuators =>
        match getContactSensorList env b with
        | none => none
        | some (sensors, b) => some (actuators ++ sensors, b)

/-! ### Free Pins -/

/-- `is_gpio_pin_in_use`. Once the units are in memory the list it frees is
    `s_units` itself. -/
def isGpioPinInUse (env : Env) (b : Board) (pin : Int) : Option (Bool × Board) :=
  match getAllRelayUnits env b with
  | none => none
  | some (relayList, b) =>
      if relayList.length < 1 then some (false, b)
      else
        some (relayList.any (fun relay => relay.gpioPin == pin),
          { b with sUnitsFreed := b.sUnitsFreed || b.unitsInMemory })

/-- The loop of `get_next_available_safe_gpio_pin`. -/
def findFreePin (env : Env) : List Int → Board → Option (Int × Board)
  | [], b => some (-1, b)
  | pin :: pins, b =>
      match isGpioPinInUse env b pin with
      | none => none
      | some (true, b) => findFreePin env pins b
      | some (false, b) => some (pin, b)

/-- `get_next_available_safe_gpio_pin`. -/
def getNextAvailableSafeGpioPin (env : Env) (b : Board) : Option (Int × Board) :=
  findFreePin env safeGpioPins b

/-! ### The In-Memory Table -/

/-- `init_relay_units_in_memory`. -/
def initRelayUnitsInMemory (env : Env) (b : Board) : Option (EspErr × Board) :=
  match getAllRelayUnits env b with
  | none => none
  | some (units, b) =>
      some (.ok, { b with
        sUnits := units
        sRelaysCount := units.countP (fun relay => relay.type = .actuator)
        sSensorsCount := units.countP (fun relay => relay.type = .sensor)
        unitsInMemory := true })

/-- The scan of `get_relay_actuator_from_memory_by_channel` and
    `get_relay_sensor_from_memory_by_channel`: the index of the unit in `s_units`. -/
def getUnitFromMemoryByChannel (b : Board) (relayType : RelayType) (channel : Int) :
    Except EspErr Nat :=
  if b.unitsInMemory = false then .error .invalidState
  else
    match b.sUnits.findIdx? (fun relay => relay.type = relayType ∧ relay.channel = channel) with
    | some i => .ok i
    | none => .error .notFound

/-- `get_relay_actuator_from_memory_by_channel`. -/
def getRelayActuatorFromMemoryByChannel (b : Board) (channel : Int) : Except EspErr Nat :=
  getUnitFromMemoryByChannel b .actuator channel

/-- `get_relay_sensor_from_memory_by_channel`. -/
def getRelaySensorFromMemoryByChannel (b : Board) (channel : Int) : Except EspErr Nat :=
  getUnitFromMemoryByChannel b .sensor channel

/-- Is this the actuator stored under `key`? -/
def isActuatorWithKey (key : CStr) (relay : RelayUnit) : Bool :=
  relay.type = .actuator ∧ getRelayNvsKey relay.channel = some key

/-- Is this the sensor stored under `key`? -/
def isSensorWithKey (key : CStr) (relay : RelayUnit) : Bool :=
  relay.type = .sensor ∧ getContactSensorNvsKey relay.channel = some key

/-- `get_relay_actuator_from_memory_by_key`: the index of the unit in `s_units`. -/
def getRelayActuatorFromMemoryByKey (b : Board) (key : CStr) : Except EspErr Nat :=
  if b.unitsInMemory = false then .error .invalidState
  else
    match b.sUnits.findIdx? (isActuatorWithKey key) with
    | some i => .ok i
    | none => .error .notFound

/-- `get_relay_sensor_from_memory_by_key`: the scan starts behind the actuators. -/
def getRelaySensorFromMemoryByKey (b : Board) (key : CStr) : Except EspErr Nat :=
  if b.unitsInMemory = false then .error .invalidState
  else
    let start := b.sUnits.length - b.sSensorsCount
    match (b.sUnits.drop start).findIdx? (isSensorWithKey key) with
    | some i => .ok (start + i)
    | none => .error .notFound

/-- The units of the table have pairwise distinct pins. -/
def PinsDistinct (b : Board) : Prop := (b.sUnits.map RelayUnit.gpioPin).Nodup

instance (b : Board) : Decidable (PinsDistinct b) :=
  inferInstanceAs (Decidable (b.sUnits.map RelayUnit.gpioPin).Nodup)

theorem PinsDistinct.gpioPin_ne {b : Board} (h : PinsDistinct b) {i j : Nat}
    {relay other : RelayUnit} (hi : b.sUnits[i]? = some relay) (hj : b.sUnits[j]? = some other)
    (hne : i ≠ j) : relay.gpioPin ≠ other.gpioPin := by
  have hpin : ∀ {i : Nat} {relay : RelayUnit}, b.sUnits[i]? = some relay →
      (b.sUnits.map RelayUnit.gpioPin)[i]? = some relay.gpioPin := by
    intro i relay hget
    rw [List.getElem?_map, hget]
    rfl
  intro heq
  obtain ⟨_, h₁⟩ := List.getElem?_eq_some_iff.mp (hpin hi)
  obtain ⟨_, h₂⟩ := List.getElem?_eq_some_iff.mp (hpin hj)
  exact hne ((List.Nodup.getElem_inj_iff h).mp (h₁.trans (heq.trans h₂.symm)))

/-! ### Lookup Lemmas -/

theorem getRelayActuatorFromMemoryByKey_eq_ok {b : Board} {key : CStr} {i : Nat}
    (h : getRelayActuatorFromMemoryByKey b key = .ok i) :
    b.unitsInMemory = true ∧ ∃ relay, b.sUnits[i]? = some relay ∧ relay.type = .actuator ∧
      getRelayNvsKey relay.channel = some key := by
  unfold getRelayActuatorFromMemoryByKey at h
  split at h
  · cases h
  · next hmem =>
      split at h
      · next j hj =>
          cases h
          obtain ⟨hlt, hp, _⟩ := List.findIdx?_eq_some_iff_getElem.mp hj
          refine ⟨by simpa using hmem, b.sUnits[i], List.getElem?_eq_getElem hlt, ?_⟩
          simpa [isActuatorWithKey] using hp
      · cases h

theorem getRelaySensorFromMemoryByKey_eq_ok {b : Board} {key : CStr} {i : Nat}
    (h : getRelaySensorFromMemoryByKey b key = .ok i) :
    b.unitsInMemory = true ∧ ∃ relay, b.sUnits[i]? = some relay ∧ relay.type = .sensor ∧
      getContactSensorNvsKey relay.channel = some key := by
  unfold getRelaySensorFromMemoryByKey at h
  split at h
  · cases h
  · next hmem =>
      dsimp only at h
      split at h
      · next j hj =>
          cases h
          obtain ⟨hlt, hp, _⟩ := List.findIdx?_eq_some_iff_getElem.mp hj
          have hget := List.getElem?_eq_getElem hlt
          rw [List.getElem?_drop] at hget
          exact ⟨by simpa using hmem, _, hget, by simpa [isSensorWithKey] using hp⟩
      · cases h

/-! ### The Loaded Table -/

/-- The table as loaded for `n` actuators and `m` sensors: actuators first, both
    in channel order. -/
structure LoadedTable (b : Board) (n m : Nat) : Prop where
  in_memory : b.unitsInMemory = true
  length : b.sUnits.length = n + m
  actuator : ∀ i < n, ∃ relay, b.sUnits[i]? = some relay ∧ relay.type = .actuator ∧
    relay.channel = i
  sensor : ∀ i < m, ∃ relay, b.sUnits[n + i]? = some relay ∧ relay.type = .sensor ∧
    relay.channel = i
  relays_count : b.sRelaysCount = n
  sensors_count : b.sSensorsCount = m

/-- A unit of the table is one of the actuators or one of the sensors. -/
theorem LoadedTable.cases {b : Board} {n m : Nat} (htab : LoadedTable b n m) {i : Nat}
    {relay : RelayUnit} (hget : b.sUnits[i]? = some relay) :
    (i < n ∧ relay.type = .actuator ∧ relay.channel = i) ∨
      (∃ j < m, i = n + j ∧ relay.type = .sensor ∧ relay.channel = j) := by
  have hlt : i < n + m := by
    have := (List.getElem?_eq_some_iff.mp hget).1
    rwa [htab.length] at this
  by_cases h : i < n
  · obtain ⟨relay', hget', htype, hch⟩ := htab.actuator i h
    rw [hget] at hget'
    cases hget'
    exact Or.inl ⟨h, htype, hch⟩
  · obtain ⟨relay', hget', htype, hch⟩ := htab.sensor (i - n) (by omega)
    rw [show n + (i - n) = i by omega, hget] at hget'
    cases hget'
    exact Or.inr ⟨i - n, by omega, by omega, htype, hch⟩

/-- The type and the channel of a unit. -/
def RelayUnit.place (relay : RelayUnit) : RelayType × Int := (relay.type, relay.channel)

/-- A table with the types and channels of a loaded one. -/
theorem LoadedTable.of_places {b b' : Board} {n m : Nat} (htab : LoadedTable b n m)
    (hmem : b'.unitsInMemory = b.unitsInMemory) (hrelays : b'.sRelaysCount = b.sRelaysCount)
    (hsensors : b'.sSensorsCount = b.sSensorsCount)
    (hplaces : b'.sUnits.map RelayUnit.place = b.sUnits.map RelayUnit.place) :
    LoadedTable b' n m := by
  have hunit : ∀ (i : Nat) (relay : RelayUnit), b.sUnits[i]? = some relay →
      ∃ relay', b'.sUnits[i]? = some relay' ∧ relay'.type = relay.type ∧
        relay'.channel = relay.channel := by
    intro i relay hget
    have hplace : (b'.sUnits.map RelayUnit.place)[i]? = some relay.place := by
      rw [hplaces, List.getElem?_map, hget]
      rfl
    rw [List.getElem?_map] at hplace
    obtain ⟨relay', hget', heq⟩ := Option.map_eq_some_iff.mp hplace
    exact ⟨relay', hget', congrArg Prod.fst heq, congrArg Prod.snd heq⟩
  refine ⟨hmem.trans htab.in_memory, ?_, ?_, ?_, hrelays.trans htab.relays_count,
    hsensors.trans htab.sensors_count⟩
  · have hlength := congrArg List.length hplaces
    simpa [htab.length] using hlength
  · intro i hi
    obtain ⟨relay, hget, htype, hchannel⟩ := htab.actuator i hi
    obtain ⟨relay', hget', htype', hchannel'⟩ := hunit i relay hget
    exact ⟨relay', hget', htype'.trans htype, hchannel'.trans hchannel⟩
  · intro i hi
    obtain ⟨relay, hget, htype, hchannel⟩ := htab.sensor i hi
    obtain ⟨relay', hget', htype', hchannel'⟩ := hunit (n + i) relay hget
    exact ⟨relay', hget', htype'.trans htype, hchannel'.trans hchannel⟩

/-- What is read off the units is the same if it is the same of a replaced one. -/
theorem map_set_of_eq {α β : Type} (f : α → β) {l : List α} {i : Nat} {a a' : α}
    (hget : l[i]? = some a) (hsame : f a' = f a) : (l.set i a').map f = l.map f := by
  have hold : (l.map f)[i]? = some (f a) := by
    rw [List.getElem?_map, hget]
    rfl
  obtain ⟨_, hvalue⟩ := List.getElem?_eq_some_iff.mp hold
  rw [List.map_set, hsame, ← hvalue, List.set_getElem_self]

/-- A replaced unit is at its index. -/
theorem units_replaced_self {b b' : Board} {i : Nat} {relay relay' : RelayUnit}
    (hunits : b'.sUnits = b.sUnits.set i relay') (hget : b.sUnits[i]? = some relay) :
    b'.sUnits[i]? = some relay' := by
  rw [hunits]
  exact List.getElem?_set_self (List.getElem?_eq_some_iff.mp hget).1

/-- The units at the other indices stay. -/
theorem units_replaced_ne {b b' : Board} {i j : Nat} {relay' : RelayUnit}
    (hunits : b'.sUnits = b.sUnits.set i relay') (hj : j ≠ i) :
    b'.sUnits[j]? = b.sUnits[j]? := by
  rw [hunits]
  exact List.getElem?_set_ne (Ne.symm hj)

/-- A table in which one unit is replaced by one of its type and channel. -/
theorem LoadedTable.set {b b' : Board} {n m i : Nat} (htab : LoadedTable b n m)
    {relay relay' : RelayUnit} (hget : b.sUnits[i]? = some relay)
    (hplace : relay'.place = relay.place) (hunits : b'.sUnits = b.sUnits.set i relay')
    (hmem : b'.unitsInMemory = b.unitsInMemory) (hrelays : b'.sRelaysCount = b.sRelaysCount)
    (hsensors : b'.sSensorsCount = b.sSensorsCount) : LoadedTable b' n m := by
  refine htab.of_places hmem hrelays hsensors ?_
  rw [hunits, map_set_of_eq _ hget hplace]

/-- Every unit of a table within the channel bounds has a key. -/
theorem LoadedTable.key {b : Board} {n m : Nat} (htab : LoadedTable b n m) (hn : n ≤ 16)
    (hm : m ≤ 9) {relay : RelayUnit} (hmem : relay ∈ b.sUnits) :
    ∃ key, getUnitNvsKey relay = some key := by
  obtain ⟨i, hget⟩ := List.getElem?_of_mem hmem
  rcases htab.cases hget with ⟨hi, htype, hch⟩ | ⟨j, hj, _, htype, hch⟩
  · simp only [getUnitNvsKey, htype, hch, getRelayNvsKey_natCast]
    exact ⟨_, if_pos (by omega)⟩
  · simp only [getUnitNvsKey, htype, hch, getContactSensorNvsKey_natCast]
    exact ⟨_, if_pos (by omega)⟩

/-- The lookups a type selects. -/
def getRelayFromMemoryByKey (b : Board) (relayType : RelayType) (key : CStr) :
    Except EspErr Nat :=
  match relayType with
  | .actuator => getRelayActuatorFromMemoryByKey b key
  | .sensor => getRelaySensorFromMemoryByKey b key

/-- Every unit of the table is found under its key. -/
theorem LoadedTable.lookup {b : Board} {n m : Nat} (htab : LoadedTable b n m)
    {relay : RelayUnit} (hmem : relay ∈ b.sUnits) {key : CStr}
    (hkey : getUnitNvsKey relay = some key) :
    ∃ i, getRelayFromMemoryByKey b relay.type key = .ok i := by
  obtain ⟨i, hget⟩ := List.getElem?_of_mem hmem
  rcases htab.cases hget with ⟨_, htype, _⟩ | ⟨j, hj, hij, htype, _⟩
  · rw [getUnitNvsKey, htype] at hkey
    have hsome : (b.sUnits.findIdx? (isActuatorWithKey key)).isSome = true := by
      rw [List.findIdx?_isSome, List.any_eq_true]
      exact ⟨relay, hmem, by simp [isActuatorWithKey, htype, hkey]⟩
    obtain ⟨k, hk⟩ := Option.isSome_iff_exists.mp hsome
    refine ⟨k, ?_⟩
    simp [htype, getRelayFromMemoryByKey, getRelayActuatorFromMemoryByKey, htab.in_memory, hk]
  · rw [getUnitNvsKey, htype] at hkey
    have hstart : b.sUnits.length - b.sSensorsCount = n := by
      rw [htab.length, htab.sensors_count]
      omega
    have hdrop : relay ∈ b.sUnits.drop n := by
      apply List.mem_of_getElem? (i := j)
      rw [List.getElem?_drop, ← hij]
      exact hget
    have hsome : ((b.sUnits.drop n).findIdx? (isSensorWithKey key)).isSome = true := by
      rw [List.findIdx?_isSome, List.any_eq_true]
      exact ⟨relay, hdrop, by simp [isSensorWithKey, htype, hkey]⟩
    obtain ⟨k, hk⟩ := Option.isSome_iff_exists.mp hsome
    refine ⟨n + k, ?_⟩
    simp [htype, getRelayFromMemoryByKey, getRelaySensorFromMemoryByKey, htab.in_memory,
      hstart, hk]

/-- A unit that is found lies under the key it was looked up by. -/
theorem getRelayFromMemoryByKey_eq_ok {b : Board} {relayType : RelayType} {key : CStr}
    {i : Nat} {relay : RelayUnit} (h : getRelayFromMemoryByKey b relayType key = .ok i)
    (hget : b.sUnits[i]? = some relay) :
    relay.type = relayType ∧ getUnitNvsKey relay = some key := by
  unfold getUnitNvsKey
  cases relayType with
  | actuator =>
      obtain ⟨_, relay', hget', htype, hkey⟩ := getRelayActuatorFromMemoryByKey_eq_ok h
      rw [hget] at hget'
      cases hget'
      rw [htype]
      exact ⟨rfl, hkey⟩
  | sensor =>
      obtain ⟨_, relay', hget', htype, hkey⟩ := getRelaySensorFromMemoryByKey_eq_ok h
      rw [hget] at hget'
      cases hget'
      rw [htype]
      exact ⟨rfl, hkey⟩

end Relay
