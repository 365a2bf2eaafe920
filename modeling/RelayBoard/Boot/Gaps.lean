import RelayBoard.Boot.UnitBook
import RelayBoard.Framework.Packing

/-! # Gaps in the Stored Units

  A list of units is loaded by channel into a zeroed array, but copied by the number of
  records found. The file determines on which contents of NVS this loses or invents
  units, whatever the records are.
-/

open CString Packing Relay Settings

namespace Boot

/-! ### Records -/

/-- The record of a channel, if there is one that can be read. -/
def unitRecord (nvs : Nvs.Store RelayUnit) (type : RelayType) (channel : Nat) :
    Option RelayUnit :=
  match nvs sNamespace (unitKey type channel) with
  | some (.blob relay) => some relay
  | _ => none

/-- The records below a count, in the order of the channels. -/
def presentRecords (nvs : Nvs.Store RelayUnit) (type : RelayType) (count : Nat) :
    List RelayUnit :=
  (List.range count).filterMap (unitRecord nvs type)

/-- Behind a missing record below the count, a record that is there holds zero bytes. -/
def GapFree (nvs : Nvs.Store RelayUnit) (type : RelayType) (count : Nat) : Prop :=
  ∀ i j, i < j → j < count → unitRecord nvs type i = none →
    ∀ relay, unitRecord nvs type j = some relay → storedCopy relay = RelayUnit.zero

/-- A record as a slot of the array, driver bookkeeping aside. -/
def recordSlot (nvs : Nvs.Store RelayUnit) (type : RelayType) (channel : Nat) :
    Option RelayUnit :=
  (unitRecord nvs type channel).map storedCopy

/-- A load as a slot of the array. -/
def loadSlot : Except EspErr RelayUnit → Option RelayUnit
  | .ok relay => some (storedCopy relay)
  | .error _ => none

/-- A record that is there is read. -/
theorem nvsReadRelay_of_some {b : Board} {type : RelayType} {channel : Nat} {relay : RelayUnit}
    (h : unitRecord b.nvs type channel = some relay) :
    nvsReadRelay b (some (unitKey type channel)) = .ok relay := by
  show Nvs.readBlob b.nvs sNamespace (unitKey type channel) = _
  unfold unitRecord at h
  unfold Nvs.readBlob
  split at h
  · next hvalue =>
      rw [hvalue]
      cases h
      rfl
  · cases h

/-- One that is not there cannot be read. -/
theorem nvsReadRelay_of_none {b : Board} {type : RelayType} {channel : Nat}
    (h : unitRecord b.nvs type channel = none) :
    ∃ err, nvsReadRelay b (some (unitKey type channel)) = .error err := by
  show ∃ err, Nvs.readBlob b.nvs sNamespace (unitKey type channel) = .error err
  unfold unitRecord at h
  unfold Nvs.readBlob
  split
  · next hvalue =>
      rw [hvalue] at h
      cases h
  · exact ⟨_, rfl⟩
  · exact ⟨_, rfl⟩

/-! ### Loads -/

/-- The list that is handed out, driver bookkeeping aside. -/
theorem packLoaded_map_storedCopy (loads : List (Except EspErr RelayUnit)) :
    (packLoaded loads).map storedCopy = packed RelayUnit.zero (loads.map loadSlot) := by
  have hunit : ∀ load, storedCopy (loadedUnit load) = (loadSlot load).getD RelayUnit.zero := by
    intro load
    cases load <;> rfl
  have hcount : loads.countP loadSucceeded = (loads.map loadSlot).reduceOption.length := by
    induction loads with
    | nil => rfl
    | cons load loads ih =>
        cases load with
        | ok relay =>
            rw [List.countP_cons_of_pos rfl, List.map_cons, loadSlot,
              List.reduceOption_cons_of_some, List.length_cons, ih]
        | error err =>
            rw [List.countP_cons_of_neg Bool.false_ne_true, List.map_cons, loadSlot,
              List.reduceOption_cons_of_none, ih]
  unfold packLoaded packed
  rw [List.map_take, hcount, List.map_map, List.map_map]
  congr 1
  exact List.map_congr_left fun load _ => hunit load

/-- The actuator loop fills the slots of its records. -/
theorem loadActuators_slots (b : Board) {count : Nat} (hlim : count ≤ channelLimit .actuator) :
    (loadActuators b (List.range count)).map loadSlot =
      (List.range count).map (recordSlot b.nvs .actuator) := by
  unfold loadActuators
  rw [List.map_map]
  apply List.map_congr_left
  intro channel hchannel
  have hlt := List.mem_range.mp hchannel
  show loadSlot (loadRelayActuatorFromNvs b (getRelayNvsKey channel)) = _
  rw [getRelayNvsKey_of_lt (by omega), loadRelayActuatorFromNvs, recordSlot]
  cases hrecord : unitRecord b.nvs .actuator channel with
  | some relay =>
      rw [nvsReadRelay_of_some hrecord]
      rfl
  | none =>
      obtain ⟨err, herr⟩ := nvsReadRelay_of_none hrecord
      rw [herr]
      rfl

/-- So does the sensor loop; it sets up pins and leaves NVS. -/
theorem loadSensors_slots (env : Env) {channels : List Nat} (b : Board)
    (hlim : ∀ channel ∈ channels, channel < channelLimit .sensor) :
    (loadSensors env b channels).1.map loadSlot =
      channels.map (recordSlot b.nvs .sensor) := by
  induction channels generalizing b with
  | nil => rfl
  | cons channel channels ih =>
      have hkey := getContactSensorNvsKey_of_lt (hlim channel List.mem_cons_self)
      have hrest := fun b => ih b fun c hc => hlim c (List.mem_cons_of_mem _ hc)
      cases hrecord : unitRecord b.nvs .sensor channel with
      | some relay =>
          have hload : loadRelaySensorFromNvs env b (getContactSensorNvsKey channel) =
              (.ok (relayGpioInit env b relay).2.1, (relayGpioInit env b relay).2.2) := by
            rw [hkey, loadRelaySensorFromNvs, nvsReadRelay_of_some hrecord]
          have hnvs := (relayGpioInit_onlyGpio env b relay).nvs
          simp only [loadSensors, hload, List.map_cons, hrest, hnvs, loadSlot,
            storedCopy_relayGpioInit, recordSlot, hrecord, Option.map_some]
      | none =>
          obtain ⟨err, herr⟩ := nvsReadRelay_of_none hrecord
          have hload : loadRelaySensorFromNvs env b (getContactSensorNvsKey channel) =
              (.error err, b) := by
            rw [hkey, loadRelaySensorFromNvs, herr]
          simp only [loadSensors, hload, List.map_cons, hrest, loadSlot, recordSlot, hrecord,
            Option.map_none]

/-! ### Lists -/

/-- The slots that are filled are the records that are there. -/
theorem reduceOption_slots (nvs : Nvs.Store RelayUnit) (type : RelayType) (count : Nat) :
    ((List.range count).map (recordSlot nvs type)).reduceOption =
      (presentRecords nvs type count).map storedCopy := by
  unfold presentRecords List.reduceOption
  rw [List.filterMap_map, List.map_filterMap]
  rfl

theorem noGap_slots_iff (nvs : Nvs.Store RelayUnit) (type : RelayType) (count : Nat) :
    NoGap RelayUnit.zero ((List.range count).map (recordSlot nvs type)) ↔
      GapFree nvs type count := by
  unfold NoGap
  rw [List.pairwise_iff_getElem]
  simp only [List.length_map, List.length_range, List.getElem_map, List.getElem_range]
  constructor
  · intro h i j hij hj hnone relay hrelay
    refine h i j (by omega) hj hij ?_ _ ?_
    · rw [recordSlot, hnone]
      rfl
    · rw [recordSlot, hrelay]
      rfl
  · intro h i j _ hj hij hnone relay hrelay
    obtain ⟨record, hrecord, rfl⟩ := Option.map_eq_some_iff.mp hrelay
    exact h i j hij hj (Option.map_eq_none_iff.mp hnone) record hrecord

/-- What `get_all_relay_units` hands out, driver bookkeeping aside. -/
theorem getAllRelayUnits_eq_packed (env : Env) {b : Board} (hmem : b.unitsInMemory = false)
    {count : RelayType → Nat}
    (hactuators : Nvs.readUint16 b.nvs sNamespace sKeyChannelCount = .ok (count .actuator))
    (hsensors : Nvs.readUint16 b.nvs sNamespace sKeyContactSensorsCount = .ok (count .sensor))
    (hlim : ∀ type, count type ≤ channelLimit type) :
    ∃ units b', getAllRelayUnits env b = some (units, b') ∧ units.map storedCopy =
      packed RelayUnit.zero ((List.range (count .actuator)).map (recordSlot b.nvs .actuator)) ++
        packed RelayUnit.zero ((List.range (count .sensor)).map (recordSlot b.nvs .sensor)) := by
  have hlist : getRelayList b =
      some (packLoaded (loadActuators b (List.range (count .actuator)))) := by
    rw [getRelayList, hmem, hactuators]
    rfl
  have hlist' : getContactSensorList env b =
      some (packLoaded (loadSensors env b (List.range (count .sensor))).1,
        (loadSensors env b (List.range (count .sensor))).2) := by
    rw [getContactSensorList, hmem, hsensors]
    rfl
  refine ⟨packLoaded (loadActuators b (List.range (count .actuator))) ++
    packLoaded (loadSensors env b (List.range (count .sensor))).1,
    (loadSensors env b (List.range (count .sensor))).2, ?_, ?_⟩
  · rw [getAllRelayUnits, hmem, hlist, hlist']
    rfl
  · rw [List.map_append, packLoaded_map_storedCopy, packLoaded_map_storedCopy,
      loadActuators_slots b (hlim .actuator), loadSensors_slots env b]
    intro channel hchannel
    exact Nat.lt_of_lt_of_le (List.mem_range.mp hchannel) (hlim .sensor)

/-- **Complete lists**: with units not yet in memory, `get_all_relay_units` hands out the
    records below the counts, actuators in channel order before sensors in channel order,
    and nothing else, exactly if the records of both types are free of gaps. -/
theorem getAllRelayUnits_complete_iff (env : Env) {b : Board} (hmem : b.unitsInMemory = false)
    {count : RelayType → Nat}
    (hactuators : Nvs.readUint16 b.nvs sNamespace sKeyChannelCount = .ok (count .actuator))
    (hsensors : Nvs.readUint16 b.nvs sNamespace sKeyContactSensorsCount = .ok (count .sensor))
    (hlim : ∀ type, count type ≤ channelLimit type) :
    (∃ units b', getAllRelayUnits env b = some (units, b') ∧ units.map storedCopy =
        (presentRecords b.nvs .actuator (count .actuator) ++
          presentRecords b.nvs .sensor (count .sensor)).map storedCopy) ↔
      ∀ type, GapFree b.nvs type (count type) := by
  obtain ⟨units, b', hunits, hpacked⟩ :=
    getAllRelayUnits_eq_packed env hmem hactuators hsensors hlim
  have hgap : ∀ type, packed RelayUnit.zero
      ((List.range (count type)).map (recordSlot b.nvs type)) =
        (presentRecords b.nvs type (count type)).map storedCopy ↔
      GapFree b.nvs type (count type) := by
    intro type
    rw [← noGap_slots_iff, ← packed_eq_iff, reduceOption_slots]
  constructor
  · intro ⟨units', b'', hunits', heq⟩ type
    rw [hunits] at hunits'
    cases hunits'
    rw [hpacked, List.map_append] at heq
    -- the two parts have the lengths of the lists of records
    have hlen := length_packed RelayUnit.zero
      ((List.range (count .actuator)).map (recordSlot b.nvs .actuator))
    rw [reduceOption_slots] at hlen
    obtain ⟨hact, hsens⟩ := List.append_inj heq hlen
    cases type with
    | actuator => exact (hgap .actuator).mp hact
    | sensor => exact (hgap .sensor).mp hsens
  · intro h
    refine ⟨units, b', hunits, ?_⟩
    rw [hpacked, List.map_append, (hgap .actuator).mpr (h .actuator),
      (hgap .sensor).mpr (h .sensor)]

/-! ### Two Actuators -/

/-- Two actuators are configured, and one of them has a record. -/
def oneOfTwo (channel : Nat) : Board :=
  .reset (Nvs.setAll Nvs.empty sNamespace [(sKeyChannelCount, .u16 2),
    (sKeyContactSensorsCount, .u16 0),
    (chKey channel, .blob (getActuatorRelay channel 5))]) Gpio.State.initial

def twoActuators : RelayType → Nat
  | .actuator => 2
  | .sensor => 0

theorem twoActuators_le (type : RelayType) : twoActuators type ≤ channelLimit type := by
  cases type <;> decide

/-- The first of two records is there. -/
theorem getAllRelayUnits_complete_iff_first :
    ∃ units b', getAllRelayUnits Env.ok (oneOfTwo 0) = some (units, b') ∧
      units.map storedCopy = (presentRecords (oneOfTwo 0).nvs .actuator 2 ++
        presentRecords (oneOfTwo 0).nvs .sensor 0).map storedCopy := by
  have hfirst : unitRecord (oneOfTwo 0).nvs .actuator 0 ≠ none := by decide +kernel
  have hchannels : Nvs.readUint16 (oneOfTwo 0).nvs sNamespace sKeyChannelCount =
      .ok (twoActuators .actuator) := by
    decide +kernel
  have hsensors : Nvs.readUint16 (oneOfTwo 0).nvs sNamespace sKeyContactSensorsCount =
      .ok (twoActuators .sensor) := by
    decide +kernel
  apply (getAllRelayUnits_complete_iff Env.ok rfl hchannels hsensors twoActuators_le).mpr
  intro type i j hij hj hnone
  cases type with
  | actuator =>
      obtain rfl : i = 0 := by
        have : j < 2 := hj
        omega
      exact absurd hnone hfirst
  | sensor => exact absurd hj (Nat.not_lt_zero j)

/-- Only the second is: the list holds the zeroed slot of the first in its place. -/
theorem not_getAllRelayUnits_complete : ¬ ∀ (env : Env) (b : Board) (count : RelayType → Nat),
    b.unitsInMemory = false →
    Nvs.readUint16 b.nvs sNamespace sKeyChannelCount = .ok (count .actuator) →
    Nvs.readUint16 b.nvs sNamespace sKeyContactSensorsCount = .ok (count .sensor) →
    (∀ type, count type ≤ channelLimit type) →
    ∃ units b', getAllRelayUnits env b = some (units, b') ∧ units.map storedCopy =
      (presentRecords b.nvs .actuator (count .actuator) ++
        presentRecords b.nvs .sensor (count .sensor)).map storedCopy := by
  intro h
  obtain ⟨units, b', hunits, hcomplete⟩ := h Env.ok (oneOfTwo 1) twoActuators rfl
    (by decide +kernel) (by decide +kernel) twoActuators_le
  have hlist : (getAllRelayUnits Env.ok (oneOfTwo 1)).map Prod.fst = some [RelayUnit.zero] := by
    decide +kernel
  have hzero : units = [RelayUnit.zero] := by
    rw [hunits] at hlist
    exact Option.some.inj hlist
  rw [hzero] at hcomplete
  exact absurd hcomplete (by decide +kernel)

end Boot
