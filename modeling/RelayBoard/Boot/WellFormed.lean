import RelayBoard.Boot.Preservation
import RelayBoard.Boot.Table

/-! # Records That a Boot Can Use

  What NVS may hold after any number of interrupted boots, failed writes and erasures:
  records with gaps between them, each under the key of its own unit and on a safe pin.
  On such a content a boot needs nothing but writes that succeed and a key for every
  channel; an interrupted boot leaves such a content.
-/

open CString FirstFit Packing Relay Settings

namespace Boot

/-! ### Records -/

/-- What is stored under the key of a unit is a record of that unit, on a safe pin. -/
def WellFormed (nvs : Nvs.Store RelayUnit) : Prop :=
  ∀ type i, i < channelLimit type → ∀ value, nvs sNamespace (unitKey type i) = some value →
    ∃ relay, value = .blob relay ∧ IsRecord type i relay ∧ relay.gpioPin ∈ safeGpioPins

/-- Every channel of the configured numbers of units has a key. -/
def CountsFit (nvs : Nvs.Store RelayUnit) : Prop :=
  ∀ type, countsOf nvs type ≤ channelLimit type

instance (nvs : Nvs.Store RelayUnit) : Decidable (CountsFit nvs) :=
  decidable_of_iff (countsOf nvs .actuator ≤ channelLimit .actuator ∧
      countsOf nvs .sensor ≤ channelLimit .sensor)
    ⟨fun h type => by cases type; exacts [h.1, h.2], fun h => ⟨h .actuator, h .sensor⟩⟩

variable {env : Env} {nvs nvs' : Nvs.Store RelayUnit} {b b' : Board}

theorem WellFormed.typed (h : WellFormed nvs) : UnitsTyped nvs := by
  intro type i hi value hget
  obtain ⟨relay, hvalue, _⟩ := h type i hi value hget
  exact ⟨relay, hvalue⟩

theorem wellFormed_empty : WellFormed Nvs.empty := by
  intro type i _ value hget
  cases hget

/-- Only what is under the keys of units matters, and less of it does no harm. -/
theorem WellFormed.mono (h : WellFormed nvs)
    (hless : ∀ type i value, nvs' sNamespace (unitKey type i) = some value →
      nvs sNamespace (unitKey type i) = some value) : WellFormed nvs' :=
  fun type i hi value hget => h type i hi value (hless type i value hget)

/-- The record of a unit is written under its own key. -/
theorem WellFormed.setRecord (h : WellFormed nvs) {type : RelayType} {i : Nat}
    {relay : RelayUnit} (hrecord : IsRecord type i relay)
    (hpin : relay.gpioPin ∈ safeGpioPins) :
    WellFormed (Nvs.set nvs sNamespace (unitKey type i) (.blob relay)) := by
  intro type' j hj value hget
  rw [Nvs.set_apply] at hget
  split at hget
  · next hkey =>
      obtain ⟨rfl, rfl⟩ := unitKey_inj.mp hkey
      exact ⟨relay, (Option.some.inj hget).symm, hrecord, hpin⟩
  · exact h type' j hj value hget

/-- A setting is written. -/
theorem WellFormed.setSetting (h : WellFormed nvs) {key : CStr} (hkey : key ∈ settingKeys)
    (value : Nvs.Value RelayUnit) : WellFormed (Nvs.set nvs sNamespace key value) := by
  refine h.mono ?_
  intro type i other hget
  rw [Nvs.set_apply, if_neg fun heq => settingKey_ne hkey type i heq.symm] at hget
  exact hget

/-- Blocks for settings leave the records. -/
theorem WellFormed.initParameters (h : WellFormed nvs) (nvsWrite : CStr → Bool)
    {parameters : List (CStr × Nvs.Value RelayUnit)}
    (hkeys : ∀ key ∈ parameters.map Prod.fst, key ∈ settingKeys) :
    WellFormed (Settings.initParameters nvsWrite parameters nvs).2 := by
  refine h.mono ?_
  intro type i value hget
  have hother : ∀ p ∈ parameters, p.1 ≠ unitKey type i :=
    fun p hp => settingKey_ne (hkeys p.1 (List.mem_map_of_mem hp)) type i
  rw [initParameters_of_not_mem nvsWrite nvs hother] at hget
  exact hget

/-- The record of a channel, read back. -/
theorem WellFormed.record (h : WellFormed nvs) {type : RelayType} {i : Nat}
    (hi : i < channelLimit type) {relay : RelayUnit} (hrelay : unitRecord nvs type i = some relay) :
    nvs sNamespace (unitKey type i) = some (.blob relay) ∧ IsRecord type i relay ∧
      relay.gpioPin ∈ safeGpioPins := by
  unfold unitRecord at hrelay
  split at hrelay
  · next hget =>
      cases hrelay
      obtain ⟨relay', hvalue, hrecord⟩ := h type i hi _ hget
      cases hvalue
      exact ⟨hget, hrecord⟩
  · cases hrelay

/-! ### Lists With Gaps -/

/-- What the turns of the provisioning loops rely on besides the records. -/
structure Provisioning (b : Board) (counts : Counts) : Prop where
  in_memory : b.unitsInMemory = false
  not_ready : b.isMqttReady = false
  mode : ∃ mode, Nvs.readUint16 b.nvs sNamespace sKeyMqttConnect = .ok mode
  channel_count : Nvs.readUint16 b.nvs sNamespace sKeyChannelCount = .ok (counts .actuator)
  sensors_count :
    Nvs.readUint16 b.nvs sNamespace sKeyContactSensorsCount = .ok (counts .sensor)

variable {counts : Counts}

theorem Provisioning.onlyGpio (h : Provisioning b counts) (hgpio : OnlyGpio b b') :
    Provisioning b' counts := by
  obtain ⟨gpio, rfl⟩ := hgpio
  exact ⟨h.in_memory, h.not_ready, h.mode, h.channel_count, h.sensors_count⟩

/-- The pins of the units that `get_all_relay_units` lists. -/
def listedPins (nvs : Nvs.Store RelayUnit) (counts : Counts) : List Int :=
  (packed RelayUnit.zero ((List.range (counts .actuator)).map (recordSlot nvs .actuator)) ++
    packed RelayUnit.zero ((List.range (counts .sensor)).map (recordSlot nvs .sensor))).map
    RelayUnit.gpioPin

/-- Fewer units can be listed than there are safe pins. -/
theorem length_listedPins_lt (nvs : Nvs.Store RelayUnit)
    (hfit : ∀ type, counts type ≤ channelLimit type) :
    (listedPins nvs counts).length < safeGpioPins.length := by
  have hlist : ∀ type, (packed RelayUnit.zero
      ((List.range (counts type)).map (recordSlot nvs type))).length ≤ channelLimit type := by
    intro type
    rw [length_packed]
    refine (List.reduceOption_length_le _).trans ?_
    rw [List.length_map, List.length_range]
    exact hfit type
  have hactuators := hlist .actuator
  have hsensors := hlist .sensor
  simp only [channelLimit] at hactuators hsensors
  -- 26 safe pins for at most 16 actuators and 9 sensors
  have hsafe : safeGpioPins.length = 26 := by decide
  unfold listedPins
  rw [List.length_map, List.length_append, hsafe]
  omega

theorem loadSensors_onlyGpio (env : Env) (b : Board) (channels : List Nat) :
    OnlyGpio b (loadSensors env b channels).2 := by
  induction channels generalizing b with
  | nil => exact OnlyGpio.refl b
  | cons channel channels ih =>
      have hload : OnlyGpio b
          (loadRelaySensorFromNvs env b (getContactSensorNvsKey channel)).2 := by
        unfold loadRelaySensorFromNvs
        split
        · exact OnlyGpio.refl b
        · exact relayGpioInit_onlyGpio env b _
      exact hload.trans (ih _)

/-- The lists are made up, whatever is stored. -/
theorem getAllRelayUnits_provisioning (env : Env) (h : Provisioning b counts) :
    ∃ units b', getAllRelayUnits env b = some (units, b') ∧ OnlyGpio b b' ∧
      ((∀ type, counts type ≤ channelLimit type) →
        units.map RelayUnit.gpioPin = listedPins b.nvs counts) := by
  have hlist : getRelayList b =
      some (packLoaded (loadActuators b (List.range (counts .actuator)))) := by
    rw [getRelayList, h.in_memory, h.channel_count]
    rfl
  have hlist' : getContactSensorList env b =
      some (packLoaded (loadSensors env b (List.range (counts .sensor))).1,
        (loadSensors env b (List.range (counts .sensor))).2) := by
    rw [getContactSensorList, h.in_memory, h.sensors_count]
    rfl
  have hall : getAllRelayUnits env b =
      some (packLoaded (loadActuators b (List.range (counts .actuator))) ++
        packLoaded (loadSensors env b (List.range (counts .sensor))).1,
        (loadSensors env b (List.range (counts .sensor))).2) := by
    rw [getAllRelayUnits, h.in_memory, hlist, hlist']
    rfl
  refine ⟨_, _, hall, loadSensors_onlyGpio env b _, ?_⟩
  intro hfit
  obtain ⟨units, b', hunits, hpacked⟩ :=
    getAllRelayUnits_eq_packed env h.in_memory h.channel_count h.sensors_count hfit
  rw [hall] at hunits
  cases hunits
  rw [← map_gpioPin_storedCopy, hpacked]
  rfl

theorem isGpioPinInUse_provisioning (env : Env) (h : Provisioning b counts) (pin : Int) :
    ∃ used b', isGpioPinInUse env b pin = some (used, b') ∧ OnlyGpio b b' ∧
      ((∀ type, counts type ≤ channelLimit type) →
        used = decide (pin ∈ listedPins b.nvs counts)) := by
  obtain ⟨units, b', hall, honly, hpins⟩ := getAllRelayUnits_provisioning env h
  have hfreed : (b'.sUnitsFreed || b'.unitsInMemory) = b'.sUnitsFreed := by
    rw [honly.units_in_memory, h.in_memory, Bool.or_false]
  unfold isGpioPinInUse
  rw [hall]
  dsimp only
  by_cases hlen : units.length < 1
  · -- an empty list is answered without a scan
    have hnil : units = [] := List.eq_nil_of_length_eq_zero (by omega)
    rw [if_pos hlen]
    refine ⟨false, b', rfl, honly, fun hfit => ?_⟩
    rw [← hpins hfit, hnil]
    rfl
  · rw [if_neg hlen, hfreed]
    refine ⟨_, b', rfl, honly, fun hfit => ?_⟩
    rw [← hpins hfit, Bool.eq_iff_iff]
    simp

/-- A scan returns, with the first pin of the pool that no listed unit has. -/
theorem findFreePin_provisioning (env : Env) (h : Provisioning b counts) (pool : List Int) :
    ∃ pin b', findFreePin env pool b = some (pin, b') ∧ OnlyGpio b b' ∧
      (pin ∈ pool ∨ pin < 0) ∧
      ((∀ type, counts type ≤ channelLimit type) →
        pin = (firstFree pool (listedPins b.nvs counts)).getD (-1)) := by
  induction pool generalizing b with
  | nil => exact ⟨-1, b, rfl, OnlyGpio.refl b, .inr (by decide), fun _ => rfl⟩
  | cons p pool ih =>
      obtain ⟨used, b₁, huse, honly, hused⟩ := isGpioPinInUse_provisioning env h p
      unfold findFreePin
      rw [huse]
      cases used with
      | true =>
          obtain ⟨pin, b₂, hrest, honly', hmem, hpin⟩ := ih (h.onlyGpio honly)
          refine ⟨pin, b₂, hrest, honly.trans honly', hmem.imp_left (List.mem_cons_of_mem _),
            fun hfit => ?_⟩
          have hin := of_decide_eq_true (hused hfit).symm
          rw [hpin hfit, honly.nvs]
          simp [firstFree, hin]
      | false =>
          refine ⟨p, b₁, rfl, honly, .inl List.mem_cons_self, fun hfit => ?_⟩
          have hfree := of_decide_eq_false (hused hfit).symm
          simp [firstFree, hfree]

/-- **Pigeonhole**: while every channel has a key, the scan finds a safe pin. -/
theorem getNextAvailableSafeGpioPin_provisioning (env : Env) (h : Provisioning b counts) :
    ∃ pin b', getNextAvailableSafeGpioPin env b = some (pin, b') ∧ OnlyGpio b b' ∧
      (pin ∈ safeGpioPins ∨ pin < 0) ∧
      ((∀ type, counts type ≤ channelLimit type) → ¬ pin < 0) := by
  obtain ⟨pin, b', hscan, honly, hmem, hpin⟩ := findFreePin_provisioning env h safeGpioPins
  refine ⟨pin, b', hscan, honly, hmem, fun hfit => ?_⟩
  obtain ⟨free, hfree⟩ := exists_firstFree safeGpioPins_nodup (length_listedPins_lt b.nvs hfit)
  rw [hpin hfit, hfree]
  have hbounds := (safeGpioPin_bounds (firstFree_mem hfree)).1
  exact Int.not_lt.mpr hbounds

/-! ### Turns -/

/-- Every write succeeds. -/
def WritesSucceed (env : Env) : Prop := ∀ key, env.nvsWrite key = true

/-- What a turn of a provisioning loop does to NVS: nothing, or it stores a fresh unit on
    a safe pin. -/
inductive Stores (type : RelayType) (i : Nat) (nvs nvs' : Nvs.Store RelayUnit) : Prop where
  | nothing (hsame : nvs' = nvs)
  | fresh (pin : Int) (hpin : pin ∈ safeGpioPins)
      (hset : nvs' = Nvs.set nvs sNamespace (unitKey type i) (.blob (freshUnit type i pin)))

theorem Stores.wellFormed {type : RelayType} {i : Nat} (h : Stores type i nvs nvs')
    (hnvs : WellFormed nvs) : WellFormed nvs' := by
  cases h with
  | nothing hsame => exact hsame ▸ hnvs
  | fresh pin hpin hset => exact hset ▸ hnvs.setRecord (isRecord_freshUnit type i pin) hpin

/-- A turn leaves the settings. -/
theorem Stores.setting {type : RelayType} {i : Nat} (h : Stores type i nvs nvs') {key : CStr}
    (hkey : key ∈ settingKeys) : nvs' sNamespace key = nvs sNamespace key := by
  cases h with
  | nothing hsame => rw [hsame]
  | fresh pin hpin hset => rw [hset, Nvs.set_ne _ _ _ _ _ (settingKey_ne hkey type i)]

/-- How a turn ends: it returns, and it succeeds if it can write and find a pin. -/
def Ends (env : Env) (counts : Counts) (type : RelayType) (i : Nat) (b : Board)
    (result : Option (EspErr × Board)) : Prop :=
  ∃ err b', result = some (err, b') ∧ Provisioning b' counts ∧ Stores type i b.nvs b'.nvs ∧
    (WritesSucceed env → (∀ type, counts type ≤ channelLimit type) → err = .ok)

/-- A record in NVS leaves what the turns rely on. -/
theorem Provisioning.setRecord (h : Provisioning b counts) (type : RelayType) (i : Nat)
    (value : Nvs.Value RelayUnit) :
    Provisioning { b with nvs := Nvs.set b.nvs sNamespace (unitKey type i) value } counts := by
  have hread : ∀ {key : CStr} {n : Nat}, key ∈ settingKeys →
      Nvs.readUint16 b.nvs sNamespace key = .ok n →
      Nvs.readUint16 (Nvs.set b.nvs sNamespace (unitKey type i) value) sNamespace key = .ok n := by
    intro key n hkey hread
    rw [Nvs.readUint16, Nvs.set_ne _ _ _ _ _ (settingKey_ne hkey type i)]
    exact hread
  obtain ⟨mode, hmode⟩ := h.mode
  exact ⟨h.in_memory, h.not_ready, ⟨mode, hread (by decide) hmode⟩,
    hread (by decide) h.channel_count, hread (by decide) h.sensors_count⟩

theorem initActuator_ends (env : Env) (h : Provisioning b counts) {i : Nat}
    (hi : i < channelLimit .actuator) :
    Ends env counts .actuator i b (initActuator env b i) := by
  obtain ⟨mode, hmode⟩ := h.mode
  unfold initActuator
  rw [getRelayNvsKey_of_lt hi]
  dsimp only
  split
  · next relay hload =>
      obtain ⟨b', hstate, honly⟩ := setBootState_found env relay hmode h.not_ready
      exact ⟨.ok, b', hstate, h.onlyGpio honly, .nothing honly.nvs, fun _ _ => rfl⟩
  · obtain ⟨pin, b₁, hpin, honly, hmem, hpos⟩ :=
      getNextAvailableSafeGpioPin_provisioning env h
    rw [hpin]
    dsimp only
    split
    · next hneg =>
        exact ⟨.fail, b₁, rfl, h.onlyGpio honly, .nothing honly.nvs,
          fun _ hfit => absurd hneg (hpos hfit)⟩
    · next hnot =>
        rw [saveRelayToNvs_some]
        by_cases hwrite : env.nvsWrite (unitKey .actuator i) = true
        · rw [if_pos hwrite]
          have hset := (h.onlyGpio honly).setRecord .actuator i
            (.blob (storedCopy (getActuatorRelay i pin)))
          -- the new record is there when the state is set
          obtain ⟨mode', hmode'⟩ := hset.mode
          obtain ⟨b', hstate, honly'⟩ :=
            setBootState_found env (getActuatorRelay i pin) hmode' hset.not_ready
          refine ⟨.ok, b', hstate, hset.onlyGpio honly', ?_, fun _ _ => rfl⟩
          refine .fresh pin (hmem.resolve_right hnot) ?_
          rw [honly'.nvs, ← honly.nvs]
          rfl
        · rw [if_neg hwrite]
          exact ⟨.fail, b₁, rfl, h.onlyGpio honly, .nothing honly.nvs,
            fun hall _ => absurd (hall _) hwrite⟩

theorem initSensor_ends (env : Env) (h : Provisioning b counts) {i : Nat}
    (hi : i < channelLimit .sensor) :
    Ends env counts .sensor i b (initSensor env b i) := by
  unfold initSensor
  rw [getContactSensorNvsKey_of_lt hi]
  dsimp only
  rw [loadRelaySensorFromNvs]
  cases hread : nvsReadRelay b (some (unitKey .sensor i)) with
  | ok relay =>
      have honly := relayGpioInit_onlyGpio env b relay
      exact ⟨.ok, _, rfl, h.onlyGpio honly, .nothing honly.nvs, fun _ _ => rfl⟩
  | error err =>
      obtain ⟨pin, b₁, hpin, honly, hmem, hpos⟩ :=
        getNextAvailableSafeGpioPin_provisioning env h
      dsimp only
      rw [hpin]
      dsimp only
      split
      · next hneg =>
          exact ⟨.fail, b₁, rfl, h.onlyGpio honly, .nothing honly.nvs,
            fun _ hfit => absurd hneg (hpos hfit)⟩
      · next hnot =>
          have hinit := relayGpioInit_onlyGpio env b₁ (freshSensor i pin)
          have hcopy := storedCopy_relayGpioInit env b₁ (freshSensor i pin)
          unfold getSensorRelay
          -- the unit is stored whether or not its pin could be set up
          generalize relayGpioInit env b₁ (freshSensor i pin) = result at hinit hcopy
          obtain ⟨err, relay, b₂⟩ := result
          dsimp only at hinit hcopy ⊢
          rw [saveRelayToNvs_some]
          have honly₂ := honly.trans hinit
          by_cases hwrite : env.nvsWrite (unitKey .sensor i) = true
          · rw [if_pos hwrite]
            refine ⟨.ok, _, rfl, (h.onlyGpio honly₂).setRecord .sensor i _, ?_, fun _ _ => rfl⟩
            refine .fresh pin (hmem.resolve_right hnot) ?_
            show Nvs.set b₂.nvs sNamespace (unitKey .sensor i) (.blob (storedCopy relay)) = _
            rw [hcopy, honly₂.nvs]
            rfl
          · rw [if_neg hwrite]
            exact ⟨.fail, b₂, rfl, h.onlyGpio honly₂, .nothing honly₂.nvs,
              fun hall _ => absurd (hall _) hwrite⟩

/-- A turn for a channel without a key fails. -/
theorem initUnit_keyless (env : Env) (b : Board) {type : RelayType} {i : Nat}
    (hi : channelLimit type ≤ i) : initUnit env type b i = some (.fail, b) := by
  cases type with
  | actuator =>
      have hnone : getRelayNvsKey i = none := by
        rw [getRelayNvsKey_natCast]
        exact if_neg (Nat.not_le_of_lt hi)
      show initActuator env b i = _
      unfold initActuator
      rw [hnone]
  | sensor =>
      have hnone : getContactSensorNvsKey i = none := by
        rw [getContactSensorNvsKey_natCast]
        exact if_neg (Nat.not_le_of_lt hi)
      show initSensor env b i = _
      unfold initSensor
      rw [hnone]

end Boot
