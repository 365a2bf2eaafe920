import RelayBoard.Boot.UnitBook
import RelayBoard.Relay.Pins

/-! # Scanning the Stored Units

  While `device_settings_init` runs, every list of units is loaded from NVS.
  On a board whose records make up a book these lists are the records below
  the counts, and the scan for a free pin is first fit over their pins,
  whatever the driver answers.
-/

open CString FirstFit Relay Settings

namespace Boot

/-! ### The Board While Loading -/

/-- A board after a reset whose counts, connection mode and unit records are in
    place. -/
structure Loading (b : Board) (counts : Counts) (book : Book) : Prop where
  not_in_memory : b.unitsInMemory = false
  not_ready : b.isMqttReady = false
  mode : ∃ mode, Nvs.readUint16 b.nvs sNamespace sKeyMqttConnect = .ok mode
  channel_count : Nvs.readUint16 b.nvs sNamespace sKeyChannelCount = .ok (counts .actuator)
  sensors_count :
    Nvs.readUint16 b.nvs sNamespace sKeyContactSensorsCount = .ok (counts .sensor)
  counts_lt : ∀ type, counts type < channelLimit type
  holds : Holds b.nvs book

variable {b b' : Board} {counts : Counts} {book : Book}

theorem Loading.onlyGpio (h : Loading b counts book) (hgpio : OnlyGpio b b') :
    Loading b' counts book := by
  obtain ⟨gpio, rfl⟩ := hgpio
  exact ⟨h.not_in_memory, h.not_ready, h.mode, h.channel_count, h.sensors_count, h.counts_lt,
    h.holds⟩

/-- Storing a fresh unit leaves the settings. -/
theorem Loading.push (h : Loading b counts book) (type : RelayType) (pin : Int) :
    Loading { b with nvs := pushRecord b.nvs book type pin } counts
      (book.push type pin) := by
  have hkept : ∀ key ∈ settingKeys,
      Nvs.readUint16 (pushRecord b.nvs book type pin) sNamespace key =
        Nvs.readUint16 b.nvs sNamespace key := by
    intro key hkey
    unfold Nvs.readUint16 pushRecord
    rw [Nvs.set_ne _ _ _ _ _ (settingKey_ne hkey _ _)]
  refine ⟨h.not_in_memory, h.not_ready, ?_, ?_, ?_, h.counts_lt, h.holds.push type pin⟩
  · obtain ⟨mode, hmode⟩ := h.mode
    exact ⟨mode, (hkept _ (by decide)).trans hmode⟩
  · exact (hkept _ (by decide)).trans h.channel_count
  · exact (hkept _ (by decide)).trans h.sensors_count

/-! ### Loads -/

/-- Reading the record of a type and channel. -/
theorem readBlob_unitKey {nvs : Nvs.Store RelayUnit} (h : Holds nvs book)
    (type : RelayType) (i : Nat) :
    Nvs.readBlob nvs sNamespace (unitKey type i) =
      match (book type).records[i]? with
      | some relay => .ok relay
      | none => .error .nvsNotFound := by
  unfold Nvs.readBlob
  rw [h type i]
  cases (book type).records[i]? <;> rfl

/-- Loading an actuator reads its record. -/
theorem loadRelayActuatorFromNvs_eq (h : Holds b.nvs book) {i : Nat}
    (hi : i < channelLimit .actuator) :
    loadRelayActuatorFromNvs b (getRelayNvsKey i) =
      match (book .actuator).records[i]? with
      | some relay => .ok relay
      | none => .error .nvsNotFound := by
  unfold loadRelayActuatorFromNvs nvsReadRelay
  rw [getRelayNvsKey_of_lt hi]
  dsimp only
  rw [readBlob_unitKey h]
  cases hget : (book .actuator).records[i]? with
  | none => rfl
  | some relay =>
      -- a record carries no driver bookkeeping
      have hstored := ((book .actuator).isRecord i relay hget).stored
      have hconf : relay.ioConf = Gpio.Config.zero := by
        rw [← hstored]
        rfl
      show Except.ok { relay with ioConf := Gpio.Config.zero } = Except.ok relay
      rw [← hconf]

/-- Loading a sensor reads its record and sets up its pin. -/
theorem loadRelaySensorFromNvs_cases (env : Env) (h : Holds b.nvs book) {i : Nat}
    (hi : i < channelLimit .sensor) :
    match (book .sensor).records[i]? with
    | some relay => ∃ relay' b', loadRelaySensorFromNvs env b (getContactSensorNvsKey i) =
        (.ok relay', b') ∧ storedCopy relay' = relay ∧ OnlyPins [relay.gpioPin] b b'
    | none => loadRelaySensorFromNvs env b (getContactSensorNvsKey i) =
        (.error .nvsNotFound, b) := by
  unfold loadRelaySensorFromNvs nvsReadRelay
  rw [getContactSensorNvsKey_of_lt hi]
  dsimp only
  rw [readBlob_unitKey h]
  cases hget : (book .sensor).records[i]? with
  | none => rfl
  | some relay =>
      refine ⟨_, _, rfl, ?_, relayGpioInit_onlyPins env b relay⟩
      rw [storedCopy_relayGpioInit]
      exact ((book .sensor).isRecord i relay hget).stored

/-- The records of a stretch of channels, head first. -/
theorem drop_take_cons {α : Type} {l : List α} {j : Nat} {a : α} (h : l[j]? = some a)
    (n : Nat) : (l.drop j).take (n + 1) = a :: (l.drop (j + 1)).take n := by
  obtain ⟨hlt, rfl⟩ := List.getElem?_eq_some_iff.mp h
  rw [List.drop_eq_getElem_cons hlt, List.take_succ_cons]

/-- The actuator loop of the list loader reads the records of its channels. -/
theorem loadActuators_range' (h : Holds b.nvs book) {j n : Nat}
    (hlim : j + n ≤ channelLimit .actuator) :
    LoadsRecords (loadActuators b (List.range' j n))
      (((book .actuator).records.drop j).take n) := by
  induction n generalizing j with
  | zero => exact loadsRecords_nil
  | succ n ih =>
      have hload := loadRelayActuatorFromNvs_eq h (i := j) (by omega)
      have hrest := ih (j := j + 1) (by omega)
      show LoadsRecords (loadRelayActuatorFromNvs b (getRelayNvsKey j) ::
        loadActuators b (List.range' (j + 1) n)) _
      rw [hload]
      cases hget : (book .actuator).records[j]? with
      | some relay =>
          rw [drop_take_cons hget]
          exact hrest.cons ((book .actuator).isRecord j relay hget).stored
      | none =>
          have hlen := List.getElem?_eq_none_iff.mp hget
          rw [List.drop_eq_nil_of_le (by omega), List.take_nil] at hrest
          rw [List.drop_eq_nil_of_le hlen, List.take_nil]
          exact hrest.cons_error .nvsNotFound

/-- So does the sensor loop, which also sets up their pins. -/
theorem loadSensors_range' (env : Env) (h : Holds b.nvs book) {j n : Nat}
    (hlim : j + n ≤ channelLimit .sensor) :
    ∃ loads b', loadSensors env b (List.range' j n) = (loads, b') ∧
      OnlyPins ((((book .sensor).records.drop j).take n).map RelayUnit.gpioPin) b b' ∧
      LoadsRecords loads (((book .sensor).records.drop j).take n) := by
  induction n generalizing j b with
  | zero => exact ⟨[], b, rfl, OnlyPins.refl _ b, loadsRecords_nil⟩
  | succ n ih =>
      have hload := loadRelaySensorFromNvs_cases env h (i := j) (by omega)
      rw [List.range'_succ]
      unfold loadSensors
      cases hget : (book .sensor).records[j]? with
      -- the record at `j` and those behind it
      | some relay =>
          rw [hget] at hload
          obtain ⟨relay', b₁, heq, hstored, hgpio⟩ := hload
          obtain ⟨loads, b₂, hrest, hgpio', hloads⟩ :=
            ih (j := j + 1) (b := b₁) (by rw [hgpio.onlyGpio.nvs]; exact h) (by omega)
          rw [heq]
          dsimp only
          rw [hrest, drop_take_cons hget, List.map_cons]
          refine ⟨_, _, rfl, ?_, hloads.cons hstored⟩
          exact (hgpio.mono (by simp)).trans (hgpio'.mono (List.subset_cons_self _ _))
      -- past the last record all loads fail
      | none =>
          rw [hget] at hload
          have hlen := List.getElem?_eq_none_iff.mp hget
          obtain ⟨loads, b₂, hrest, hgpio, hloads⟩ := ih (j := j + 1) h (by omega)
          rw [List.drop_eq_nil_of_le (by omega), List.take_nil] at hgpio hloads
          rw [hload]
          dsimp only
          rw [hrest, List.drop_eq_nil_of_le hlen, List.take_nil]
          exact ⟨_, _, rfl, hgpio, hloads.cons_error .nvsNotFound⟩

/-! ### Lists of Units -/

/-- A list filled by index holds loaded units or zeroed ones. -/
theorem forall_mem_packLoaded {loads : List (Except EspErr RelayUnit)}
    {P : RelayUnit → Prop} (hok : ∀ relay, .ok relay ∈ loads → P relay)
    (hzero : P RelayUnit.zero) {relay : RelayUnit} (hmem : relay ∈ packLoaded loads) :
    P relay := by
  unfold packLoaded at hmem
  obtain ⟨load, hload, rfl⟩ := List.mem_map.mp (List.mem_of_mem_take hmem)
  cases load with
  | ok relay => exact hok relay hload
  | error err => exact hzero

/-- The actuators of a list are the records below the count; their pins are not marked
    as set up. -/
theorem getRelayList_loading (h : Loading b counts book) :
    ∃ units, getRelayList b = some units ∧
      units.map storedCopy = book.active counts .actuator ∧
      ∀ relay ∈ units, relay.gpioInitialized = false := by
  unfold getRelayList
  rw [h.not_in_memory, h.channel_count]
  have hlim := h.counts_lt .actuator
  have hloads := loadActuators_range' h.holds (j := 0) (n := counts .actuator) (by omega)
  rw [← List.range_eq_range'] at hloads
  -- a record in NVS is not marked as set up
  have hidle : ∀ relay, .ok relay ∈ loadActuators b (List.range (counts .actuator)) →
      relay.gpioInitialized = false := by
    intro relay hload
    obtain ⟨i, hi, heq⟩ := List.mem_map.mp hload
    have hexact := loadRelayActuatorFromNvs_eq h.holds (i := i)
      (Nat.lt_trans (List.mem_range.mp hi) hlim)
    rw [heq] at hexact
    cases hget : (book .actuator).records[i]? with
    | some record =>
        rw [hget] at hexact
        cases hexact
        rw [← ((book .actuator).isRecord i relay hget).stored]
        rfl
    | none =>
        rw [hget] at hexact
        cases hexact
  exact ⟨_, rfl, hloads.packLoaded, fun relay hmem =>
    forall_mem_packLoaded (P := fun relay => relay.gpioInitialized = false) hidle rfl hmem⟩

/-- The pins that a list of units sets up: those of the sensors below the count. -/
def sensorPins (book : Book) (counts : Counts) : List Int :=
  (book.active counts .sensor).map RelayUnit.gpioPin

theorem getContactSensorList_loading (env : Env) (h : Loading b counts book) :
    ∃ units b', getContactSensorList env b = some (units, b') ∧
      OnlyPins (sensorPins book counts) b b' ∧
      units.map storedCopy = book.active counts .sensor := by
  have hlim := h.counts_lt .sensor
  obtain ⟨loads, b', heq, hgpio, hloads⟩ :=
    loadSensors_range' env h.holds (j := 0) (n := counts .sensor) (by omega)
  rw [← List.range_eq_range'] at heq
  unfold getContactSensorList
  rw [h.not_in_memory, h.sensors_count]
  dsimp only
  rw [if_neg (by simp), heq]
  exact ⟨_, _, rfl, hgpio, hloads.packLoaded⟩

/-- The units below the counts, actuators first. -/
theorem getAllRelayUnits_loading (env : Env) (h : Loading b counts book) :
    ∃ units b', getAllRelayUnits env b = some (units, b') ∧
      OnlyPins (sensorPins book counts) b b' ∧
      units.map storedCopy =
        book.active counts .actuator ++ book.active counts .sensor ∧
      ∀ relay ∈ units, relay.type = .actuator → relay.gpioInitialized = false := by
  obtain ⟨actuators, hact, hactuators, hflag⟩ := getRelayList_loading h
  obtain ⟨sensors, b', hsens, hgpio, hsensors⟩ := getContactSensorList_loading env h
  unfold getAllRelayUnits
  rw [h.not_in_memory, hact]
  dsimp only
  rw [if_neg (by simp), hsens]
  refine ⟨_, _, rfl, hgpio, ?_, ?_⟩
  · rw [List.map_append, hactuators, hsensors]
  · intro relay hmem htype
    rcases List.mem_append.mp hmem with hmem | hmem
    · exact hflag relay hmem
    · -- a unit of the sensor list is no actuator
      have hcopy : storedCopy relay ∈ book.active counts .sensor := by
        rw [← hsensors]
        exact List.mem_map_of_mem hmem
      obtain ⟨i, hi⟩ := List.getElem?_of_mem (List.mem_of_mem_take hcopy)
      have hsensor : relay.type = .sensor := ((book .sensor).isRecord i _ hi).type_eq
      rw [hsensor] at htype
      cases htype

/-! ### The Scan for a Free Pin -/

theorem map_gpioPin_storedCopy (units : List RelayUnit) :
    (units.map storedCopy).map RelayUnit.gpioPin = units.map RelayUnit.gpioPin := by
  rw [List.map_map]
  rfl

/-- A pin counts as used when a unit below the counts has it. -/
theorem isGpioPinInUse_loading (env : Env) (h : Loading b counts book) (pin : Int) :
    ∃ b', isGpioPinInUse env b pin = some (decide (pin ∈ book.activePins counts), b') ∧
      OnlyPins (sensorPins book counts) b b' := by
  obtain ⟨units, b', heq, hgpio, hunits, _⟩ := getAllRelayUnits_loading env h
  have hpins : book.activePins counts = units.map RelayUnit.gpioPin := by
    unfold Book.activePins
    rw [← hunits, map_gpioPin_storedCopy]
  unfold isGpioPinInUse
  rw [heq, hpins]
  dsimp only
  by_cases hlen : units.length < 1
  · -- an empty list is answered without a scan
    have hnil : units = [] := List.eq_nil_of_length_eq_zero (by omega)
    rw [if_pos hlen, hnil]
    exact ⟨b', rfl, hgpio⟩
  · have hany : units.any (fun relay => relay.gpioPin == pin) =
        decide (pin ∈ units.map RelayUnit.gpioPin) := by
      rw [Bool.eq_iff_iff]
      simp
    have hfreed : (b'.sUnitsFreed || b'.unitsInMemory) = b'.sUnitsFreed := by
      rw [hgpio.onlyGpio.units_in_memory, h.not_in_memory, Bool.or_false]
    rw [if_neg hlen, hany, hfreed]
    exact ⟨b', rfl, hgpio⟩

theorem findFreePin_loading (env : Env) (h : Loading b counts book) (pool : List Int) :
    ∃ b', findFreePin env pool b =
        some ((firstFree pool (book.activePins counts)).getD (-1), b') ∧
      OnlyPins (sensorPins book counts) b b' := by
  induction pool generalizing b with
  | nil => exact ⟨b, rfl, OnlyPins.refl _ b⟩
  | cons pin pool ih =>
      obtain ⟨b₁, heq, hgpio⟩ := isGpioPinInUse_loading env h pin
      unfold findFreePin
      rw [heq]
      by_cases hused : pin ∈ book.activePins counts
      · obtain ⟨b₂, hrest, hgpio'⟩ := ih (h.onlyGpio hgpio.onlyGpio)
        have hskip : firstFree (pin :: pool) (book.activePins counts) =
            firstFree pool (book.activePins counts) := by
          simp [firstFree, hused]
        rw [decide_eq_true hused, hskip]
        exact ⟨b₂, hrest, hgpio.trans hgpio'⟩
      · have hfound : firstFree (pin :: pool) (book.activePins counts) = some pin := by
          simp [firstFree, hused]
        rw [decide_eq_false hused, hfound]
        exact ⟨b₁, rfl, hgpio⟩

theorem Loading.nextPin_nonneg (h : Loading b counts book) : ¬ book.nextPin counts < 0 := by
  have := (safeGpioPin_bounds (book.nextPin_spec h.counts_lt).1).1
  omega

/-- `get_next_available_safe_gpio_pin` is first fit over the pins below the counts. -/
theorem getNextAvailableSafeGpioPin_loading (env : Env) (h : Loading b counts book) :
    ∃ b', getNextAvailableSafeGpioPin env b = some (book.nextPin counts, b') ∧
      OnlyPins (sensorPins book counts) b b' :=
  findFreePin_loading env h safeGpioPins

end Boot
