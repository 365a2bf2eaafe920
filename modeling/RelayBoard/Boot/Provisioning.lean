import RelayBoard.Boot.SetUp

/-! # Provisioning Refines the Book

  Each turn of the loops of `device_settings_init` does to NVS what
  `Book.provisionUnit` does to the book, so the whole initialization does
  what `Book.provision` does; it fails only when a write fails.
-/

open CString Relay Settings

namespace Boot

variable {b b' : Board} {counts : Counts} {book : Book}

/-! ### The Loops -/

/-- One loop body for both types. -/
def initUnit (env : Env) : RelayType → Board → Nat → Option (EspErr × Board)
  | .actuator => initActuator env
  | .sensor => initSensor env

/-- The end of an actuator turn touches the actuator's pin and drives it. -/
theorem setBootState_loading (env : Env) (h : Loading b counts book) (relay : RelayUnit) :
    ∃ b', setBootState env b relay = some (.ok, b') ∧ OnlyPins [relay.gpioPin] b b' ∧
      (env.driver = Gpio.Driver.ok → relay.type = .actuator →
        relay.gpioInitialized = false → Bounded relay → Drives b'.gpio relay) := by
  obtain ⟨mode, hmode⟩ := h.mode
  obtain ⟨err, relay', b', heq, honly⟩ :=
    relaySetState_onlyPins env hmode h.not_ready relay relay.state
  unfold setBootState
  rw [heq]
  refine ⟨b', rfl, honly, ?_⟩
  intro hdriver htype hinit hbound
  obtain ⟨hdrives, hstate⟩ := (relaySetState_stateSet heq).driven hdriver htype hinit hbound
  exact hdrives.congr (relaySetState_frame heq).2 hstate

/-- How a turn or a loop ends: with the book `book'` and its pins set up, or with a
    failure that a failing write explains. -/
def Provides (env : Env) (counts : Counts) (book' : Book) (type : RelayType) (j n : Nat)
    (b : Board) (result : Option (EspErr × Board)) : Prop :=
  ∃ err b', result = some (err, b') ∧ ((∀ key, env.nvsWrite key = true) → err = .ok) ∧
    (err = .ok → Loading b' counts book' ∧ SetUp env counts book' type j n b b')

/-- A turn touches the pin of its record and those of the sensors. -/
theorem keeps_of_turn (counts : Counts) {book' : Book} {type : RelayType} {i : Nat}
    {relay : RelayUnit}
    (hget : (book' type).records[i]? = some relay) {b b₁ b₂ : Board} {pins : List Int}
    (hscan : OnlyPins pins b b₁) (hpins : pins ⊆ sensorPins book' counts)
    (hown : ∀ p, p ≠ relay.gpioPin → Gpio.KeepsPin p b₁.gpio b₂.gpio) :
    ∀ p ∉ sensorPins book' counts,
      (∀ j other, i ≤ j → j < i + 1 → (book' type).records[j]? = some other →
        other.gpioPin ≠ p) → Gpio.KeepsPin p b.gpio b₂.gpio := by
  intro p hp hother
  have hne := hother i relay (Nat.le_refl i) (Nat.lt_succ_self i) hget
  exact (hscan.keeps p fun hmem => hp (hpins hmem)).trans (hown p hne.symm)

/-- The turn of a stored actuator. -/
theorem initActuator_stored (env : Env) (h : Loading b counts book) {i : Nat}
    {relay : RelayUnit} (hi : i < counts .actuator)
    (hget : (book .actuator).records[i]? = some relay) :
    Provides env counts book .actuator i 1 b (initActuator env b i) := by
  have hlim : i < channelLimit .actuator := Nat.lt_trans hi (h.counts_lt .actuator)
  have hrec := (book .actuator).isRecord i relay hget
  have hload := loadRelayActuatorFromNvs_eq h.holds hlim
  rw [hget, getRelayNvsKey_of_lt hlim] at hload
  obtain ⟨b', heq, honly, hdrives⟩ := setBootState_loading env h relay
  have hkeeps := keeps_of_turn counts hget (OnlyPins.refl [] b) (List.nil_subset _)
    fun p hp => honly.keeps p (by simpa using hp)
  refine ⟨.ok, b', ?_, fun _ => rfl, fun _ => ⟨h.onlyGpio honly.onlyGpio, hkeeps, ?_⟩⟩
  · unfold initActuator
    rw [getRelayNvsKey_of_lt hlim]
    dsimp only
    rw [hload]
    exact heq
  · intro hdriver _ _ j other hle hlt hother hbound
    have hji : j = i := by omega
    subst hji
    rw [hget] at hother
    cases hother
    -- what NVS holds is not marked as set up
    have hinit : relay.gpioInitialized = false := by
      rw [← hrec.stored]
      rfl
    exact hdrives hdriver hrec.type_eq hinit hbound

/-- The turn of a stored sensor. -/
theorem initSensor_stored (env : Env) (h : Loading b counts book) {i : Nat}
    {relay : RelayUnit} (hi : i < counts .sensor)
    (hget : (book .sensor).records[i]? = some relay) :
    Provides env counts book .sensor i 1 b (initSensor env b i) := by
  have hlim : i < channelLimit .sensor := Nat.lt_trans hi (h.counts_lt .sensor)
  have hload := loadRelaySensorFromNvs_cases env h.holds hlim
  rw [hget, getContactSensorNvsKey_of_lt hlim] at hload
  obtain ⟨relay', b', heq, _, honly⟩ := hload
  have hkeeps := keeps_of_turn counts hget (OnlyPins.refl [] b) (List.nil_subset _)
    fun p hp => honly.keeps p (by simpa using hp)
  refine ⟨.ok, b', ?_, fun _ => rfl, fun _ => ⟨h.onlyGpio honly.onlyGpio, hkeeps, ?_⟩⟩
  · unfold initSensor
    rw [getContactSensorNvsKey_of_lt hlim]
    dsimp only
    rw [heq]
  · intro _ htype
    cases htype

/-- The turn that creates an actuator. -/
theorem initActuator_missing (env : Env) (h : Loading b counts book) {i : Nat}
    (hi : i < counts .actuator) (heqi : i = (book .actuator).records.length) :
    Provides env counts (book.push .actuator (book.nextPin counts)) .actuator i 1 b
      (initActuator env b i) := by
  have hlim : i < channelLimit .actuator := Nat.lt_trans hi (h.counts_lt .actuator)
  have hpos := h.nextPin_nonneg
  have hload := loadRelayActuatorFromNvs_eq h.holds hlim
  rw [List.getElem?_eq_none (Nat.le_of_eq heqi.symm), getRelayNvsKey_of_lt hlim] at hload
  obtain ⟨b₁, hpin, hscan⟩ := getNextAvailableSafeGpioPin_loading env h
  have hpush := (h.onlyGpio hscan.onlyGpio).push .actuator (book.nextPin counts)
  rw [show pushRecord b₁.nvs book .actuator (book.nextPin counts) =
    Nvs.set b₁.nvs sNamespace (unitKey .actuator i) (.blob (storedCopy
      (getActuatorRelay i (book.nextPin counts)))) by rw [heqi]; rfl] at hpush
  -- the record is not there, and the scan finds the next pin
  unfold initActuator
  rw [getRelayNvsKey_of_lt hlim]
  dsimp only
  rw [hload]
  dsimp only
  rw [hpin]
  dsimp only
  rw [if_neg hpos, saveRelayToNvs_some]
  by_cases hwrite : env.nvsWrite (unitKey .actuator i) = true
  · rw [if_pos hwrite]
    dsimp only
    obtain ⟨b', heq, honly, hdrives⟩ := setBootState_loading env hpush
      (getActuatorRelay i (book.nextPin counts))
    have hget : (book.push .actuator (book.nextPin counts) .actuator).records[i]? =
        some (getActuatorRelay i (book.nextPin counts)) := by
      rw [heqi]
      exact book.getElem?_push_self .actuator _
    have hkeeps := keeps_of_turn counts hget hscan (book.sensorPins_push_subset counts .actuator _)
      fun p hp => honly.keeps p (by simpa using hp)
    refine ⟨.ok, b', heq, fun _ => rfl, fun _ => ⟨hpush.onlyGpio honly.onlyGpio, hkeeps, ?_⟩⟩
    -- the stretch is this one channel
    intro hdriver _ _ j other hle hlt hother hbound
    have hji : j = i := by omega
    subst hji
    rw [hget] at hother
    cases hother
    exact hdrives hdriver rfl rfl hbound
  · rw [if_neg hwrite]
    exact ⟨.fail, b₁, rfl, fun hall => absurd (hall _) hwrite, fun herr => by cases herr⟩

/-- The turn that creates a sensor. -/
theorem initSensor_missing (env : Env) (h : Loading b counts book) {i : Nat}
    (hi : i < counts .sensor) (heqi : i = (book .sensor).records.length) :
    Provides env counts (book.push .sensor (book.nextPin counts)) .sensor i 1 b
      (initSensor env b i) := by
  have hlim : i < channelLimit .sensor := Nat.lt_trans hi (h.counts_lt .sensor)
  have hpos := h.nextPin_nonneg
  have hload := loadRelaySensorFromNvs_cases env h.holds hlim
  rw [List.getElem?_eq_none (Nat.le_of_eq heqi.symm), getContactSensorNvsKey_of_lt hlim] at hload
  dsimp only at hload
  obtain ⟨b₁, hpin, hscan⟩ := getNextAvailableSafeGpioPin_loading env h
  have hinit := relayGpioInit_onlyPins env b₁ (freshSensor i (book.nextPin counts))
  have hcopy := storedCopy_relayGpioInit env b₁ (freshSensor i (book.nextPin counts))
  have hpush := ((h.onlyGpio hscan.onlyGpio).onlyGpio hinit.onlyGpio).push .sensor
    (book.nextPin counts)
  -- the record is not there, and the scan finds the next pin
  unfold initSensor
  rw [getContactSensorNvsKey_of_lt hlim]
  dsimp only
  rw [hload]
  dsimp only
  rw [hpin]
  dsimp only
  rw [if_neg hpos]
  unfold getSensorRelay
  -- the unit is stored whether or not its pin could be set up
  generalize relayGpioInit env b₁ (freshSensor i (book.nextPin counts)) = result
    at hinit hcopy hpush
  obtain ⟨err, relay, b₂⟩ := result
  dsimp only at hinit hcopy hpush ⊢
  rw [show pushRecord b₂.nvs book .sensor (book.nextPin counts) =
    Nvs.set b₂.nvs sNamespace (unitKey .sensor i) (.blob (storedCopy relay)) by
      rw [hcopy, heqi]; rfl] at hpush
  rw [saveRelayToNvs_some]
  by_cases hwrite : env.nvsWrite (unitKey .sensor i) = true
  · rw [if_pos hwrite]
    have hget : (book.push .sensor (book.nextPin counts) .sensor).records[i]? =
        some (freshUnit .sensor i (book.nextPin counts)) := by
      rw [heqi]
      exact book.getElem?_push_self .sensor _
    have hkeeps := keeps_of_turn counts hget hscan (book.sensorPins_push_subset counts .sensor _)
      fun p hp => hinit.keeps p fun hmem => hp (List.mem_singleton.mp hmem)
    refine ⟨.ok, _, rfl, fun _ => rfl, fun _ => ⟨hpush, hkeeps, ?_⟩⟩
    intro _ htype
    cases htype
  · rw [if_neg hwrite]
    exact ⟨.fail, b₂, rfl, fun hall => absurd (hall _) hwrite, fun herr => by cases herr⟩

/-- One turn of a loop does to NVS what `provisionUnit` does to the book. -/
theorem initUnit_loading (env : Env) (h : Loading b counts book) {type : RelayType} {i : Nat}
    (hi : i < counts type) (hle : i ≤ (book type).records.length) :
    Provides env counts (book.provisionUnit counts type i) type i 1 b
      (initUnit env type b i) := by
  unfold Book.provisionUnit
  split
  · next hlt =>
      have hget := List.getElem?_eq_getElem hlt
      cases type with
      | actuator => exact initActuator_stored env h hi hget
      | sensor => exact initSensor_stored env h hi hget
  · next hnot =>
      have heqi : i = (book type).records.length := by omega
      cases type with
      | actuator => exact initActuator_missing env h hi heqi
      | sensor => exact initSensor_missing env h hi heqi

/-- A loop does what its turns do. -/
theorem forChannels_loading (env : Env) (h : Loading b counts book) (type : RelayType)
    {j n : Nat} (hn : j + n ≤ counts type) (hle : j ≤ (book type).records.length) :
    Provides env counts ((List.range' j n).foldl (Book.provisionUnit counts type) book) type
      j n b (forChannels (initUnit env type) (List.range' j n) b) := by
  induction n generalizing j b book with
  | zero => exact ⟨.ok, b, rfl, fun _ => rfl, fun _ => ⟨h, SetUp.nil⟩⟩
  | succ n ih =>
      obtain ⟨err, b₁, hturn, hok, hload⟩ := initUnit_loading env h (i := j) (by omega) hle
      rw [List.range'_succ, List.foldl_cons]
      unfold forChannels
      rw [hturn]
      by_cases herr : err = .ok
      · subst herr
        obtain ⟨h₁, hset⟩ := hload rfl
        have hlt := book.lt_length_provisionUnit counts type hle
        obtain ⟨err', b₂, hrest, hok', hload'⟩ := ih h₁ (j := j + 1) (by omega) hlt
        have hgrows := ((book.provisionUnit counts type j).grows_foldl h.counts_lt type
          (j := j + 1) (n := n) (by omega) hlt).1
        refine ⟨err', b₂, hrest, hok', ?_⟩
        intro herr'
        obtain ⟨h₂, hset'⟩ := hload' herr'
        exact ⟨h₂, hset.cons hgrows hlt (by omega) hset'⟩
      · refine ⟨err, b₁, ?_, hok, fun h => absurd h herr⟩
        cases err <;> first | exact absurd rfl herr | rfl

/-! ### The Whole Initialization -/

/-- A count as NVS has it: absent, or a number with a key for every channel below. -/
def CountInRange (nvs : Nvs.Store RelayUnit) (key : CStr) (limit : Nat) : Prop :=
  nvs sNamespace key = none ∨ ∃ n, n < limit ∧ nvs sNamespace key = some (.u16 n)

/-- The counts `device_settings_init` goes by. -/
def countsOf (nvs : Nvs.Store RelayUnit) : Counts
  | .actuator => uint16OrDefault nvs sKeyChannelCount sDefaultChannelCount
  | .sensor => uint16OrDefault nvs sKeyContactSensorsCount sDefaultContactSensorsCount

/-- What provisioning expects of NVS: counts within the channels, records that make
    up a book. -/
structure WellStored (nvs : Nvs.Store RelayUnit) (book : Book) : Prop where
  channel_count : CountInRange nvs sKeyChannelCount (channelLimit .actuator)
  sensors_count : CountInRange nvs sKeyContactSensorsCount (channelLimit .sensor)
  holds : Holds nvs book

theorem CountInRange.uint16OrDefault_lt {nvs : Nvs.Store RelayUnit} {key : CStr}
    {limit default : Nat} (h : CountInRange nvs key limit) (hdefault : default < limit) :
    uint16OrDefault nvs key default < limit := by
  unfold uint16OrDefault Nvs.readUint16
  rcases h with h | ⟨n, hn, h⟩
  · rw [h]
    exact hdefault
  · rw [h]
    exact hn

theorem WellStored.counts_lt {nvs : Nvs.Store RelayUnit} (h : WellStored nvs book)
    (type : RelayType) : countsOf nvs type < channelLimit type := by
  cases type with
  | actuator => exact h.channel_count.uint16OrDefault_lt (by decide)
  | sensor => exact h.sensors_count.uint16OrDefault_lt (by decide)

/-- Blocks for settings leave the unit records. -/
theorem Holds.initParameters {nvs : Nvs.Store RelayUnit} (h : Holds nvs book)
    (nvsWrite : CStr → Bool) {parameters : List (CStr × Nvs.Value RelayUnit)}
    (hkeys : ∀ key ∈ parameters.map Prod.fst, key ∈ settingKeys) :
    Holds (initParameters nvsWrite parameters nvs).2 book := by
  intro type i
  have hother : ∀ p ∈ parameters, p.1 ≠ unitKey type i :=
    fun p hp => settingKey_ne (hkeys p.1 (List.mem_map_of_mem hp)) type i
  rw [initParameters_of_not_mem nvsWrite nvs hother]
  exact h type i

theorem deviceParameters_keys : ∀ key ∈ deviceParameters.map Prod.fst, key ∈ settingKeys := by
  unfold deviceParameters
  simp only [List.map_cons, List.map_nil]
  decide

theorem deviceParameters_keys_nodup : (deviceParameters.map Prod.fst).Nodup := by
  unfold deviceParameters
  simp only [List.map_cons, List.map_nil]
  decide

theorem mqttConnect_not_mem_deviceParameters :
    sKeyMqttConnect ∉ deviceParameters.map Prod.fst := by
  unfold deviceParameters
  simp only [List.map_cons, List.map_nil]
  decide

theorem baseParameters_keys (newDeviceId newDeviceSerial : CStr) :
    ∀ key ∈ (baseParameters newDeviceId newDeviceSerial :
      List (CStr × Nvs.Value RelayUnit)).map Prod.fst, key ∈ settingKeys := by
  unfold baseParameters
  simp only [List.map_cons, List.map_nil]
  decide

theorem counts_not_mem_baseParameters (newDeviceId newDeviceSerial : CStr) :
    sKeyChannelCount ∉ (baseParameters newDeviceId newDeviceSerial :
        List (CStr × Nvs.Value RelayUnit)).map Prod.fst ∧
      sKeyContactSensorsCount ∉ (baseParameters newDeviceId newDeviceSerial :
        List (CStr × Nvs.Value RelayUnit)).map Prod.fst := by
  unfold baseParameters
  simp only [List.map_cons, List.map_nil]
  decide

/-- After its blocks have succeeded `device_settings_init` starts to load. -/
theorem loading_of_initParameters {nvsWrite : CStr → Bool} {nvs : Nvs.Store RelayUnit}
    (hmem : b.unitsInMemory = false) (hready : b.isMqttReady = false)
    (hmode : ∃ mode, Nvs.readUint16 b.nvs sNamespace sKeyMqttConnect = .ok mode)
    (hstored : WellStored b.nvs book)
    (hinit : Settings.initParameters nvsWrite deviceParameters b.nvs = (.ok, nvs)) :
    Loading { b with nvs := nvs } (countsOf b.nvs) book := by
  have hread : ∀ {key : CStr} {default : Nat}, (key, .u16 default) ∈ deviceParameters →
      Nvs.readUint16 nvs sNamespace key = .ok (uint16OrDefault b.nvs key default) :=
    fun hp => readUint16_initParameters deviceParameters_keys_nodup hp hinit
  refine ⟨hmem, hready, ?_, hread ?_, hread ?_, hstored.counts_lt, ?_⟩
  · obtain ⟨mode, hmode⟩ := hmode
    have hother : ∀ p ∈ deviceParameters, p.1 ≠ sKeyMqttConnect := by
      rintro p hp heq
      exact mqttConnect_not_mem_deviceParameters (heq ▸ List.mem_map_of_mem hp)
    have hframe := initParameters_of_not_mem nvsWrite b.nvs hother
    rw [hinit] at hframe
    refine ⟨mode, Nvs.readUint16_eq_ok_iff.mpr ?_⟩
    exact hframe.trans (Nvs.readUint16_eq_ok_iff.mp hmode)
  · unfold deviceParameters
    simp only [List.mem_cons, true_or, or_true]
  · unfold deviceParameters
    simp only [List.mem_cons, true_or, or_true]
  · have hholds := hstored.holds.initParameters nvsWrite deviceParameters_keys
    rw [hinit] at hholds
    exact hholds

/-- How an initialization ends: with the book provisioned and its actuators driven. -/
def Initializes (env : Env) (counts : Counts) (book : Book)
    (result : Option (EspErr × Board)) : Prop :=
  ∃ err b', result = some (err, b') ∧ ((∀ key, env.nvsWrite key = true) → err = .ok) ∧
    (err = .ok → Loading b' counts (book.provision counts) ∧
      AllDriven env counts (book.provision counts) b')

/-- Both loops after each other. -/
theorem forChannels_provision (env : Env) (h : Loading b counts book) :
    Initializes env counts book
      (match forChannels (initActuator env) (List.range (counts .actuator)) b with
        | none => none
        | some (.ok, b) => forChannels (initSensor env) (List.range (counts .sensor)) b
        | some (err, b) => some (err, b)) := by
  obtain ⟨err, b₁, hact, hok, hload⟩ := forChannels_loading env h .actuator
    (j := 0) (n := counts .actuator) (by omega) (Nat.zero_le _)
  rw [← List.range_eq_range'] at hact hload
  rw [show forChannels (initActuator env) (List.range (counts .actuator)) b = _ from hact]
  by_cases herr : err = .ok
  · subst herr
    obtain ⟨h₁, hset⟩ := hload rfl
    -- the second loop starts from the book of the first
    obtain ⟨err', b₂, hsens, hok', hload'⟩ := forChannels_loading env h₁
      .sensor (j := 0) (n := counts .sensor) (by omega) (Nat.zero_le _)
    rw [← List.range_eq_range'] at hsens hload'
    refine ⟨err', b₂, hsens, hok', ?_⟩
    intro herr'
    obtain ⟨h₂, hset'⟩ := hload' herr'
    have hcomplete := (book.grows_provisionType h.counts_lt .actuator).2
    have hgrows := ((book.provisionType counts .actuator).grows_provisionType h.counts_lt
      .sensor).1
    exact ⟨h₂, hset.allDriven hgrows hcomplete hset'⟩
  · refine ⟨err, b₁, ?_, hok, fun h => absurd h herr⟩
    cases err <;> first | exact absurd rfl herr | rfl

/-- `device_settings_init` does to NVS what `Book.provision` does to the book; it
    fails only when a write fails. -/
theorem deviceSettingsInit_spec (env : Env) (hmem : b.unitsInMemory = false)
    (hready : b.isMqttReady = false)
    (hmode : ∃ mode, Nvs.readUint16 b.nvs sNamespace sKeyMqttConnect = .ok mode)
    (hstored : WellStored b.nvs book) :
    Initializes env (countsOf b.nvs) book (deviceSettingsInit env b) := by
  unfold deviceSettingsInit
  dsimp only
  split
  · next nvs hinit =>
      exact forChannels_provision env
        (loading_of_initParameters hmem hready hmode hstored hinit)
  · next err nvs hne hinit =>
      refine ⟨err, _, rfl, ?_, fun h => absurd h hne⟩
      intro hwrite
      obtain ⟨nvs', hok⟩ := initParameters_ok hwrite deviceParameters b.nvs
      exact congrArg Prod.fst (hinit.symm.trans hok)

/-- What `base_settings_init` leaves for `device_settings_init`. -/
theorem baseSettingsInit_spec {nvsWrite : CStr → Bool} {newDeviceId newDeviceSerial : CStr}
    {nvs nvs' : Nvs.Store RelayUnit} (hstored : WellStored nvs book)
    (h : baseSettingsInit nvsWrite newDeviceId newDeviceSerial nvs = (.ok, nvs')) :
    (∃ mode, Nvs.readUint16 nvs' sNamespace sKeyMqttConnect = .ok mode) ∧
      WellStored nvs' book ∧ countsOf nvs' = countsOf nvs := by
  have hcounts := counts_not_mem_baseParameters newDeviceId newDeviceSerial
  unfold baseSettingsInit at h
  -- a key without a block is left alone
  have hkept : ∀ key, key ∉ (baseParameters newDeviceId newDeviceSerial :
      List (CStr × Nvs.Value RelayUnit)).map Prod.fst →
      nvs' sNamespace key = nvs sNamespace key := by
    intro key hkey
    have hother : ∀ p ∈ (baseParameters newDeviceId newDeviceSerial :
        List (CStr × Nvs.Value RelayUnit)), p.1 ≠ key :=
      fun p hp heq => hkey (heq ▸ List.mem_map_of_mem hp)
    have hframe := initParameters_of_not_mem nvsWrite nvs hother
    rw [h] at hframe
    exact hframe
  have hch := hkept _ hcounts.1
  have hsn := hkept _ hcounts.2
  have hmode : (sKeyMqttConnect, Nvs.Value.u16 sDefaultMqttConnect) ∈
      (baseParameters newDeviceId newDeviceSerial : List (CStr × Nvs.Value RelayUnit)) := by
    unfold baseParameters
    simp only [List.mem_cons, true_or]
  refine ⟨⟨_, readUint16_initParameters (baseParameters_keys_nodup _ _) hmode h⟩,
    ⟨?_, ?_, ?_⟩, ?_⟩
  · unfold CountInRange
    rw [hch]
    exact hstored.channel_count
  · unfold CountInRange
    rw [hsn]
    exact hstored.sensors_count
  · have hholds := hstored.holds.initParameters nvsWrite
      (baseParameters_keys newDeviceId newDeviceSerial)
    rw [h] at hholds
    exact hholds
  · funext type
    cases type with
    | actuator => simp only [countsOf, uint16OrDefault, Nvs.readUint16, hch]
    | sensor => simp only [countsOf, uint16OrDefault, Nvs.readUint16, hsn]

/-- `settings_init` on a reset board. -/
theorem settingsInit_spec (env : Env) (newDeviceId newDeviceSerial : CStr)
    (hmem : b.unitsInMemory = false) (hready : b.isMqttReady = false)
    (hstored : WellStored b.nvs book) :
    Initializes env (countsOf b.nvs) book
      (settingsInit env newDeviceId newDeviceSerial b) := by
  unfold settingsInit
  split
  · next nvs hbase =>
      obtain ⟨hmode, hstored', hcounts⟩ := baseSettingsInit_spec hstored hbase
      obtain ⟨err, b', hdevice, hok, hload⟩ :=
        deviceSettingsInit_spec (b := { b with nvs := nvs }) env hmem hready hmode hstored'
      rw [hdevice]
      dsimp only at hload
      rw [hcounts] at hload
      by_cases herr : err = .ok
      · subst herr
        exact ⟨.ok, b', rfl, hok, hload⟩
      · refine ⟨.fail, b', ?_, fun hwrite => absurd (hok hwrite) herr, fun h => by cases h⟩
        cases err <;> first | exact absurd rfl herr | rfl
  · next err nvs hne hbase =>
      refine ⟨.fail, _, rfl, ?_, fun h => by cases h⟩
      intro hwrite
      obtain ⟨nvs', hok⟩ := initParameters_ok hwrite
        (baseParameters newDeviceId newDeviceSerial) b.nvs
      exact absurd (congrArg Prod.fst (hbase.symm.trans hok)) hne

/-! ### Channels Without a Key -/

/-- Every channel the loops of `device_settings_init` go through has a key. -/
structure KeysExist (nvs : Nvs.Store RelayUnit) : Prop where
  actuators : ∀ channel < countsOf nvs .actuator, getRelayNvsKey channel ≠ none
  sensors : ∀ channel < countsOf nvs .sensor, getContactSensorNvsKey channel ≠ none

/-- A loop that ends well has done all of its turns. -/
theorem forChannels_ok {body : Board → Nat → Option (EspErr × Board)} {channels : List Nat}
    (h : forChannels body channels b = some (.ok, b')) :
    ∀ channel ∈ channels, ∃ b₁ b₂, body b₁ channel = some (.ok, b₂) := by
  induction channels generalizing b with
  | nil => exact fun channel hmem => absurd hmem List.not_mem_nil
  | cons channel channels ih =>
      unfold forChannels at h
      split at h
      · cases h
      · next b₁ hbody =>
          intro other hmem
          rcases List.mem_cons.mp hmem with rfl | hmem
          · exact ⟨b, b₁, hbody⟩
          · exact ih h other hmem
      · next hne _ =>
          cases h
          exact absurd rfl hne

/-- A `device_settings_init` that succeeds has found a key for every channel. -/
theorem keysExist_of_deviceSettingsInit {env : Env}
    (h : deviceSettingsInit env b = some (.ok, b')) : KeysExist b.nvs := by
  unfold deviceSettingsInit at h
  dsimp only at h
  split at h
  · split at h
    · cases h
    · next b₁ hact =>
        refine ⟨?_, ?_⟩
        · intro channel hlt hnone
          obtain ⟨b₂, b₃, hturn⟩ := forChannels_ok hact channel (List.mem_range.mpr hlt)
          unfold initActuator at hturn
          rw [hnone] at hturn
          cases hturn
        · intro channel hlt hnone
          obtain ⟨b₂, b₃, hturn⟩ := forChannels_ok h channel (List.mem_range.mpr hlt)
          unfold initSensor at hturn
          rw [hnone] at hturn
          cases hturn
    · next hne _ =>
        cases h
        exact absurd rfl hne
  · next hne _ =>
      cases h
      exact absurd rfl hne

end Boot
