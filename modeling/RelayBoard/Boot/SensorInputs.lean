import RelayBoard.Boot.Table
import RelayBoard.Relay.Inputs

/-! # Sensors After a Boot

  A boot adds an interrupt handler on the pins of the sensors and on no other
  one. When the driver does not fail, every sensor of the table listens to
  its pin and has the state of the level there.
-/

open CString Relay Settings

namespace Boot

variable {env : Env} {b b' : Board} {counts : Counts} {book : Book}

/-! ### Loading Touches No Input -/

theorem isGpioPinInUse_sameInputs {pin : Int} {used : Bool}
    (h : isGpioPinInUse env b pin = some (used, b')) : SameInputs b b' := by
  unfold isGpioPinInUse at h
  split at h
  · cases h
  · next hall =>
      have hsame := getAllRelayUnits_sameInputs hall
      split at h
      · cases h
        exact hsame
      · cases h
        exact hsame.trans ⟨rfl, rfl⟩

theorem findFreePin_sameInputs {pool : List Int} {pin : Int}
    (h : findFreePin env pool b = some (pin, b')) : SameInputs b b' := by
  induction pool generalizing b with
  | nil =>
      cases h
      exact SameInputs.refl _
  | cons candidate pool ih =>
      unfold findFreePin at h
      split at h
      · cases h
      · next hused => exact (isGpioPinInUse_sameInputs hused).trans (ih h)
      · next hfree =>
          cases h
          exact isGpioPinInUse_sameInputs hfree

theorem setBootState_sameInputs {relay : RelayUnit} {err : EspErr}
    (h : setBootState env b relay = some (err, b')) : SameInputs b b' := by
  unfold setBootState at h
  split at h
  · cases h
  · next hset =>
      cases h
      exact relaySetState_sameInputs hset

theorem initActuator_sameInputs {channel : Nat} {err : EspErr}
    (h : initActuator env b channel = some (err, b')) : SameInputs b b' := by
  unfold initActuator at h
  split at h
  · cases h
    exact SameInputs.refl b
  · split at h
    · exact setBootState_sameInputs h
    · split at h
      · cases h
      · next hpin =>
          have hscan := findFreePin_sameInputs hpin
          split at h
          · cases h
            exact hscan
          · dsimp only at h
            split at h
            · next hsave =>
                have hsaved := SameInputs.of_gpio (saveRelayToNvs_gpio hsave)
                exact (hscan.trans hsaved).trans (setBootState_sameInputs h)
            · next hsave =>
                cases h
                exact hscan.trans (SameInputs.of_gpio (saveRelayToNvs_gpio hsave))

theorem initSensor_sameInputs {channel : Nat} {err : EspErr}
    (h : initSensor env b channel = some (err, b')) : SameInputs b b' := by
  unfold initSensor at h
  split at h
  · cases h
    exact SameInputs.refl b
  · next key _ =>
      have hload := loadRelaySensorFromNvs_sameInputs env b (some key)
      split at h
      · next heq =>
          cases h
          rw [heq] at hload
          exact hload
      · next b₁ heq =>
          rw [heq] at hload
          split at h
          · cases h
          · next gpioPin b₂ hpin =>
              have hscan := hload.trans (findFreePin_sameInputs hpin)
              split at h
              · cases h
                exact hscan
              · have hinit := hscan.trans
                  (relayGpioInit_sameInputs env b₂ (freshSensor channel gpioPin))
                dsimp only at h
                split at h
                · next hsave =>
                    cases h
                    exact hinit.trans (SameInputs.of_gpio (saveRelayToNvs_gpio hsave))
                · next hsave =>
                    cases h
                    exact hinit.trans (SameInputs.of_gpio (saveRelayToNvs_gpio hsave))

/-- A loop touches no input if its turns do not. -/
theorem forChannels_sameInputs {body : Board → Nat → Option (EspErr × Board)}
    (hbody : ∀ b channel err b', body b channel = some (err, b') → SameInputs b b')
    {channels : List Nat} {err : EspErr} (h : forChannels body channels b = some (err, b')) :
    SameInputs b b' := by
  induction channels generalizing b with
  | nil =>
      cases h
      exact SameInputs.refl _
  | cons channel channels ih =>
      unfold forChannels at h
      split at h
      · cases h
      · next hturn => exact (hbody _ _ _ _ hturn).trans (ih h)
      · next hturn =>
          cases h
          exact hbody _ _ _ _ hturn

theorem deviceSettingsInit_sameInputs {err : EspErr}
    (h : deviceSettingsInit env b = some (err, b')) : SameInputs b b' := by
  unfold deviceSettingsInit at h
  dsimp only at h
  split at h
  · split at h
    · cases h
    · next hact =>
        have hactuators := forChannels_sameInputs
          (fun _ _ _ _ hturn => initActuator_sameInputs hturn) hact
        have hsensors := forChannels_sameInputs
          (fun _ _ _ _ hturn => initSensor_sameInputs hturn) h
        exact ⟨hsensors.level.trans hactuators.level, hsensors.isr.trans hactuators.isr⟩
    · next hact =>
        cases h
        have hactuators := forChannels_sameInputs
          (fun _ _ _ _ hturn => initActuator_sameInputs hturn) hact
        exact ⟨hactuators.level, hactuators.isr⟩
  · cases h
    exact ⟨rfl, rfl⟩

theorem settingsInit_sameInputs {newDeviceId newDeviceSerial : CStr} {err : EspErr}
    (h : settingsInit env newDeviceId newDeviceSerial b = some (err, b')) :
    SameInputs b b' := by
  unfold settingsInit at h
  split at h
  · split at h
    · cases h
    · next hdevice =>
        cases h
        exact ⟨(deviceSettingsInit_sameInputs hdevice).level,
          (deviceSettingsInit_sameInputs hdevice).isr⟩
    · next hdevice =>
        cases h
        exact ⟨(deviceSettingsInit_sameInputs hdevice).level,
          (deviceSettingsInit_sameInputs hdevice).isr⟩
  · cases h
    exact ⟨rfl, rfl⟩

theorem initRelayUnitsInMemory_sameInputs {err : EspErr}
    (h : initRelayUnitsInMemory env b = some (err, b')) : SameInputs b b' := by
  unfold initRelayUnitsInMemory at h
  split at h
  · cases h
  · next hall =>
      cases h
      exact ⟨(getAllRelayUnits_sameInputs hall).level, (getAllRelayUnits_sameInputs hall).isr⟩

theorem loadUnits_sameInputs {newDeviceId newDeviceSerial : CStr}
    (h : loadUnits env newDeviceId newDeviceSerial b = some b') : SameInputs b b' := by
  unfold loadUnits at h
  split at h
  · next hinit =>
      split at h
      · next htable =>
          cases h
          exact (settingsInit_sameInputs hinit).trans (initRelayUnitsInMemory_sameInputs htable)
      · cases h
  · cases h

/-! ### The Loaded Sensors -/

/-- The sensors of a list are ready, if the driver never fails. -/
theorem getContactSensorList_ready (hdriver : env.driver = Gpio.Driver.ok)
    (h : Loading b counts book) (hsafe : book.Safe) {sensors : List RelayUnit}
    (hlist : getContactSensorList env b = some (sensors, b')) :
    ∀ relay ∈ sensors, relay.type = .sensor → Ready b'.gpio relay := by
  have hlim := h.counts_lt .sensor
  have hrecords : ∀ channel ∈ List.range (counts .sensor), ∀ relay,
      nvsReadRelay b (getContactSensorNvsKey channel) = .ok relay →
        relay.type = .sensor ∧ 0 ≤ relay.gpioPin ∧ relay.gpioPin < 64 := by
    intro channel hmem relay hread
    rw [getContactSensorNvsKey_of_lt (Nat.lt_trans (List.mem_range.mp hmem) hlim)] at hread
    unfold nvsReadRelay at hread
    dsimp only at hread
    rw [readBlob_unitKey h.holds] at hread
    split at hread
    · next record hget =>
        cases hread
        exact ⟨((book .sensor).isRecord channel relay hget).type_eq,
          safeGpioPin_bounds (hsafe .sensor relay (List.mem_of_getElem? hget))⟩
    · cases hread
  unfold getContactSensorList at hlist
  rw [h.not_in_memory, h.sensors_count] at hlist
  cases hlist
  intro relay hmem
  obtain ⟨_, hready⟩ := loadSensors_ready hdriver _ hrecords
  -- a place of the list without a record is no sensor
  exact forall_mem_packLoaded
    (P := fun relay => relay.type = .sensor → Ready _ relay)
    (fun relay hload _ => hready relay hload) (fun htype => by cases htype) hmem

theorem getAllRelayUnits_ready (hdriver : env.driver = Gpio.Driver.ok)
    (h : Loading b counts book) (hsafe : book.Safe) {units : List RelayUnit}
    (hall : getAllRelayUnits env b = some (units, b')) :
    ∀ relay ∈ units, relay.type = .sensor → Ready b'.gpio relay := by
  obtain ⟨actuators, hact, hactuators, _⟩ := getRelayList_loading h
  unfold getAllRelayUnits at hall
  rw [h.not_in_memory, if_neg (by simp), hact] at hall
  dsimp only at hall
  split at hall
  · cases hall
  · next sensors b₁ hsensors =>
      cases hall
      intro relay hmem htype
      rcases List.mem_append.mp hmem with hmem | hmem
      · -- a unit of the actuator list is no sensor
        have hcopy : storedCopy relay ∈ book.active counts .actuator := by
          rw [← hactuators]
          exact List.mem_map_of_mem hmem
        obtain ⟨i, hi⟩ := List.getElem?_of_mem (List.mem_of_mem_take hcopy)
        have hactuator : relay.type = .actuator := ((book .actuator).isRecord i _ hi).type_eq
        rw [htype] at hactuator
        cases hactuator
      · exact getContactSensorList_ready hdriver h hsafe hsensors relay hmem htype

/-- The sensors of the loaded table are ready. -/
theorem loadUnits_ready (hdriver : env.driver = Gpio.Driver.ok)
    {newDeviceId newDeviceSerial : CStr} (hmem : b.unitsInMemory = false)
    (hready : b.isMqttReady = false) (hstored : WellStored b.nvs book) (hsafe : book.Safe)
    (h : loadUnits env newDeviceId newDeviceSerial b = some b') :
    ∀ relay ∈ b'.sUnits, relay.type = .sensor → Ready b'.gpio relay := by
  obtain ⟨err, b₁, hinit, _, hload⟩ :=
    settingsInit_spec env newDeviceId newDeviceSerial hmem hready hstored
  have hprovisioned := (book.grows_provision hstored.counts_lt).1.safe hsafe
  unfold loadUnits at h
  rw [hinit] at h
  split at h
  · next heq =>
      cases heq
      obtain ⟨hloading, _⟩ := hload rfl
      unfold initRelayUnitsInMemory at h
      split at h
      · next htable =>
          cases h
          split at htable
          · cases htable
          · next hall =>
              cases htable
              have hunits := getAllRelayUnits_ready hdriver hloading hprovisioned hall
              exact hunits
      · cases h
  · cases h

/-! ### Registering the Sensors -/

/-- Does `relay_sensor_register_isr` accept the unit? -/
def Registrable (relay : RelayUnit) : Prop :=
  relay.gpioInitialized = true ∧ relay.type = .sensor

instance (relay : RelayUnit) : Decidable (Registrable relay) :=
  inferInstanceAs (Decidable (_ ∧ _))

/-- A unit as `relay_all_sensors_register_isr` leaves it in the table. -/
def registered (g : Gpio.State) (relay : RelayUnit) : RelayUnit :=
  if Registrable relay then
    { relay with state := sensorState (Gpio.getLevel g relay.gpioPin) relay }
  else relay

theorem registered_sameUnit (g : Gpio.State) (relay : RelayUnit) :
    SameUnit relay (registered g relay) := by
  unfold registered
  split <;> exact ⟨rfl, rfl, rfl, rfl, rfl⟩

/-- What the loop does to `count` units from index `i` on. -/
structure Registers (count i : Nat) (b b' : Board) : Prop where
  units_in_memory : b'.unitsInMemory = b.unitsInMemory
  relays_count : b'.sRelaysCount = b.sRelaysCount
  sensors_count : b'.sSensorsCount = b.sSensorsCount
  mode : b'.gpio.mode = b.gpio.mode
  level : b'.gpio.level = b.gpio.level
  unit : ∀ j, b'.sUnits[j]? =
    if i ≤ j ∧ j < i + count then (b.sUnits[j]?).map (registered b.gpio) else b.sUnits[j]?
  isr : ∀ p, b'.gpio.isr p = true ↔ b.gpio.isr p = true ∨
    ∃ j relay, i ≤ j ∧ j < i + count ∧ b.sUnits[j]? = some relay ∧ Registrable relay ∧
      relay.gpioPin = p

/-- Past the table, and in no turns at all, nothing is done. -/
theorem Registers.nil {count i : Nat} (h : count = 0 ∨ b.sUnits[i]? = none) :
    Registers count i b b := by
  have hnone : ∀ j, i ≤ j → j < i + count → b.sUnits[j]? = none := by
    intro j hle hlt
    rcases h with h | h
    · omega
    · have := List.getElem?_eq_none_iff.mp h
      exact List.getElem?_eq_none (by omega)
  refine ⟨rfl, rfl, rfl, rfl, rfl, ?_, ?_⟩
  · intro j
    split
    · next hj => simp [hnone j hj.1 hj.2]
    · rfl
  · intro p
    refine ⟨Or.inl, ?_⟩
    rintro (h | ⟨j, relay, hle, hlt, hget, _⟩)
    · exact h
    · rw [hnone j hle hlt] at hget
      cases hget

/-- A turn and the turns after it. -/
theorem Registers.cons {count i : Nat} {b₁ : Board} (h : Registers 1 i b b₁)
    (h' : Registers count (i + 1) b₁ b') : Registers (count + 1) i b b' := by
  have hregistered : registered b₁.gpio = registered b.gpio := by
    funext relay
    unfold registered Gpio.getLevel
    rw [h.mode, h.level]
  refine ⟨h'.units_in_memory.trans h.units_in_memory, h'.relays_count.trans h.relays_count,
    h'.sensors_count.trans h.sensors_count, h'.mode.trans h.mode, h'.level.trans h.level,
    ?_, ?_⟩
  · intro j
    rw [h'.unit j, h.unit j, hregistered]
    by_cases hj : i = j
    · subst hj
      rw [if_neg (by omega), if_pos (by omega), if_pos (by omega)]
    · by_cases hlater : i + 1 ≤ j ∧ j < i + 1 + count
      · rw [if_pos hlater, if_neg (by omega), if_pos (by omega)]
      · rw [if_neg hlater, if_neg (by omega), if_neg (by omega)]
  · -- the units of the later turns are those of before
    have hlater : ∀ j, i + 1 ≤ j → b₁.sUnits[j]? = b.sUnits[j]? := by
      intro j hj
      rw [h.unit j, if_neg (by omega)]
    intro p
    rw [h'.isr p, h.isr p]
    constructor
    · rintro ((hp | ⟨j, relay, hle, hlt, hget, hrest⟩) | ⟨j, relay, hle, hlt, hget, hrest⟩)
      · exact Or.inl hp
      · exact Or.inr ⟨j, relay, hle, by omega, hget, hrest⟩
      · rw [hlater j hle] at hget
        exact Or.inr ⟨j, relay, by omega, by omega, hget, hrest⟩
    · rintro (hp | ⟨j, relay, hle, hlt, hget, hrest⟩)
      · exact Or.inl (Or.inl hp)
      · by_cases hj : i = j
        · exact Or.inl (Or.inr ⟨j, relay, hle, by omega, hget, hrest⟩)
        · refine Or.inr ⟨j, relay, by omega, by omega, ?_, hrest⟩
          rw [hlater j (by omega)]
          exact hget

/-- The turn of a unit that is refused. -/
theorem Registers.refused {i : Nat} {relay : RelayUnit} (hget : b.sUnits[i]? = some relay)
    (hnot : ¬ Registrable relay) : Registers 1 i b b := by
  refine ⟨rfl, rfl, rfl, rfl, rfl, ?_, ?_⟩
  · intro j
    split
    · next hj =>
        have hij : j = i := by omega
        subst hij
        rw [hget]
        simp [registered, hnot]
    · rfl
  · intro p
    refine ⟨Or.inl, ?_⟩
    rintro (h | ⟨j, other, hle, hlt, hother, hreg, _⟩)
    · exact h
    · have hij : j = i := by omega
      subst hij
      rw [hget] at hother
      cases hother
      exact absurd hreg hnot

/-- The turn of a sensor: its handler is added, and its state refreshed. -/
theorem Registers.sensor (env : Env) {i : Nat} {relay : RelayUnit} {b₁ : Board}
    (hget : b.sUnits[i]? = some relay) (hreg : Registrable relay)
    (h : relaySensorRegisterIsr b relay = (.ok, b₁)) :
    Registers 1 i b ((sensorStateRefresh env b₁ relay).2.setUnit i
      (sensorStateRefresh env b₁ relay).1) := by
  have htab := (relaySensorRegisterIsr_onlyGpio h).sameTable
  have hadded := relaySensorRegisterIsr_added h
  -- the refresh reads the level that the input has now
  have hunit : (sensorStateRefresh env b₁ relay).1 = registered b.gpio relay := by
    unfold registered sensorStateRefresh Gpio.getLevel
    rw [if_pos hreg, hadded.mode, hadded.level]
    rfl
  obtain ⟨nvs, hsaved⟩ : ∃ nvs, (sensorStateRefresh env b₁ relay).2 = { b₁ with nvs := nvs } :=
    saveRelayToNvs_onlyNvs rfl
  rw [hunit, hsaved]
  refine ⟨htab.units_in_memory, htab.relays_count, htab.sensors_count, hadded.mode,
    hadded.level, ?_, ?_⟩
  · intro j
    show (b₁.sUnits.set i _)[j]? = _
    rw [htab.units]
    by_cases hj : i = j
    · subst hj
      rw [List.getElem?_set_self (List.getElem?_eq_some_iff.mp hget).1, hget]
      simp
    · rw [List.getElem?_set_ne hj, if_neg (by omega)]
  · intro p
    show b₁.gpio.isr p = true ↔ _
    rw [hadded.isr p]
    refine or_congr Iff.rfl ⟨?_, ?_⟩
    · -- the handler that was added is that of the unit
      intro hp
      exact ⟨i, relay, Nat.le_refl i, Nat.lt_succ_self i, hget, hreg, hp.symm⟩
    · rintro ⟨j, other, hle, hlt, hother, _, hp⟩
      have hij : j = i := by omega
      subst hij
      rw [hget] at hother
      cases hother
      exact hp.symm

/-- Every registrable unit of a stretch of the table is registered and refreshed. -/
theorem registerSensors_registers (env : Env) (count i : Nat) (b : Board) :
    Registers count i b (registerSensors env count i b) := by
  induction count generalizing i b with
  | zero => exact Registers.nil (Or.inl rfl)
  | succ count ih =>
      unfold registerSensors
      split
      · next hnone => exact Registers.nil (Or.inr hnone)
      · next relay hget =>
          split
          · next b₁ hok =>
              obtain ⟨hinit, htype, _⟩ := relaySensorRegisterIsr_eq_ok hok
              have hreg : Registrable relay := ⟨hinit, htype⟩
              exact (Registers.sensor env hget hreg hok).cons (ih (i + 1) _)
          · next b₁ hne hfail =>
              have hnot : ¬ Registrable relay := by
                intro hreg
                rw [relaySensorRegisterIsr_sensor b hreg.1 hreg.2] at hfail
                cases hfail
                exact hne rfl
              rw [relaySensorRegisterIsr_error hfail hne]
              exact (Registers.refused hget hnot).cons (ih (i + 1) _)

/-! ### The Booted Table -/

theorem Registers.loadedTable {count i n m : Nat} (h : Registers count i b b')
    (htab : LoadedTable b n m) : LoadedTable b' n m := by
  refine htab.of_places h.units_in_memory h.relays_count h.sensors_count ?_
  apply List.ext_getElem?
  intro j
  rw [List.getElem?_map, List.getElem?_map, h.unit j]
  split
  · rw [Option.map_map]
    congr 1
    funext relay
    have hsame := registered_sameUnit b.gpio relay
    exact Prod.ext hsame.type hsame.channel
  · rfl

/-- What a boot leaves of the inputs. -/
structure BootedInputs (env : Env) (b : Board) (n m : Nat) : Prop where
  table : LoadedTable b n m
  owned : ∀ p, b.gpio.isr p = true →
    ∃ relay ∈ b.sUnits, relay.type = .sensor ∧ relay.gpioPin = p
  listens : env.driver = Gpio.Driver.ok → ∀ relay ∈ b.sUnits, relay.type = .sensor →
    Listens b.gpio relay ∧ relay.state = sensorState (b.gpio.level relay.gpioPin) relay

/-- Registering all sensors of a loaded table without handlers. -/
theorem Registers.bootedInputs {n m : Nat} (h : Registers m n b b') (htab : LoadedTable b n m)
    (hisr : ∀ p, b.gpio.isr p = false)
    (hready : env.driver = Gpio.Driver.ok →
      ∀ relay ∈ b.sUnits, relay.type = .sensor → Ready b.gpio relay) :
    BootedInputs env b' n m := by
  refine ⟨h.loadedTable htab, ?_, ?_⟩
  · intro p hp
    rcases (h.isr p).mp hp with hold | ⟨j, relay, hle, hlt, hget, hreg, hpin⟩
    · rw [hisr p] at hold
      cases hold
    · have hget' := h.unit j
      rw [if_pos ⟨hle, hlt⟩, hget] at hget'
      have hsame := registered_sameUnit b.gpio relay
      exact ⟨_, List.mem_of_getElem? hget', hsame.type.trans hreg.2, hsame.gpio_pin.trans hpin⟩
  · intro hdriver relay hmem htype
    obtain ⟨j, hget⟩ := List.getElem?_of_mem hmem
    -- a sensor is in the stretch that has been registered
    rcases (h.loadedTable htab).cases hget with ⟨_, hact, _⟩ | ⟨c, hc, hj, _, _⟩
    · rw [htype] at hact
      cases hact
    · have hunit := h.unit j
      rw [hget, if_pos (by omega)] at hunit
      obtain ⟨other, hother, rfl⟩ := Option.map_eq_some_iff.mp hunit.symm
      have hsame := registered_sameUnit b.gpio other
      have hsensor : other.type = .sensor := hsame.type.symm.trans htype
      have hr := hready hdriver other (List.mem_of_getElem? hother) hsensor
      have hreg : Registrable other := ⟨hr.initialized, hsensor⟩
      have hmode : b'.gpio.mode (registered b.gpio other).gpioPin = .input := by
        rw [h.mode, hsame.gpio_pin]
        exact hr.mode
      have hadded : b'.gpio.isr (registered b.gpio other).gpioPin = true := by
        rw [h.isr, hsame.gpio_pin]
        exact Or.inr ⟨j, other, by omega, by omega, hother, hreg, rfl⟩
      refine ⟨⟨hadded, hmode⟩, ?_⟩
      unfold sensorState
      rw [hsame.gpio_pin, hsame.inverted, h.level, ← getLevel_of_input hr.mode]
      unfold registered
      rw [if_pos hreg]
      rfl

/-- A boot registers the sensors of its table and no other pin. -/
theorem appMain_inputs {newDeviceId newDeviceSerial : CStr} {nvs : Nvs.Store RelayUnit}
    {gpio : Gpio.State} (hstored : WellStored nvs book) (hsafe : book.Safe)
    (h : appMain env newDeviceId newDeviceSerial nvs gpio = some b) :
    BootedInputs env b (countsOf nvs .actuator) (countsOf nvs .sensor) := by
  unfold appMain at h
  split at h
  · cases h
  · next b₁ hload =>
      cases h
      obtain ⟨_, hspec⟩ := loadUnits_spec (b := Board.reset nvs gpio) env newDeviceId
        newDeviceSerial rfl rfl hstored
      have hbooted := (hspec b₁ hload).booted
      have hregisters := registerSensors_registers env b₁.sSensorsCount b₁.sRelaysCount b₁
      have hisr : ∀ p, b₁.gpio.isr p = false := by
        intro p
        rw [(loadUnits_sameInputs hload).isr]
        rfl
      unfold relayAllSensorsRegisterIsr
      rw [hbooted.sensors_count, hbooted.relays_count] at hregisters ⊢
      exact hregisters.bootedInputs hbooted.loadedTable hisr
        fun hdriver => loadUnits_ready hdriver rfl rfl hstored hsafe hload

end Boot
