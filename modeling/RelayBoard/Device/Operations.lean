import RelayBoard.Boot.Table
import RelayBoard.Device.Contact

/-! # Operations on One Unit

  An update request, an MQTT command and a sensor event each change one unit
  of the table. When all calls succeed they agree on what they leave behind:
  the unit and its record are replaced together, no other pin is touched, and
  an actuator is driven to its new state.
-/

open Boot CString Relay Settings Web

namespace Device

/-! ### One Unit Changed -/

/-- One unit of the table is replaced by one on a safe pin, and an actuator is driven. -/
structure Applied (b b' : Board) (i : Nat) (relay relay' : RelayUnit) : Prop where
  replaced : Replaced b b' i relay relay'
  safe : relay'.gpioPin ∈ safeGpioPins
  keeps : ∀ p, p ≠ relay'.gpioPin → Gpio.KeepsPin p b.gpio b'.gpio
  driven : relay'.type = .actuator → Drives b'.gpio relay' ∧ relay'.gpioInitialized = false

variable {env : Env} {b b' : Board} {relay relay' : RelayUnit} {err : EspErr}

/-! ### When All Calls Succeed -/

theorem saveRelayToNvs_err (hwrite : ∀ key, env.nvsWrite key = true) {key : CStr}
    (h : saveRelayToNvs env b (some key) relay = (err, b')) : err = .ok := by
  rw [saveRelayToNvs_some, hwrite] at h
  cases h
  rfl

theorem setLevelAndPersist_err (hwrite : ∀ key, env.nvsWrite key = true)
    (hdriver : env.driver = Gpio.Driver.ok) {state : RelayState} {gpioInitMade : Bool}
    {key : CStr} (hkey : getRelayNvsKey relay.channel = some key)
    (h : setLevelAndPersist env b relay state gpioInitMade true = some (err, relay', b')) :
    err = .ok := by
  rcases setLevelAndPersist_cases h with
    ⟨err₁, hne, _, _, hlevel⟩ | ⟨b₁, b₂, _, hunit, _, hsaved⟩
  · rw [gpioSetLevel_ok hdriver] at hlevel
    cases hlevel
    exact absurd rfl hne
  · -- the unit has kept its channel
    have hkey' : getRelayNvsKey relay'.channel = some key := by
      rw [hunit, (unitWithState_sameUnit relay state gpioInitMade).channel]
      exact hkey
    cases hsaved with
    | keyless hnone =>
        rw [hnone] at hkey'
        cases hkey'
    | unsaved _ hne hsave => exact absurd (saveRelayToNvs_err hwrite hsave) hne
    | saved => rfl

/-- An actuator with a key can be set. -/
theorem relaySetState_err (hwrite : ∀ key, env.nvsWrite key = true)
    (hdriver : env.driver = Gpio.Driver.ok) {state : RelayState} {key : CStr}
    (htype : relay.type = .actuator) (hkey : getRelayNvsKey relay.channel = some key)
    (h : relaySetState env b relay state true = some (err, relay', b')) : err = .ok := by
  unfold relaySetState at h
  rw [htype] at h
  dsimp only at h
  split at h
  · exact setLevelAndPersist_err hwrite hdriver hkey h
  · rw [relayGpioInit_ok hdriver] at h
    exact setLevelAndPersist_err hwrite hdriver (by exact hkey) h

/-- What saving and applying a unit does to the pins. -/
structure Persisted (b : Board) (relay relay' : RelayUnit) (b' : Board) : Prop where
  keeps : ∀ p, p ≠ relay.gpioPin → Gpio.KeepsPin p b.gpio b'.gpio
  driven : relay.type = .actuator → relay.gpioInitialized = false → Bounded relay →
    Drives b'.gpio relay' ∧ relay'.gpioInitialized = false

/-- With a key, a unit is saved and applied. -/
theorem persistUnit_persisted (hwrite : ∀ key, env.nvsWrite key = true)
    (hdriver : env.driver = Gpio.Driver.ok) {relayKey : CStr} {gpioPinOld : Int}
    (hkey : getUnitNvsKey relay = some relayKey)
    (h : persistUnit env b relayKey gpioPinOld relay = some (err, relay', b')) :
    err = .ok ∧ Persisted b relay relay' b' := by
  have hsensor : relay.type = .sensor → relay.type = .actuator →
      relay.gpioInitialized = false → Bounded relay →
      Drives b'.gpio relay' ∧ relay'.gpioInitialized = false := by
    intro htype hact
    rw [htype] at hact
    cases hact
  cases persists_of_persistUnit h with
  | actuator htype hset =>
      unfold getUnitNvsKey at hkey
      rw [htype] at hkey
      have hstate := relaySetState_stateSet hset
      refine ⟨relaySetState_err hwrite hdriver htype hkey hset, hstate.keeps, ?_⟩
      intro _ hidle hbound
      exact ⟨(hstate.driven hdriver htype hidle hbound).1, hstate.deinitialized hidle⟩
  | unsaved htype herr hsave => exact absurd (saveRelayToNvs_err hwrite hsave) herr
  | saved htype hpin hsave =>
      refine ⟨rfl, ?_, hsensor htype⟩
      intro p _
      rw [saveRelayToNvs_gpio hsave]
      exact Gpio.KeepsPin.refl p b.gpio
  | stuck htype hpin herr hsave hinit =>
      rw [relayGpioInit_ok hdriver] at hinit
      cases hinit
      exact absurd rfl herr
  | moved htype hpin hsave hinit hreg =>
      -- the new pin of the sensor is set up
      rw [relayGpioInit_ok hdriver] at hinit
      cases hinit
      rw [relaySensorRegisterIsr_sensor _ rfl (by exact htype)] at hreg
      cases hreg
      refine ⟨rfl, ?_, hsensor htype⟩
      intro p hp
      rw [← saveRelayToNvs_gpio hsave]
      exact Gpio.applyConfig_keepsPin (relayIoConf_pinBitMask relay) hp

/-! ### The Operations -/

/-- An update request is refused or changes one unit. -/
theorem updateRelayPostHandler_applied (hwrite : ∀ key, env.nvsWrite key = true)
    (hdriver : env.driver = Gpio.Driver.ok) {req : Request} {response : Response}
    (hsafe : ∀ relay ∈ b.sUnits, relay.gpioPin ∈ safeGpioPins)
    (hidle : ∀ relay ∈ b.sUnits, relay.type = .actuator → relay.gpioInitialized = false)
    (h : updateRelayPostHandler env true b req = some (err, response, b')) :
    b' = b ∨ ∃ i relay relay', Applied b b' i relay relay' := by
  rcases updateRelayPostHandler_cases h with ⟨_, hb, _⟩ | ⟨u, i, relay, hres, hpin, happ⟩
  · exact Or.inl hb
  · obtain ⟨_, hlookup, hget⟩ := resolveUpdate_eq_ok hres
    have hkey := (getRelayFromMemoryByKey_eq_ok hlookup hget).2
    have hmem := List.mem_of_getElem? hget
    obtain ⟨err₁, relay', b₁, hpersist, rfl, _⟩ := applyUpdate_eq_some happ
    -- past the checks the outcome is that of the save
    obtain ⟨hok, hpins⟩ := persistUnit_persisted hwrite hdriver (by exact hkey) hpersist
    rw [hok] at hpersist
    have hupdated := updated_of_persistUnit hres hpin hpersist
    have hsame := hupdated.assigned
    have hpin' := hupdated.gpioPin_mem (hsafe relay hmem)
    refine Or.inr ⟨i, relay, relay', hupdated.replaced, hpin', ?_, ?_⟩
    · intro p hp
      rw [hsame.gpio_pin] at hp
      exact hpins.keeps p hp
    · intro hact
      rw [hsame.type] at hact
      rw [hsame.gpio_pin] at hpin'
      exact hpins.driven hact (hidle relay hmem hact) (safeGpioPin_bounds hpin')

/-- An MQTT command that completes is ignored or changes one unit. -/
theorem mqttSubscribeRelaysTask_applied (hdriver : env.driver = Gpio.Driver.ok)
    {event : MqttCommandEvent} (hsafe : ∀ relay ∈ b.sUnits, relay.gpioPin ∈ safeGpioPins)
    (hidle : ∀ relay ∈ b.sUnits, relay.type = .actuator → relay.gpioInitialized = false)
    (h : mqttSubscribeRelaysTask env b event = some b') :
    b' = b ∨ ∃ i relay relay', Applied b b' i relay relay' := by
  rcases mqttSubscribeRelaysTask_cases h with hb | ⟨i, relay, relay', b₁, hget, htype, hset, rfl⟩
  · exact Or.inl hb
  · have hmem := List.mem_of_getElem? hget
    obtain ⟨htab, hunit⟩ := relaySetState_frame hset
    have hpins := relaySetState_stateSet hset
    obtain ⟨key, hkey, hsaved⟩ := relaySetState_saved hset
    have hpin := hsafe relay hmem
    -- the state is saved under the actuator's own key
    have hunitKey : getUnitNvsKey relay = some key := by
      unfold getUnitNvsKey
      rw [htype, ← hunit.channel]
      exact hkey
    have hunits : (b₁.setUnit i relay').sUnits = b.sUnits.set i relay' := by
      show b₁.sUnits.set i relay' = _
      rw [htab.units]
    refine Or.inr ⟨i, relay, relay', ⟨hget, hunit.type, hunit.channel, hunits,
      ⟨key, hunitKey, hsaved⟩, htab.units_in_memory, htab.relays_count,
      htab.sensors_count⟩, ?_, ?_, ?_⟩
    · rw [hunit.gpio_pin]
      exact hpin
    · intro p hp
      rw [hunit.gpio_pin] at hp
      exact hpins.keeps p hp
    · intro _
      -- an actuator's pin is set up anew for each change of state
      have hnot := hidle relay hmem htype
      exact ⟨(hpins.driven hdriver htype hnot (safeGpioPin_bounds hpin)).1,
        hpins.deinitialized hnot⟩

/-- A sensor event that completes is dropped or changes one sensor. -/
theorem gpioEventTask_applied {counts : Counts} {book : Book}
    (hwrite : ∀ key, env.nvsWrite key = true) (hbooted : Booted b counts book)
    (hsafe : ∀ relay ∈ b.sUnits, relay.gpioPin ∈ safeGpioPins) {evt : GpioEvent}
    (h : gpioEventTask env b evt = some b') :
    b' = b ∨ ∃ i relay relay', Applied b b' i relay relay' := by
  rw [gpioEventTask_eq] at h
  split at h
  · cases h
    exact Or.inl rfl
  · rcases updateContact_updated hbooted.loadedTable h with ⟨hb, _⟩ | ⟨i, relay, hcontact⟩
    · exact Or.inl hb
    · obtain ⟨key, hkey, hsaved⟩ := hcontact.saved
      rw [hwrite, if_pos rfl] at hsaved
      refine Or.inr ⟨i, relay, { relay with state := sensorState evt.level relay },
        ⟨hcontact.found, rfl, rfl, hcontact.units, ⟨key, hkey, hsaved⟩,
          hcontact.units_in_memory, hcontact.relays_count, hcontact.sensors_count⟩,
        hsafe relay (List.mem_of_getElem? hcontact.found), ?_, ?_⟩
      · intro p _
        rw [hcontact.gpio]
        exact Gpio.KeepsPin.refl p b.gpio
      · intro hact
        have hboth : RelayType.sensor = .actuator := hcontact.type.symm.trans hact
        cases hboth

end Device
