import RelayBoard.Relay.Memory
import RelayBoard.Relay.Pins

/-! # Inputs

  What the functions of `main/relay.c` on one unit do to the inputs: none
  changes the level applied from outside, only the registration of a sensor
  adds an interrupt handler, and a sensor that is loaded reads its pin.
-/

open CString Settings

namespace Relay

/-! ### Levels and Handlers -/

/-- The outside levels and the interrupt handlers are the same. -/
structure SameInputs (b b' : Board) : Prop where
  level : b'.gpio.level = b.gpio.level
  isr : b'.gpio.isr = b.gpio.isr

theorem SameInputs.refl (b : Board) : SameInputs b b := ⟨rfl, rfl⟩

theorem SameInputs.trans {b b' b'' : Board} (h : SameInputs b b') (h' : SameInputs b' b'') :
    SameInputs b b'' :=
  ⟨h'.level.trans h.level, h'.isr.trans h.isr⟩

/-- What leaves the pins alone leaves the inputs alone. -/
theorem SameInputs.of_gpio {b b' : Board} (h : b'.gpio = b.gpio) : SameInputs b b' :=
  ⟨by rw [h], by rw [h]⟩

theorem gpioConfig_sameInputs (env : Env) (b : Board) (pin : Int) (conf : Gpio.Config) :
    SameInputs b (gpioConfig env b pin conf).2 := by
  unfold gpioConfig
  split <;> exact ⟨rfl, rfl⟩

theorem gpioSetLevel_sameInputs (env : Env) (b : Board) (pin : Int) (level : Bool) :
    SameInputs b (gpioSetLevel env b pin level).2 := by
  unfold gpioSetLevel
  split <;> exact ⟨rfl, rfl⟩

theorem relayGpioInit_sameInputs (env : Env) (b : Board) (relay : RelayUnit) :
    SameInputs b (relayGpioInit env b relay).2.2 := by
  have hconf := gpioConfig_sameInputs env b relay.gpioPin (relayIoConf relay)
  unfold relayGpioInit
  split
  · next heq =>
      rw [heq] at hconf
      exact hconf
  · next heq =>
      rw [heq] at hconf
      exact hconf

theorem setLevelAndPersist_sameInputs {env : Env} {b b' : Board} {relay relay' : RelayUnit}
    {state : RelayState} {gpioInitMade persist : Bool} {err : EspErr}
    (h : setLevelAndPersist env b relay state gpioInitMade persist =
      some (err, relay', b')) : SameInputs b b' :=
  (gpioSetLevel_sameInputs env b relay.gpioPin (xor state.toBool relay.inverted)).trans
    (SameInputs.of_gpio (setLevelAndPersist_pins h).1)

/-- Setting an actuator's state touches no input. -/
theorem relaySetState_sameInputs {env : Env} {b b' : Board} {relay relay' : RelayUnit}
    {state : RelayState} {persist : Bool} {err : EspErr}
    (h : relaySetState env b relay state persist = some (err, relay', b')) :
    SameInputs b b' := by
  have hinit := relayGpioInit_sameInputs env b relay
  unfold relaySetState at h
  split at h
  · cases h
    exact SameInputs.refl b
  · split at h
    · exact setLevelAndPersist_sameInputs h
    · split at h
      · next heq =>
          rw [heq] at hinit
          exact hinit.trans (setLevelAndPersist_sameInputs h)
      · next heq =>
          cases h
          rw [heq] at hinit
          exact hinit

/-! ### Registration -/

/-- What `relay_sensor_register_isr` does to the inputs. -/
structure IsrAdded (b : Board) (relay : RelayUnit) (b' : Board) : Prop where
  mode : b'.gpio.mode = b.gpio.mode
  level : b'.gpio.level = b.gpio.level
  isr : ∀ p, b'.gpio.isr p = true ↔ b.gpio.isr p = true ∨ p = relay.gpioPin

theorem relaySensorRegisterIsr_added {b b' : Board} {relay : RelayUnit}
    (h : relaySensorRegisterIsr b relay = (.ok, b')) : IsrAdded b relay b' := by
  obtain ⟨_, _, rfl⟩ := relaySensorRegisterIsr_eq_ok h
  refine ⟨rfl, rfl, ?_⟩
  intro p
  by_cases hp : p = relay.gpioPin <;> simp [Gpio.isrHandlerAdd, hp]

/-- A sensor that has been set up can be registered. -/
theorem relaySensorRegisterIsr_sensor (b : Board) {relay : RelayUnit}
    (hinit : relay.gpioInitialized = true) (htype : relay.type = .sensor) :
    relaySensorRegisterIsr b relay =
      (.ok, { b with gpio := Gpio.isrHandlerAdd b.gpio relay.gpioPin }) := by
  unfold relaySensorRegisterIsr
  rw [if_neg (by simp [hinit]), htype]

/-! ### Reading a Pin -/

/-- The pin of a unit is an input, and the unit is marked as set up. -/
structure Ready (g : Gpio.State) (relay : RelayUnit) : Prop where
  initialized : relay.gpioInitialized = true
  mode : g.mode relay.gpioPin = .input

/-- An input reads the level applied to it. -/
theorem getLevel_of_input {g : Gpio.State} {p : Int} (h : g.mode p = .input) :
    Gpio.getLevel g p = g.level p :=
  if_pos h

/-- Setting up a sensor turns no input into something else. -/
theorem relayGpioInit_input (env : Env) (b : Board) {relay : RelayUnit}
    (htype : relay.type = .sensor) {p : Int} (h : b.gpio.mode p = .input) :
    (relayGpioInit env b relay).2.2.gpio.mode p = .input := by
  have hmode : (relayIoConf relay).mode = .input := by
    unfold relayIoConf
    rw [htype]
  have happ : (Gpio.applyConfig b.gpio (relayIoConf relay)).mode p = .input := by
    simp [Gpio.applyConfig, hmode, h]
  unfold relayGpioInit gpioConfig
  by_cases hok : env.driver.config b.gpio.calls relay.gpioPin = true
  · rw [if_pos hok]
    exact happ
  · rw [if_neg hok]
    exact h

/-- A sensor that has been set up is ready. -/
theorem relayGpioInit_ready {env : Env} {b b' : Board} {relay relay' : RelayUnit}
    (htype : relay.type = .sensor) (hpin : 0 ≤ relay.gpioPin ∧ relay.gpioPin < 64)
    (h : relayGpioInit env b relay = (.ok, relay', b')) : Ready b'.gpio relay' := by
  have hmode : (relayIoConf relay).mode = .input := by
    unfold relayIoConf
    rw [htype]
  unfold relayGpioInit gpioConfig at h
  by_cases hok : env.driver.config b.gpio.calls relay.gpioPin = true
  · rw [if_pos hok] at h
    cases h
    refine ⟨rfl, ?_⟩
    show (Gpio.applyConfig b.gpio (relayIoConf relay)).mode relay.gpioPin = .input
    rw [Gpio.applyConfig_mode (relayIoConf_pinBitMask relay) hpin, if_pos rfl, hmode]
  · rw [if_neg hok] at h
    cases h

/-- The pin of a unit is an input with a handler. -/
structure Listens (g : Gpio.State) (relay : RelayUnit) : Prop where
  isr : g.isr relay.gpioPin = true
  mode : g.mode relay.gpioPin = .input

/-- The state of a sensor on a level. -/
def sensorState (level : Bool) (relay : RelayUnit) : RelayState :=
  RelayState.ofBool (xor level relay.inverted)

/-! ### Lists of Sensors -/

theorem loadRelaySensorFromNvs_sameInputs (env : Env) (b : Board) (key : Option CStr) :
    SameInputs b (loadRelaySensorFromNvs env b key).2 := by
  unfold loadRelaySensorFromNvs
  split
  · exact SameInputs.refl b
  · exact relayGpioInit_sameInputs env b _

theorem loadSensors_sameInputs (env : Env) (b : Board) (channels : List Nat) :
    SameInputs b (loadSensors env b channels).2 := by
  induction channels generalizing b with
  | nil => exact SameInputs.refl b
  | cons channel channels ih =>
      exact (loadRelaySensorFromNvs_sameInputs env b _).trans (ih _)

theorem getContactSensorList_sameInputs {env : Env} {b b' : Board} {sensors : List RelayUnit}
    (h : getContactSensorList env b = some (sensors, b')) : SameInputs b b' := by
  unfold getContactSensorList at h
  split at h
  · cases h
    exact SameInputs.refl b
  · split at h
    · cases h
    · cases h
      exact loadSensors_sameInputs env b _

theorem getAllRelayUnits_sameInputs {env : Env} {b b' : Board} {units : List RelayUnit}
    (h : getAllRelayUnits env b = some (units, b')) : SameInputs b b' := by
  unfold getAllRelayUnits at h
  split at h
  · cases h
    exact SameInputs.refl b
  · split at h
    · cases h
    · split at h
      · cases h
      · next hsensors =>
          cases h
          exact getContactSensorList_sameInputs hsensors

/-- The sensors that are loaded have their pins set up as inputs, if the driver never
    fails. -/
theorem loadSensors_ready {env : Env} (hdriver : env.driver = Gpio.Driver.ok)
    (channels : List Nat) {b : Board}
    (hrecords : ∀ channel ∈ channels, ∀ relay,
      nvsReadRelay b (getContactSensorNvsKey channel) = .ok relay →
        relay.type = .sensor ∧ 0 ≤ relay.gpioPin ∧ relay.gpioPin < 64) :
    (∀ p, b.gpio.mode p = .input → (loadSensors env b channels).2.gpio.mode p = .input) ∧
      ∀ relay, .ok relay ∈ (loadSensors env b channels).1 →
        Ready (loadSensors env b channels).2.gpio relay := by
  induction channels generalizing b with
  | nil => exact ⟨fun _ h => h, fun _ hmem => absurd hmem List.not_mem_nil⟩
  | cons channel channels ih =>
      cases hread : nvsReadRelay b (getContactSensorNvsKey channel) with
      | error err =>
          have hload : loadRelaySensorFromNvs env b (getContactSensorNvsKey channel) =
              (.error err, b) := by
            rw [loadRelaySensorFromNvs, hread]
          obtain ⟨hkeeps, hready⟩ := ih fun c hc => hrecords c (by simp [hc])
          simp only [loadSensors, hload, List.mem_cons, reduceCtorEq, false_or]
          exact ⟨hkeeps, hready⟩
      | ok relay =>
          obtain ⟨htype, hpin⟩ := hrecords channel (by simp) relay hread
          have hload : loadRelaySensorFromNvs env b (getContactSensorNvsKey channel) =
              (.ok (relayGpioInit env b relay).2.1, (relayGpioInit env b relay).2.2) := by
            rw [loadRelaySensorFromNvs, hread]
          have hnvs := (relayGpioInit_onlyGpio env b relay).nvs
          have hinit : Ready (relayGpioInit env b relay).2.2.gpio
              (relayGpioInit env b relay).2.1 :=
            relayGpioInit_ready htype hpin (by rw [relayGpioInit_ok hdriver])
          -- the later loads read the same records
          obtain ⟨hkeeps, hready⟩ := ih (b := (relayGpioInit env b relay).2.2)
            fun c hc other hother => hrecords c (by simp [hc]) other (by
              unfold nvsReadRelay at hother ⊢
              rwa [hnvs] at hother)
          simp only [loadSensors, hload, List.mem_cons, Except.ok.injEq]
          refine ⟨fun p hp => hkeeps p (relayGpioInit_input env b htype hp), ?_⟩
          rintro other (rfl | hmem)
          · exact ⟨hinit.initialized, hkeeps _ hinit.mode⟩
          · exact hready other hmem

end Relay
