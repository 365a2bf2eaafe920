import RelayBoard.Relay.Frame

/-! # Pins

  What the functions of `main/relay.c` on one unit do to the pins: each
  touches the pin of its unit only, and a state that has been set is the
  level of the pin.
-/

open CString Settings

namespace Relay

/-! ### Touched Pins -/

/-- Nothing but the listed pins has changed. -/
structure OnlyPins (pins : List Int) (b b' : Board) : Prop where
  onlyGpio : OnlyGpio b b'
  keeps : ∀ p ∉ pins, Gpio.KeepsPin p b.gpio b'.gpio

theorem OnlyPins.refl (pins : List Int) (b : Board) : OnlyPins pins b b :=
  ⟨OnlyGpio.refl b, fun p _ => Gpio.KeepsPin.refl p b.gpio⟩

theorem OnlyPins.trans {pins : List Int} {b b' b'' : Board} (h : OnlyPins pins b b')
    (h' : OnlyPins pins b' b'') : OnlyPins pins b b'' :=
  ⟨h.onlyGpio.trans h'.onlyGpio, fun p hp => (h.keeps p hp).trans (h'.keeps p hp)⟩

theorem OnlyPins.mono {pins pins' : List Int} {b b' : Board} (h : OnlyPins pins b b')
    (hsub : pins ⊆ pins') : OnlyPins pins' b b' :=
  ⟨h.onlyGpio, fun p hp => h.keeps p fun hmem => hp (hsub hmem)⟩

theorem relayIoConf_pinBitMask (relay : RelayUnit) :
    (relayIoConf relay).pinBitMask = Gpio.pinMask relay.gpioPin := by
  unfold relayIoConf
  split <;> rfl

theorem gpioConfig_onlyPins (env : Env) (b : Board) {pin : Int} {conf : Gpio.Config}
    (hmask : conf.pinBitMask = Gpio.pinMask pin) :
    OnlyPins [pin] b (gpioConfig env b pin conf).2 := by
  refine ⟨gpioConfig_onlyGpio env b pin conf, ?_⟩
  intro p hp
  unfold gpioConfig
  split
  · show Gpio.KeepsPin p b.gpio (Gpio.applyConfig b.gpio conf)
    exact Gpio.applyConfig_keepsPin hmask (List.ne_of_not_mem_cons hp)
  · exact Gpio.KeepsPin.refl p b.gpio

theorem gpioSetLevel_onlyPins (env : Env) (b : Board) (pin : Int) (level : Bool) :
    OnlyPins [pin] b (gpioSetLevel env b pin level).2 := by
  refine ⟨gpioSetLevel_onlyGpio env b pin level, ?_⟩
  intro p hp
  unfold gpioSetLevel
  split
  · show Gpio.KeepsPin p b.gpio (Gpio.applyLevel b.gpio pin level)
    exact Gpio.applyLevel_keepsPin (List.ne_of_not_mem_cons hp)
  · exact Gpio.KeepsPin.refl p b.gpio

theorem relayGpioInit_onlyPins (env : Env) (b : Board) (relay : RelayUnit) :
    OnlyPins [relay.gpioPin] b (relayGpioInit env b relay).2.2 := by
  have hconf := gpioConfig_onlyPins env b (relayIoConf_pinBitMask relay)
  unfold relayGpioInit
  split
  · next heq =>
      rw [heq] at hconf
      exact hconf
  · next heq =>
      rw [heq] at hconf
      exact hconf

/-! ### A Driver That Never Fails -/

theorem gpioConfig_ok {env : Env} (hdriver : env.driver = Gpio.Driver.ok) (b : Board)
    (pin : Int) (conf : Gpio.Config) :
    gpioConfig env b pin conf =
      (.ok, { b with gpio := (Gpio.applyConfig b.gpio conf).tick }) := by
  unfold gpioConfig
  rw [hdriver]
  rfl

theorem gpioSetLevel_ok {env : Env} (hdriver : env.driver = Gpio.Driver.ok) (b : Board)
    (pin : Int) (level : Bool) :
    gpioSetLevel env b pin level =
      (.ok, { b with gpio := (Gpio.applyLevel b.gpio pin level).tick }) := by
  unfold gpioSetLevel
  rw [hdriver]
  rfl

theorem relayGpioInit_ok {env : Env} (hdriver : env.driver = Gpio.Driver.ok) (b : Board)
    (relay : RelayUnit) :
    relayGpioInit env b relay =
      (.ok, { relay with ioConf := relayIoConf relay, gpioInitialized := true },
        { b with gpio := (Gpio.applyConfig b.gpio (relayIoConf relay)).tick }) := by
  unfold relayGpioInit
  rw [gpioConfig_ok hdriver]

/-! ### Setting a State -/

/-- An actuator's pin is an output with the level of the unit's state. -/
def Drives (g : Gpio.State) (relay : RelayUnit) : Prop :=
  g.mode relay.gpioPin = .output ∧ g.latch relay.gpioPin = xor relay.state.toBool relay.inverted

/-- What stays as it is keeps being driven. -/
theorem Drives.keeps {g g' : Gpio.State} {relay : RelayUnit} (h : Drives g relay)
    (hkeeps : Gpio.KeepsPin relay.gpioPin g g') : Drives g' relay :=
  ⟨hkeeps.1.trans h.1, hkeeps.2.trans h.2⟩

/-- Only the pin, the state and the inversion of a unit matter. -/
theorem Drives.congr {g : Gpio.State} {relay relay' : RelayUnit} (h : Drives g relay')
    (hsame : SameUnit relay relay') (hstate : relay'.state = relay.state) : Drives g relay := by
  unfold Drives at h ⊢
  rwa [hsame.gpio_pin, hsame.inverted, hstate] at h

/-- Sending an event or writing a record touches no pin. -/
theorem publishUpdate_gpio {b b' : Board} {relay : RelayUnit}
    (h : publishUpdate b relay = some b') : b'.gpio = b.gpio := by
  obtain ⟨events, rfl⟩ := publishUpdate_onlyQueue h
  rfl

theorem saveRelayToNvs_gpio {env : Env} {b b' : Board} {key : Option CStr}
    {relay : RelayUnit} {err : EspErr} (h : saveRelayToNvs env b key relay = (err, b')) :
    b'.gpio = b.gpio := by
  obtain ⟨nvs, rfl⟩ := saveRelayToNvs_onlyNvs h
  rfl

theorem relayGpioDeinit_initialized (relay : RelayUnit) :
    (relayGpioDeinit relay).gpioInitialized = false := by
  unfold relayGpioDeinit
  split
  · rfl
  · next hnot => simpa using hnot

/-- The pins after the level has been set are those at the end, and the unit has the
    new state if that succeeded. -/
theorem setLevelAndPersist_pins {env : Env} {b b' : Board} {relay relay' : RelayUnit}
    {state : RelayState} {gpioInitMade persist : Bool} {err : EspErr}
    (h : setLevelAndPersist env b relay state gpioInitMade persist =
      some (err, relay', b')) :
    b'.gpio = (gpioSetLevel env b relay.gpioPin (xor state.toBool relay.inverted)).2.gpio ∧
      ((gpioSetLevel env b relay.gpioPin (xor state.toBool relay.inverted)).1 = .ok →
        relay'.state = state) ∧
      (gpioInitMade = true → relay'.gpioInitialized = false) := by
  rcases setLevelAndPersist_cases h with
    ⟨err₁, hne, _, rfl, hlevel⟩ | ⟨b₁, b₂, hlevel, rfl, hpub, hsaved⟩
  · rw [hlevel]
    exact ⟨rfl, fun hok => absurd hok hne, fun _ => relayGpioDeinit_initialized relay⟩
  · rw [hlevel]
    obtain ⟨nvs, rfl⟩ := hsaved.onlyNvs
    have hgpio : b₂.gpio = b₁.gpio := publishUpdate_gpio hpub
    refine ⟨hgpio, fun _ => unitWithState_state relay state gpioInitMade, ?_⟩
    intro hmade
    unfold unitWithState
    rw [if_pos hmade]
    exact relayGpioDeinit_initialized _

/-- What `relay_set_state` does to the pins. -/
structure StateSet (env : Env) (b : Board) (relay : RelayUnit) (state : RelayState)
    (relay' : RelayUnit) (b' : Board) : Prop where
  keeps : ∀ p, p ≠ relay.gpioPin → Gpio.KeepsPin p b.gpio b'.gpio
  deinitialized : relay.gpioInitialized = false → relay'.gpioInitialized = false
  driven : env.driver = Gpio.Driver.ok → relay.type = .actuator →
    relay.gpioInitialized = false → 0 ≤ relay.gpioPin ∧ relay.gpioPin < 64 →
    Drives b'.gpio relay' ∧ relay'.state = state

/-- A failed `relay_gpio_init` leaves the unit alone. -/
theorem relayGpioInit_failed {env : Env} {b b' : Board} {relay relay' : RelayUnit}
    {err : EspErr} (hne : err ≠ .ok) (h : relayGpioInit env b relay = (err, relay', b')) :
    relay' = relay := by
  unfold relayGpioInit at h
  split at h
  · cases h
    exact absurd rfl hne
  · cases h
    rfl

/-- The pin was set up before: only its level changes, and nothing is said of its mode. -/
theorem StateSet.of_initialized {env : Env} {b b' : Board} {relay relay' : RelayUnit}
    {state : RelayState} {persist : Bool} {err : EspErr}
    (hinit : relay.gpioInitialized = true)
    (h : setLevelAndPersist env b relay state false persist = some (err, relay', b')) :
    StateSet env b relay state relay' b' := by
  have hnot : relay.gpioInitialized ≠ false := by simp [hinit]
  obtain ⟨hgpio, _, _⟩ := setLevelAndPersist_pins h
  have hlevel := gpioSetLevel_onlyPins env b relay.gpioPin (xor state.toBool relay.inverted)
  refine ⟨?_, fun hfresh => absurd hfresh hnot, fun _ _ hfresh => absurd hfresh hnot⟩
  intro p hp
  rw [hgpio]
  exact hlevel.keeps p (by simpa using hp)

/-- A working driver makes the pin an output and sets the level of the new state. -/
theorem drives_of_init {env : Env} (hdriver : env.driver = Gpio.Driver.ok)
    {b b₁ b' : Board} {relay relay₁ relay' : RelayUnit} {state : RelayState}
    {persist : Bool} {err : EspErr} (htype : relay.type = .actuator)
    (hpin : 0 ≤ relay.gpioPin ∧ relay.gpioPin < 64)
    (hinit : relayGpioInit env b relay = (.ok, relay₁, b₁))
    (h : setLevelAndPersist env b₁ relay₁ state true persist = some (err, relay', b')) :
    Drives b'.gpio relay' ∧ relay'.state = state := by
  obtain ⟨_, hsame⟩ := setLevelAndPersist_frame h
  obtain ⟨hgpio, hstate, _⟩ := setLevelAndPersist_pins h
  rw [gpioSetLevel_ok hdriver] at hgpio hstate
  rw [relayGpioInit_ok hdriver] at hinit
  cases hinit
  dsimp only at hgpio hsame
  have hmode : (Gpio.applyConfig b.gpio (relayIoConf relay)).mode relay.gpioPin = .output := by
    rw [Gpio.applyConfig_mode (relayIoConf_pinBitMask relay) hpin, if_pos rfl]
    unfold relayIoConf
    rw [htype]
  unfold Drives
  rw [hgpio, hsame.gpio_pin, hsame.inverted, hstate rfl]
  exact ⟨⟨hmode, if_pos rfl⟩, rfl⟩

/-- The pin is set up for the change and released afterwards. -/
theorem StateSet.of_init {env : Env} {b b₁ b' : Board} {relay relay₁ relay' : RelayUnit}
    {state : RelayState} {persist : Bool} {err : EspErr}
    (hinit : relayGpioInit env b relay = (.ok, relay₁, b₁))
    (h : setLevelAndPersist env b₁ relay₁ state true persist = some (err, relay', b')) :
    StateSet env b relay state relay' b' := by
  have honly := relayGpioInit_onlyPins env b relay
  rw [hinit] at honly
  obtain ⟨_, hsame⟩ := relayGpioInit_frame hinit
  obtain ⟨hgpio, _, hflag⟩ := setLevelAndPersist_pins h
  have hlevel := gpioSetLevel_onlyPins env b₁ relay₁.gpioPin
    (xor state.toBool relay₁.inverted)
  refine ⟨?_, ?_, ?_⟩
  · intro p hp
    rw [hgpio]
    -- both writes go to the pin the unit had on entry
    rw [hsame.gpio_pin] at hlevel ⊢
    exact (honly.keeps p (by simpa using hp)).trans (hlevel.keeps p (by simpa using hp))
  · intro _
    exact hflag rfl
  · intro hdriver htype _ hpin
    exact drives_of_init hdriver htype hpin hinit h

/-- The pin could not be set up: the unit is unchanged, which a working driver rules out. -/
theorem StateSet.of_initFail {env : Env} {b b' : Board} {relay relay' : RelayUnit}
    {state : RelayState} {err : EspErr} (hne : err ≠ .ok)
    (hinit : relayGpioInit env b relay = (err, relay', b')) :
    StateSet env b relay state relay' b' := by
  have honly := relayGpioInit_onlyPins env b relay
  rw [hinit] at honly
  have hsame := relayGpioInit_failed hne hinit
  refine ⟨fun p hp => honly.keeps p (by simpa using hp), fun hfresh => hsame ▸ hfresh, ?_⟩
  intro hdriver
  rw [relayGpioInit_ok hdriver] at hinit
  cases hinit
  exact absurd rfl hne

theorem relaySetState_stateSet {env : Env} {b b' : Board} {relay relay' : RelayUnit}
    {state : RelayState} {persist : Bool} {err : EspErr}
    (h : relaySetState env b relay state persist = some (err, relay', b')) :
    StateSet env b relay state relay' b' := by
  unfold relaySetState at h
  split at h
  · next htype =>
      -- a sensor's state is not set
      cases h
      refine ⟨fun p _ => Gpio.KeepsPin.refl p b.gpio, fun hfresh => hfresh, ?_⟩
      intro _ hact
      rw [htype] at hact
      cases hact
  · split at h
    · next hinit => exact StateSet.of_initialized hinit h
    · split at h
      · next hinit => exact StateSet.of_init hinit h
      · next hne hinit =>
          cases h
          exact StateSet.of_initFail hne hinit

/-! ### Setting a State Without Saving -/

theorem setLevelAndPersist_onlyGpio (env : Env) {b : Board} {mode : Nat}
    (hmode : Nvs.readUint16 b.nvs sNamespace sKeyMqttConnect = .ok mode)
    (hready : b.isMqttReady = false) (relay : RelayUnit) (state : RelayState)
    (gpioInitMade : Bool) :
    ∃ err relay' b', setLevelAndPersist env b relay state gpioInitMade false =
      some (err, relay', b') ∧ OnlyGpio b b' := by
  have hlevel := gpioSetLevel_onlyGpio env b relay.gpioPin (xor state.toBool relay.inverted)
  unfold setLevelAndPersist
  split
  · next b₁ heq =>
      rw [heq] at hlevel
      dsimp only at hlevel ⊢
      rw [publishUpdate_of_not_ready (by rw [hlevel.nvs, hmode])
        (by rw [hlevel.isMqttReady, hready])]
      exact ⟨_, _, _, rfl, hlevel⟩
  · next heq =>
      rw [heq] at hlevel
      exact ⟨_, _, _, rfl, hlevel⟩

/-- Setting a state without saving it touches the unit's pin only. -/
theorem relaySetState_onlyPins (env : Env) {b : Board} {mode : Nat}
    (hmode : Nvs.readUint16 b.nvs sNamespace sKeyMqttConnect = .ok mode)
    (hready : b.isMqttReady = false) (relay : RelayUnit) (state : RelayState) :
    ∃ err relay' b', relaySetState env b relay state false = some (err, relay', b') ∧
      OnlyPins [relay.gpioPin] b b' := by
  have hexists : ∃ err relay' b', relaySetState env b relay state false =
      some (err, relay', b') ∧ OnlyGpio b b' := by
    unfold relaySetState
    split
    · exact ⟨_, _, _, rfl, OnlyGpio.refl b⟩
    · split
      · exact setLevelAndPersist_onlyGpio env hmode hready relay state false
      · have hinit := relayGpioInit_onlyGpio env b relay
        split
        · next relay₁ b₁ heq =>
            rw [heq] at hinit
            dsimp only at hinit
            obtain ⟨err, relay', b', hres, honly⟩ := setLevelAndPersist_onlyGpio env
              (by rw [hinit.nvs, hmode]) (by rw [hinit.isMqttReady, hready]) relay₁ state true
            exact ⟨err, relay', b', hres, hinit.trans honly⟩
        · next heq =>
            rw [heq] at hinit
            exact ⟨_, _, _, rfl, hinit⟩
  obtain ⟨err, relay', b', hres, honly⟩ := hexists
  exact ⟨err, relay', b', hres, honly, fun p hp =>
    (relaySetState_stateSet hres).keeps p (List.ne_of_not_mem_cons hp)⟩

end Relay
