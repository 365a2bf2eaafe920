import RelayBoard.Relay.Memory

/-! # Frames

  What the functions of `main/relay.c` on one unit leave alone, whatever the
  outcomes of the calls they make: the in-memory table, and the fields of
  the unit that none of them assigns.
-/

open CString Settings

namespace Relay

/-! ### Kept Fields -/

/-- The fields behind the in-memory table. -/
structure SameTable (b b' : Board) : Prop where
  units_in_memory : b'.unitsInMemory = b.unitsInMemory
  units : b'.sUnits = b.sUnits
  relays_count : b'.sRelaysCount = b.sRelaysCount
  sensors_count : b'.sSensorsCount = b.sSensorsCount

/-- The fields of a unit besides its state and the driver bookkeeping. -/
structure SameUnit (relay relay' : RelayUnit) : Prop where
  channel : relay'.channel = relay.channel
  type : relay'.type = relay.type
  inverted : relay'.inverted = relay.inverted
  gpio_pin : relay'.gpioPin = relay.gpioPin
  enabled : relay'.enabled = relay.enabled

theorem SameTable.refl (b : Board) : SameTable b b := ⟨rfl, rfl, rfl, rfl⟩

theorem SameTable.trans {b b' b'' : Board} (h : SameTable b b') (h' : SameTable b' b'') :
    SameTable b b'' :=
  ⟨h'.units_in_memory.trans h.units_in_memory, h'.units.trans h.units,
    h'.relays_count.trans h.relays_count, h'.sensors_count.trans h.sensors_count⟩

theorem SameUnit.refl (relay : RelayUnit) : SameUnit relay relay := ⟨rfl, rfl, rfl, rfl, rfl⟩

theorem SameUnit.trans {r r' r'' : RelayUnit} (h : SameUnit r r') (h' : SameUnit r' r'') :
    SameUnit r r'' :=
  ⟨h'.channel.trans h.channel, h'.type.trans h.type, h'.inverted.trans h.inverted,
    h'.gpio_pin.trans h.gpio_pin, h'.enabled.trans h.enabled⟩

/-- A unit's key depends on its type and channel only. -/
theorem SameUnit.key {relay relay' : RelayUnit} (h : SameUnit relay relay') :
    getUnitNvsKey relay' = getUnitNvsKey relay := by
  unfold getUnitNvsKey
  rw [h.type, h.channel]

/-! ### Driver Calls -/

/-- Nothing but the pins has changed. -/
def OnlyGpio (b b' : Board) : Prop := ∃ gpio, b' = { b with gpio := gpio }

theorem OnlyGpio.refl (b : Board) : OnlyGpio b b := ⟨b.gpio, rfl⟩

theorem OnlyGpio.trans {b b' b'' : Board} (h : OnlyGpio b b') (h' : OnlyGpio b' b'') :
    OnlyGpio b b'' := by
  obtain ⟨gpio, rfl⟩ := h
  obtain ⟨gpio', rfl⟩ := h'
  exact ⟨gpio', rfl⟩

theorem OnlyGpio.nvs {b b' : Board} (h : OnlyGpio b b') : b'.nvs = b.nvs := by
  obtain ⟨gpio, rfl⟩ := h
  rfl

theorem OnlyGpio.units_in_memory {b b' : Board} (h : OnlyGpio b b') :
    b'.unitsInMemory = b.unitsInMemory := by
  obtain ⟨gpio, rfl⟩ := h
  rfl

theorem OnlyGpio.isMqttReady {b b' : Board} (h : OnlyGpio b b') :
    b'.isMqttReady = b.isMqttReady := by
  obtain ⟨gpio, rfl⟩ := h
  rfl

theorem gpioConfig_onlyGpio (env : Env) (b : Board) (pin : Int) (conf : Gpio.Config) :
    OnlyGpio b (gpioConfig env b pin conf).2 := by
  unfold gpioConfig
  split <;> exact ⟨_, rfl⟩

theorem gpioSetLevel_onlyGpio (env : Env) (b : Board) (pin : Int) (level : Bool) :
    OnlyGpio b (gpioSetLevel env b pin level).2 := by
  unfold gpioSetLevel
  split <;> exact ⟨_, rfl⟩

theorem relayGpioInit_onlyGpio (env : Env) (b : Board) (relay : RelayUnit) :
    OnlyGpio b (relayGpioInit env b relay).2.2 := by
  have hconf := gpioConfig_onlyGpio env b relay.gpioPin (relayIoConf relay)
  unfold relayGpioInit
  split
  · next heq =>
      rw [heq] at hconf
      exact hconf
  · next heq =>
      rw [heq] at hconf
      exact hconf

theorem OnlyGpio.sameTable {b b' : Board} (h : OnlyGpio b b') : SameTable b b' := by
  obtain ⟨gpio, rfl⟩ := h
  exact ⟨rfl, rfl, rfl, rfl⟩

/-! ### Loading Units -/

theorem loadRelaySensorFromNvs_nvs (env : Env) (b : Board) (key : Option CStr) :
    (loadRelaySensorFromNvs env b key).2.nvs = b.nvs := by
  unfold loadRelaySensorFromNvs
  split
  · rfl
  · exact (relayGpioInit_onlyGpio env b _).nvs

theorem loadSensors_nvs (env : Env) (b : Board) (channels : List Nat) :
    (loadSensors env b channels).2.nvs = b.nvs := by
  induction channels generalizing b with
  | nil => rfl
  | cons channel channels ih => exact (ih _).trans (loadRelaySensorFromNvs_nvs env b _)

/-- Loading the units leaves NVS alone. -/
theorem getAllRelayUnits_nvs {env : Env} {b b' : Board} {units : List RelayUnit}
    (h : getAllRelayUnits env b = some (units, b')) : b'.nvs = b.nvs := by
  unfold getAllRelayUnits at h
  split at h
  · cases h
    rfl
  · split at h
    · cases h
    · split at h
      · cases h
      · next hsensors =>
          cases h
          unfold getContactSensorList at hsensors
          split at hsensors
          · cases hsensors
            rfl
          · split at hsensors
            · cases hsensors
            · cases hsensors
              exact loadSensors_nvs env b _

/-! ### Frames of Single Functions -/

theorem relayGpioInit_sameUnit (env : Env) (b : Board) (relay : RelayUnit) :
    SameUnit relay (relayGpioInit env b relay).2.1 := by
  unfold relayGpioInit
  split
  · exact ⟨rfl, rfl, rfl, rfl, rfl⟩
  · exact SameUnit.refl relay

theorem relayGpioInit_frame {env : Env} {b b' : Board} {relay relay' : RelayUnit}
    {err : EspErr} (h : relayGpioInit env b relay = (err, relay', b')) :
    SameTable b b' ∧ SameUnit relay relay' := by
  have hgpio := relayGpioInit_onlyGpio env b relay
  have hunit := relayGpioInit_sameUnit env b relay
  rw [h] at hgpio hunit
  exact ⟨hgpio.sameTable, hunit⟩

theorem storedCopy_relayGpioInit (env : Env) (b : Board) (relay : RelayUnit) :
    storedCopy (relayGpioInit env b relay).2.1 = storedCopy relay := by
  unfold relayGpioInit
  split <;> rfl

theorem relayGpioDeinit_sameUnit (relay : RelayUnit) :
    SameUnit relay (relayGpioDeinit relay) := by
  unfold relayGpioDeinit
  split
  · exact ⟨rfl, rfl, rfl, rfl, rfl⟩
  · exact SameUnit.refl relay

@[simp] theorem relayGpioDeinit_state (relay : RelayUnit) :
    (relayGpioDeinit relay).state = relay.state := by
  unfold relayGpioDeinit
  split <;> rfl

/-- Only a sensor that has been set up is registered. -/
theorem relaySensorRegisterIsr_cases {b b' : Board} {relay : RelayUnit} {err : EspErr}
    (h : relaySensorRegisterIsr b relay = (err, b')) :
    (err = .ok ∧ relay.gpioInitialized = true ∧ relay.type = .sensor ∧
      b' = { b with gpio := Gpio.isrHandlerAdd b.gpio relay.gpioPin }) ∨
    (err ≠ .ok ∧ b' = b) := by
  unfold relaySensorRegisterIsr at h
  split at h
  · cases h
    exact Or.inr ⟨by decide, rfl⟩
  · next hinit =>
      split at h
      · next htype =>
          cases h
          exact Or.inl ⟨rfl, by simpa using hinit, htype, rfl⟩
      · cases h
        exact Or.inr ⟨by decide, rfl⟩

theorem relaySensorRegisterIsr_eq_ok {b b' : Board} {relay : RelayUnit}
    (h : relaySensorRegisterIsr b relay = (.ok, b')) :
    relay.gpioInitialized = true ∧ relay.type = .sensor ∧
      b' = { b with gpio := Gpio.isrHandlerAdd b.gpio relay.gpioPin } := by
  rcases relaySensorRegisterIsr_cases h with ⟨_, hadded⟩ | ⟨hne, _⟩
  · exact hadded
  · exact absurd rfl hne

theorem relaySensorRegisterIsr_error {b b' : Board} {relay : RelayUnit} {err : EspErr}
    (h : relaySensorRegisterIsr b relay = (err, b')) (herr : err ≠ .ok) : b' = b := by
  rcases relaySensorRegisterIsr_cases h with ⟨hok, _⟩ | ⟨_, hsame⟩
  · exact absurd hok herr
  · exact hsame

theorem relaySensorRegisterIsr_onlyGpio {b b' : Board} {relay : RelayUnit} {err : EspErr}
    (h : relaySensorRegisterIsr b relay = (err, b')) : OnlyGpio b b' := by
  rcases relaySensorRegisterIsr_cases h with ⟨_, _, _, rfl⟩ | ⟨_, rfl⟩
  · exact ⟨_, rfl⟩
  · exact OnlyGpio.refl _

/-! ### Records and Events -/

/-- Saving a unit writes its stored copy, or nothing. -/
theorem saveRelayToNvs_some (env : Env) (b : Board) (key : CStr) (relay : RelayUnit) :
    saveRelayToNvs env b (some key) relay =
      if env.nvsWrite key then
        (.ok, { b with nvs := Nvs.set b.nvs sNamespace key (.blob (storedCopy relay)) })
      else (.fail, b) := rfl

theorem saveRelayToNvs_cases {env : Env} {b b' : Board} {key : CStr} {relay : RelayUnit}
    {err : EspErr} (h : saveRelayToNvs env b (some key) relay = (err, b')) :
    (env.nvsWrite key = true ∧ err = .ok ∧
      b' = { b with nvs := Nvs.set b.nvs sNamespace key (.blob (storedCopy relay)) }) ∨
    (env.nvsWrite key = false ∧ err = .fail ∧ b' = b) := by
  rw [saveRelayToNvs_some] at h
  split at h
  · next hwrite =>
      cases h
      exact .inl ⟨hwrite, rfl, rfl⟩
  · next hwrite =>
      cases h
      exact .inr ⟨Bool.eq_false_of_not_eq_true hwrite, rfl, rfl⟩

/-- A save leaves everything but NVS. -/
theorem saveRelayToNvs_onlyNvs {env : Env} {b b' : Board} {key : Option CStr}
    {relay : RelayUnit} {err : EspErr} (h : saveRelayToNvs env b key relay = (err, b')) :
    ∃ nvs, b' = { b with nvs := nvs } := by
  unfold saveRelayToNvs nvsWriteRelay at h
  split at h
  · cases h
    exact ⟨b.nvs, rfl⟩
  · split at h
    · cases h
      exact ⟨_, rfl⟩
    · cases h
      exact ⟨b.nvs, rfl⟩

theorem saveRelayToNvs_sameTable {env : Env} {b b' : Board} {key : Option CStr}
    {relay : RelayUnit} {err : EspErr} (h : saveRelayToNvs env b key relay = (err, b')) :
    SameTable b b' := by
  obtain ⟨nvs, rfl⟩ := saveRelayToNvs_onlyNvs h
  exact ⟨rfl, rfl, rfl, rfl⟩

/-- Publishing leaves everything but the queue. -/
theorem publishUpdate_onlyQueue {b b' : Board} {relay : RelayUnit}
    (h : publishUpdate b relay = some b') :
    ∃ events, b' = { b with mqttEventQueue := events } := by
  unfold publishUpdate at h
  split at h
  · cases h
  · split at h
    · unfold triggerMqttPublish at h
      split at h
      · cases h
      · cases h
        exact ⟨_, rfl⟩
    · cases h
      exact ⟨b.mqttEventQueue, rfl⟩

theorem publishUpdate_sameTable {b b' : Board} {relay : RelayUnit}
    (h : publishUpdate b relay = some b') : SameTable b b' := by
  obtain ⟨events, rfl⟩ := publishUpdate_onlyQueue h
  exact ⟨rfl, rfl, rfl, rfl⟩

theorem publishUpdate_nvs {b b' : Board} {relay : RelayUnit}
    (h : publishUpdate b relay = some b') : b'.nvs = b.nvs := by
  obtain ⟨events, rfl⟩ := publishUpdate_onlyQueue h
  rfl

/-! ### Setting the State -/

/-- The unit once its level has been set. -/
def unitWithState (relay : RelayUnit) (state : RelayState) (gpioInitMade : Bool) : RelayUnit :=
  if gpioInitMade then relayGpioDeinit { relay with state := state }
  else { relay with state := state }

theorem unitWithState_sameUnit (relay : RelayUnit) (state : RelayState) (gpioInitMade : Bool) :
    SameUnit relay (unitWithState relay state gpioInitMade) := by
  have hstate : SameUnit relay { relay with state := state } := ⟨rfl, rfl, rfl, rfl, rfl⟩
  unfold unitWithState
  split
  · exact hstate.trans (relayGpioDeinit_sameUnit _)
  · exact hstate

@[simp] theorem unitWithState_state (relay : RelayUnit) (state : RelayState)
    (gpioInitMade : Bool) : (unitWithState relay state gpioInitMade).state = state := by
  unfold unitWithState
  split <;> simp

/-- How the unit is saved, if that is asked for. -/
inductive StateSaved (env : Env) (b : Board) (relay : RelayUnit) :
    Bool → EspErr → Board → Prop where
  | skipped : StateSaved env b relay false .ok b
  | keyless (hkey : getRelayNvsKey relay.channel = none) : StateSaved env b relay true .fail b
  | unsaved {key : CStr} {err : EspErr} {b' : Board}
      (hkey : getRelayNvsKey relay.channel = some key) (herr : err ≠ .ok)
      (hsave : saveRelayToNvs env b (some key) relay = (err, b')) :
      StateSaved env b relay true .fail b'
  | saved {key : CStr} {b' : Board} (hkey : getRelayNvsKey relay.channel = some key)
      (hsave : saveRelayToNvs env b (some key) relay = (.ok, b')) :
      StateSaved env b relay true .ok b'

theorem StateSaved.onlyNvs {env : Env} {b b' : Board} {relay : RelayUnit} {persist : Bool}
    {err : EspErr} (h : StateSaved env b relay persist err b') :
    ∃ nvs, b' = { b with nvs := nvs } := by
  cases h with
  | skipped => exact ⟨b.nvs, rfl⟩
  | keyless hkey => exact ⟨b.nvs, rfl⟩
  | unsaved hkey herr hsave => exact saveRelayToNvs_onlyNvs hsave
  | saved hkey hsave => exact saveRelayToNvs_onlyNvs hsave

/-- The level cannot be set, or the unit with the new state is published and saved. -/
theorem setLevelAndPersist_cases {env : Env} {b b' : Board} {relay relay' : RelayUnit}
    {state : RelayState} {gpioInitMade persist : Bool} {err : EspErr}
    (h : setLevelAndPersist env b relay state gpioInitMade persist =
      some (err, relay', b')) :
    (∃ err₁, err₁ ≠ .ok ∧ err = .fail ∧ relay' = relayGpioDeinit relay ∧
      gpioSetLevel env b relay.gpioPin (xor state.toBool relay.inverted) = (err₁, b')) ∨
    (∃ b₁ b₂, gpioSetLevel env b relay.gpioPin (xor state.toBool relay.inverted) = (.ok, b₁) ∧
      relay' = unitWithState relay state gpioInitMade ∧ publishUpdate b₁ relay' = some b₂ ∧
      StateSaved env b₂ relay' persist err b') := by
  unfold setLevelAndPersist at h
  split at h
  · next b₁ hlevel =>
      dsimp only at h
      right
      split at h
      · cases h
      · next b₂ hpub =>
          -- the level is set and the state published
          cases persist with
          | false =>
              cases h
              exact ⟨b₁, _, hlevel, rfl, hpub, .skipped⟩
          | true =>
              rw [if_pos rfl] at h
              split at h
              · next hkey =>
                  cases h
                  exact ⟨b₁, _, hlevel, rfl, hpub, .keyless hkey⟩
              · next key hkey =>
                  split at h
                  · next hsave =>
                      cases h
                      exact ⟨b₁, b₂, hlevel, rfl, hpub, .saved hkey hsave⟩
                  · next herr hsave =>
                      cases h
                      exact ⟨b₁, b₂, hlevel, rfl, hpub, .unsaved hkey herr hsave⟩
  · next err₁ b₁ herr hlevel =>
      cases h
      exact Or.inl ⟨err₁, herr, rfl, rfl, hlevel⟩

theorem setLevelAndPersist_frame {env : Env} {b b' : Board} {relay relay' : RelayUnit}
    {state : RelayState} {gpioInitMade persist : Bool} {err : EspErr}
    (h : setLevelAndPersist env b relay state gpioInitMade persist =
      some (err, relay', b')) :
    SameTable b b' ∧ SameUnit relay relay' := by
  have htab := (gpioSetLevel_onlyGpio env b relay.gpioPin
    (xor state.toBool relay.inverted)).sameTable
  rcases setLevelAndPersist_cases h with
    ⟨err₁, _, _, rfl, hlevel⟩ | ⟨b₁, b₂, hlevel, rfl, hpub, hsaved⟩
  · rw [hlevel] at htab
    exact ⟨htab, relayGpioDeinit_sameUnit relay⟩
  · rw [hlevel] at htab
    obtain ⟨nvs, rfl⟩ := hsaved.onlyNvs
    have htab' := htab.trans (publishUpdate_sameTable hpub)
    exact ⟨⟨htab'.units_in_memory, htab'.units, htab'.relays_count, htab'.sensors_count⟩,
      unitWithState_sameUnit relay state gpioInitMade⟩

/-- `relay_set_state` touches neither the table nor a unit's own fields. -/
theorem relaySetState_frame {env : Env} {b b' : Board} {relay relay' : RelayUnit}
    {state : RelayState} {persist : Bool} {err : EspErr}
    (h : relaySetState env b relay state persist = some (err, relay', b')) :
    SameTable b b' ∧ SameUnit relay relay' := by
  unfold relaySetState at h
  split at h
  · cases h
    exact ⟨SameTable.refl b, SameUnit.refl relay⟩
  · split at h
    · exact setLevelAndPersist_frame h
    · split at h
      · next hinit =>
          obtain ⟨htab, hunit⟩ := relayGpioInit_frame hinit
          obtain ⟨htab', hunit'⟩ := setLevelAndPersist_frame h
          exact ⟨htab.trans htab', hunit.trans hunit'⟩
      · next hinit =>
          cases h
          exact relayGpioInit_frame hinit

/-! ### Saved Units -/

theorem saveRelayToNvs_ok {env : Env} {b b' : Board} {key : Option CStr} {relay : RelayUnit}
    (h : saveRelayToNvs env b key relay = (.ok, b')) :
    ∃ key', key = some key' ∧
      b'.nvs = Nvs.set b.nvs sNamespace key' (.blob (storedCopy relay)) := by
  unfold saveRelayToNvs nvsWriteRelay at h
  split at h
  · cases h
  · next key' =>
      split at h
      · cases h
        exact ⟨key', rfl, rfl⟩
      · cases h

theorem setLevelAndPersist_saved {env : Env} {b b' : Board} {relay relay' : RelayUnit}
    {state : RelayState} {gpioInitMade : Bool}
    (h : setLevelAndPersist env b relay state gpioInitMade true = some (.ok, relay', b')) :
    ∃ key, getRelayNvsKey relay'.channel = some key ∧
      b'.nvs = Nvs.set b.nvs sNamespace key (.blob (storedCopy relay')) := by
  have hnvs := (gpioSetLevel_onlyGpio env b relay.gpioPin
    (xor state.toBool relay.inverted)).nvs
  rcases setLevelAndPersist_cases h with
    ⟨_, _, herr, _, _⟩ | ⟨b₁, b₂, hlevel, _, hpub, hsaved⟩
  · cases herr
  · rw [hlevel] at hnvs
    dsimp only at hnvs
    cases hsaved with
    | saved hkey hsave =>
        obtain ⟨key, hsome, hset⟩ := saveRelayToNvs_ok hsave
        cases hsome
        -- neither the level nor the event has touched the storage
        rw [publishUpdate_nvs hpub, hnvs] at hset
        exact ⟨_, hkey, hset⟩

/-- A unit whose state has been set and saved lies in NVS as it is in memory. -/
theorem relaySetState_saved {env : Env} {b b' : Board} {relay relay' : RelayUnit}
    {state : RelayState}
    (h : relaySetState env b relay state true = some (.ok, relay', b')) :
    ∃ key, getRelayNvsKey relay'.channel = some key ∧
      b'.nvs = Nvs.set b.nvs sNamespace key (.blob (storedCopy relay')) := by
  unfold relaySetState at h
  split at h
  · cases h
  · split at h
    · exact setLevelAndPersist_saved h
    · have hinit := (relayGpioInit_onlyGpio env b relay).nvs
      split at h
      · next relay₁ b₁ heq =>
          rw [heq] at hinit
          dsimp only at hinit
          obtain ⟨key, hkey, hset⟩ := setLevelAndPersist_saved h
          exact ⟨key, hkey, by rw [hset, hinit]⟩
      · next hne =>
          cases h

/-- Without a ready client nothing is published, as long as the mode can be read. -/
theorem publishUpdate_of_not_ready {b : Board} {mode : Nat}
    (hmode : Nvs.readUint16 b.nvs sNamespace sKeyMqttConnect = .ok mode)
    (hready : b.isMqttReady = false) (relay : RelayUnit) : publishUpdate b relay = some b := by
  unfold publishUpdate
  rw [hmode]
  dsimp only
  rw [if_neg (by simp [hready])]

end Relay
