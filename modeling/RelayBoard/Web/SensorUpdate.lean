import RelayBoard.Relay.Inputs
import RelayBoard.Web.UpdateRelay

/-! # Updates of Sensors

  What `update_relay_post_handler` does to the inputs. A request adds at most
  the handler of the pin that it moves a sensor to. An accepted update of a
  sensor leaves the state as assigned, and its pin an input with a handler.
-/

open CString Relay Settings

namespace Web

/-! ### Saving and Applying -/

/-- No handler is removed, and at most that of a sensor is added. -/
structure HandlersAdded (b : Board) (relay : RelayUnit) (b' : Board) : Prop where
  kept : ∀ p, b.gpio.isr p = true → b'.gpio.isr p = true
  added : ∀ p, b'.gpio.isr p = true →
    b.gpio.isr p = true ∨ (relay.type = .sensor ∧ p = relay.gpioPin)

theorem HandlersAdded.of_isr {b b' : Board} (relay : RelayUnit)
    (h : b'.gpio.isr = b.gpio.isr) : HandlersAdded b relay b' := by
  constructor
  · intro p hp
    rwa [h]
  · intro p hp
    rw [h] at hp
    exact Or.inl hp

/-- Saving and applying a unit adds at most its handler. -/
theorem persistUnit_handlers {env : Env} {b b' : Board} {relayKey : CStr} {gpioPinOld : Int}
    {relay relay' : RelayUnit} {err : EspErr}
    (h : persistUnit env b relayKey gpioPinOld relay = some (err, relay', b')) :
    HandlersAdded b relay b' := by
  cases persists_of_persistUnit h with
  | actuator htype hset => exact HandlersAdded.of_isr relay (relaySetState_sameInputs hset).isr
  | unsaved htype herr hsave =>
      exact HandlersAdded.of_isr _ (by rw [saveRelayToNvs_gpio hsave])
  | saved htype hpin hsave =>
      exact HandlersAdded.of_isr _ (by rw [saveRelayToNvs_gpio hsave])
  | @stuck _ _ b₁ _ htype hpin herr hsave hinit =>
      have hisr := (relayGpioInit_sameInputs env b₁ relay).isr
      rw [hinit, saveRelayToNvs_gpio hsave] at hisr
      exact HandlersAdded.of_isr _ hisr
  | @moved _ _ b₁ _ _ htype hpin hsave hinit hreg =>
      have hisr := (relayGpioInit_sameInputs env b₁ relay).isr
      rw [hinit, saveRelayToNvs_gpio hsave] at hisr
      dsimp only at hisr
      by_cases hok : err = .ok
      · -- the handler of the new pin is added
        subst hok
        have hadded := (relaySensorRegisterIsr_added hreg).isr
        simp only [hisr, (relayGpioInit_frame hinit).2.gpio_pin] at hadded
        exact ⟨fun p hp => (hadded p).mpr (Or.inl hp),
          fun p hp => ((hadded p).mp hp).imp_right fun hnew => ⟨htype, hnew⟩⟩
      · rw [relaySensorRegisterIsr_error hreg hok]
        exact HandlersAdded.of_isr relay hisr

/-- What an accepted update leaves of a sensor and its pins. -/
structure SensorSaved (b : Board) (gpioPinOld : Int) (relay relay' : RelayUnit) (b' : Board) :
    Prop where
  state : relay'.state = relay.state
  level : b'.gpio.level = b.gpio.level
  isr : ∀ p, b.gpio.isr p = true → b'.gpio.isr p = true
  mode : ∀ p, b.gpio.mode p = .input → b'.gpio.mode p = .input
  listens : gpioPinOld ≠ relay.gpioPin → 0 ≤ relay.gpioPin ∧ relay.gpioPin < 64 →
    Listens b'.gpio relay'

theorem persistUnit_sensor {env : Env} {b b' : Board} {relayKey : CStr} {gpioPinOld : Int}
    {relay relay' : RelayUnit} (htype : relay.type = .sensor)
    (h : persistUnit env b relayKey gpioPinOld relay = some (.ok, relay', b')) :
    SensorSaved b gpioPinOld relay relay' b' := by
  cases persists_of_persistUnit h with
  | actuator hact hset =>
      rw [htype] at hact
      cases hact
  | unsaved _ herr hsave => exact absurd rfl herr
  | saved _ hpin hsave =>
      have hgpio := saveRelayToNvs_gpio hsave
      exact ⟨rfl, by rw [hgpio], fun p hp => by rw [hgpio]; exact hp,
        fun p hp => by rw [hgpio]; exact hp, fun hne => absurd hpin hne⟩
  | stuck _ hpin herr hsave hinit => exact absurd rfl herr
  | @moved _ _ b₁ _ _ _ hpin hsave hinit hreg =>
      have hgpio := saveRelayToNvs_gpio hsave
      have hinputs := relayGpioInit_sameInputs env b₁ relay
      have hmode := fun p => relayGpioInit_input env b₁ htype (p := p)
      have hcopy := storedCopy_relayGpioInit env b₁ relay
      rw [hinit] at hinputs hmode hcopy
      have hstate : (storedCopy relay').state = (storedCopy relay).state :=
        congrArg RelayUnit.state hcopy
      have hadded := relaySensorRegisterIsr_added hreg
      refine ⟨hstate, ?_, ?_, ?_, ?_⟩
      · rw [hadded.level, hinputs.level, hgpio]
      · intro p hp
        rw [hadded.isr, hinputs.isr, hgpio]
        exact Or.inl hp
      · intro p hp
        rw [hadded.mode]
        exact hmode p (by rw [hgpio]; exact hp)
      · intro _ hbound
        have hready := relayGpioInit_ready htype hbound hinit
        refine ⟨(hadded.isr _).mpr (Or.inr rfl), ?_⟩
        rw [hadded.mode]
        exact hready.mode

/-! ### The Handler -/

/-- What a request that resolves to a unit and names no unsafe pin does to the table and
    the handlers, whatever its outcome. -/
structure Answered (b : Board) (u : UnitUpdate) (i : Nat) (relay relay' : RelayUnit)
    (b' : Board) : Prop where
  assigned : SameUnit (assignFields relay u) relay'
  units : b'.sUnits = b.sUnits.set i relay'
  units_in_memory : b'.unitsInMemory = b.unitsInMemory
  relays_count : b'.sRelaysCount = b.sRelaysCount
  sensors_count : b'.sSensorsCount = b.sSensorsCount
  handlers : HandlersAdded b relay' b'

theorem applyUpdate_answered {env : Env} {serializes : Bool} {b b' : Board} {u : UnitUpdate}
    {i : Nat} {relay : RelayUnit} {err : EspErr} {response : Response}
    (h : applyUpdate env serializes b u i relay = some (err, response, b')) :
    ∃ relay', Answered b u i relay relay' b' := by
  obtain ⟨err₁, relay', b₁, hpersist, rfl, _⟩ := applyUpdate_eq_some h
  obtain ⟨htab, hunit⟩ := persistUnit_frame hpersist
  have hhandlers := persistUnit_handlers hpersist
  refine ⟨relay', hunit, ?_, htab.units_in_memory, htab.relays_count, htab.sensors_count,
    hhandlers.kept, ?_⟩
  · show b₁.sUnits.set i relay' = _
    rw [htab.units]
    exact List.set_set _
  · intro p hp
    rw [hunit.gpio_pin, hunit.type]
    exact hhandlers.added p hp

/-- A request is refused, or it updates one unit and adds at most its handler. -/
theorem updateRelayPostHandler_answered {env : Env} {serializes : Bool} {b b' : Board}
    {req : Request} {err : EspErr} {response : Response}
    (h : updateRelayPostHandler env serializes b req = some (err, response, b')) :
    b' = b ∨ ∃ u i relay relay', resolveUpdate b req = .ok (u, i, relay) ∧
      (∀ pin, u.relayGpioPin = some pin → isGpioSafe pin = true) ∧
      Answered b u i relay relay' b' := by
  rcases updateRelayPostHandler_cases h with ⟨_, hb, _⟩ | ⟨u, i, relay, hres, hsafe, happ⟩
  · exact Or.inl hb
  · obtain ⟨relay', hanswered⟩ := applyUpdate_answered happ
    exact Or.inr ⟨u, i, relay, relay', hres, hsafe, hanswered⟩

/-- An accepted update of a sensor. -/
theorem updateRelayPostHandler_sensor {env : Env} {serializes : Bool} {b b' : Board}
    {req : Request} {response : Response} {u : UnitUpdate} {i : Nat} {relay : RelayUnit}
    (hres : resolveUpdate b req = .ok (u, i, relay)) (htype : relay.type = .sensor)
    (h : updateRelayPostHandler env serializes b req = some (.ok, response, b')) :
    ∃ relay', Updated b req b' u i relay relay' ∧
      SensorSaved b relay.gpioPin (assignFields relay u) relay' b' := by
  rcases updateRelayPostHandler_cases h with
    ⟨herr, _, _⟩ | ⟨u', i', relay', hres', hsafe, happ⟩
  · cases herr
  · rw [hres] at hres'
    cases hres'
    obtain ⟨err₁, relay', b₁, hpersist, rfl, hok⟩ := applyUpdate_eq_some happ
    rw [hok rfl] at hpersist
    have hsaved := persistUnit_sensor (by exact htype) hpersist
    exact ⟨relay', updated_of_persistUnit hres hsafe hpersist, hsaved.state, hsaved.level,
      hsaved.isr, hsaved.mode, hsaved.listens⟩

end Web
