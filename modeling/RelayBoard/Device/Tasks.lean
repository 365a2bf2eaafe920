import RelayBoard.Relay.Pins

/-! # Tasks on the Unit Table

  One turn of each task that changes units: `gpio_event_task` of
  `main/relay.c`, and `mqtt_subscribe_relays_task` and `mqtt_event_task` of
  `main/mqtt.c`. No result is a panic or an access outside the heap.
-/

open CString Relay Settings

namespace Device

/-! ### Sensor Events -/

/-- `gpio_event_t`. -/
structure GpioEvent where
  gpioNum : Int
  level : Bool
  deriving DecidableEq, Repr

/-- Is the list of `get_contact_sensor_list` a null pointer? In memory it points into
    `s_units`. -/
def sensorListIsNull (b : Board) : Bool :=
  if b.unitsInMemory then b.sUnits.isEmpty
  else
    match Nvs.readUint16 b.nvs sNamespace sKeyContactSensorsCount with
    | .ok count => count = 0
    | .error _ => false

/-- `gpio_event_task` once the sensor has been found at index `k` of the list. Without
    a key the list is passed to `free`, which in memory is a part of `s_units`. -/
def saveContactState (env : Env) (b : Board) (k : Nat) (relay : RelayUnit)
    (currentLevel : Bool) : Option Board :=
  let relay := { relay with state := RelayState.ofBool (xor currentLevel relay.inverted) }
  let b := if b.unitsInMemory then b.setUnit (b.sRelaysCount + k) relay else b
  match getContactSensorNvsKey relay.channel with
  | none => if b.unitsInMemory then none else some b
  | some key =>
      match saveRelayToNvs env b (some key) relay with
      | (.ok, b) => publishUpdate b relay
      | (_, b) => some b

/-- `gpio_event_task`, for one event: after the debounce time the level must still be
    that of the event. The first sensor on the pin is updated; without one the task
    goes through a null pointer. -/
def gpioEventTask (env : Env) (b : Board) (evt : GpioEvent) : Option Board :=
  let currentLevel := Gpio.getLevel b.gpio evt.gpioNum
  if currentLevel ≠ evt.level then some b
  else
    match getContactSensorList env b with
    | none => none
    | some (sensors, b) =>
        if sensorListIsNull b then some b
        else
          match sensors.findIdx? (fun relay => relay.gpioPin = evt.gpioNum) with
          | none => none
          | some k =>
              match sensors[k]? with
              | none => none
              | some relay => saveContactState env b k relay currentLevel

/-! ### MQTT Commands -/

/-- `mqtt_command_event_t`. -/
structure MqttCommandEvent where
  relayKey : CStr
  state : RelayState
  deriving DecidableEq, Repr

/-- `mqtt_subscribe_relays_task`, for one event: the state is set under
    `ESP_ERROR_CHECK`. -/
def mqttSubscribeRelaysTask (env : Env) (b : Board) (event : MqttCommandEvent) :
    Option Board :=
  match getRelayTypeFromKey event.relayKey with
  | some .actuator =>
      match getRelayActuatorFromMemoryByKey b event.relayKey with
      | .error _ => some b
      | .ok i =>
          match b.sUnits[i]? with
          | none => some b
          | some relay =>
              match relaySetState env b relay event.state true with
              | some (.ok, relay, b) => some (b.setUnit i relay)
              | _ => none
  | _ => some b

/-! ### Publishing -/

/-- `mqtt_event_task`, for one event: the unit is published, and a sensor's driver
    bookkeeping reset. -/
def mqttEventTask (b : Board) : Board :=
  match b.mqttEventQueue with
  | [] => b
  | event :: events =>
      let b := { b with mqttEventQueue := events }
      match getRelayFromMemoryByKey b event.relayType event.relayKey with
      | .error _ => b
      | .ok i =>
          match b.sUnits[i]? with
          | some relay =>
              if relay.type = .sensor then b.setUnit i (relayGpioDeinit relay) else b
          | none => b

/-! ### What a Turn Does -/

/-- A command that completes leaves the board alone or sets the state of one actuator. -/
theorem mqttSubscribeRelaysTask_cases {env : Env} {b b' : Board} {event : MqttCommandEvent}
    (h : mqttSubscribeRelaysTask env b event = some b') :
    b' = b ∨ ∃ i relay relay' b₁, b.sUnits[i]? = some relay ∧ relay.type = .actuator ∧
      relaySetState env b relay event.state true = some (.ok, relay', b₁) ∧
      b' = b₁.setUnit i relay' := by
  unfold mqttSubscribeRelaysTask at h
  split at h
  · split at h
    · cases h
      exact Or.inl rfl
    · next i hlookup =>
        obtain ⟨_, relay, hget, htype, _⟩ := getRelayActuatorFromMemoryByKey_eq_ok hlookup
        rw [hget] at h
        dsimp only at h
        split at h
        · next relay' b₁ hset =>
            cases h
            exact Or.inr ⟨i, relay, relay', b₁, hget, htype, hset, rfl⟩
        · cases h
  · cases h
    exact Or.inl rfl

/-- Publishing leaves everything but the queue and the driver bookkeeping of one
    sensor. -/
theorem mqttEventTask_cases (b : Board) :
    ∃ events, mqttEventTask b = { b with mqttEventQueue := events } ∨
      ∃ i relay, b.sUnits[i]? = some relay ∧ relay.type = .sensor ∧
        mqttEventTask b =
          ({ b with mqttEventQueue := events } : Board).setUnit i (relayGpioDeinit relay) := by
  unfold mqttEventTask
  split
  · exact ⟨b.mqttEventQueue, Or.inl rfl⟩
  · next event events _ =>
      refine ⟨events, ?_⟩
      dsimp only
      split
      · exact Or.inl rfl
      · next i _ =>
          split
          · next relay hget =>
              split
              · next htype => exact Or.inr ⟨i, relay, hget, htype, rfl⟩
              · exact Or.inl rfl
          · exact Or.inl rfl

end Device
