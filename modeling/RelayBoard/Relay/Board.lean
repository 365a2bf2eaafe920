import RelayBoard.Platform.Nvs
import RelayBoard.Relay.Unit

/-! # The Board

  The state that `main/relay.c` shares between its tasks, and the functions
  on one unit: GPIO initialization, interrupt registration, saving and
  loading a record, and `relay_set_state`. Functions that change their unit
  or the board return them next to their result.

  `INIT_RELAY_ON_LOAD` and `INIT_RELAY_ON_GET` are false,
  `INIT_SENSORS_ON_LOAD` and `INIT_SENSORS_ON_GET` are true; the model
  follows the branches these constants select.
-/

open CString Settings

namespace Relay

/-! ### State -/

/-- `relay_event_t`. -/
structure RelayEvent where
  relayKey : CStr
  relayType : RelayType
  deriving DecidableEq, Repr

/-- The state the tasks share. -/
structure Board where
  nvs : Nvs.Store RelayUnit
  gpio : Gpio.State
  /-- `BIT_UNITS_IN_MEMORY`. -/
  unitsInMemory : Bool
  /-- `BIT_MQTT_CONNECTED`. -/
  mqttConnected : Bool
  /-- `BIT_MQTT_READY`. -/
  mqttReady : Bool
  /-- `s_units`; its length is `s_units_count`. -/
  sUnits : List RelayUnit
  /-- `s_relays_count`. -/
  sRelaysCount : Nat
  /-- `s_sensors_count`. -/
  sSensorsCount : Nat
  /-- `s_units` has been passed to `free`. -/
  sUnitsFreed : Bool
  /-- `mqtt_event_queue`. -/
  mqttEventQueue : List RelayEvent

/-- Outcomes of the calls into NVS and the GPIO driver made by one operation. -/
structure Env where
  /-- Does the write under this key succeed? -/
  nvsWrite : CStr → Bool
  driver : Gpio.Driver

/-- Every call succeeds. -/
def Env.ok : Env := ⟨fun _ => true, Gpio.Driver.ok⟩

/-- The board after a reset of the chip: NVS and the outside levels stay. -/
def Board.reset (nvs : Nvs.Store RelayUnit) (gpio : Gpio.State) : Board where
  nvs := nvs
  gpio := gpio.reset
  unitsInMemory := false
  mqttConnected := false
  mqttReady := false
  sUnits := []
  sRelaysCount := 0
  sSensorsCount := 0
  sUnitsFreed := false
  mqttEventQueue := []

/-- `IS_MQTT_READY()`. -/
def Board.isMqttReady (b : Board) : Bool := b.mqttConnected && b.mqttReady

/-- Replace the unit at an index of `s_units`. -/
def Board.setUnit (b : Board) (i : Nat) (relay : RelayUnit) : Board :=
  { b with sUnits := b.sUnits.set i relay }

/-! ### GPIO -/

/-- `gpio_config`, with its outcome. -/
def gpioConfig (env : Env) (b : Board) (pin : Int) (conf : Gpio.Config) : EspErr × Board :=
  if env.driver.config b.gpio.calls pin then
    (.ok, { b with gpio := (Gpio.applyConfig b.gpio conf).tick })
  else (.fail, { b with gpio := b.gpio.tick })

/-- `gpio_set_level`, with its outcome. -/
def gpioSetLevel (env : Env) (b : Board) (pin : Int) (level : Bool) : EspErr × Board :=
  if env.driver.setLevel b.gpio.calls pin then
    (.ok, { b with gpio := (Gpio.applyLevel b.gpio pin level).tick })
  else (.fail, { b with gpio := b.gpio.tick })

/-- The configuration `relay_gpio_init` builds. -/
def relayIoConf (relay : RelayUnit) : Gpio.Config :=
  match relay.type with
  | .sensor => ⟨Gpio.pinMask relay.gpioPin, .input, true, false, .anyedge⟩
  | .actuator => ⟨Gpio.pinMask relay.gpioPin, .output, false, false, .disable⟩

/-- `relay_gpio_init`. -/
def relayGpioInit (env : Env) (b : Board) (relay : RelayUnit) :
    EspErr × RelayUnit × Board :=
  match gpioConfig env b relay.gpioPin (relayIoConf relay) with
  | (.ok, b) => (.ok, { relay with ioConf := relayIoConf relay, gpioInitialized := true }, b)
  | (err, b) => (err, relay, b)

/-- `relay_gpio_deinit`; it returns `ESP_OK` on every unit. -/
def relayGpioDeinit (relay : RelayUnit) : RelayUnit :=
  if relay.gpioInitialized then
    { relay with ioConf := Gpio.Config.zero, gpioInitialized := false }
  else relay

/-- `relay_sensor_register_isr`; the result of `gpio_isr_handler_add` is ignored. -/
def relaySensorRegisterIsr (b : Board) (relay : RelayUnit) : EspErr × Board :=
  if relay.gpioInitialized = false then (.invalidArg, b)
  else
    match relay.type with
    | .sensor => (.ok, { b with gpio := Gpio.isrHandlerAdd b.gpio relay.gpioPin })
    | .actuator => (.invalidArg, b)

/-! ### Records -/

/-- `nvs_write_blob` of a unit record. -/
def nvsWriteRelay (env : Env) (b : Board) (key : Option CStr) (relay : RelayUnit) :
    EspErr × Board :=
  match key with
  | none => (.invalidArg, b)
  | some key =>
      if env.nvsWrite key then
        (.ok, { b with nvs := Nvs.set b.nvs sNamespace key (.blob relay) })
      else (.fail, b)

/-- `nvs_read_blob` of a unit record. -/
def nvsReadRelay (b : Board) (key : Option CStr) : Except EspErr RelayUnit :=
  match key with
  | none => .error .invalidArg
  | some key => Nvs.readBlob b.nvs sNamespace key

/-- The copy `save_relay_to_nvs` stores: the driver bookkeeping is reset. -/
def storedCopy (relay : RelayUnit) : RelayUnit :=
  { relay with ioConf := Gpio.Config.zero, gpioInitialized := false }

/-- `save_relay_to_nvs`. -/
def saveRelayToNvs (env : Env) (b : Board) (key : Option CStr) (relay : RelayUnit) :
    EspErr × Board :=
  nvsWriteRelay env b key (storedCopy relay)

/-- `load_relay_actuator_from_nvs`. -/
def loadRelayActuatorFromNvs (b : Board) (key : Option CStr) : Except EspErr RelayUnit :=
  match nvsReadRelay b key with
  | .error err => .error err
  | .ok relay => .ok { relay with ioConf := Gpio.Config.zero }

/-- `load_relay_sensor_from_nvs`; a failed `relay_gpio_init` is only logged. -/
def loadRelaySensorFromNvs (env : Env) (b : Board) (key : Option CStr) :
    Except EspErr RelayUnit × Board :=
  match nvsReadRelay b key with
  | .error err => (.error err, b)
  | .ok relay =>
      let (_, relay, b) := relayGpioInit env b relay
      (.ok relay, b)

/-- `get_actuator_relay`. -/
def getActuatorRelay (channel pin : Int) : RelayUnit :=
  { channel := channel, state := .off, inverted := false, gpioPin := pin, enabled := true,
    type := .actuator, gpioInitialized := false, ioConf := Gpio.Config.zero }

/-- The unit `get_sensor_relay` starts from. -/
def freshSensor (channel pin : Int) : RelayUnit :=
  { getActuatorRelay channel pin with type := .sensor }

/-- `get_sensor_relay`; a failed `relay_gpio_init` is only logged. -/
def getSensorRelay (env : Env) (b : Board) (channel pin : Int) : RelayUnit × Board :=
  let (_, relay, b) := relayGpioInit env b (freshSensor channel pin)
  (relay, b)

/-! ### Setting the State -/

/-- `trigger_mqtt_publish`: the blocking send has completed. A null key ends in
    `strdup(NULL)`. -/
def triggerMqttPublish (b : Board) (relayKey : Option CStr) (relayType : RelayType) :
    Option Board :=
  match relayKey with
  | none => none
  | some key => some { b with mqttEventQueue := b.mqttEventQueue ++ [⟨key, relayType⟩] }

/-- The publish at the end of `relay_set_state` and `gpio_event_task`: the mode
    is read under `ESP_ERROR_CHECK`. -/
def publishUpdate (b : Board) (relay : RelayUnit) : Option Board :=
  match Nvs.readUint16 b.nvs sNamespace sKeyMqttConnect with
  | .error _ => none
  | .ok mode =>
      if mode ≠ 0 ∧ b.isMqttReady = true then
        triggerMqttPublish b (getUnitNvsKey relay) relay.type
      else some b

/-- `relay_set_state`, after the type check and the GPIO initialization. -/
def setLevelAndPersist (env : Env) (b : Board) (relay : RelayUnit) (state : RelayState)
    (gpioInitMade persist : Bool) : Option (EspErr × RelayUnit × Board) :=
  match gpioSetLevel env b relay.gpioPin (xor state.toBool relay.inverted) with
  | (.ok, b) =>
      let relay := { relay with state := state }
      let relay := if gpioInitMade then relayGpioDeinit relay else relay
      match publishUpdate b relay with
      | none => none
      | some b =>
          if persist then
            match getRelayNvsKey relay.channel with
            | none => some (.fail, relay, b)
            | some key =>
                match saveRelayToNvs env b (some key) relay with
                | (.ok, b) => some (.ok, relay, b)
                | (_, b) => some (.fail, relay, b)
          else some (.ok, relay, b)
  | (_, b) => some (.fail, relayGpioDeinit relay, b)

/-- `relay_set_state`. -/
def relaySetState (env : Env) (b : Board) (relay : RelayUnit) (state : RelayState)
    (persist : Bool) : Option (EspErr × RelayUnit × Board) :=
  match relay.type with
  | .sensor => some (.invalidArg, relay, b)
  | .actuator =>
      if relay.gpioInitialized then setLevelAndPersist env b relay state false persist
      else
        match relayGpioInit env b relay with
        | (.ok, relay, b) => setLevelAndPersist env b relay state true persist
        | (_, relay, b) => some (.fail, relay, b)

end Relay
