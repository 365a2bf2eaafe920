import RelayBoard.Relay.Memory
import RelayBoard.Settings.Base

/-! # Booting

  `settings_init` of `main/settings.c` and what `app_main` runs after it, up
  to the start of the tasks: the counts, one provisioning loop per unit type,
  the in-memory table, and the interrupts of the sensors.
-/

open CString Relay Settings

namespace Boot

/-! ### Provisioning Loops -/

/-- The end of a turn of the actuator loop: a failure to set the state is only
    logged. -/
def setBootState (env : Env) (b : Board) (relay : RelayUnit) : Option (EspErr × Board) :=
  match relaySetState env b relay relay.state false with
  | none => none
  | some (_, _, b) => some (.ok, b)

/-- One turn of the actuator loop of `device_settings_init`. -/
def initActuator (env : Env) (b : Board) (channel : Nat) : Option (EspErr × Board) :=
  match getRelayNvsKey channel with
  | none => some (.fail, b)
  | some key =>
      match loadRelayActuatorFromNvs b (some key) with
      | .ok relay => setBootState env b relay
      | .error _ =>
          match getNextAvailableSafeGpioPin env b with
          | none => none
          | some (gpioPin, b) =>
              if gpioPin < 0 then some (.fail, b)
              else
                let relay := getActuatorRelay channel gpioPin
                match saveRelayToNvs env b (some key) relay with
                | (.ok, b) => setBootState env b relay
                | (_, b) => some (.fail, b)

/-- One turn of the sensor loop. The loop deinitializes its copy of the unit, which
    leaves the pin configured. -/
def initSensor (env : Env) (b : Board) (channel : Nat) : Option (EspErr × Board) :=
  match getContactSensorNvsKey channel with
  | none => some (.fail, b)
  | some key =>
      match loadRelaySensorFromNvs env b (some key) with
      | (.ok _, b) => some (.ok, b)
      | (.error _, b) =>
          match getNextAvailableSafeGpioPin env b with
          | none => none
          | some (gpioPin, b) =>
              if gpioPin < 0 then some (.fail, b)
              else
                let (relay, b) := getSensorRelay env b channel gpioPin
                match saveRelayToNvs env b (some key) relay with
                | (.ok, b) => some (.ok, b)
                | (_, b) => some (.fail, b)

/-- A loop over channels that ends at the first failure. -/
def forChannels (body : Board → Nat → Option (EspErr × Board)) :
    List Nat → Board → Option (EspErr × Board)
  | [], b => some (.ok, b)
  | channel :: channels, b =>
      match body b channel with
      | none => none
      | some (.ok, b) => forChannels body channels b
      | some (err, b) => some (err, b)

/-! ### Settings -/

/-- The blocks of `device_settings_init`, in order. -/
def deviceParameters : List (CStr × Nvs.Value RelayUnit) :=
  [(sKeyRelayRefreshInterval, .u16 sDefaultRelayRefreshInterval),
    (sKeyChannelCount, .u16 sDefaultChannelCount),
    (sKeyContactSensorsCount, .u16 sDefaultContactSensorsCount)]

/-- `device_settings_init`. -/
def deviceSettingsInit (env : Env) (b : Board) : Option (EspErr × Board) :=
  let channelCount := uint16OrDefault b.nvs sKeyChannelCount sDefaultChannelCount
  let relaySnCount := uint16OrDefault b.nvs sKeyContactSensorsCount sDefaultContactSensorsCount
  match initParameters env.nvsWrite deviceParameters b.nvs with
  | (.ok, nvs) =>
      match forChannels (initActuator env) (List.range channelCount) { b with nvs := nvs } with
      | none => none
      | some (.ok, b) => forChannels (initSensor env) (List.range relaySnCount) b
      | some (err, b) => some (err, b)
  | (err, nvs) => some (err, { b with nvs := nvs })

/-- `settings_init`. -/
def settingsInit (env : Env) (newDeviceId newDeviceSerial : CStr) (b : Board) :
    Option (EspErr × Board) :=
  match baseSettingsInit env.nvsWrite newDeviceId newDeviceSerial b.nvs with
  | (.ok, nvs) =>
      match deviceSettingsInit env { b with nvs := nvs } with
      | none => none
      | some (.ok, b) => some (.ok, b)
      | some (_, b) => some (.fail, b)
  | (_, nvs) => some (.fail, { b with nvs := nvs })

/-! ### Sensor Interrupts -/

/-- `relay_sensor_gpio_state_refresh`, past its type check; a failed save is only
    logged. -/
def sensorStateRefresh (env : Env) (b : Board) (relay : RelayUnit) : RelayUnit × Board :=
  let currentLevel := Gpio.getLevel b.gpio relay.gpioPin
  let relay := { relay with state := RelayState.ofBool (xor currentLevel relay.inverted) }
  (relay, (saveRelayToNvs env b (getContactSensorNvsKey relay.channel) relay).2)

/-- The loop of `relay_all_sensors_register_isr` over `count` units of `s_units`
    from index `i` on. -/
def registerSensors (env : Env) : Nat → Nat → Board → Board
  | 0, _, b => b
  | count + 1, i, b =>
      match b.sUnits[i]? with
      | none => b
      | some relay =>
          match relaySensorRegisterIsr b relay with
          | (.ok, b) =>
              let (relay, b) := sensorStateRefresh env b relay
              registerSensors env count (i + 1) (b.setUnit i relay)
          | (_, b) => registerSensors env count (i + 1) b

/-- `relay_all_sensors_register_isr` once the units are in memory. -/
def relayAllSensorsRegisterIsr (env : Env) (b : Board) : Board :=
  registerSensors env b.sSensorsCount b.sRelaysCount b

/-! ### The Boot -/

/-- `settings_init` and `init_relay_units_in_memory` in `app_main`, each under
    `ESP_ERROR_CHECK`. -/
def loadUnits (env : Env) (newDeviceId newDeviceSerial : CStr) (b : Board) : Option Board :=
  match settingsInit env newDeviceId newDeviceSerial b with
  | some (.ok, b) =>
      match initRelayUnitsInMemory env b with
      | some (.ok, b) => some b
      | _ => none
  | _ => none

/-- `app_main` up to the start of the tasks, after a reset with the given NVS and
    outside levels. -/
def appMain (env : Env) (newDeviceId newDeviceSerial : CStr) (nvs : Nvs.Store RelayUnit)
    (gpio : Gpio.State) : Option Board :=
  match loadUnits env newDeviceId newDeviceSerial (Board.reset nvs gpio) with
  | none => none
  | some b => some (relayAllSensorsRegisterIsr env b)

end Boot
