import RelayBoard.Platform.Gpio
import RelayBoard.Settings.Keys

/-! # Relay Units

  `main/relay.h`: the unit record, the safe pins, and the NVS keys.
-/

open CString Settings

namespace Relay

/-! ### Types -/

/-- `relay_state_t`. -/
inductive RelayState where
  | off
  | on
  deriving DecidableEq, Repr

/-- `relay_type_t`. -/
inductive RelayType where
  | actuator
  | sensor
  deriving DecidableEq, Repr

/-- `relay_unit_t`. -/
structure RelayUnit where
  channel : Int
  state : RelayState
  inverted : Bool
  gpioPin : Int
  enabled : Bool
  type : RelayType
  gpioInitialized : Bool
  ioConf : Gpio.Config
  deriving DecidableEq, Repr

/-- A unit of zero bytes, as `calloc` leaves it. -/
def RelayUnit.zero : RelayUnit :=
  ⟨0, .off, false, 0, false, .actuator, false, Gpio.Config.zero⟩

/-- The level a state stands for. -/
def RelayState.toBool : RelayState → Bool
  | .off => false
  | .on => true

/-- The state a level stands for. -/
def RelayState.ofBool (b : Bool) : RelayState := if b then .on else .off

@[simp] theorem RelayState.toBool_ofBool (b : Bool) : (RelayState.ofBool b).toBool = b := by
  cases b <;> rfl

/-! ### Safe Pins -/

/-- `SAFE_GPIO_PINS`. -/
def safeGpioPins : List Int :=
  [4, 5, 6, 7, 12, 13, 14, 15, 16, 17, 18, 19, 20, 21, 26, 27, 28, 29, 30, 31, 32, 33, 34,
    35, 36, 39]

/-- `is_gpio_safe`. -/
def isGpioSafe (gpioPin : Int) : Bool := safeGpioPins.any (fun p => p == gpioPin)

theorem isGpioSafe_iff {pin : Int} : isGpioSafe pin = true ↔ pin ∈ safeGpioPins := by
  simp [isGpioSafe]

theorem safeGpioPins_nodup : safeGpioPins.Nodup := by decide

theorem safeGpioPin_bounds {pin : Int} (h : pin ∈ safeGpioPins) : 0 ≤ pin ∧ pin < 64 := by
  revert pin
  decide

/-! ### Keys -/

/-- `get_relay_nvs_key`; `none` is `NULL`. -/
def getRelayNvsKey (channel : Int) : Option CStr :=
  if channel < channelCountMin ∨ channel > channelCountMax then none
  else some (sKeyChPrefix ++ decimal channel)

/-- `get_contact_sensor_nvs_key`. -/
def getContactSensorNvsKey (channel : Int) : Option CStr :=
  if channel < contactSensorsCountMin ∨ channel > contactSensorsCountMax then none
  else some (sKeySnPrefix ++ decimal channel)

/-- `get_unit_nvs_key`. -/
def getUnitNvsKey (relay : RelayUnit) : Option CStr :=
  match relay.type with
  | .sensor => getContactSensorNvsKey relay.channel
  | .actuator => getRelayNvsKey relay.channel

/-- `get_relay_type_from_key`; `none` is the value -1. -/
def getRelayTypeFromKey (relayKey : CStr) : Option RelayType :=
  if relayKey.take sKeyChPrefix.length = sKeyChPrefix then some .actuator
  else if relayKey.take sKeySnPrefix.length = sKeySnPrefix then some .sensor
  else none

theorem getRelayNvsKey_natCast (n : Nat) :
    getRelayNvsKey n = if n ≤ 15 then some (chKey n) else none := by
  unfold getRelayNvsKey chKey channelCountMin channelCountMax
  by_cases h : n ≤ 15
  · rw [if_neg (by omega), if_pos h]
  · rw [if_pos (by omega), if_neg h]

theorem getContactSensorNvsKey_natCast (n : Nat) :
    getContactSensorNvsKey n = if n ≤ 8 then some (snKey n) else none := by
  unfold getContactSensorNvsKey snKey contactSensorsCountMin contactSensorsCountMax
  by_cases h : n ≤ 8
  · rw [if_neg (by omega), if_pos h]
  · rw [if_pos (by omega), if_neg h]

/-- A channel with an actuator key is one of 0..15. -/
theorem exists_of_getRelayNvsKey {channel : Int} {key : CStr}
    (h : getRelayNvsKey channel = some key) :
    ∃ n : Nat, channel = n ∧ n ≤ 15 ∧ key = chKey n := by
  unfold getRelayNvsKey channelCountMin channelCountMax at h
  split at h
  · cases h
  · obtain ⟨n, rfl⟩ := Int.eq_ofNat_of_zero_le (a := channel) (by omega)
    exact ⟨n, rfl, by omega, (Option.some.inj h).symm⟩

/-- A channel with a sensor key is one of 0..8. -/
theorem exists_of_getContactSensorNvsKey {channel : Int} {key : CStr}
    (h : getContactSensorNvsKey channel = some key) :
    ∃ n : Nat, channel = n ∧ n ≤ 8 ∧ key = snKey n := by
  unfold getContactSensorNvsKey contactSensorsCountMin contactSensorsCountMax at h
  split at h
  · cases h
  · obtain ⟨n, rfl⟩ := Int.eq_ofNat_of_zero_le (a := channel) (by omega)
    exact ⟨n, rfl, by omega, (Option.some.inj h).symm⟩

end Relay
