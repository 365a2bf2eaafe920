import RelayBoard.Lifetime.Recovery
import RelayBoard.Web.Reset

/-! # The Other Namespaces

  Settings and units live in the namespace of the application; the credentials of the
  Wi-Fi are stored in another one. Every function on the board reads and writes its own
  namespace only: it commutes with a replacement of all others.
-/

open Boot CString Device LTS Publication Relay Settings UnitData Web

namespace Lifetime

variable {Blob : Type} {other : Nvs.Store RelayUnit} {b : Board} {env : Env}

/-! ### Replacing the Other Namespaces -/

/-- The own namespace of `nvs`, and all others of `other`. -/
def withOthers (other nvs : Nvs.Store Blob) : Nvs.Store Blob :=
  fun ns key => if ns = sNamespace then nvs ns key else other ns key

/-- A board with the other namespaces replaced. -/
def onBoard (other : Nvs.Store RelayUnit) (b : Board) : Board :=
  { b with nvs := withOthers other b.nvs }

@[simp] theorem withOthers_own (other nvs : Nvs.Store Blob) (key : CStr) :
    withOthers other nvs sNamespace key = nvs sNamespace key := if_pos rfl

theorem withOthers_of_ne (other nvs : Nvs.Store Blob) {ns : CStr} (h : ns ≠ sNamespace)
    (key : CStr) : withOthers other nvs ns key = other ns key := if_neg h

theorem withOthers_set (other nvs : Nvs.Store Blob) (key : CStr) (value : Nvs.Value Blob) :
    Nvs.set (withOthers other nvs) sNamespace key value =
      withOthers other (Nvs.set nvs sNamespace key value) := by
  funext ns key'
  by_cases hns : ns = sNamespace
  · subst hns
    rw [withOthers_own, Nvs.set_apply, Nvs.set_apply, withOthers_own]
  · rw [withOthers_of_ne _ _ hns]
    unfold Nvs.set
    rw [if_neg fun h => hns h.1, withOthers_of_ne _ _ hns]

/-- The last replacement is the one that counts. -/
theorem withOthers_withOthers (other other' nvs : Nvs.Store Blob) :
    withOthers other (withOthers other' nvs) = withOthers other nvs := by
  funext ns key
  unfold withOthers
  split <;> rfl

/-- An erased namespace is an empty store with the others alongside. -/
theorem eraseAll_eq (nvs : Nvs.Store Blob) :
    eraseAll nvs sNamespace = withOthers nvs Nvs.empty := by
  funext ns key
  rfl

@[simp] theorem readUint16_withOthers (other nvs : Nvs.Store Blob) (key : CStr) :
    Nvs.readUint16 (withOthers other nvs) sNamespace key = Nvs.readUint16 nvs sNamespace key := by
  unfold Nvs.readUint16
  rw [withOthers_own]

@[simp] theorem readString_withOthers (other nvs : Nvs.Store Blob) (key : CStr) :
    Nvs.readString (withOthers other nvs) sNamespace key = Nvs.readString nvs sNamespace key := by
  unfold Nvs.readString
  rw [withOthers_own]

@[simp] theorem isPresent_withOthers (other nvs : Nvs.Store Blob) (key : CStr)
    (default : Nvs.Value Blob) :
    isPresent (withOthers other nvs) key default = isPresent nvs key default := by
  cases default <;>
    simp only [isPresent, Nvs.readUint16, Nvs.readUint32, Nvs.readString, Nvs.readBlob,
      withOthers_own]

@[simp] theorem uint16OrDefault_withOthers (other nvs : Nvs.Store Blob) (key : CStr)
    (default : Nat) :
    uint16OrDefault (withOthers other nvs) key default = uint16OrDefault nvs key default := by
  unfold uint16OrDefault
  rw [readUint16_withOthers]

/-! ### Settings -/

theorem initParameter_withOthers (nvsWrite : CStr → Bool) (other nvs : Nvs.Store Blob)
    (key : CStr) (default : Nvs.Value Blob) :
    initParameter nvsWrite (withOthers other nvs) key default =
      Prod.map id (withOthers other) (initParameter nvsWrite nvs key default) := by
  unfold initParameter
  rw [isPresent_withOthers, withOthers_set]
  split
  · rfl
  · split <;> rfl

theorem initParameters_withOthers (nvsWrite : CStr → Bool)
    (parameters : List (CStr × Nvs.Value Blob)) (other nvs : Nvs.Store Blob) :
    initParameters nvsWrite parameters (withOthers other nvs) =
      Prod.map id (withOthers other) (initParameters nvsWrite parameters nvs) := by
  induction parameters generalizing nvs with
  | nil => rfl
  | cons parameter parameters ih =>
      obtain ⟨key, default⟩ := parameter
      unfold initParameters
      rw [initParameter_withOthers]
      rcases initParameter nvsWrite nvs key default with ⟨err, nvs'⟩
      cases err with
      | ok => exact ih nvs'
      | _ => rfl

/-! ### One Unit -/

theorem gpioConfig_onBoard (env : Env) (b : Board) (pin : Int) (conf : Gpio.Config) :
    gpioConfig env (onBoard other b) pin conf =
      Prod.map id (onBoard other) (gpioConfig env b pin conf) := by
  unfold gpioConfig
  rw [apply_ite (Prod.map id (onBoard other))]
  rfl

theorem gpioSetLevel_onBoard (env : Env) (b : Board) (pin : Int) (level : Bool) :
    gpioSetLevel env (onBoard other b) pin level =
      Prod.map id (onBoard other) (gpioSetLevel env b pin level) := by
  unfold gpioSetLevel
  rw [apply_ite (Prod.map id (onBoard other))]
  rfl

theorem relayGpioInit_onBoard (env : Env) (b : Board) (relay : RelayUnit) :
    relayGpioInit env (onBoard other b) relay =
      Prod.map id (Prod.map id (onBoard other)) (relayGpioInit env b relay) := by
  unfold relayGpioInit
  rw [gpioConfig_onBoard]
  rcases gpioConfig env b relay.gpioPin (relayIoConf relay) with ⟨err, b₁⟩
  cases err <;> rfl

theorem relaySensorRegisterIsr_onBoard (b : Board) (relay : RelayUnit) :
    relaySensorRegisterIsr (onBoard other b) relay =
      Prod.map id (onBoard other) (relaySensorRegisterIsr b relay) := by
  unfold relaySensorRegisterIsr
  split
  · rfl
  · cases relay.type <;> rfl

theorem saveRelayToNvs_onBoard (env : Env) (b : Board) (key : Option CStr) (relay : RelayUnit) :
    saveRelayToNvs env (onBoard other b) key relay =
      Prod.map id (onBoard other) (saveRelayToNvs env b key relay) := by
  unfold saveRelayToNvs nvsWriteRelay
  cases key with
  | none => rfl
  | some key =>
      dsimp only [onBoard]
      rw [withOthers_set]
      split <;> rfl

@[simp] theorem nvsReadRelay_onBoard (b : Board) (key : Option CStr) :
    nvsReadRelay (onBoard other b) key = nvsReadRelay b key := by
  cases key with
  | none => rfl
  | some key =>
      show Nvs.readBlob (withOthers other b.nvs) sNamespace key = Nvs.readBlob b.nvs sNamespace key
      unfold Nvs.readBlob
      rw [withOthers_own]

@[simp] theorem loadRelayActuatorFromNvs_onBoard (b : Board) (key : Option CStr) :
    loadRelayActuatorFromNvs (onBoard other b) key = loadRelayActuatorFromNvs b key := by
  unfold loadRelayActuatorFromNvs
  rw [nvsReadRelay_onBoard]

theorem loadRelaySensorFromNvs_onBoard (env : Env) (b : Board) (key : Option CStr) :
    loadRelaySensorFromNvs env (onBoard other b) key =
      Prod.map id (onBoard other) (loadRelaySensorFromNvs env b key) := by
  unfold loadRelaySensorFromNvs
  rw [nvsReadRelay_onBoard]
  cases nvsReadRelay b key with
  | error err => rfl
  | ok relay =>
      dsimp only
      rw [relayGpioInit_onBoard]
      rfl

theorem publishUpdate_onBoard (b : Board) (relay : RelayUnit) :
    publishUpdate (onBoard other b) relay = (publishUpdate b relay).map (onBoard other) := by
  unfold publishUpdate
  dsimp only [onBoard]
  rw [readUint16_withOthers]
  cases Nvs.readUint16 b.nvs sNamespace sKeyMqttConnect with
  | error err => rfl
  | ok mode =>
      dsimp only
      rw [apply_ite (Option.map (onBoard other))]
      unfold triggerMqttPublish
      cases getUnitNvsKey relay <;> rfl

theorem setLevelAndPersist_onBoard (env : Env) (b : Board) (relay : RelayUnit)
    (state : RelayState) (gpioInitMade persist : Bool) :
    setLevelAndPersist env (onBoard other b) relay state gpioInitMade persist =
      (setLevelAndPersist env b relay state gpioInitMade persist).map
        (Prod.map id (Prod.map id (onBoard other))) := by
  unfold setLevelAndPersist
  rw [gpioSetLevel_onBoard]
  rcases gpioSetLevel env b relay.gpioPin (xor state.toBool relay.inverted) with ⟨err, b₁⟩
  cases err with
  | ok =>
      dsimp only [Prod.map, id]
      generalize (if gpioInitMade = true then relayGpioDeinit { relay with state := state }
        else { relay with state := state }) = relay'
      rw [publishUpdate_onBoard]
      cases publishUpdate b₁ relay' with
      | none => rfl
      | some b₂ =>
          dsimp only [Option.map_some]
          cases persist with
          | false => rfl
          | true =>
              cases getRelayNvsKey relay'.channel with
              | none => rfl
              | some key =>
                  dsimp only
                  rw [saveRelayToNvs_onBoard]
                  rcases saveRelayToNvs env b₂ (some key) relay' with ⟨err, b₃⟩
                  cases err <;> rfl
  | _ => rfl

theorem relaySetState_onBoard (env : Env) (b : Board) (relay : RelayUnit) (state : RelayState)
    (persist : Bool) :
    relaySetState env (onBoard other b) relay state persist =
      (relaySetState env b relay state persist).map
        (Prod.map id (Prod.map id (onBoard other))) := by
  unfold relaySetState
  cases relay.type with
  | sensor => rfl
  | actuator =>
      dsimp only
      split
      · exact setLevelAndPersist_onBoard env b relay state false persist
      · rw [relayGpioInit_onBoard]
        rcases relayGpioInit env b relay with ⟨err, relay₁, b₁⟩
        cases err with
        | ok => exact setLevelAndPersist_onBoard env b₁ relay₁ state true persist
        | _ => rfl

/-! ### Lists of Units -/

theorem loadSensors_onBoard (env : Env) (b : Board) (channels : List Nat) :
    loadSensors env (onBoard other b) channels =
      Prod.map id (onBoard other) (loadSensors env b channels) := by
  induction channels generalizing b with
  | nil => rfl
  | cons channel channels ih =>
      unfold loadSensors
      rw [loadRelaySensorFromNvs_onBoard]
      rcases loadRelaySensorFromNvs env b (getContactSensorNvsKey channel) with ⟨load, b₁⟩
      dsimp only [Prod.map, id]
      rw [ih b₁]
      rfl

@[simp] theorem getRelayList_onBoard (b : Board) :
    getRelayList (onBoard other b) = getRelayList b := by
  have hloads : loadActuators (onBoard other b) = loadActuators b := by
    funext channels
    unfold loadActuators
    simp only [loadRelayActuatorFromNvs_onBoard]
  have hread : Nvs.readUint16 (onBoard other b).nvs sNamespace sKeyChannelCount =
      Nvs.readUint16 b.nvs sNamespace sKeyChannelCount := readUint16_withOthers _ _ _
  unfold getRelayList
  rw [hloads, hread]
  rfl

theorem getContactSensorList_onBoard (env : Env) (b : Board) :
    getContactSensorList env (onBoard other b) =
      (getContactSensorList env b).map (Prod.map id (onBoard other)) := by
  have hread : Nvs.readUint16 (onBoard other b).nvs sNamespace sKeyContactSensorsCount =
      Nvs.readUint16 b.nvs sNamespace sKeyContactSensorsCount := readUint16_withOthers _ _ _
  unfold getContactSensorList
  rw [hread, apply_ite (Option.map (Prod.map id (onBoard other)))]
  cases Nvs.readUint16 b.nvs sNamespace sKeyContactSensorsCount with
  | error err => rfl
  | ok count =>
      dsimp only
      rw [loadSensors_onBoard]
      rfl

theorem getAllRelayUnits_onBoard (env : Env) (b : Board) :
    getAllRelayUnits env (onBoard other b) =
      (getAllRelayUnits env b).map (Prod.map id (onBoard other)) := by
  unfold getAllRelayUnits
  rw [getRelayList_onBoard, getContactSensorList_onBoard,
    apply_ite (Option.map (Prod.map id (onBoard other)))]
  cases getRelayList b with
  | none => rfl
  | some actuators => cases getContactSensorList env b <;> rfl

theorem isGpioPinInUse_onBoard (env : Env) (b : Board) (pin : Int) :
    isGpioPinInUse env (onBoard other b) pin =
      (isGpioPinInUse env b pin).map (Prod.map id (onBoard other)) := by
  unfold isGpioPinInUse
  rw [getAllRelayUnits_onBoard]
  cases getAllRelayUnits env b with
  | none => rfl
  | some result =>
      dsimp only [Option.map_some]
      rw [apply_ite (Option.map (Prod.map id (onBoard other)))]
      rfl

theorem getNextAvailableSafeGpioPin_onBoard (env : Env) (b : Board) :
    getNextAvailableSafeGpioPin env (onBoard other b) =
      (getNextAvailableSafeGpioPin env b).map (Prod.map id (onBoard other)) := by
  unfold getNextAvailableSafeGpioPin
  generalize safeGpioPins = pins
  induction pins generalizing b with
  | nil => rfl
  | cons pin pins ih =>
      unfold findFreePin
      rw [isGpioPinInUse_onBoard]
      rcases isGpioPinInUse env b pin with _ | ⟨_ | _, b₁⟩
      · rfl
      · rfl
      · exact ih b₁

theorem initRelayUnitsInMemory_onBoard (env : Env) (b : Board) :
    initRelayUnitsInMemory env (onBoard other b) =
      (initRelayUnitsInMemory env b).map (Prod.map id (onBoard other)) := by
  unfold initRelayUnitsInMemory
  rw [getAllRelayUnits_onBoard]
  cases getAllRelayUnits env b <;> rfl

/-! ### The Boot -/

theorem setBootState_onBoard (env : Env) (b : Board) (relay : RelayUnit) :
    setBootState env (onBoard other b) relay =
      (setBootState env b relay).map (Prod.map id (onBoard other)) := by
  unfold setBootState
  rw [relaySetState_onBoard]
  cases relaySetState env b relay relay.state false <;> rfl

theorem initActuator_onBoard (env : Env) (b : Board) (channel : Nat) :
    initActuator env (onBoard other b) channel =
      (initActuator env b channel).map (Prod.map id (onBoard other)) := by
  unfold initActuator
  cases getRelayNvsKey channel with
  | none => rfl
  | some key =>
      dsimp only
      rw [loadRelayActuatorFromNvs_onBoard]
      cases loadRelayActuatorFromNvs b (some key) with
      | ok relay => exact setBootState_onBoard env b relay
      | error err =>
          dsimp only
          rw [getNextAvailableSafeGpioPin_onBoard]
          rcases getNextAvailableSafeGpioPin env b with _ | ⟨pin, b₁⟩
          · rfl
          · dsimp only [Option.map_some, Prod.map, id]
            rw [saveRelayToNvs_onBoard]
            rcases saveRelayToNvs env b₁ (some key) (getActuatorRelay channel pin) with ⟨err, b₂⟩
            by_cases hpin : pin < 0
            · rw [if_pos hpin, if_pos hpin]
              rfl
            · rw [if_neg hpin, if_neg hpin]
              cases err with
              | ok => exact setBootState_onBoard env b₂ _
              | _ => rfl

theorem initSensor_onBoard (env : Env) (b : Board) (channel : Nat) :
    initSensor env (onBoard other b) channel =
      (initSensor env b channel).map (Prod.map id (onBoard other)) := by
  unfold initSensor
  cases getContactSensorNvsKey channel with
  | none => rfl
  | some key =>
      dsimp only
      rw [loadRelaySensorFromNvs_onBoard]
      rcases loadRelaySensorFromNvs env b (some key) with ⟨_ | _, b₁⟩
      · dsimp only [Prod.map, id]
        rw [getNextAvailableSafeGpioPin_onBoard]
        rcases getNextAvailableSafeGpioPin env b₁ with _ | ⟨pin, b₂⟩
        · rfl
        · dsimp only [Option.map_some, Prod.map, id]
          unfold getSensorRelay
          rw [relayGpioInit_onBoard]
          rcases relayGpioInit env b₂ (freshSensor channel pin) with ⟨_, relay, b₃⟩
          dsimp only [Prod.map, id]
          rw [saveRelayToNvs_onBoard]
          rcases saveRelayToNvs env b₃ (some key) relay with ⟨err, b₄⟩
          by_cases hpin : pin < 0
          · rw [if_pos hpin, if_pos hpin]
            rfl
          · rw [if_neg hpin, if_neg hpin]
            cases err <;> rfl
      · rfl

theorem forChannels_onBoard {body : Board → Nat → Option (EspErr × Board)}
    (hbody : ∀ b channel, body (onBoard other b) channel =
      (body b channel).map (Prod.map id (onBoard other)))
    (channels : List Nat) (b : Board) :
    forChannels body channels (onBoard other b) =
      (forChannels body channels b).map (Prod.map id (onBoard other)) := by
  induction channels generalizing b with
  | nil => rfl
  | cons channel channels ih =>
      unfold forChannels
      rw [hbody]
      rcases body b channel with _ | ⟨err, b₁⟩
      · rfl
      · cases err with
        | ok => exact ih b₁
        | _ => rfl

theorem settingsInit_onBoard (env : Env) (newDeviceId newDeviceSerial : CStr) (b : Board) :
    settingsInit env newDeviceId newDeviceSerial (onBoard other b) =
      (settingsInit env newDeviceId newDeviceSerial b).map (Prod.map id (onBoard other)) := by
  have hdevice : ∀ b, deviceSettingsInit env (onBoard other b) =
      (deviceSettingsInit env b).map (Prod.map id (onBoard other)) := by
    intro b
    unfold deviceSettingsInit
    rw [show (onBoard other b).nvs = withOthers other b.nvs from rfl,
      uint16OrDefault_withOthers, uint16OrDefault_withOthers, initParameters_withOthers]
    dsimp only
    rcases initParameters env.nvsWrite deviceParameters b.nvs with ⟨err, nvs⟩
    cases err with
    | ok =>
        dsimp only [Prod.map, id]
        have hactuator : ∀ b channel, initActuator env (onBoard other b) channel =
            (initActuator env b channel).map (Prod.map id (onBoard other)) :=
          initActuator_onBoard env
        have hloop := forChannels_onBoard hactuator
          (List.range (uint16OrDefault b.nvs sKeyChannelCount sDefaultChannelCount))
          { b with nvs := nvs }
        rw [show onBoard other { b with nvs := nvs } =
          { onBoard other b with nvs := withOthers other nvs } from rfl] at hloop
        rw [hloop]
        rcases forChannels (initActuator env)
          (List.range (uint16OrDefault b.nvs sKeyChannelCount sDefaultChannelCount))
          { b with nvs := nvs } with _ | ⟨err, b₁⟩
        · rfl
        · cases err with
          | ok => exact forChannels_onBoard (initSensor_onBoard env) _ b₁
          | _ => rfl
    | _ => rfl
  unfold settingsInit baseSettingsInit
  rw [show (onBoard other b).nvs = withOthers other b.nvs from rfl, initParameters_withOthers]
  rcases initParameters env.nvsWrite (baseParameters newDeviceId newDeviceSerial) b.nvs
    with ⟨err, nvs⟩
  cases err with
  | ok =>
      dsimp only [Prod.map, id]
      have hnext := hdevice { b with nvs := nvs }
      rw [show onBoard other { b with nvs := nvs } =
        { onBoard other b with nvs := withOthers other nvs } from rfl] at hnext
      rw [hnext]
      rcases deviceSettingsInit env { b with nvs := nvs } with _ | ⟨err, b₁⟩
      · rfl
      · cases err <;> rfl
  | _ => rfl

theorem sensorStateRefresh_onBoard (env : Env) (b : Board) (relay : RelayUnit) :
    sensorStateRefresh env (onBoard other b) relay =
      Prod.map id (onBoard other) (sensorStateRefresh env b relay) := by
  unfold sensorStateRefresh
  dsimp only
  rw [saveRelayToNvs_onBoard]
  rfl

theorem registerSensors_onBoard (env : Env) (count i : Nat) (b : Board) :
    registerSensors env count i (onBoard other b) =
      onBoard other (registerSensors env count i b) := by
  induction count generalizing i b with
  | zero => rfl
  | succ count ih =>
      unfold registerSensors
      rw [show (onBoard other b).sUnits = b.sUnits from rfl]
      cases b.sUnits[i]? with
      | none => rfl
      | some relay =>
          dsimp only
          rw [relaySensorRegisterIsr_onBoard]
          rcases relaySensorRegisterIsr b relay with ⟨err, b₁⟩
          cases err with
          | ok =>
              dsimp only [Prod.map, id]
              rw [sensorStateRefresh_onBoard]
              exact ih (i + 1) ((sensorStateRefresh env b₁ relay).2.setUnit i
                (sensorStateRefresh env b₁ relay).1)
          | _ => exact ih (i + 1) b₁

end Lifetime
