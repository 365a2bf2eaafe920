import RelayBoard.Lifetime.OtherNamespaces

/-! # As New

  After `reset_device_settings` a device is a new one. The whole life of a device commutes
  with a replacement of the other namespaces, so what it can do after its own namespace has
  been erased is what a device can do from its first boot on.
-/

open Boot CString Device LTS Publication Relay Settings UnitData Web

namespace Lifetime

variable {other : Nvs.Store RelayUnit} {b : Board} {env : Env} {print : Print}

/-! ### Parts of Steps -/

theorem applyState_onBoard (env : Env) (b : Board) (relay : RelayUnit) (state : RelayState) :
    applyState env (onBoard other b) relay state =
      Prod.map id (Prod.map id (onBoard other)) (applyState env b relay state) := by
  have hlevel : ∀ (b : Board) (relay : RelayUnit) (gpioInitMade : Bool),
      applyLevel env (onBoard other b) relay state gpioInitMade =
        Prod.map id (Prod.map id (onBoard other)) (applyLevel env b relay state gpioInitMade) := by
    intro b relay gpioInitMade
    unfold applyLevel
    rw [gpioSetLevel_onBoard]
    rcases gpioSetLevel env b relay.gpioPin (xor state.toBool relay.inverted) with ⟨err, b₁⟩
    cases err <;> rfl
  unfold applyState
  cases relay.type with
  | sensor => rfl
  | actuator =>
      dsimp only
      split
      · exact hlevel b relay false
      · rw [relayGpioInit_onBoard]
        rcases relayGpioInit env b relay with ⟨err, relay₁, b₁⟩
        cases err with
        | ok => exact hlevel b₁ relay₁ true
        | _ => rfl

theorem executeCommand_onBoard (env : Env) (b : Board) (event : MqttCommandEvent) :
    executeCommand env (onBoard other b) event =
      (executeCommand env b event).map (Prod.map id (onBoard other)) := by
  have hlookup : getRelayActuatorFromMemoryByKey (onBoard other b) event.relayKey =
      getRelayActuatorFromMemoryByKey b event.relayKey := rfl
  unfold executeCommand
  rw [hlookup, show (onBoard other b).sUnits = b.sUnits from rfl]
  rcases getRelayTypeFromKey event.relayKey with _ | _ | _
  · rfl
  · dsimp only
    cases getRelayActuatorFromMemoryByKey b event.relayKey with
    | error err => rfl
    | ok i =>
        dsimp only
        cases b.sUnits[i]? with
        | none => rfl
        | some relay =>
            dsimp only
            rw [applyState_onBoard]
            rcases applyState env b relay event.state with ⟨err, relay₁, b₁⟩
            cases err <;> rfl
  · rfl

theorem changeContact_onBoard (env : Env) (b : Board) (evt : GpioEvent) :
    changeContact env (onBoard other b) evt =
      (changeContact env b evt).map (Prod.map id (onBoard other)) := by
  have hnull : ∀ b, sensorListIsNull (onBoard other b) = sensorListIsNull b := by
    intro b
    unfold sensorListIsNull
    rw [show (onBoard other b).nvs = withOthers other b.nvs from rfl, readUint16_withOthers]
    rfl
  unfold changeContact
  rw [getContactSensorList_onBoard, apply_ite (Option.map (Prod.map id (onBoard other)))]
  rcases getContactSensorList env b with _ | ⟨sensors, b₁⟩
  · rfl
  · dsimp only [Option.map_some, Prod.map, id]
    rw [hnull]
    cases sensorListIsNull b₁ with
    | true => rfl
    | false =>
        cases sensors.findIdx? (fun relay => relay.gpioPin = evt.gpioNum) with
        | none => rfl
        | some k =>
            dsimp only
            cases sensors[k]? <;> rfl

theorem resolveUpdate_onBoard (b : Board) (req : Request) :
    resolveUpdate (onBoard other b) req = resolveUpdate b req := by
  have hparse : parseUpdate (onBoard other b) req = parseUpdate b req := by
    unfold parseUpdate validateDeviceIdentityFromJson
    rw [show (onBoard other b).nvs = withOthers other b.nvs from rfl]
    simp only [readString_withOthers]
  unfold resolveUpdate
  rw [hparse]
  rfl

/-- A request is accepted or not whatever the other namespaces hold. -/
theorem acceptUpdate_onBoard (env : Env) (b : Board) (req : Request) :
    acceptUpdate env (onBoard other b) req = acceptUpdate env b req := by
  unfold acceptUpdate
  rw [resolveUpdate_onBoard]
  rcases resolveUpdate b req with _ | ⟨u, i, relay⟩
  · rfl
  · dsimp only
    cases u.relayGpioPin with
    | none => rfl
    | some gpioPin =>
        dsimp only
        rw [checkGpioPin_eq, checkGpioPin_eq]
        cases isGpioSafe gpioPin <;> rfl

theorem applyUpdate_onBoard (env : Env) (serializes : Bool) (b : Board) (u : UnitUpdate) (i : Nat)
    (relay : RelayUnit) :
    applyUpdate env serializes (onBoard other b) u i relay =
      (applyUpdate env serializes b u i relay).map
        (Prod.map id (Prod.map id (onBoard other))) := by
  have hpersist : ∀ (b : Board) (relay : RelayUnit) (gpioPinOld : Int),
      persistUnit env (onBoard other b) u.relayKey gpioPinOld relay =
        (persistUnit env b u.relayKey gpioPinOld relay).map
          (Prod.map id (Prod.map id (onBoard other))) := by
    intro b relay gpioPinOld
    unfold persistUnit
    cases relay.type with
    | actuator => exact relaySetState_onBoard env b relay relay.state true
    | sensor =>
        dsimp only
        rw [saveRelayToNvs_onBoard]
        rcases saveRelayToNvs env b (some u.relayKey) relay with ⟨err, b₁⟩
        cases err with
        | ok =>
            dsimp only [Prod.map, id]
            rw [relayGpioInit_onBoard, apply_ite (Option.map _)]
            rcases relayGpioInit env b₁ relay with ⟨err, relay₁, b₂⟩
            cases err with
            | ok =>
                dsimp only [Prod.map, id]
                rw [relaySensorRegisterIsr_onBoard]
                rfl
            | _ => rfl
        | _ => rfl
  unfold applyUpdate
  dsimp only
  rw [show (onBoard other b).setUnit i (assignFields relay u) =
    onBoard other (b.setUnit i (assignFields relay u)) from rfl, hpersist]
  rcases persistUnit env (b.setUnit i (assignFields relay u)) u.relayKey relay.gpioPin
    (assignFields relay u) with _ | ⟨err, relay₁, b₁⟩
  · rfl
  · cases err with
    | ok => cases serializes <;> rfl
    | _ => rfl

theorem checkClient_onBoard (b : Board) (hasClient : Bool) (i : Nat) :
    checkClient (onBoard other b) hasClient i = checkClient b hasClient i ∧
      startPublishing (onBoard other b) i = startPublishing b i := by
  have hstart : startPublishing (onBoard other b) i = startPublishing b i := by
    unfold startPublishing
    rw [show (onBoard other b).nvs = withOthers other b.nvs from rfl]
    simp only [readString_withOthers]
    rfl
  refine ⟨?_, hstart⟩
  unfold checkClient
  rw [hstart, show (onBoard other b).nvs = withOthers other b.nvs from rfl,
    readUint16_withOthers]
  rfl

/-! ### The Tasks -/

/-- The tasks over a board with the other namespaces replaced. -/
def onState (other : Nvs.Store RelayUnit) (s : Publication.State) : Publication.State :=
  { s with board := onBoard other s.board }

/-- Whether the queue has room does not depend on NVS. -/
theorem trigger_onBoard {event : RelayEvent} {b' : Board} (h : trigger b event = some b') :
    trigger (onBoard other b) event = some (onBoard other b') := by
  unfold trigger at h ⊢
  split at h
  · next hroom =>
      cases h
      exact if_pos hroom
  · cases h

theorem publishTurn_onBoard {relay : RelayUnit} {subscribe : Bool} {b' : Board}
    (h : publishTurn b relay = some (subscribe, b')) :
    publishTurn (onBoard other b) relay = some (subscribe, onBoard other b') := by
  unfold publishTurn at h ⊢
  split at h
  · cases h
    rfl
  · obtain ⟨b₁, hsend, hpair⟩ := Option.map_eq_some_iff.mp h
    cases hpair
    exact Option.map_eq_some_iff.mpr ⟨_, trigger_onBoard hsend, rfl⟩

theorem deinitSensor_onBoard (b : Board) (i : Nat) :
    deinitSensor (onBoard other b) i = onBoard other (deinitSensor b i) := by
  unfold deinitSensor
  rw [show (onBoard other b).sUnits = b.sUnits from rfl]
  cases b.sUnits[i]? with
  | none => rfl
  | some relay =>
      dsimp only
      rw [apply_ite (onBoard other)]
      rfl

/-- Every step of every task can be taken whatever the other namespaces hold. -/
theorem step_onState {s s' : Publication.State} {l : Publication.Label}
    (h : Publication.step print s l s') :
    Publication.step print (onState other s) l (onState other s') := by
  cases l with
  | connected | ready | refresh =>
      obtain ⟨hpc, rfl⟩ := h
      exact ⟨hpc, rfl⟩
  | lost | levels =>
      obtain rfl := h
      rfl
  | data =>
      obtain ⟨key, hpc, hkey, rfl⟩ := h
      exact ⟨key, hpc, hkey, rfl⟩
  | subscribed | eventDone =>
      obtain ⟨i, hpc, rfl⟩ := h
      refine ⟨i, hpc, ?_⟩
      simp only [onState, deinitSensor_onBoard]
  | handled | refreshed =>
      obtain ⟨i, hpc, hdone, rfl⟩ := h
      exact ⟨i, hpc, hdone, rfl⟩
  | queueCommand =>
      obtain ⟨event, hpc, hroom, rfl⟩ := h
      exact ⟨event, hpc, hroom, rfl⟩
  | receiveCommand =>
      obtain ⟨event, queue, hnone, hidle, hqueue, rfl⟩ := h
      exact ⟨event, queue, hnone, hidle, hqueue, rfl⟩
  | clientTurn =>
      obtain ⟨i, relay, subscribe, b, hpc, hget, hturn, rfl⟩ := h
      exact ⟨i, relay, subscribe, _, hpc, hget, publishTurn_onBoard hturn, rfl⟩
  | refreshTurn =>
      obtain ⟨i, relay, subscribe, b, hpc, hget, hturn, rfl⟩ := h
      exact ⟨i, relay, subscribe, _, hpc, hget, publishTurn_onBoard hturn, rfl⟩
  | command env event =>
      obtain ⟨work, b, hreceived, hidle, hexec, rfl⟩ := h
      have hexec' := (executeCommand_onBoard env s.board event).trans
        (congrArg (Option.map (Prod.map id (onBoard other))) hexec)
      exact ⟨work, _, hreceived, hidle, hexec', rfl⟩
  | contact env evt =>
      obtain ⟨i, b, hidle, hchange, rfl⟩ := h
      have hchange' := (changeContact_onBoard env s.board evt).trans
        (congrArg (Option.map (Prod.map id (onBoard other))) hchange)
      exact ⟨i, _, hidle, hchange', rfl⟩
  | update env req =>
      obtain ⟨u, i, relay, hidle, haccept, htype, rfl⟩ := h
      exact ⟨u, i, relay, hidle, (acceptUpdate_onBoard env s.board req).trans haccept, htype, rfl⟩
  | updateSensor env serializes req =>
      obtain ⟨u, i, relay, err, response, b, hidle, haccept, htype, happly, rfl⟩ := h
      have happly' := (applyUpdate_onBoard env serializes s.board u i relay).trans
        (congrArg (Option.map (Prod.map id (Prod.map id (onBoard other)))) happly)
      exact ⟨u, i, relay, err, response, _, hidle,
        (acceptUpdate_onBoard env s.board req).trans haccept, htype, happly', rfl⟩
  | apply t env =>
      obtain ⟨i, relay, err, relay', b, hwork, hget, happly, rfl⟩ := h
      have happly' := (applyState_onBoard env s.board relay relay.state).trans
        (congrArg (Prod.map id (Prod.map id (onBoard other))) happly)
      exact ⟨i, relay, err, relay', _, hwork, hget, happly', rfl⟩
  | check t =>
      obtain ⟨i, todo, mode, hwork, hmode, rfl⟩ := h
      exact ⟨i, todo, mode, hwork, (readUint16_withOthers _ _ _).trans hmode, rfl⟩
  | send t =>
      obtain ⟨i, todo, relay, event, b, hwork, hget, hevent, hsend, rfl⟩ := h
      exact ⟨i, todo, relay, event, _, hwork, hget, hevent, trigger_onBoard hsend, rfl⟩
  | save t env =>
      obtain ⟨i, todo, relay, key, err, b, hwork, hget, hkey, hsave, hpanic, rfl⟩ := h
      have hsave' := (saveRelayToNvs_onBoard env s.board (some key) relay).trans
        (congrArg (Prod.map id (onBoard other)) hsave)
      exact ⟨i, todo, relay, key, err, _, hwork, hget, hkey, hsave', hpanic, rfl⟩
  | receive =>
      obtain ⟨event, queue, hpc, hqueue, rfl⟩ := h
      exact ⟨event, queue, hpc, hqueue, rfl⟩
  | load =>
      obtain ⟨event, hpc, rfl⟩ := h
      exact ⟨event, hpc, rfl⟩
  | test hasClient =>
      obtain ⟨i, hpc, rfl⟩ := h
      refine ⟨i, hpc, ?_⟩
      simp only [onState, (checkClient_onBoard s.board hasClient i).1]
  | reconnect ok =>
      obtain ⟨i, hpc, rfl⟩ := h
      refine ⟨i, hpc, ?_⟩
      simp only [onState, (checkClient_onBoard s.board ok i).2]
  | read =>
      obtain ⟨i, topic, fields, a, unread, copy, relay, hpc, hget, rfl⟩ := h
      exact ⟨i, topic, fields, a, unread, copy, relay, hpc, hget, rfl⟩
  | publish delivered =>
      obtain ⟨i, topic, f, fields, copy, msg, hpc, hmsg, hclient, rfl⟩ := h
      exact ⟨i, topic, f, fields, copy, msg, hpc, hmsg, hclient, rfl⟩
  | unprinted =>
      obtain ⟨i, topic, f, fields, copy, hpc, hmsg, rfl⟩ := h
      exact ⟨i, topic, f, fields, copy, hpc, hmsg, rfl⟩
  | unitDone =>
      obtain ⟨i, topic, unread, copy, hpc, rfl⟩ := h
      exact ⟨i, topic, unread, copy, hpc, rfl⟩

/-! ### The Whole Life -/

/-- A device with the other namespaces replaced. -/
def onDevice (other : Nvs.Store RelayUnit) : Device → Device
  | .off nvs => .off (withOthers other nvs)
  | .on s => .on (onState other s)

theorem nvs_onDevice (other : Nvs.Store RelayUnit) (d : Device) :
    (onDevice other d).nvs = withOthers other d.nvs := by
  cases d <;> rfl

/-- A step with the contents of NVS that it names. -/
def onLabel (other : Nvs.Store RelayUnit) : Label → Label
  | .erase left => .erase (withOthers other left)
  | .others nvs => .others (withOthers other nvs)
  | l => l

theorem boot_withOthers (env envSensors : Env) (newDeviceId newDeviceSerial : CStr)
    (nvs : Nvs.Store RelayUnit) (gpio : Gpio.State) :
    boot env envSensors newDeviceId newDeviceSerial (withOthers other nvs) gpio =
      (boot env envSensors newDeviceId newDeviceSerial nvs gpio).map (onDevice other) := by
  unfold boot
  rw [show Board.reset (withOthers other nvs) gpio = onBoard other (Board.reset nvs gpio) from rfl,
    settingsInit_onBoard]
  rcases settingsInit env newDeviceId newDeviceSerial (Board.reset nvs gpio) with _ | ⟨err, b⟩
  · rfl
  · cases err with
    | ok =>
        dsimp only [Option.map_some, Prod.map, id]
        rw [initRelayUnitsInMemory_onBoard]
        rcases initRelayUnitsInMemory env b with _ | ⟨err, b₁⟩
        · rfl
        · cases err with
          | ok =>
              dsimp only [Option.map_some, Prod.map, id]
              unfold relayAllSensorsRegisterIsr
              rw [registerSensors_onBoard]
              rfl
          | _ => rfl
    | _ => rfl

/-- A setting is applied or refused whatever the other namespaces hold. -/
theorem applySetting_withOthers (writeOk : Bool) (other nvs : Nvs.Store Blob)
    (key : Option CStr) (val : Option Json) (out : SettingUpdateMsg) :
    applySetting writeOk (withOthers other nvs) key val out =
      Prod.map id (Prod.map id (withOthers other)) (applySetting writeOk nvs key val out) := by
  have hold : ∀ (e : SettingEntry) (key : CStr) (out : SettingUpdateMsg),
      getSettingAsString (withOthers other nvs) e key out = getSettingAsString nvs e key out := by
    intro e key out
    unfold getSettingAsString Nvs.readUint32
    rw [readUint16_withOthers, readString_withOthers, withOthers_own]
  have hwrite : ∀ (e : SettingEntry) (key : CStr) (v : Json),
      writeSettingValue writeOk (withOthers other nvs) e key v =
        Prod.map id (withOthers other) (writeSettingValue writeOk nvs e key v) := by
    intro e key v
    unfold writeSettingValue
    cases settingValue e v with
    | error err => rfl
    | ok value =>
        dsimp only
        rw [withOthers_set]
        cases writeOk <;> rfl
  unfold applySetting
  rcases key with _ | key
  · rfl
  · rcases val with _ | val
    · rfl
    · dsimp only
      cases findSetting key with
      | none => rfl
      | some e =>
          dsimp only
          rw [hold]
          rcases runHandler e val (getSettingAsString nvs e key
            (setResult out .ok "OK".toList)).2 with ⟨err, out'⟩
          cases err with
          | ok =>
              dsimp only
              rw [hwrite]
              rcases writeSettingValue writeOk nvs e key val with ⟨err, nvs'⟩
              cases err <;> rfl
          | _ => rfl

/-- Every step of a device can be taken whatever its other namespaces hold, unless the
    flash is erased whole. -/
theorem step_onDevice {d d' : Device} {l : Label} (hkeeps : KeepsFlash d l)
    (h : (lifetime print).step d l d') :
    (lifetime print).step (onDevice other d) (onLabel other l) (onDevice other d') := by
  cases l with
  | boot env envSensors newDeviceId newDeviceSerial gpio =>
      obtain ⟨nvs, rfl, hboot⟩ := h
      refine ⟨_, rfl, ?_⟩
      rw [boot_withOthers, hboot]
      rfl
  | eraseFlash => exact absurd hkeeps id
  | task l =>
      obtain ⟨s, s', rfl, hstep, rfl⟩ := h
      exact ⟨_, _, rfl, step_onState hstep, rfl⟩
  | setting writeOk key val out =>
      obtain ⟨s, err, out', nvs, rfl, happly, rfl⟩ := h
      have happly' := applySetting_withOthers writeOk other s.board.nvs key val out
      rw [happly] at happly'
      exact ⟨_, err, out', _, rfl, happly', rfl⟩
  | submit text write =>
      obtain ⟨s, rfl, hwrite, rfl⟩ := h
      refine ⟨_, rfl, hwrite, ?_⟩
      show onDevice other (.on _) = .on (withNvs (onState other s) _)
      rw [show (onState other s).board.nvs = withOthers other s.board.nvs from rfl, withOthers_set]
      rfl
  | memguard mode =>
      obtain ⟨s, rfl, rfl⟩ := h
      refine ⟨_, rfl, ?_⟩
      show onDevice other (.on _) = .on (withNvs (onState other s) _)
      rw [show (onState other s).board.nvs = withOthers other s.board.nvs from rfl, withOthers_set]
      rfl
  | erase left =>
      obtain ⟨s, rfl, hless, rfl⟩ := h
      refine ⟨_, rfl, fun ns key value hget => ?_, rfl⟩
      show withOthers other s.board.nvs ns key = some value
      by_cases hns : ns = sNamespace
      · subst hns
        rw [withOthers_own] at hget ⊢
        exact hless _ _ _ hget
      · rw [withOthers_of_ne _ _ hns] at hget ⊢
        exact hget
  | others nvs =>
      obtain ⟨s, rfl, hother, rfl⟩ := h
      refine ⟨_, rfl, fun key hkey => ?_, rfl⟩
      show withOthers other nvs sNamespace key = withOthers other s.board.nvs sNamespace key
      rw [withOthers_own, withOthers_own]
      exact hother key hkey
  | powerLoss =>
      obtain rfl := h
      show onDevice other (.off d.nvs) = .off (onDevice other d).nvs
      rw [nvs_onDevice]
      rfl

/-- So can every run. -/
theorem run_onDevice {d₀ d : Device} {ls : List Label}
    (hkeeps : ∀ l ∈ ls, l ≠ .eraseFlash) (h : Run (lifetime print) d₀ ls d) :
    Run (lifetime print) (onDevice other d₀) (ls.map (onLabel other)) (onDevice other d) := by
  induction h with
  | nil => exact .nil
  | @snoc ls s s' l _ hstep ih =>
      have hlast : KeepsFlash s l := by
        have hne := hkeeps l (List.mem_append_right _ (List.mem_singleton_self l))
        cases l with
        | eraseFlash => exact absurd rfl hne
        | _ => trivial
      rw [List.map_append]
      exact .snoc (ih fun l hmem => hkeeps l (List.mem_append_left _ hmem))
        (step_onDevice hlast hstep)

/-- **As new**: once `reset_device_settings` has succeeded and the device is off, it can do
    what a device can from its first boot on, and nothing else, whatever was stored. -/
theorem run_reset_iff_new (e : Erasure RelayUnit) (nvs : Nvs.Store RelayUnit) (he : e.ret = .ok)
    {ls : List Label} (hkeeps : ∀ l ∈ ls, l ≠ .eraseFlash) :
    (∀ d, Run (lifetime print) (.off Nvs.empty) ls d →
      Run (lifetime print) (.off (resetDeviceSettings e nvs).2) (ls.map (onLabel nvs))
        (onDevice nvs d)) ∧
    (∀ d, Run (lifetime print) (.off (resetDeviceSettings e nvs).2) ls d →
      Run (lifetime print) (.off Nvs.empty) (ls.map (onLabel Nvs.empty))
        (onDevice Nvs.empty d)) := by
  have hreset : (resetDeviceSettings e nvs).2 = withOthers nvs Nvs.empty := by
    unfold resetDeviceSettings Erasure.store
    rw [he]
    dsimp only
    rw [if_pos rfl]
    exact eraseAll_eq nvs
  have hempty : withOthers Nvs.empty (withOthers nvs Nvs.empty) = Nvs.empty := by
    rw [withOthers_withOthers]
    funext ns key
    exact ite_self _
  rw [hreset]
  refine ⟨fun d h => run_onDevice hkeeps h, fun d h => ?_⟩
  have hrun : Run (lifetime print) (onDevice Nvs.empty (.off (withOthers nvs Nvs.empty)))
      (ls.map (onLabel Nvs.empty)) (onDevice Nvs.empty d) := run_onDevice hkeeps h
  rw [show onDevice Nvs.empty (.off (withOthers nvs Nvs.empty)) =
    .off (withOthers Nvs.empty (withOthers nvs Nvs.empty)) from rfl, hempty] at hrun
  exact hrun

/-- A device that had 99 channels has two after a reset, and its network. -/
theorem run_reset_iff_new_boot :
    ∃ d, Run (lifetime fun _ => none)
        (.off (resetDeviceSettings ⟨.ok, Nvs.empty⟩ (Nvs.set (Nvs.set Nvs.empty wifiNamespace
          "sta.ssid".toList (.str "home".toList)) sNamespace sKeyChannelCount (.u16 99))).2)
        [.boot Env.ok Env.ok "DC".toList "S".toList Gpio.State.initial] d ∧
      countsOf d.nvs .actuator = 2 ∧
      d.nvs wifiNamespace "sta.ssid".toList = some (.str "home".toList) := by
  have hboot : (boot Env.ok Env.ok "DC".toList "S".toList Nvs.empty Gpio.State.initial).any
      (fun d => decide (countsOf d.nvs .actuator = 2)) = true := by
    decide +kernel
  obtain ⟨d, hboot, hcount⟩ := (Option.any_eq_true _ _).mp hboot
  have hoff : Run (lifetime fun _ => none) (.off Nvs.empty) [] (.off Nvs.empty) := .nil
  have hnew : Run (lifetime fun _ => none) (.off Nvs.empty)
      [.boot Env.ok Env.ok "DC".toList "S".toList Gpio.State.initial] d :=
    hoff.snoc ⟨_, rfl, hboot⟩
  have hrun := (run_reset_iff_new ⟨.ok, Nvs.empty⟩ (Nvs.set (Nvs.set Nvs.empty wifiNamespace
    "sta.ssid".toList (.str "home".toList)) sNamespace sKeyChannelCount (.u16 99)) rfl
    (by simp)).1 d hnew
  refine ⟨_, hrun, ?_, ?_⟩
  · rw [nvs_onDevice]
    exact (uint16OrDefault_withOthers _ _ _ _).trans (of_decide_eq_true hcount)
  · have hne : wifiNamespace ≠ sNamespace := by decide
    rw [nvs_onDevice, withOthers_of_ne _ _ hne]
    decide

end Lifetime
