import RelayBoard.Boot.Completeness
import RelayBoard.Device.Operations

/-! # Coherence of the Units

  The table, the records in NVS and the pins agree after every operation of
  a booted device, as long as no two units share a pin and all calls succeed.
  A power loss at any point between operations is survived: the next boot
  finds the same units and drives the same levels.
-/

open Boot CString Device LTS Relay Settings Web

namespace Coherence

/-! ### System -/

/-- What happens to a booted device. Every call into NVS, the driver and the allocator
    succeeds. -/
inductive Label where
  /-- `update_relay_post_handler` completes. -/
  | update (req : Request) (err : EspErr) (response : Response)
  /-- `mqtt_subscribe_relays_task` completes an event. -/
  | command (event : MqttCommandEvent)
  /-- `gpio_event_task` completes an event. -/
  | contact (evt : GpioEvent)
  /-- `mqtt_event_task` completes an event. -/
  | publish
  /-- The outside changes the levels it applies to the pins. -/
  | levels (level : Int → Bool)
  /-- The MQTT client connects or disconnects. -/
  | mqtt (connected ready : Bool)
  /-- Power is lost and comes back. -/
  | powerLoss (newDeviceId newDeviceSerial : CStr) (gpio : Gpio.State)

/-- A device that has booted after any history. Pins stay distinct. -/
def unitSystem : System Board Label where
  init := fun b => ∃ b₀ newDeviceId newDeviceSerial gpio,
    Reachable Completeness.deviceSystem b₀ ∧
    appMain Env.ok newDeviceId newDeviceSerial b₀.nvs gpio = some b ∧ PinsDistinct b
  step := fun b l b' =>
    (match l with
    | .update req err response =>
        updateRelayPostHandler Env.ok true b req = some (err, response, b')
    | .command event => mqttSubscribeRelaysTask Env.ok b event = some b'
    | .contact evt => gpioEventTask Env.ok b evt = some b'
    | .publish => b' = mqttEventTask b
    | .levels level => b' = { b with gpio := { b.gpio with level := level } }
    | .mqtt connected ready => b' = { b with mqttConnected := connected, mqttReady := ready }
    | .powerLoss newDeviceId newDeviceSerial gpio =>
        appMain Env.ok newDeviceId newDeviceSerial b.nvs gpio = some b') ∧
    PinsDistinct b'

/-! ### Properties -/

/-- The record under the unit's key is the unit, up to the driver bookkeeping. -/
def Recorded (nvs : Nvs.Store RelayUnit) (relay : RelayUnit) : Prop :=
  ∃ key record, getUnitNvsKey relay = some key ∧ nvs sNamespace key = some (.blob record) ∧
    SameUnit relay record ∧ record.state = relay.state

/-- Every unit lies in NVS as it is in memory, and every actuator's pin has the level of
    its state. -/
structure Coherent (b : Board) : Prop where
  recorded : ∀ relay ∈ b.sUnits, Recorded b.nvs relay
  driven : ∀ relay ∈ b.sUnits, relay.type = .actuator → Drives b.gpio relay

/-- A table has the units of another one, up to the states of the sensors. -/
structure Restored (b b' : Board) : Prop where
  length : b'.sUnits.length = b.sUnits.length
  same : ∀ (i : Nat) relay relay', b.sUnits[i]? = some relay → b'.sUnits[i]? = some relay' →
    SameUnit relay relay' ∧ (relay.type = .actuator → relay'.state = relay.state)

/-! ### Invariant -/

/-- The table is that of the book in NVS, and its actuators are driven. -/
structure InStep (counts : Counts) (book : Book) (b : Board) : Prop where
  booted : Booted b counts book
  stored : WellStored b.nvs book
  counts_eq : countsOf b.nvs = counts
  safe : book.Safe
  driven : ∀ relay ∈ b.sUnits, relay.type = .actuator → Drives b.gpio relay
  idle : ∀ relay ∈ b.sUnits, relay.type = .actuator → relay.gpioInitialized = false

variable {counts : Counts} {book : Book} {b b' : Board}

theorem InStep.gpioPin_mem (h : InStep counts book b) :
    ∀ relay ∈ b.sUnits, relay.gpioPin ∈ safeGpioPins := by
  intro relay hmem
  obtain ⟨i, hget⟩ := List.getElem?_of_mem hmem
  exact h.booted.safe h.safe hget

/-- A board in step is coherent. -/
theorem InStep.coherent (h : InStep counts book b) : Coherent b := by
  refine ⟨?_, h.driven⟩
  intro relay hmem
  obtain ⟨i, hget⟩ := List.getElem?_of_mem hmem
  obtain ⟨type, c, hc, _, hrecord⟩ := h.booted.unit hget
  -- the unit's key is that of its record
  have hkey := getUnitNvsKey_of_isRecord ((book type).isRecord c _ hrecord)
    (Nat.lt_trans hc (h.booted.counts_lt type))
  exact ⟨_, _, hkey, (stored_iff h.booted.holds).mpr hrecord, ⟨rfl, rfl, rfl, rfl, rfl⟩, rfl⟩

/-! ### Operations -/

/-- An operation that changes one unit keeps the board in step, if no other unit has
    its pin. -/
theorem InStep.applied (h : InStep counts book b) {i : Nat} {relay relay' : RelayUnit}
    (happ : Applied b b' i relay relay') (hdistinct : PinsDistinct b') :
    ∃ book', InStep counts book' b' := by
  have hunits := happ.replaced.units
  obtain ⟨book', hbooted, hstored, hsafe, hcounts⟩ :=
    h.booted.replaced_wellStored h.stored h.safe happ.replaced happ.safe
  have hnew : b'.sUnits[i]? = some relay' := units_replaced_self hunits happ.replaced.found
  refine ⟨book', hbooted, hstored, hcounts.trans h.counts_eq, hsafe, ?_, ?_⟩
  · intro other hmem htype
    obtain ⟨j, hget⟩ := List.getElem?_of_mem hmem
    by_cases hij : j = i
    · subst hij
      rw [hnew] at hget
      cases hget
      exact (happ.driven htype).1
    · -- the other pins are left alone
      have hne := hdistinct.gpioPin_ne hget hnew hij
      rw [units_replaced_ne hunits hij] at hget
      exact (h.driven other (List.mem_of_getElem? hget) htype).keeps (happ.keeps _ hne)
  · intro other hmem htype
    rw [hunits] at hmem
    rcases List.mem_or_eq_of_mem_set hmem with hold | rfl
    · exact h.idle other hold htype
    · exact (happ.driven htype).2

/-- Neither the pins nor the units have changed, but for the driver bookkeeping of
    sensors. -/
structure Unchanged (b b' : Board) : Prop where
  nvs : b'.nvs = b.nvs
  units_in_memory : b'.unitsInMemory = b.unitsInMemory
  relays_count : b'.sRelaysCount = b.sRelaysCount
  sensors_count : b'.sSensorsCount = b.sSensorsCount
  copies : b'.sUnits.map storedCopy = b.sUnits.map storedCopy
  actuators : ∀ relay ∈ b'.sUnits, relay.type = .actuator → relay ∈ b.sUnits
  keeps : ∀ p, Gpio.KeepsPin p b.gpio b'.gpio

theorem InStep.unchanged (h : InStep counts book b) (hsame : Unchanged b b') :
    InStep counts book b' := by
  refine ⟨⟨?_, ?_, h.booted.counts_lt, h.booted.complete, ?_, ?_, ?_⟩, ?_, ?_, h.safe, ?_, ?_⟩
  · rw [hsame.units_in_memory, h.booted.in_memory]
  · rw [hsame.nvs]
    exact h.booted.holds
  · rw [hsame.copies, h.booted.units]
  · rw [hsame.relays_count, h.booted.relays_count]
  · rw [hsame.sensors_count, h.booted.sensors_count]
  · rw [hsame.nvs]
    exact h.stored
  · rw [hsame.nvs, h.counts_eq]
  · intro relay hmem htype
    exact (h.driven relay (hsame.actuators relay hmem htype) htype).keeps (hsame.keeps _)
  · intro relay hmem htype
    exact h.idle relay (hsame.actuators relay hmem htype) htype

/-- Publishing resets at most the bookkeeping of a sensor. -/
theorem mqttEventTask_unchanged (b : Board) : Unchanged b (mqttEventTask b) := by
  obtain ⟨events, heq | ⟨i, relay, hget, htype, heq⟩⟩ := mqttEventTask_cases b
  · rw [heq]
    exact ⟨rfl, rfl, rfl, rfl, rfl, fun _ hmem _ => hmem, fun p => Gpio.KeepsPin.refl p b.gpio⟩
  · -- a sensor's record does not show its bookkeeping
    have hcopy : storedCopy (relayGpioDeinit relay) = storedCopy relay := by
      unfold relayGpioDeinit
      split <;> rfl
    rw [heq]
    refine ⟨rfl, rfl, rfl, rfl, ?_, ?_, fun p => Gpio.KeepsPin.refl p b.gpio⟩
    · show (b.sUnits.set i (relayGpioDeinit relay)).map storedCopy = _
      exact map_set_of_eq storedCopy hget hcopy
    · intro other hmem hact
      rcases List.mem_or_eq_of_mem_set hmem with hold | rfl
      · exact hold
      · rw [(relayGpioDeinit_sameUnit relay).type, htype] at hact
        cases hact

/-! ### Boots -/

/-- A freshly loaded board is in step, if no two units share a pin. -/
theorem InStep.ofLoaded (h : Loaded Env.ok counts book b) (hsafe : book.Safe)
    (hsep : book.Separate counts) : InStep counts book b := by
  refine ⟨h.booted, h.stored, h.counts_eq, hsafe, ?_, h.idle⟩
  intro relay hmem htype
  obtain ⟨i, hget⟩ := List.getElem?_of_mem hmem
  have hbound := safeGpioPin_bounds (h.booted.safe hsafe hget)
  obtain ⟨type, c, hc, _, hrecord⟩ := h.booted.unit hget
  -- an actuator of the table is a record of the first shelf
  have hact : type = .actuator := by
    rw [← ((book type).isRecord c _ hrecord).type_eq]
    exact htype
  subst hact
  exact h.driven rfl hsep c (storedCopy relay) hc hrecord hbound

theorem separate_of_pinsDistinct (h : Booted b counts book) (hdistinct : PinsDistinct b) :
    book.Separate counts := by
  unfold Book.Separate
  rw [← map_gpioPin_eq_activePins h.units]
  exact hdistinct

/-- A boot of a device in step changes the states of sensors only. -/
theorem InStep.boot (h : InStep counts book b) (hdistinct : PinsDistinct b)
    (newDeviceId newDeviceSerial : CStr) (gpio : Gpio.State) :
    ∃ b' book', appMain Env.ok newDeviceId newDeviceSerial b.nvs gpio = some b' ∧
      Refreshed book book' ∧ InStep counts book' b' := by
  obtain ⟨b', book', heq, hrefreshed, hloaded⟩ := appMain_loaded Env.ok (fun _ => rfl)
    newDeviceId newDeviceSerial gpio h.stored
  rw [h.counts_eq] at hrefreshed hloaded
  -- every unit has its record already, so none is created
  rw [Book.provision_eq_self h.booted.complete] at hrefreshed
  -- the pins are still those of the table before
  have hsep : book'.Separate counts := by
    unfold Book.Separate
    rw [hrefreshed.activePins]
    exact separate_of_pinsDistinct h.booted hdistinct
  exact ⟨b', book', heq, hrefreshed, InStep.ofLoaded hloaded (hrefreshed.safe h.safe) hsep⟩

/-- Records that agree up to the state come from units that do. -/
theorem sameUnit_of_stateless {relay relay' : RelayUnit}
    (h : stateless (storedCopy relay') = stateless (storedCopy relay)) :
    SameUnit relay relay' := by
  simp only [stateless, storedCopy, RelayUnit.mk.injEq] at h
  obtain ⟨hchannel, _, hinverted, hpin, henabled, htype, _, _⟩ := h
  exact ⟨hchannel, htype, hinverted, hpin, henabled⟩

/-- Tables of books that differ in the states of sensors only. -/
theorem restored_of_refreshed {book' : Book} (h : Booted b counts book)
    (h' : Booted b' counts book') (hrefreshed : Refreshed book book') : Restored b b' := by
  refine ⟨h'.length.trans h.length.symm, ?_⟩
  intro i relay relay' hget hget'
  obtain ⟨type, c, hc, hi, hrecord⟩ := h.unit hget
  obtain ⟨type', c', hc', hi', hrecord'⟩ := h'.unit hget'
  -- both tables have the unit of one type and channel there
  obtain ⟨rfl, rfl⟩ := tableIndex_inj hc hc' (hi.symm.trans hi')
  match type with
  | .actuator =>
      rw [hrefreshed.actuators, hrecord] at hrecord'
      have hcopy : storedCopy relay' = storedCopy relay := (Option.some.inj hrecord').symm
      have hstate : (storedCopy relay').state = (storedCopy relay).state := by rw [hcopy]
      exact ⟨sameUnit_of_stateless (by rw [hcopy]), fun _ => hstate⟩
  | .sensor =>
      have hmap := congrArg (fun records => records[c]?) hrefreshed.sensors
      rw [List.getElem?_map, List.getElem?_map, hrecord, hrecord'] at hmap
      refine ⟨sameUnit_of_stateless (Option.some.inj hmap), ?_⟩
      intro hact
      have htype : relay.type = .sensor := ((book .sensor).isRecord c _ hrecord).type_eq
      rw [htype] at hact
      cases hact

/-! ### Runs -/

/-- The units are in step and no two share a pin. -/
def Inv (b : Board) : Prop := PinsDistinct b ∧ ∃ counts book, InStep counts book b

theorem inv_init (h : unitSystem.init b) : Inv b := by
  obtain ⟨b₀, newDeviceId, newDeviceSerial, gpio, hreach, hboot, hdistinct⟩ := h
  obtain ⟨book, hstored, hsafe, _⟩ := Completeness.inv_of_reachable hreach
  obtain ⟨b', book', heq, hrefreshed, hloaded⟩ := appMain_loaded Env.ok (fun _ => rfl)
    newDeviceId newDeviceSerial gpio hstored
  rw [hboot] at heq
  cases heq
  -- the boot may have created units, on safe pins
  have hsafe' := hrefreshed.safe ((book.grows_provision hstored.counts_lt).1.safe hsafe)
  exact ⟨hdistinct, _, book', InStep.ofLoaded hloaded hsafe'
    (separate_of_pinsDistinct hloaded.booted hdistinct)⟩

theorem inv_step {l : Label} (hinv : Inv b) (hstep : unitSystem.step b l b') : Inv b' := by
  obtain ⟨hdistinct, counts, book, h⟩ := hinv
  obtain ⟨hstep, hdistinct'⟩ := hstep
  refine ⟨hdistinct', counts, ?_⟩
  -- an operation does nothing or changes one unit
  have hone : (b' = b ∨ ∃ i relay relay', Applied b b' i relay relay') →
      ∃ book', InStep counts book' b' := by
    rintro (rfl | ⟨i, relay, relay', happ⟩)
    · exact ⟨book, h⟩
    · exact h.applied happ hdistinct'
  match l with
  | .update req err response =>
      exact hone (updateRelayPostHandler_applied (fun _ => rfl) rfl h.gpioPin_mem h.idle hstep)
  | .command event =>
      exact hone (mqttSubscribeRelaysTask_applied rfl h.gpioPin_mem h.idle hstep)
  | .contact evt =>
      exact hone (gpioEventTask_applied (fun _ => rfl) h.booted h.gpioPin_mem hstep)
  | .publish =>
      cases hstep
      exact ⟨book, h.unchanged (mqttEventTask_unchanged b)⟩
  | .levels level =>
      cases hstep
      exact ⟨book, h.unchanged ⟨rfl, rfl, rfl, rfl, rfl, fun _ hmem _ => hmem,
        fun _ => ⟨rfl, rfl⟩⟩⟩
  | .mqtt connected ready =>
      cases hstep
      exact ⟨book, h.unchanged ⟨rfl, rfl, rfl, rfl, rfl, fun _ hmem _ => hmem,
        fun _ => ⟨rfl, rfl⟩⟩⟩
  | .powerLoss newDeviceId newDeviceSerial gpio =>
      -- nothing but NVS and the outside levels survives
      obtain ⟨b₁, book', heq, _, h'⟩ := h.boot hdistinct newDeviceId newDeviceSerial gpio
      rw [hstep] at heq
      cases heq
      exact ⟨book', h'⟩

theorem inv_of_reachable (h : Reachable unitSystem b) : Inv b :=
  h.invariant (fun _ hinit => inv_init hinit) (fun _ _ _ hinv hstep => inv_step hinv hstep)

/-! ### Main Theorem -/

/-- After every operation memory, NVS and pins agree, and a power loss loses nothing. -/
theorem coherent_of_reachable (b : Board) (h : Reachable unitSystem b) :
    Coherent b ∧ ∀ newDeviceId newDeviceSerial gpio,
      ∃ b', appMain Env.ok newDeviceId newDeviceSerial b.nvs gpio = some b' ∧
        Restored b b' ∧ Coherent b' := by
  obtain ⟨hdistinct, counts, book, hin⟩ := inv_of_reachable h
  refine ⟨hin.coherent, ?_⟩
  intro newDeviceId newDeviceSerial gpio
  obtain ⟨b', book', heq, hrefreshed, hin'⟩ := hin.boot hdistinct newDeviceId newDeviceSerial gpio
  exact ⟨b', heq, restored_of_refreshed hin.booted hin'.booted hrefreshed, hin'.coherent⟩

/-- A new device boots, and its first actuator is switched on. -/
theorem coherent_of_reachable_command :
    ∃ b, Reachable unitSystem b ∧ b.sUnits.map RelayUnit.state = [.on, .off] ∧ Coherent b := by
  have hrun : (appMain Env.ok "DC".toList "S".toList Nvs.empty Gpio.State.initial).any
      (fun b => decide (PinsDistinct b) &&
        (mqttSubscribeRelaysTask Env.ok b ⟨chKey 0, .on⟩).any fun b' =>
          decide (PinsDistinct b' ∧ b'.sUnits.map RelayUnit.state = [.on, .off])) = true := by
    decide +kernel
  obtain ⟨b, hboot, hcommand⟩ := (Option.any_eq_true _ _).mp hrun
  rw [Bool.and_eq_true, decide_eq_true_eq] at hcommand
  obtain ⟨hdistinct, hcommand⟩ := hcommand
  obtain ⟨b', hstep, hstates⟩ := (Option.any_eq_true _ _).mp hcommand
  rw [decide_eq_true_eq] at hstates
  have hinit : Completeness.deviceSystem.init (Board.reset Nvs.empty Gpio.State.initial) :=
    ⟨_, rfl⟩
  have hbooted : unitSystem.init b :=
    ⟨_, _, _, _, Reachable.init hinit, hboot, hdistinct⟩
  have hreach : Reachable unitSystem b' :=
    (Reachable.init hbooted).step (l := Label.command ⟨chKey 0, .on⟩) ⟨hstep, hstates.1⟩
  exact ⟨b', hreach, hstates.2, (coherent_of_reachable b' hreach).1⟩

end Coherence
