import RelayBoard.Boot.Completeness
import RelayBoard.Boot.SensorInputs
import RelayBoard.Device.Contact
import RelayBoard.Web.SensorUpdate

/-! # Sensor Events

  `gpio_isr_handler` of `main/relay.c`, its queue, and `gpio_event_task` from
  one delay to the next, interleaved with update requests. An event that has
  passed the debounce check finds a sensor on its pin as long as no request
  moves the last sensor off a pin that keeps its interrupt handler.
-/

open Boot CString LTS Relay Settings Web

namespace Device

/-! ### The Interrupt Handler -/

/-- The length of `gpio_evt_queue`. -/
def gpioEvtQueueLength : Nat := 10

/-- The event of a pin: the level is sampled in the handler. -/
def gpioEvent (g : Gpio.State) (pin : Int) : GpioEvent := ⟨pin, Gpio.getLevel g pin⟩

/-- `gpio_isr_handler`: a full queue drops the event. -/
def gpioIsrHandler (g : Gpio.State) (gpioEvtQueue : List GpioEvent) (pin : Int) :
    List GpioEvent :=
  if gpioEvtQueue.length < gpioEvtQueueLength then gpioEvtQueue ++ [gpioEvent g pin]
  else gpioEvtQueue

/-- Does an edge on the pin run the handler? Inputs are configured with the interrupt
    enabled, outputs without. -/
def interrupts (g : Gpio.State) (pin : Int) : Bool := g.isr pin && g.mode pin = .input

/-- The level applied to one pin changes. -/
def flipLevel (b : Board) (pin : Int) : Board :=
  { b with
    gpio := { b.gpio with level := fun p => xor (b.gpio.level p) (decide (p = pin)) } }

@[simp] theorem flipLevel_self (b : Board) (pin : Int) :
    (flipLevel b pin).gpio.level pin = !b.gpio.level pin := by
  simp [flipLevel]

@[simp] theorem flipLevel_ne (b : Board) {pin p : Int} (h : p ≠ pin) :
    (flipLevel b pin).gpio.level p = b.gpio.level p := by
  simp [flipLevel, h]

/-! ### Listening Sensors -/

/-- Every sensor of a loaded table listens to its pin. -/
structure Listening (b : Board) : Prop where
  table : ∃ n m, LoadedTable b n m
  listens : ∀ relay ∈ b.sUnits, relay.type = .sensor → Listens b.gpio relay

variable {b b' : Board} {relay : RelayUnit} {i : Nat}

theorem Listening.getLevel (h : Listening b) (hget : b.sUnits[i]? = some relay)
    (htype : relay.type = .sensor) :
    Gpio.getLevel b.gpio relay.gpioPin = b.gpio.level relay.gpioPin :=
  getLevel_of_input (h.listens relay (List.mem_of_getElem? hget) htype).mode

theorem Listening.flipLevel (h : Listening b) (pin : Int) : Listening (flipLevel b pin) := by
  obtain ⟨n, m, htab⟩ := h.table
  refine ⟨⟨n, m, htab.of_places rfl rfl rfl rfl⟩, ?_⟩
  intro relay hmem htype
  have hlistens := h.listens relay hmem htype
  exact ⟨hlistens.isr, hlistens.mode⟩

/-- A contact that is updated keeps its pin, and the pins are as before. -/
theorem Listening.contact (h : Listening b) {env : Env} {evt : GpioEvent}
    (hcontact : ContactUpdated env b evt i relay b') : Listening b' := by
  obtain ⟨n, m, htab⟩ := h.table
  refine ⟨⟨n, m, htab.set hcontact.found (by rfl) hcontact.units hcontact.units_in_memory
    hcontact.relays_count hcontact.sensors_count⟩, ?_⟩
  intro other hmem htype
  rw [hcontact.gpio]
  rw [hcontact.units] at hmem
  rcases List.mem_or_eq_of_mem_set hmem with hold | rfl
  · exact h.listens other hold htype
  · have hlistens := h.listens relay (List.mem_of_getElem? hcontact.found) htype
    exact ⟨hlistens.isr, hlistens.mode⟩

/-! ### Steps -/

/-- Where `gpio_event_task` is. -/
inductive TaskPc where
  /-- In `xQueueReceive`. -/
  | waiting
  /-- In `vTaskDelay`, with an event to check. -/
  | debouncing (evt : GpioEvent)
  /-- Past the check. -/
  | accepted (evt : GpioEvent)
  deriving DecidableEq, Repr

/-- The board, `gpio_evt_queue` and the task. -/
structure EventState where
  board : Board
  gpioEvtQueue : List GpioEvent
  task : TaskPc

/-- A step of a pin, its handler or the task. -/
inductive EventLabel where
  /-- The level of a pin changes. -/
  | edge (pin : Int)
  /-- The task takes an event out of the queue. -/
  | receive
  /-- The task reads the level again. -/
  | check
  /-- The task updates the contact. -/
  | finish (env : Env)

/-- The level of a pin changes, and its handler runs. -/
def edge (s : EventState) (pin : Int) : EventState :=
  let board := flipLevel s.board pin
  { s with
    board := board
    gpioEvtQueue :=
      if interrupts board.gpio pin then gpioIsrHandler board.gpio s.gpioEvtQueue pin
      else s.gpioEvtQueue }

/-- The debounce check. -/
def debounce (s : EventState) (evt : GpioEvent) : EventState :=
  { s with
    task := if Gpio.getLevel s.board.gpio evt.gpioNum ≠ evt.level then .waiting
      else .accepted evt }

def eventStep (s : EventState) (l : EventLabel) (s' : EventState) : Prop :=
  match l with
  | .edge pin => s' = edge s pin
  | .receive => ∃ evt rest, s.task = .waiting ∧ s.gpioEvtQueue = evt :: rest ∧
      s' = { s with gpioEvtQueue := rest, task := .debouncing evt }
  | .check => ∃ evt, s.task = .debouncing evt ∧ s' = debounce s evt
  | .finish env => ∃ evt b', s.task = .accepted evt ∧
      updateContact env s.board evt = some b' ∧ s' = { s with board := b', task := .waiting }

/-- A step under its label, computed. -/
def perform (s : EventState) (l : EventLabel) : Option EventState :=
  match l, s.task with
  | .edge pin, _ => some (edge s pin)
  | .receive, .waiting =>
      match s.gpioEvtQueue with
      | [] => none
      | evt :: rest => some { s with gpioEvtQueue := rest, task := .debouncing evt }
  | .check, .debouncing evt => some (debounce s evt)
  | .finish env, .accepted evt =>
      (updateContact env s.board evt).map fun b => { s with board := b, task := .waiting }
  | _, _ => none

theorem eventStep_of_perform {s s' : EventState} {l : EventLabel}
    (h : perform s l = some s') : eventStep s l s' := by
  unfold perform at h
  split at h
  · next pin => exact (Option.some.inj h).symm
  · next htask =>
      split at h
      · cases h
      · next evt rest hqueue =>
          exact ⟨evt, rest, htask, hqueue, (Option.some.inj h).symm⟩
  · next evt htask => exact ⟨evt, htask, (Option.some.inj h).symm⟩
  · next env evt htask =>
      obtain ⟨b, hupdate, rfl⟩ := Option.map_eq_some_iff.mp h
      exact ⟨evt, b, htask, hupdate, rfl⟩
  · cases h

/-- Steps one after the other. -/
def performAll (s : EventState) : List EventLabel → Option EventState
  | [] => some s
  | l :: ls => (perform s l).bind fun s' => performAll s' ls

/-- The event the task has taken out of the queue. -/
def TaskPc.inHand : TaskPc → List GpioEvent
  | .waiting => []
  | .debouncing evt => [evt]
  | .accepted evt => [evt]

/-- The events that have not been handled yet. -/
def EventState.events (s : EventState) : List GpioEvent := s.task.inHand ++ s.gpioEvtQueue

/-- The state after a boot: the queue is new, and the task waits. -/
def booted (b : Board) : EventState := ⟨b, [], .waiting⟩

/-! ### A Device With Sensors -/

/-- NVS after a first number of sensors has been set. -/
def sensorsNvs (n : Nat) : Nvs.Store RelayUnit :=
  Nvs.set Nvs.empty sNamespace (countKey .sensor) (.u16 n)

theorem exists_sensorsNvs {n : Nat} (hn : n < channelLimit .sensor) :
    ∃ b₀, Reachable Completeness.deviceSystem b₀ ∧ b₀.nvs = sensorsNvs n := by
  obtain ⟨out', happly⟩ := applySetting_count_ok Nvs.empty hn
  have hinit : Completeness.deviceSystem.init (Board.reset Nvs.empty Gpio.State.initial) :=
    ⟨_, rfl⟩
  exact ⟨_, (Reachable.init hinit).step
    (l := .setting (countKey .sensor) true (.number (n : Rat)) ⟨[], .ok, false, []⟩)
    ⟨out', _, happly, rfl⟩, rfl⟩

/-- A device with some sensors, all on level 0, booted without a failure. -/
def bootSensors (n : Nat) : Option Board :=
  appMain Env.ok "DC".toList "S".toList (sensorsNvs n) Gpio.State.initial

/-- NVS is as some history has left it. -/
theorem exists_boot_of_bootSensors {n : Nat} (hn : n < channelLimit .sensor)
    (hboot : bootSensors n = some b) :
    ∃ b₀, Reachable Completeness.deviceSystem b₀ ∧
      appMain Env.ok "DC".toList "S".toList b₀.nvs Gpio.State.initial = some b := by
  obtain ⟨b₀, hreach, hnvs⟩ := exists_sensorsNvs hn
  exact ⟨b₀, hreach, by rw [hnvs]; exact hboot⟩

/-- A request to update its first sensor. -/
def sensorRequest (fields : List (CStr × Json)) : Request where
  contentLen := 200
  received := true
  json := some (.object [("device_id".toList, .string "DC".toList),
    ("device_serial".toList, .string "S".toList),
    ("data".toList, .object ([("relay_key".toList, .string (snKey 0)),
      ("relay_type".toList, .number 1)] ++ fields))])

end Device

namespace SensorEvents

open Device

/-! ### System -/

/-- A step of the device. -/
inductive Label where
  | event (l : EventLabel)
  /-- `update_relay_post_handler` answers a request. -/
  | update (env : Env) (serializes : Bool) (req : Request) (err : EspErr)
      (response : Response)

/-- A device that has booted after any history, with any outcome of the calls. -/
def sensorSystem : System EventState Label where
  init := fun s => ∃ b₀ env newDeviceId newDeviceSerial gpio b,
    Reachable Completeness.deviceSystem b₀ ∧
    appMain env newDeviceId newDeviceSerial b₀.nvs gpio = some b ∧ s = booted b
  step := fun s l s' =>
    match l with
    | .event l => eventStep s l s'
    | .update env serializes req err response =>
        ∃ b', updateRelayPostHandler env serializes s.board req = some (err, response, b') ∧
          s' = { s with board := b' }

/-! ### Properties -/

/-- The list of sensors contains one on the pin of an event past its check. -/
def Owned (s : EventState) : Prop :=
  ∀ evt env, s.task = .accepted evt →
    ∃ sensors b, getContactSensorList env s.board = some (sensors, b) ∧
      ∃ relay ∈ sensors, relay.gpioPin = evt.gpioNum

/-- The request moves the last sensor off a pin with an interrupt handler. -/
def Abandons (b : Board) (req : Request) : Prop :=
  ∃ u i relay pin, resolveUpdate b req = .ok (u, i, relay) ∧ relay.type = .sensor ∧
    u.relayGpioPin = some pin ∧ isGpioSafe pin = true ∧ pin ≠ relay.gpioPin ∧
    b.gpio.isr relay.gpioPin = true ∧
    ∀ (j : Nat) other, b.sUnits[j]? = some other → other.type = .sensor → j ≠ i →
      other.gpioPin ≠ relay.gpioPin

/-- No request abandons a pin. -/
def NotAbandoned (s : EventState) (l : Label) : Prop :=
  ∀ env serializes req err response, l = .update env serializes req err response →
    ¬ Abandons s.board req

/-! ### Invariant -/

/-- Every pin with a handler has a sensor in the table. -/
structure HandlersOwned (b : Board) : Prop where
  table : ∃ n m, LoadedTable b n m
  owned : ∀ p, b.gpio.isr p = true →
    ∃ relay ∈ b.sUnits, relay.type = .sensor ∧ relay.gpioPin = p

/-- Handlers are owned, and the events are from pins with a handler. -/
structure Inv (s : EventState) : Prop where
  handlers : HandlersOwned s.board
  events : ∀ evt ∈ s.events, s.board.gpio.isr evt.gpioNum = true

variable {b b' : Board} {s s' : EventState}

theorem HandlersOwned.flipLevel (h : HandlersOwned b) (pin : Int) :
    HandlersOwned (flipLevel b pin) := by
  obtain ⟨n, m, htab⟩ := h.table
  exact ⟨⟨n, m, htab.of_places rfl rfl rfl rfl⟩, h.owned⟩

/-- A contact keeps its pin. -/
theorem HandlersOwned.contact (h : HandlersOwned b) {env : Env} {evt : GpioEvent}
    (hupdate : updateContact env b evt = some b') :
    HandlersOwned b' ∧ b'.gpio = b.gpio := by
  obtain ⟨n, m, htab⟩ := h.table
  rcases updateContact_updated htab hupdate with ⟨rfl, _⟩ | ⟨i, relay, hcontact⟩
  · exact ⟨h, rfl⟩
  · refine ⟨⟨⟨n, m, htab.set hcontact.found (by rfl) hcontact.units hcontact.units_in_memory
      hcontact.relays_count hcontact.sensors_count⟩, ?_⟩, hcontact.gpio⟩
    intro p hp
    rw [hcontact.gpio] at hp
    obtain ⟨other, hmem, htype, hpin⟩ := h.owned p hp
    obtain ⟨j, hget⟩ := List.getElem?_of_mem hmem
    by_cases hj : j = i
    · subst hj
      have hnew := units_replaced_self hcontact.units hcontact.found
      rw [hcontact.found] at hget
      cases hget
      exact ⟨_, List.mem_of_getElem? hnew, htype, hpin⟩
    · rw [← units_replaced_ne hcontact.units hj] at hget
      exact ⟨other, List.mem_of_getElem? hget, htype, hpin⟩

/-- An update that leaves a sensor on the old pin. -/
theorem HandlersOwned.answered (h : HandlersOwned b) {req : Request} {u : UnitUpdate} {i : Nat}
    {relay relay' : RelayUnit} (hres : resolveUpdate b req = .ok (u, i, relay))
    (hsafe : ∀ pin, u.relayGpioPin = some pin → isGpioSafe pin = true)
    (hanswered : Answered b u i relay relay' b') (hnot : ¬ Abandons b req) :
    HandlersOwned b' := by
  obtain ⟨n, m, htab⟩ := h.table
  obtain ⟨_, _, hfound⟩ := resolveUpdate_eq_ok hres
  have hsame := hanswered.assigned
  have htype : relay'.type = relay.type := hsame.type
  have hnew : relay' ∈ b'.sUnits :=
    List.mem_of_getElem? (units_replaced_self hanswered.units hfound)
  have hother : ∀ {j : Nat} {other : RelayUnit}, b.sUnits[j]? = some other → j ≠ i →
      other ∈ b'.sUnits := by
    intro j other hget hj
    rw [← units_replaced_ne hanswered.units hj] at hget
    exact List.mem_of_getElem? hget
  refine ⟨⟨n, m, htab.set hfound (Prod.ext htype hsame.channel) hanswered.units
    hanswered.units_in_memory hanswered.relays_count hanswered.sensors_count⟩, ?_⟩
  intro p hp
  rcases hanswered.handlers.added p hp with hold | ⟨hsensor, hpin⟩
  · obtain ⟨other, hmem, hsensor, hpin⟩ := h.owned p hold
    obtain ⟨j, hget⟩ := List.getElem?_of_mem hmem
    by_cases hj : j = i
    · subst hj
      rw [hfound] at hget
      cases hget
      by_cases hkept : relay'.gpioPin = relay.gpioPin
      · exact ⟨relay', hnew, htype.trans hsensor, hkept.trans hpin⟩
      · -- the sensor has moved, so another one is on its old pin
        have hmoved : relay'.gpioPin = u.relayGpioPin.getD relay.gpioPin := hsame.gpio_pin
        cases hreq : u.relayGpioPin with
        | none =>
            rw [hreq] at hmoved
            exact absurd hmoved hkept
        | some pin =>
            rw [hreq, Option.getD_some] at hmoved
            by_contra hnone
            refine hnot ⟨u, j, relay, pin, hres, hsensor, hreq, hsafe pin hreq, ?_, ?_, ?_⟩
            · rwa [← hmoved]
            · rwa [hpin]
            · intro k third hthird hthirdType hk hthirdPin
              exact hnone ⟨third, hother hthird hk, hthirdType, hthirdPin.trans hpin⟩
    · exact ⟨other, hother hget hj, hsensor, hpin⟩
  · exact ⟨relay', hnew, hsensor, hpin.symm⟩

theorem inv_init (h : sensorSystem.init s) : Inv s := by
  obtain ⟨b₀, env, newDeviceId, newDeviceSerial, gpio, b, hreach, hboot, rfl⟩ := h
  obtain ⟨book, hstored, hsafe, _⟩ := Completeness.inv_of_reachable hreach
  have hinputs := appMain_inputs hstored hsafe hboot
  exact ⟨⟨⟨_, _, hinputs.table⟩, hinputs.owned⟩, by simp [booted, EventState.events, TaskPc.inHand]⟩

/-- An edge adds at most an event of its pin. -/
theorem mem_events_edge {pin : Int} {evt : GpioEvent} (h : evt ∈ (edge s pin).events) :
    evt ∈ s.events ∨ s.board.gpio.isr pin = true ∧ evt.gpioNum = pin := by
  unfold EventState.events edge gpioIsrHandler at h
  dsimp only at h
  unfold EventState.events
  rcases List.mem_append.mp h with hhand | hqueue
  · exact Or.inl (List.mem_append_left _ hhand)
  · split at hqueue
    · next hrun =>
        have hisr : s.board.gpio.isr pin = true := (Bool.and_eq_true_iff.mp hrun).1
        split at hqueue
        · rcases List.mem_append.mp hqueue with hold | hnew
          · exact Or.inl (List.mem_append_right _ hold)
          · rw [List.mem_singleton.mp hnew]
            exact Or.inr ⟨hisr, rfl⟩
        · exact Or.inl (List.mem_append_right _ hqueue)
    · exact Or.inl (List.mem_append_right _ hqueue)

theorem inv_edge (hinv : Inv s) (pin : Int) : Inv (edge s pin) := by
  refine ⟨hinv.handlers.flipLevel pin, ?_⟩
  intro evt hmem
  show s.board.gpio.isr evt.gpioNum = true
  rcases mem_events_edge hmem with hold | ⟨hisr, hpin⟩
  · exact hinv.events evt hold
  · rw [hpin]
    exact hisr

/-- A step of the pins, the handlers and the task. -/
theorem inv_eventStep {l : EventLabel} (hinv : Inv s) (hstep : eventStep s l s') : Inv s' := by
  have hevents := hinv.events
  unfold EventState.events at hevents
  match l with
  | .edge pin =>
      obtain rfl := hstep
      exact inv_edge hinv pin
  | .receive =>
      obtain ⟨evt, rest, htask, hqueue, rfl⟩ := hstep
      refine ⟨hinv.handlers, ?_⟩
      simpa [EventState.events, TaskPc.inHand, htask, hqueue] using hevents
  | .check =>
      obtain ⟨evt, htask, rfl⟩ := hstep
      refine ⟨hinv.handlers, ?_⟩
      rw [htask] at hevents
      intro other hmem
      apply hevents other
      -- the event is dropped or stays in hand
      rcases List.mem_append.mp hmem with hhand | hqueue
      · unfold debounce at hhand
        dsimp only at hhand
        split at hhand
        · cases hhand
        · exact List.mem_append_left _ hhand
      · exact List.mem_append_right _ hqueue
  | .finish env =>
      obtain ⟨evt, b', htask, hupdate, rfl⟩ := hstep
      obtain ⟨hhandlers, hgpio⟩ := hinv.handlers.contact hupdate
      refine ⟨hhandlers, ?_⟩
      intro other hmem
      show b'.gpio.isr other.gpioNum = true
      rw [hgpio]
      exact hevents other (List.mem_append_right _ hmem)

theorem inv_step {l : Label} (hinv : Inv s) (hok : NotAbandoned s l)
    (hstep : sensorSystem.step s l s') : Inv s' := by
  match l with
  | .event l => exact inv_eventStep hinv hstep
  | .update env serializes req err response =>
      obtain ⟨b', hupdate, rfl⟩ := hstep
      have hnot := hok env serializes req err response rfl
      rcases updateRelayPostHandler_answered hupdate with
        rfl | ⟨u, i, relay, relay', hres, hsafe, hanswered⟩
      · exact hinv
      · refine ⟨hinv.handlers.answered hres hsafe hanswered hnot, ?_⟩
        -- no handler is ever removed
        intro evt hmem
        exact hanswered.handlers.kept _ (hinv.events evt hmem)

/-! ### Main Theorem -/

/-- An event past its check is from a pin with a handler, whose sensor is in the list. -/
theorem Inv.owned (hinv : Inv s) : Owned s := by
  intro evt env htask
  have hisr : s.board.gpio.isr evt.gpioNum = true := by
    apply hinv.events
    simp [EventState.events, TaskPc.inHand, htask]
  obtain ⟨n, m, htab⟩ := hinv.handlers.table
  obtain ⟨relay, hmem, htype, hpin⟩ := hinv.handlers.owned _ hisr
  exact ⟨_, _, getContactSensorList_loaded env htab, relay, mem_sensors htab hmem htype, hpin⟩

/-- While no request abandons a pin, every event past its check has an owner. -/
theorem owned_of_notAbandoned (s : EventState)
    (h : ReachableWhen sensorSystem NotAbandoned s) : Owned s :=
  (h.invariant (fun _ hinit => inv_init hinit)
    (fun _ _ _ hinv hok hstep => inv_step hinv hok hstep)).owned

theorem notAbandoned_event (s : EventState) (l : EventLabel) : NotAbandoned s (.event l) := by
  intro env serializes req err response heq
  cases heq

theorem reachable_event {l : EventLabel} (h : Reachable sensorSystem s)
    (hstep : eventStep s l s') : Reachable sensorSystem s' :=
  h.step (show sensorSystem.step s (.event l) s' from hstep)

theorem reachableWhen_event {l : EventLabel} (h : ReachableWhen sensorSystem NotAbandoned s)
    (hstep : eventStep s l s') : ReachableWhen sensorSystem NotAbandoned s' :=
  h.step (notAbandoned_event s l) (show sensorSystem.step s (.event l) s' from hstep)

theorem init_bootSensors {n : Nat} (hn : n < channelLimit .sensor)
    (hboot : bootSensors n = some b) : sensorSystem.init (booted b) := by
  obtain ⟨b₀, hreach, happMain⟩ := exists_boot_of_bootSensors hn hboot
  exact ⟨b₀, _, _, _, _, b, hreach, happMain, rfl⟩

/-- A single edge on a device at rest ends up past the debounce check. -/
theorem eventSteps_accepted (b : Board) {pin : Int}
    (hrun : interrupts (flipLevel b pin).gpio pin = true) :
    ∃ s₁ s₂, eventStep (booted b) (.edge pin) s₁ ∧ eventStep s₁ .receive s₂ ∧
      eventStep s₂ .check
        ⟨flipLevel b pin, [], .accepted (gpioEvent (flipLevel b pin).gpio pin)⟩ := by
  have hqueue : (edge (booted b) pin).gpioEvtQueue =
      [gpioEvent (flipLevel b pin).gpio pin] := by
    simp [edge, booted, hrun, gpioIsrHandler, gpioEvtQueueLength]
  refine ⟨_, _, rfl, ⟨_, _, rfl, hqueue, rfl⟩, _, rfl, ?_⟩
  -- nothing has happened during the delay
  simp [debounce, edge, booted, gpioEvent]

/-- The only sensor's pin rises, and the event passes its check. -/
theorem owned_of_notAbandoned_oneSensor :
    ∃ s, ReachableWhen sensorSystem NotAbandoned s ∧ s.task = .accepted ⟨6, true⟩ ∧ Owned s := by
  have hrun : (bootSensors 1).any (fun b => interrupts (flipLevel b 6).gpio 6 &&
      decide (gpioEvent (flipLevel b 6).gpio 6 = ⟨6, true⟩)) = true := by
    decide +kernel
  obtain ⟨b, hboot, hb⟩ := (Option.any_eq_true _ _).mp hrun
  rw [Bool.and_eq_true, decide_eq_true_eq] at hb
  have hinit : sensorSystem.init (booted b) := init_bootSensors (by decide) hboot
  obtain ⟨s₁, s₂, hedge, hreceive, hcheck⟩ := eventSteps_accepted b hb.1
  rw [hb.2] at hcheck
  have hreach := reachableWhen_event (reachableWhen_event (reachableWhen_event
    (ReachableWhen.init hinit) hedge) hreceive) hcheck
  exact ⟨_, hreach, rfl, owned_of_notAbandoned _ hreach⟩

/-- The only sensor is moved from pin 6 to pin 7. An edge on pin 6 still runs the
    handler, and no sensor has its pin. -/
theorem not_owned_of_reachable : ¬ ∀ s, Reachable sensorSystem s → Owned s := by
  intro hall
  have hrun : (bootSensors 1).any (fun b =>
      (updateRelayPostHandler Env.ok true b
        (sensorRequest [("relay_gpio_pin".toList, .number 7)])).any fun (err, _, b') =>
          decide (err = .ok) && (interrupts (flipLevel b' 6).gpio 6 &&
            (getContactSensorList Env.ok (flipLevel b' 6)).any fun (sensors, _) =>
              decide (∀ relay ∈ sensors, relay.gpioPin ≠ 6))) = true := by
    decide +kernel
  obtain ⟨b, hboot, hb⟩ := (Option.any_eq_true _ _).mp hrun
  obtain ⟨⟨err, response, b'⟩, hupdate, hb'⟩ := (Option.any_eq_true _ _).mp hb
  dsimp only at hb'
  rw [Bool.and_eq_true, Bool.and_eq_true, decide_eq_true_eq] at hb'
  obtain ⟨_, hedge, hlist⟩ := hb'
  obtain ⟨⟨sensors, b₁⟩, hsensors, hnone⟩ := (Option.any_eq_true _ _).mp hlist
  rw [decide_eq_true_eq] at hnone
  have hinit : sensorSystem.init (booted b) := init_bootSensors (by decide) hboot
  -- the request is accepted, and the old pin rises
  have hmoved : Reachable sensorSystem (booted b') :=
    (Reachable.init hinit).step (l := .update Env.ok true
      (sensorRequest [("relay_gpio_pin".toList, .number 7)]) err response) ⟨b', hupdate, rfl⟩
  obtain ⟨s₁, s₂, hedge, hreceive, hcheck⟩ := eventSteps_accepted b' hedge
  have haccepted := reachable_event (reachable_event (reachable_event hmoved hedge) hreceive)
    hcheck
  obtain ⟨sensors', b₂, hsensors', relay, hmem, hpin⟩ := hall _ haccepted _ Env.ok rfl
  rw [hsensors] at hsensors'
  cases hsensors'
  exact hnone relay hmem hpin

end SensorEvents
