import RelayBoard.Device.Tasks
import RelayBoard.Mqtt.Queue
import RelayBoard.Mqtt.TopicBuffers

/-! # The Publication Pipeline

  All tasks of a running device that take part in the publication of units: the MQTT
  client with `mqtt_event_handler`, `mqtt_subscribe_relays_task`, `gpio_event_task`, the
  HTTP server with `update_relay_post_handler`, `refresh_relay_states_2_mqtt_task` and
  `mqtt_event_task`. They share the unit table, NVS, the event bits and two queues.

  A step is what a task does between two accesses that another task can get in between:
  a change of a unit, a test of the bits, a send or a receive, the writing of a record,
  the reading of one field and the publication of one message. The publishing task reads
  the unit while the others change it.
-/

open CString Device LTS MqttQueue Relay Settings TopicBuffers UnitData Web

namespace Publication

/-! ### `relay_set_state` in Parts -/

/-- `relay_set_state` after the GPIO initialization, up to the update via MQTT. -/
def applyLevel (env : Env) (b : Board) (relay : RelayUnit) (state : RelayState)
    (gpioInitMade : Bool) : EspErr × RelayUnit × Board :=
  match gpioSetLevel env b relay.gpioPin (xor state.toBool relay.inverted) with
  | (.ok, b) => (.ok, unitWithState relay state gpioInitMade, b)
  | (_, b) => (.fail, relayGpioDeinit relay, b)

/-- `relay_set_state`, up to the update via MQTT. -/
def applyState (env : Env) (b : Board) (relay : RelayUnit) (state : RelayState) :
    EspErr × RelayUnit × Board :=
  match relay.type with
  | .sensor => (.invalidArg, relay, b)
  | .actuator =>
      if relay.gpioInitialized then applyLevel env b relay state false
      else
        match relayGpioInit env b relay with
        | (.ok, relay, b) => applyLevel env b relay state true
        | (_, relay, b) => (.fail, relay, b)

/-- The tasks that change units. -/
inductive Task where
  /-- `mqtt_subscribe_relays_task`. -/
  | command
  /-- `gpio_event_task`. -/
  | contact
  /-- The HTTP server. -/
  | http
  deriving DecidableEq, Repr

/-- What is left to do with a unit once it has been changed. -/
inductive Action where
  /-- `relay_set_state` is called with the state of the unit itself. -/
  | apply
  /-- The mode and the bits are tested. -/
  | check
  /-- `trigger_mqtt_publish`. -/
  | send
  /-- `save_relay_to_nvs`. -/
  | save
  deriving DecidableEq, Repr

/-- A task at work on the unit at an index of `s_units`. -/
structure Work where
  unit : Nat
  todo : List Action
  deriving DecidableEq, Repr

/-- After the change `relay_set_state` makes. -/
def stateWork : List Action := [.check, .save]

/-- After the change `gpio_event_task` makes: it saves first. -/
def contactWork : List Action := [.save, .check]

/-- After the assignments of `update_relay_post_handler` to an actuator. -/
def updateWork : List Action := .apply :: stateWork

/-- `gpio_event_task` up to the change of the sensor: its index and the board. -/
def changeContact (env : Env) (b : Board) (evt : GpioEvent) : Option (Nat × Board) :=
  if Gpio.getLevel b.gpio evt.gpioNum ≠ evt.level then none
  else
    match getContactSensorList env b with
    | none => none
    | some (sensors, b) =>
        if sensorListIsNull b then none
        else
          match sensors.findIdx? (fun relay => relay.gpioPin = evt.gpioNum) with
          | none => none
          | some k =>
              match sensors[k]? with
              | none => none
              | some relay =>
                  some (b.sRelaysCount + k, b.setUnit (b.sRelaysCount + k)
                    { relay with state := RelayState.ofBool (xor evt.level relay.inverted) })

/-- `update_relay_post_handler` up to the assignments: the fields of the request, the
    index of the unit, and the unit. -/
def acceptUpdate (env : Env) (b : Board) (req : Request) :
    Option (UnitUpdate × Nat × RelayUnit) :=
  match resolveUpdate b req with
  | .error _ => none
  | .ok (u, i, relay) =>
      match u.relayGpioPin with
      | none => some (u, i, relay)
      | some gpioPin =>
          match checkGpioPin env b relay.gpioPin relay gpioPin with
          | some (.ok (), _) => some (u, i, relay)
          | _ => none

/-! ### Messages -/

/-- The fields of a unit that messages are made of. -/
inductive Attribute where
  | channel
  | state
  | inverted
  | gpioPin
  | enabled
  | type
  deriving DecidableEq, Repr

/-- A copy of a unit into which one field has been read. -/
def copyField (a : Attribute) (relay copy : RelayUnit) : RelayUnit :=
  match a with
  | .channel => { copy with channel := relay.channel }
  | .state => { copy with state := relay.state }
  | .inverted => { copy with inverted := relay.inverted }
  | .gpioPin => { copy with gpioPin := relay.gpioPin }
  | .enabled => { copy with enabled := relay.enabled }
  | .type => { copy with type := relay.type }

/-- What a message reads, in the order of `mqtt_publish_relay_data` and
    `serialize_relay_unit`. -/
def reads : Field → List Attribute
  | .state => [.state]
  | .channel => [.channel]
  | .inverted => [.inverted]
  | .gpioPin => [.gpioPin]
  | .enabled => [.enabled]
  | .type => [.type]
  | .json => [.channel, .state, .inverted, .gpioPin, .enabled, .type]

/-- The message on a field under the topic of the unit; `none` is a JSON text that
    cannot be printed. -/
def message (print : Print) (topic : CStr) (f : Field) (relay : RelayUnit) :
    Option Message :=
  match f with
  | .state => some (fieldMessage topic "state".toList relay.state.toBool.toNat true)
  | .channel => some (fieldMessage topic "channel".toList relay.channel false)
  | .inverted => some (fieldMessage topic "inverted".toList relay.inverted.toNat false)
  | .gpioPin => some (fieldMessage topic "gpio_pin".toList relay.gpioPin false)
  | .enabled => some (fieldMessage topic "enabled".toList relay.enabled.toNat false)
  | .type => some (fieldMessage topic "type".toList (typeNumber relay.type) false)
  | .json => (print (serializeRelayUnit relay)).map fun relayJson =>
      ⟨snprintf topicSize topic, relayJson, true⟩

/-- Where the MQTT client stands in `mqtt_event_handler`. -/
inductive ClientPc where
  | waiting
  /-- In the `CONNECTED` branch, between the two bits. -/
  | connecting
  /-- At an index of the loop of `relay_publish_all_to_mqtt`. -/
  | loop (i : Nat)
  /-- In `mqtt_relay_subscribe` for the unit at an index. -/
  | subscribing (i : Nat)
  /-- In the `DATA` branch, at `xQueueSend` of a command. -/
  | queueing (event : MqttCommandEvent)

/-- Where `mqtt_event_task` stands. -/
inductive EventPc where
  /-- In `xQueueReceive`. -/
  | receiving
  | received (event : RelayEvent)
  /-- In `mqtt_publish_relay_data` for the unit at an index, before its tests. -/
  | loaded (i : Nat)
  /-- In `mqtt_init`. -/
  | reconnecting (i : Nat)
  /-- Publishing under a topic: the fields left, what the message on the first of them
      has not yet read, and what has been read. -/
  | publishing (i : Nat) (topic : CStr) (fields : List Field) (unread : List Attribute)
      (copy : RelayUnit)
  /-- Past `mqtt_publish_relay_data`. -/
  | published (i : Nat)

/-- The tasks and what they share. The board has the bits and `mqtt_event_queue`. -/
structure State where
  board : Board
  mqttCommandQueue : List MqttCommandEvent
  client : ClientPc
  /-- The command that `mqtt_subscribe_relays_task` has received. -/
  received : Option MqttCommandEvent
  work : Task → Work
  /-- The index of the loop, when `refresh_relay_states_2_mqtt_task` does not wait. -/
  refresh : Option Nat
  eventTask : EventPc
  /-- What the broker has been sent. -/
  published : List Message

/-- All tasks wait. -/
def start (b : Board) : State where
  board := b
  mqttCommandQueue := []
  client := .waiting
  received := none
  work := fun _ => ⟨0, []⟩
  refresh := none
  eventTask := .receiving
  published := []

/-- No task waits for less than an event of the outside. -/
structure AtRest (s : State) : Prop where
  client : s.client = .waiting
  work : ∀ t, (s.work t).todo = []
  refresh : s.refresh = none
  queue : s.board.mqttEventQueue = []
  eventTask : s.eventTask = .receiving

/-! ### Parts of Steps -/

/-- `trigger_mqtt_publish` with room in the queue. -/
def trigger (b : Board) (event : RelayEvent) : Option Board :=
  if b.mqttEventQueue.length < mqttQueueLength then
    some { b with mqttEventQueue := b.mqttEventQueue ++ [event] }
  else none

/-- The event on a unit. -/
def eventOf (relay : RelayUnit) : Option RelayEvent :=
  (getUnitNvsKey relay).map fun key => ⟨key, relay.type⟩

/-- The body of the loop of `relay_publish_all_to_mqtt`, up to the subscription: is there
    anything to subscribe to, and the board. -/
def publishTurn (b : Board) (relay : RelayUnit) : Option (Bool × Board) :=
  match eventOf relay with
  | none => some (false, b)
  | some event => (trigger b event).map fun b => (true, b)

/-- The state that the data of a command stands for. -/
def commandState (data : CStr) : RelayState :=
  if data = "True".toList ∨ data = "true".toList then .on else .off

/-- `mqtt_subscribe_relays_task` up to the update via MQTT; `none` is the panic. -/
def executeCommand (env : Env) (b : Board) (event : MqttCommandEvent) :
    Option (Work × Board) :=
  match getRelayTypeFromKey event.relayKey with
  | some .actuator =>
      match getRelayActuatorFromMemoryByKey b event.relayKey with
      | .error _ => some (⟨0, []⟩, b)
      | .ok i =>
          match b.sUnits[i]? with
          | none => some (⟨0, []⟩, b)
          | some relay =>
              match applyState env b relay event.state with
              | (.ok, relay, b) => some (⟨i, stateWork⟩, b.setUnit i relay)
              | _ => none
  | _ => some (⟨0, []⟩, b)

/-- What the messages that are left read next. -/
def readsNext : List Field → List Attribute
  | [] => []
  | f :: _ => reads f

/-- `mqtt_publish_relay_data` from its reads of the settings on. -/
def startPublishing (b : Board) (i : Nat) : EventPc :=
  match Nvs.readString b.nvs sNamespace sKeyMqttPrefix,
      Nvs.readString b.nvs sNamespace sKeyDeviceId, b.sUnits[i]?.bind eventOf with
  | .ok mqttPrefix, .ok deviceId, some event =>
      .publishing i (unitTopic mqttPrefix deviceId event.relayKey
        (haDeviceStatePath event.relayType)) Field.all (readsNext Field.all) RelayUnit.zero
  | _, _, _ => .published i

/-- `mqtt_publish_relay_data`, at the tests of the mode and of the client; `hasClient`
    tells whether `mqtt_client` is set. -/
def checkClient (b : Board) (hasClient : Bool) (i : Nat) : EventPc :=
  match Nvs.readUint16 b.nvs sNamespace sKeyMqttConnect with
  | .error _ => .published i
  | .ok mode =>
      if (mode : Int) < mqttConnModeNoReconnect then .published i
      else if hasClient && b.mqttConnected then startPublishing b i
      else if (mode : Int) > mqttConnModeNoReconnect then .reconnecting i
      else .published i

/-- "Free relay memory if dynamically allocated": a sensor's bookkeeping is reset. -/
def deinitSensor (b : Board) (i : Nat) : Board :=
  match b.sUnits[i]? with
  | some relay => if relay.type = .sensor then b.setUnit i (relayGpioDeinit relay) else b
  | none => b

/-! ### Steps -/

inductive Label where
  /-- `MQTT_EVENT_CONNECTED` is delivered, and sets the first bit. -/
  | connected
  /-- The handler sets the second bit. -/
  | ready
  /-- The body of the handler's loop. -/
  | clientTurn
  /-- `mqtt_relay_subscribe` returns. -/
  | subscribed
  /-- The handler's loop ends. -/
  | handled
  /-- The bits are cleared: by the handler, by `cleanup_mqtt` or by the Wi-Fi task. -/
  | lost
  /-- `MQTT_EVENT_DATA` is delivered, with its topic and data. -/
  | data (topic data : CStr)
  /-- `xQueueSend` of the command, with room in the queue. -/
  | queueCommand
  /-- `mqtt_subscribe_relays_task` receives a command. -/
  | receiveCommand
  /-- The command is executed, up to the update via MQTT. -/
  | command (env : Env) (event : MqttCommandEvent)
  /-- `gpio_event_task` changes a sensor. -/
  | contact (env : Env) (evt : GpioEvent)
  /-- A request assigns the fields of an actuator. -/
  | update (env : Env) (req : Request)
  /-- A request on a sensor, which is not published. -/
  | updateSensor (env : Env) (serializes : Bool) (req : Request)
  /-- `relay_set_state` of a request, up to the update via MQTT. -/
  | apply (t : Task) (env : Env)
  /-- The test whether to update via MQTT. -/
  | check (t : Task)
  /-- `trigger_mqtt_publish`, with room in the queue. -/
  | send (t : Task)
  /-- `save_relay_to_nvs`. -/
  | save (t : Task) (env : Env)
  /-- The refresh interval has passed. -/
  | refresh
  /-- The body of the refresh loop. -/
  | refreshTurn
  /-- The refresh loop ends. -/
  | refreshed
  /-- `mqtt_event_task` receives an event. -/
  | receive
  /-- It looks the unit up. -/
  | load
  /-- It tests the client. -/
  | test (hasClient : Bool)
  /-- `mqtt_init` returns. -/
  | reconnect (ok : Bool)
  /-- It reads a field of the unit. -/
  | read
  /-- `esp_mqtt_client_publish`, which takes the client lock. -/
  | publish (delivered : Bool)
  /-- The JSON of the unit cannot be printed. -/
  | unprinted
  /-- All messages on a unit are published. -/
  | unitDone
  /-- It is done with the event. -/
  | eventDone
  /-- The outside changes the levels it applies to the pins. -/
  | levels (level : Int → Bool)

/-- Replace the work of a task. -/
def State.setWork (s : State) (t : Task) (work : Work) : State :=
  { s with work := Function.update s.work t work }

/-- The steps of all tasks. -/
def step (print : Print) (s : State) (l : Label) (s' : State) : Prop :=
  match l with
  | .connected =>
      s.client = .waiting ∧
        s' = { s with client := .connecting, board := { s.board with mqttConnected := true } }
  | .ready =>
      s.client = .connecting ∧
        s' = { s with client := .loop 0, board := { s.board with mqttReady := true } }
  | .clientTurn =>
      ∃ i relay subscribe b, s.client = .loop i ∧ s.board.sUnits[i]? = some relay ∧
        publishTurn s.board relay = some (subscribe, b) ∧
        s' = { s with board := b, client := if subscribe then .subscribing i else .loop (i + 1) }
  | .subscribed => ∃ i, s.client = .subscribing i ∧ s' = { s with client := .loop (i + 1) }
  | .handled =>
      ∃ i, s.client = .loop i ∧ s.board.sUnits.length ≤ i ∧ s' = { s with client := .waiting }
  | .lost => s' = { s with board := { s.board with mqttConnected := false, mqttReady := false } }
  | .data topic data =>
      ∃ key, s.client = .waiting ∧ MqttTopic.resolveKeyFromTopic topic = some (some key) ∧
        s' = { s with client := .queueing ⟨key, commandState data⟩ }
  | .queueCommand =>
      ∃ event, s.client = .queueing event ∧ s.mqttCommandQueue.length < mqttQueueLength ∧
        s' = { s with
          client := .waiting
          mqttCommandQueue := s.mqttCommandQueue ++ [event] }
  | .receiveCommand =>
      ∃ event queue, s.received = none ∧ (s.work .command).todo = [] ∧
        s.mqttCommandQueue = event :: queue ∧
        s' = { s with received := some event, mqttCommandQueue := queue }
  | .command env event =>
      ∃ work b, s.received = some event ∧ (s.work .command).todo = [] ∧
        executeCommand env s.board event = some (work, b) ∧
        s' = { s with received := none, board := b }.setWork .command work
  | .contact env evt =>
      ∃ i b, (s.work .contact).todo = [] ∧ changeContact env s.board evt = some (i, b) ∧
        s' = { s with board := b }.setWork .contact ⟨i, contactWork⟩
  | .update env req =>
      ∃ u i relay, (s.work .http).todo = [] ∧
        acceptUpdate env s.board req = some (u, i, relay) ∧ relay.type = .actuator ∧
        s' = { s with board := s.board.setUnit i (assignFields relay u) }.setWork .http
          ⟨i, updateWork⟩
  | .updateSensor env serializes req =>
      ∃ u i relay err response b, (s.work .http).todo = [] ∧
        acceptUpdate env s.board req = some (u, i, relay) ∧ relay.type = .sensor ∧
        applyUpdate env serializes s.board u i relay = some (err, response, b) ∧
        s' = { s with board := b }
  | .apply t env =>
      ∃ i relay err relay' b, s.work t = ⟨i, updateWork⟩ ∧
        s.board.sUnits[i]? = some relay ∧
        applyState env s.board relay relay.state = (err, relay', b) ∧
        s' = { s with board := b.setUnit i relay' }.setWork t
          ⟨i, if err = EspErr.ok then stateWork else []⟩
  | .check t =>
      ∃ i todo mode, s.work t = ⟨i, .check :: todo⟩ ∧
        Nvs.readUint16 s.board.nvs sNamespace sKeyMqttConnect = .ok mode ∧
        s' = s.setWork t
          ⟨i, if mode ≠ 0 ∧ s.board.isMqttReady = true then .send :: todo else todo⟩
  | .send t =>
      ∃ i todo relay event b, s.work t = ⟨i, .send :: todo⟩ ∧
        s.board.sUnits[i]? = some relay ∧ eventOf relay = some event ∧
        trigger s.board event = some b ∧ s' = { s with board := b }.setWork t ⟨i, todo⟩
  | .save t env =>
      ∃ i todo relay key err b, s.work t = ⟨i, .save :: todo⟩ ∧
        s.board.sUnits[i]? = some relay ∧ getUnitNvsKey relay = some key ∧
        saveRelayToNvs env s.board (some key) relay = (err, b) ∧ (t = .command → err = .ok) ∧
        s' = { s with board := b }.setWork t ⟨i, if err = EspErr.ok then todo else []⟩
  | .refresh => s.refresh = none ∧ s' = { s with refresh := some 0 }
  | .refreshTurn =>
      ∃ i relay subscribe b, s.refresh = some i ∧ s.board.sUnits[i]? = some relay ∧
        publishTurn s.board relay = some (subscribe, b) ∧
        s' = { s with board := b, refresh := some (i + 1) }
  | .refreshed =>
      ∃ i, s.refresh = some i ∧ s.board.sUnits.length ≤ i ∧ s' = { s with refresh := none }
  | .receive =>
      ∃ event queue, s.eventTask = .receiving ∧ s.board.mqttEventQueue = event :: queue ∧
        s' = { s with
          eventTask := .received event
          board := { s.board with mqttEventQueue := queue } }
  | .load =>
      ∃ event, s.eventTask = .received event ∧
        s' = { s with
          eventTask :=
            match getRelayFromMemoryByKey s.board event.relayType event.relayKey with
            | .ok i => .loaded i
            | .error _ => .receiving }
  | .test hasClient =>
      ∃ i, s.eventTask = .loaded i ∧
        s' = { s with eventTask := checkClient s.board hasClient i }
  | .reconnect ok =>
      ∃ i, s.eventTask = .reconnecting i ∧
        s' = { s with eventTask := if ok then startPublishing s.board i else .published i }
  | .read =>
      ∃ i topic fields a unread copy relay,
        s.eventTask = .publishing i topic fields (a :: unread) copy ∧
        s.board.sUnits[i]? = some relay ∧
        s' = { s with eventTask := .publishing i topic fields unread (copyField a relay copy) }
  | .publish delivered =>
      ∃ i topic f fields copy msg, s.eventTask = .publishing i topic (f :: fields) [] copy ∧
        message print topic f copy = some msg ∧ s.client = .waiting ∧
        s' = { s with
          eventTask := .publishing i topic fields (readsNext fields) copy
          published := if delivered then s.published ++ [msg] else s.published }
  | .unprinted =>
      ∃ i topic f fields copy, s.eventTask = .publishing i topic (f :: fields) [] copy ∧
        message print topic f copy = none ∧
        s' = { s with eventTask := .publishing i topic fields (readsNext fields) copy }
  | .unitDone =>
      ∃ i topic unread copy, s.eventTask = .publishing i topic [] unread copy ∧
        s' = { s with eventTask := .published i }
  | .eventDone =>
      ∃ i, s.eventTask = .published i ∧
        s' = { s with eventTask := .receiving, board := deinitSensor s.board i }
  | .levels level =>
      s' = { s with board := { s.board with gpio := { s.board.gpio with level := level } } }

/-- The tasks of a device whose units have been loaded into `b`. -/
def pipeline (print : Print) (b : Board) : System State Label where
  init := fun s => s = start b
  step := step print

end Publication
