import RelayBoard.Framework.Transition
import RelayBoard.Relay.Memory

/-! # Publishing All Units on Connect

  `mqtt_event_handler` runs `relay_publish_all_to_mqtt` in the MQTT client
  task, under the client lock: one blocking `xQueueSend` for each unit into
  `mqtt_event_queue`. `mqtt_event_task` takes the events out and publishes
  each, for which it needs the same lock. The lock is recursive for its
  owner, so `mqtt_relay_subscribe` inside the handler never waits.

  The table of units does not change while the handler runs; it is the
  parameter `b` of the system.
-/

open LTS CString Relay

namespace MqttQueue

/-- `MQTT_QUEUE_LENGTH`. -/
def mqttQueueLength : Nat := 10

/-! ### State -/

/-- Where the client task stands in the `CONNECTED` branch. -/
inductive HandlerPc where
  /-- The event has not been delivered. -/
  | waiting
  /-- At the head of the loop of `relay_publish_all_to_mqtt`. -/
  | loop
  /-- In `mqtt_relay_subscribe`. -/
  | subscribing
  /-- The handler has returned. -/
  | returned
  deriving DecidableEq, Repr

/-- Where `mqtt_event_task` stands. -/
inductive EventTaskPc where
  /-- In `xQueueReceive`. -/
  | receiving
  /-- Holds an event and looks its unit up. -/
  | received (event : RelayEvent)
  /-- In `mqtt_publish_relay_data` for the unit at an index. -/
  | publishing (i : Nat)

/-- The two tasks and the queue between them. -/
structure State where
  handler : HandlerPc
  /-- Units the loop has not handled. -/
  todo : List RelayUnit
  mqttEventQueue : List RelayEvent
  eventTask : EventTaskPc

/-- The client task holds the client lock: from the delivery of the event until
    the handler returns. -/
def ClientLocked (s : State) : Prop := s.handler = .loop ∨ s.handler = .subscribing

/-! ### Steps -/

inductive Label where
  /-- `MQTT_EVENT_CONNECTED` is delivered. -/
  | connected
  /-- The loop skips a unit without a key. -/
  | skip
  /-- `trigger_mqtt_publish`: `xQueueSend` with room in the queue. -/
  | send
  /-- `mqtt_relay_subscribe` returns. -/
  | subscribe
  /-- The handler returns. -/
  | finish
  /-- `xQueueReceive` with an event in the queue. -/
  | receive
  /-- The lookup of the event's unit. -/
  | load
  /-- `mqtt_publish_relay_data`, which takes the client lock. -/
  | publish

/-- The steps of the two tasks over the table of `b`. -/
def step (b : Board) (s : State) (l : Label) (s' : State) : Prop :=
  match l with
  | .connected =>
      s.handler = .waiting ∧ s' = { s with handler := .loop, todo := b.sUnits }
  | .skip =>
      ∃ relay rest, s.handler = .loop ∧ s.todo = relay :: rest ∧
        getUnitNvsKey relay = none ∧ s' = { s with todo := rest }
  | .send =>
      ∃ relay rest key, s.handler = .loop ∧ s.todo = relay :: rest ∧
        getUnitNvsKey relay = some key ∧ s.mqttEventQueue.length < mqttQueueLength ∧
        s' = { s with
          handler := .subscribing
          todo := rest
          mqttEventQueue := s.mqttEventQueue ++ [⟨key, relay.type⟩] }
  | .subscribe => s.handler = .subscribing ∧ s' = { s with handler := .loop }
  | .finish => s.handler = .loop ∧ s.todo = [] ∧ s' = { s with handler := .returned }
  | .receive =>
      ∃ event rest, s.eventTask = .receiving ∧ s.mqttEventQueue = event :: rest ∧
        s' = { s with mqttEventQueue := rest, eventTask := .received event }
  | .load =>
      ∃ event, s.eventTask = .received event ∧
        s' = { s with
          eventTask := match getRelayFromMemoryByKey b event.relayType event.relayKey with
            | .ok i => .publishing i
            | .error _ => .receiving }
  | .publish =>
      ∃ i, s.eventTask = .publishing i ∧ ¬ ClientLocked s ∧
        s' = { s with eventTask := .receiving }

/-- Events taken out of the queue and not yet published. -/
def inHand : EventTaskPc → Nat
  | .receiving => 0
  | .received _ => 1
  | .publishing _ => 1

/-- A board with `n` fresh actuators and `m` fresh sensors in memory. -/
def freshBoard (n m : Nat) : Board :=
  { Board.reset Nvs.empty Gpio.State.initial with
    unitsInMemory := true
    sUnits := (List.range n).map (fun (i : Nat) => getActuatorRelay i i) ++
      (List.range m).map (fun (i : Nat) => freshSensor i (n + i))
    sRelaysCount := n
    sSensorsCount := m }

theorem loadedTable_freshBoard (n m : Nat) : LoadedTable (freshBoard n m) n m := by
  refine ⟨rfl, by simp [freshBoard], ?_, ?_, rfl, rfl⟩
  · intro i hi
    refine ⟨getActuatorRelay i i, ?_, rfl, rfl⟩
    simp [freshBoard, List.getElem?_append_left, hi]
  · intro i hi
    refine ⟨freshSensor i (n + i), ?_, rfl, rfl⟩
    simp [freshBoard, hi]

end MqttQueue
