import RelayBoard.Mqtt.CommandDelivery
import RelayBoard.Mqtt.PublicationRuns

/-! # Turns of Tasks

  A task that serves an event, a command or a request from beginning to end, with no
  other task in between, does in the pipeline what its function does in one go: what is
  shown of whole turns is shown of the runs of the pipeline that are not interleaved.
-/

open CString Device LTS MqttQueue Relay Settings TopicBuffers UnitData Web

namespace Publication

/-! ### A Unit Replaced Before or After -/

variable {env : Env} {b b' : Board} {relay relay' : RelayUnit} {err : EspErr} {i : Nat}

section parts
variable {print : Print} {sys : System State Label} (hsys : sys.step = step print) {s : State}
  {t : Task} {todo : List Action} {events : List RelayEvent} {mqttPrefix deviceId : CStr}
include hsys

end parts

/-! ### Turns -/

/-- What the tasks do when nothing gets in between, by the functions that model them. -/
inductive Turn (print : Print) (s : State) : State → Prop where
  /-- `mqtt_subscribe_relays_task` serves the command it has received. -/
  | command {env : Env} {event : MqttCommandEvent} {b' : Board}
      (hreceived : s.received = some event)
      (h : mqttSubscribeRelaysTask env s.board event = some b') :
      Turn print s { s with received := none, board := b' }
  /-- `gpio_event_task` serves an event. -/
  | contact {env : Env} {evt : GpioEvent} {b' : Board}
      (h : gpioEventTask env s.board evt = some b') : Turn print s { s with board := b' }
  /-- `update_relay_post_handler` serves a request. -/
  | update {env : Env} {serializes : Bool} {req : Request} {err : EspErr}
      {response : Response} {b' : Board}
      (h : updateRelayPostHandler env serializes s.board req = some (err, response, b')) :
      Turn print s { s with board := b' }
  /-- `mqtt_event_task` serves the next event, on a connection on which nothing fails. -/
  | publish {calls : PublishCalls} {event : RelayEvent} {queue : List RelayEvent} {i : Nat}
      {relay : RelayUnit} (htask : s.eventTask = .receiving) (hclient : s.client = .waiting)
      (hconnected : s.board.mqttConnected = true) (hcalls : calls.connected = true)
      (hprinter : calls.print = print)
      (hprint : ∀ relay ∈ s.board.sUnits, print (serializeRelayUnit relay) ≠ none)
      (hqueue : s.board.mqttEventQueue = event :: queue)
      (hlookup : getRelayFromMemoryByKey s.board event.relayType event.relayKey = .ok i)
      (hget : s.board.sUnits[i]? = some relay) :
      Turn print s { s with
        board := mqttEventTask s.board
        published := s.published ++ (mqttPublishRelayData calls s.board.nvs relay).2 }

/-- The messages are those on the topic of the event. -/
theorem WiredBoard.published {events : List RelayEvent} {mqttPrefix deviceId : CStr}
    (h : WiredBoard events mqttPrefix deviceId b) {calls : PublishCalls}
    (hconnected : calls.connected = true) {event : RelayEvent}
    (hevent : eventOf relay = some event) :
    (mqttPublishRelayData calls b.nvs relay).2 =
      unitMessages calls.print (eventTopic mqttPrefix deviceId event) relay := by
  obtain ⟨mode, hmode, hne⟩ := h.mode
  obtain ⟨hkey, htype⟩ := eventOf_eq_some hevent
  have hle : ¬ (mode : Int) < mqttConnModeNoReconnect := by
    unfold mqttConnModeNoReconnect
    omega
  have husable : clientUsable calls.connected calls.initOk mode = true := by
    unfold clientUsable
    rw [hconnected, Bool.true_or]
  unfold mqttPublishRelayData eventTopic
  rw [Nvs.readUint16_eq_ok_iff.mpr hmode]
  dsimp only
  rw [if_neg hle, if_neg (by rw [husable]; decide), readString_of_some h.configured.mqttStored,
    readString_of_some h.configured.idStored, hkey, ← htype]
  dsimp only
  split <;> rfl

end Publication
