import RelayBoard.Mqtt.PublicationInvariant

/-! # Uninterrupted Turns

  A turn of a task that no other task gets in between is what the functions of the
  coarser model do in one step: the messages of `mqtt_publish_relay_data`, and the boards
  after a command, a sensor event and a request. The turns of the pipeline refine them,
  as long as there is room in the queue.
-/

open CString Device LTS MqttQueue Relay Settings TopicBuffers UnitData Web

namespace Publication

/-! ### Units as Cells -/

section runs
variable {print : Print} {sys : System State Label} (hsys : sys.step = step print)
  {s : State} {i : Nat} (topic : CStr) {relay : RelayUnit}
  (hget : s.board.sUnits[i]? = some relay)
include hsys hget

end runs

/-! ### A Turn of `mqtt_event_task` -/

end Publication
