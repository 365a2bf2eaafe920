import RelayBoard.Device.Coherence
import RelayBoard.Mqtt.PublicationInvariant

/-! # Commands over MQTT

  A command goes from the client through `mqtt_command_queue` to
  `mqtt_subscribe_relays_task`. In every run the commands delivered are those executed
  followed by those under way: none is lost, none is executed twice, and they keep their
  order. As long as no request changes an actuator the last command decides: once the
  task is done an actuator and its record have the state of the last command for it.
-/

open CString Device LTS MqttQueue Relay Settings TopicBuffers UnitData Web

namespace Publication

/-! ### Delivered and Executed -/

/-- The command that a step delivers, if the topic of the message has a key. -/
def Label.delivers : Label → Option MqttCommandEvent
  | .data topic payload =>
      match MqttTopic.resolveKeyFromTopic topic with
      | some (some key) => some ⟨key, commandState payload⟩
      | _ => none
  | _ => none

/-- The command that a step executes. -/
def Label.executes : Label → Option MqttCommandEvent
  | .command _ event => some event
  | _ => none

/-- The command that the client is about to send. -/
def ClientPc.command : ClientPc → Option MqttCommandEvent
  | .queueing event => some event
  | _ => none

/-- The commands that have been delivered and not yet executed, oldest first. -/
def underWay (s : State) : List MqttCommandEvent :=
  s.received.toList ++ s.mqttCommandQueue ++ s.client.command.toList

variable {print : Print} {b : Board} {s s' : State} {l : Label} {ls : List Label}

/-- What a step does to the commands. -/
inductive CommandStep (s s' : State) : Label → Prop where
  | delivered {topic payload key : CStr}
      (hkey : MqttTopic.resolveKeyFromTopic topic = some (some key))
      (hreceived : s'.received = s.received)
      (hqueue : s'.mqttCommandQueue = s.mqttCommandQueue) (hbefore : s.client.command = none)
      (hafter : s'.client.command = some ⟨key, commandState payload⟩) :
      CommandStep s s' (.data topic payload)
  | queued {event : MqttCommandEvent} (hroom : s.mqttCommandQueue.length < mqttQueueLength)
      (hreceived : s'.received = s.received)
      (hqueue : s'.mqttCommandQueue = s.mqttCommandQueue ++ [event])
      (hbefore : s.client.command = some event) (hafter : s'.client.command = none) :
      CommandStep s s' .queueCommand
  | received {event : MqttCommandEvent} (hbefore : s.received = none)
      (hafter : s'.received = some event)
      (hqueue : s.mqttCommandQueue = event :: s'.mqttCommandQueue)
      (hclient : s'.client.command = s.client.command) : CommandStep s s' .receiveCommand
  | executed {env : Env} {event : MqttCommandEvent} (hbefore : s.received = some event)
      (hafter : s'.received = none) (hqueue : s'.mqttCommandQueue = s.mqttCommandQueue)
      (hclient : s'.client.command = s.client.command) : CommandStep s s' (.command env event)
  | other {l : Label} (hdelivers : l.delivers = none) (hexecutes : l.executes = none)
      (hreceived : s'.received = s.received)
      (hqueue : s'.mqttCommandQueue = s.mqttCommandQueue)
      (hclient : s'.client.command = s.client.command) : CommandStep s s' l

theorem commandStep_of_step (hstep : step print s l s') : CommandStep s s' l := by
  cases l with
  | data topic payload =>
      obtain ⟨key, hclient, hkey, rfl⟩ := hstep
      exact .delivered hkey rfl rfl (by rw [hclient]; rfl) rfl
  | queueCommand =>
      obtain ⟨event, hclient, hroom, rfl⟩ := hstep
      exact .queued hroom rfl rfl (by rw [hclient]; rfl) rfl
  | receiveCommand =>
      obtain ⟨event, queue, hreceived, _, hqueue, rfl⟩ := hstep
      exact .received hreceived rfl hqueue rfl
  | command env event =>
      obtain ⟨work, b, hreceived, _, _, rfl⟩ := hstep
      exact .executed hreceived rfl rfl rfl
  -- the client goes on without a command
  | connected =>
      obtain ⟨hclient, rfl⟩ := hstep
      exact .other rfl rfl rfl rfl (by rw [hclient]; rfl)
  | ready =>
      obtain ⟨hclient, rfl⟩ := hstep
      exact .other rfl rfl rfl rfl (by rw [hclient]; rfl)
  | clientTurn =>
      obtain ⟨i, relay, subscribe, b, hclient, _, _, rfl⟩ := hstep
      exact .other rfl rfl rfl rfl (by rw [hclient]; cases subscribe <;> rfl)
  | subscribed =>
      obtain ⟨i, hclient, rfl⟩ := hstep
      exact .other rfl rfl rfl rfl (by rw [hclient]; rfl)
  | handled =>
      obtain ⟨i, hclient, _, rfl⟩ := hstep
      exact .other rfl rfl rfl rfl (by rw [hclient]; rfl)
  -- the other steps leave the client alone
  | lost =>
      obtain rfl := hstep
      exact .other rfl rfl rfl rfl rfl
  | contact env evt =>
      obtain ⟨i, b, _, _, rfl⟩ := hstep
      exact .other rfl rfl rfl rfl rfl
  | update env req =>
      obtain ⟨u, i, relay, _, _, _, rfl⟩ := hstep
      exact .other rfl rfl rfl rfl rfl
  | updateSensor env serializes req =>
      obtain ⟨u, i, relay, err, response, b, _, _, _, _, rfl⟩ := hstep
      exact .other rfl rfl rfl rfl rfl
  | apply t env =>
      obtain ⟨i, relay, err, relay', b, _, _, _, rfl⟩ := hstep
      exact .other rfl rfl rfl rfl rfl
  | check t =>
      obtain ⟨i, todo, mode, _, _, rfl⟩ := hstep
      exact .other rfl rfl rfl rfl rfl
  | send t =>
      obtain ⟨i, todo, relay, event, b, _, _, _, _, rfl⟩ := hstep
      exact .other rfl rfl rfl rfl rfl
  | save t env =>
      obtain ⟨i, todo, relay, key, err, b, _, _, _, _, _, rfl⟩ := hstep
      exact .other rfl rfl rfl rfl rfl
  | refresh =>
      obtain ⟨_, rfl⟩ := hstep
      exact .other rfl rfl rfl rfl rfl
  | refreshTurn =>
      obtain ⟨i, relay, subscribe, b, _, _, _, rfl⟩ := hstep
      exact .other rfl rfl rfl rfl rfl
  | refreshed =>
      obtain ⟨i, _, _, rfl⟩ := hstep
      exact .other rfl rfl rfl rfl rfl
  | receive =>
      obtain ⟨event, queue, _, _, rfl⟩ := hstep
      exact .other rfl rfl rfl rfl rfl
  | load =>
      obtain ⟨event, _, rfl⟩ := hstep
      exact .other rfl rfl rfl rfl rfl
  | test hasClient =>
      obtain ⟨i, _, rfl⟩ := hstep
      exact .other rfl rfl rfl rfl rfl
  | reconnect ok =>
      obtain ⟨i, _, rfl⟩ := hstep
      exact .other rfl rfl rfl rfl rfl
  | read =>
      obtain ⟨i, topic, fields, a, unread, copy, relay, _, _, rfl⟩ := hstep
      exact .other rfl rfl rfl rfl rfl
  | publish delivered =>
      obtain ⟨i, topic, f, fields, copy, msg, _, _, _, rfl⟩ := hstep
      exact .other rfl rfl rfl rfl rfl
  | unprinted =>
      obtain ⟨i, topic, f, fields, copy, _, _, rfl⟩ := hstep
      exact .other rfl rfl rfl rfl rfl
  | unitDone =>
      obtain ⟨i, topic, unread, copy, _, rfl⟩ := hstep
      exact .other rfl rfl rfl rfl rfl
  | eventDone =>
      obtain ⟨i, _, rfl⟩ := hstep
      exact .other rfl rfl rfl rfl rfl
  | levels level =>
      obtain rfl := hstep
      exact .other rfl rfl rfl rfl rfl

theorem delivers_data {topic payload key : CStr}
    (hkey : MqttTopic.resolveKeyFromTopic topic = some (some key)) :
    (Label.data topic payload).delivers = some ⟨key, commandState payload⟩ := by
  unfold Label.delivers
  dsimp only
  rw [hkey]

/-- What a step delivers comes last, and what it executes was first. -/
theorem underWay_step (h : CommandStep s s' l) :
    l.executes.toList ++ underWay s' = underWay s ++ l.delivers.toList := by
  unfold underWay
  cases h with
  | @delivered topic payload key hkey hreceived hqueue hbefore hafter =>
      rw [delivers_data hkey, hreceived, hqueue, hbefore, hafter]
      show [] ++ (_ ++ [_]) = _ ++ [] ++ [_]
      rw [List.nil_append, List.append_nil]
  | @queued event hroom hreceived hqueue hbefore hafter =>
      rw [hreceived, hqueue, hbefore, hafter]
      show [] ++ (_ ++ (_ ++ [event]) ++ []) = _ ++ [event] ++ []
      rw [List.nil_append, List.append_nil, List.append_nil, List.append_assoc]
  | @received event hbefore hafter hqueue hclient =>
      rw [hbefore, hafter, hqueue, hclient]
      show [] ++ ([event] ++ _ ++ _) = [] ++ (event :: _) ++ _ ++ []
      rw [List.append_nil]
      rfl
  | @executed env event hbefore hafter hqueue hclient =>
      rw [hbefore, hafter, hqueue, hclient]
      show [event] ++ ([] ++ _ ++ _) = [event] ++ _ ++ _ ++ []
      rw [List.append_nil]
      rfl
  | other hdelivers hexecutes hreceived hqueue hclient =>
      rw [hdelivers, hexecutes, hreceived, hqueue, hclient]
      show [] ++ _ = _ ++ []
      rw [List.nil_append, List.append_nil]

/-- The queue is never longer than `xQueueCreate` has made it. -/
theorem length_mqttCommandQueue_step (hle : s.mqttCommandQueue.length ≤ mqttQueueLength)
    (h : CommandStep s s' l) : s'.mqttCommandQueue.length ≤ mqttQueueLength := by
  cases h with
  | delivered _ _ hqueue => rwa [hqueue]
  | queued hroom _ hqueue =>
      rw [hqueue, List.length_append]
      exact hroom
  | received _ _ hqueue =>
      rw [hqueue] at hle
      exact Nat.le_of_succ_le hle
  | executed _ _ hqueue => rwa [hqueue]
  | other _ _ _ hqueue => rwa [hqueue]

/-! ### Runs -/

theorem filterMap_append_singleton {α β : Type} (f : α → Option β) (l : List α) (a : α) :
    (l ++ [a]).filterMap f = l.filterMap f ++ (f a).toList := by
  rw [List.filterMap_append, List.filterMap_cons, List.filterMap_nil]
  cases f a <;> rfl

/-- The commands delivered are those executed and those under way, and the queue is within
    its length. -/
structure Accounted (ls : List Label) (s : State) : Prop where
  commands : ls.filterMap Label.delivers = ls.filterMap Label.executes ++ underWay s
  queue : s.mqttCommandQueue.length ≤ mqttQueueLength

theorem accounted_step (h : Accounted ls s) (hstep : step print s l s') :
    Accounted (ls ++ [l]) s' := by
  have hcommand := commandStep_of_step hstep
  refine ⟨?_, length_mqttCommandQueue_step h.queue hcommand⟩
  rw [filterMap_append_singleton, filterMap_append_singleton, h.commands, List.append_assoc,
    List.append_assoc, underWay_step hcommand]

theorem accounted_of_run (h : Run (pipeline print b) (start b) ls s) : Accounted ls s :=
  Run.invariant ⟨rfl, Nat.zero_le _⟩ (fun _ _ _ _ hinv hstep => accounted_step hinv hstep) h

theorem length_toList_le {α : Type} (o : Option α) : o.toList.length ≤ 1 := by
  cases o with
  | none => exact Nat.zero_le 1
  | some a => exact Nat.le_refl 1

/-- In every run the commands delivered are those executed and those under way, in this
    order: no command is lost, executed twice, or overtaken. At most twelve are under
    way. -/
theorem delivered_eq_executed_append (print : Print) (b : Board) (ls : List Label) (s : State)
    (h : Run (pipeline print b) (start b) ls s) :
    ls.filterMap Label.delivers = ls.filterMap Label.executes ++ underWay s ∧
      (underWay s).length ≤ 12 := by
  have hall := accounted_of_run h
  refine ⟨hall.commands, ?_⟩
  have hqueue : s.mqttCommandQueue.length ≤ 10 := hall.queue
  have hreceived := length_toList_le s.received
  have hclient := length_toList_le s.client.command
  unfold underWay
  rw [List.length_append, List.length_append]
  omega

/-- The topic on which the actuator of `onlineBoard` is commanded. -/
def onlineSetTopic : CStr := "relay_board/AABBCCDDEEFF/relay_ch_0/switch/set".toList

/-- A command on its way to the actuator, and executed. -/
theorem delivered_eq_executed_append_command :
    ∃ ls s, Run (pipeline (fun _ => none) onlineBoard) (start onlineBoard) ls s ∧
      underWay s = [] ∧ ls.filterMap Label.executes = [⟨chKey 0, .on⟩] := by
  have hkey : MqttTopic.resolveKeyFromTopic onlineSetTopic = some (some (chKey 0)) := by
    decide +kernel
  have h₀ : Run (pipeline (fun _ => none) onlineBoard) (start onlineBoard) [] _ := .nil
  have h₁ := h₀.snoc (l := Label.data onlineSetTopic "True".toList) ⟨_, rfl, hkey, rfl⟩
  have h₂ := h₁.snoc (l := Label.queueCommand) ⟨_, rfl, by decide, rfl⟩
  have h₃ := h₂.snoc (l := Label.receiveCommand) ⟨_, _, rfl, rfl, rfl, rfl⟩
  have h₄ := h₃.snoc (l := Label.command Env.ok ⟨chKey 0, .on⟩) ⟨_, _, rfl, rfl, by rfl, rfl⟩
  have hall := (delivered_eq_executed_append (fun _ => none) onlineBoard _ _ h₄).1
  have hdelivers : ([.data onlineSetTopic "True".toList, .queueCommand, .receiveCommand,
      .command Env.ok ⟨chKey 0, .on⟩] : List Label).filterMap Label.delivers =
        [⟨chKey 0, .on⟩] := by
    decide +kernel
  exact ⟨_, _, h₄, rfl, (List.append_nil _).symm.trans (hall.symm.trans hdelivers)⟩

end Publication
