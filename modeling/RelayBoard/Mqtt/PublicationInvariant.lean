import RelayBoard.Device.Contact
import RelayBoard.Mqtt.Publication

/-! # What the Pipeline Keeps

  No step changes the type or the channel of a unit, or a setting that topics are made
  of, so the events of the units stay what they are, every event under way is one of
  them, and messages are published under the topics of their units.
-/

open CString Device LTS MqttQueue Relay Settings TopicBuffers UnitData Web

namespace Publication

/-! ### Changes of One Unit -/

/-- The places of the units and the settings are the same. -/
structure Stable (b b' : Board) : Prop where
  places : b'.sUnits.map RelayUnit.place = b.sUnits.map RelayUnit.place
  units_in_memory : b'.unitsInMemory = b.unitsInMemory
  relays_count : b'.sRelaysCount = b.sRelaysCount
  sensors_count : b'.sSensorsCount = b.sSensorsCount
  settings : ∀ key ∈ settingKeys, b'.nvs sNamespace key = b.nvs sNamespace key

/-- Besides, no task has been signalled. -/
structure Touched (b b' : Board) : Prop extends Stable b b' where
  queue : b'.mqttEventQueue = b.mqttEventQueue
  connected : b'.mqttConnected = b.mqttConnected
  ready : b'.mqttReady = b.mqttReady

variable {env : Env} {b b' b'' : Board} {relay relay' : RelayUnit} {err : EspErr}

theorem Stable.refl (b : Board) : Stable b b := ⟨rfl, rfl, rfl, rfl, fun _ _ => rfl⟩

theorem Touched.refl (b : Board) : Touched b b := ⟨Stable.refl b, rfl, rfl, rfl⟩

theorem Stable.trans (h : Stable b b') (h' : Stable b' b'') : Stable b b'' where
  places := h'.places.trans h.places
  units_in_memory := h'.units_in_memory.trans h.units_in_memory
  relays_count := h'.relays_count.trans h.relays_count
  sensors_count := h'.sensors_count.trans h.sensors_count
  settings := fun key hkey => (h'.settings key hkey).trans (h.settings key hkey)

theorem Touched.trans (h : Touched b b') (h' : Touched b' b'') : Touched b b'' where
  toStable := h.toStable.trans h'.toStable
  queue := h'.queue.trans h.queue
  connected := h'.connected.trans h.connected
  ready := h'.ready.trans h.ready

theorem Touched.isMqttReady (h : Touched b b') : b'.isMqttReady = b.isMqttReady := by
  unfold Board.isMqttReady
  rw [h.connected, h.ready]

theorem Stable.length (h : Stable b b') : b'.sUnits.length = b.sUnits.length := by
  have hlength := congrArg List.length h.places
  simpa using hlength

theorem touched_of_onlyGpio (h : OnlyGpio b b') : Touched b b' := by
  obtain ⟨gpio, rfl⟩ := h
  exact ⟨⟨rfl, rfl, rfl, rfl, fun _ _ => rfl⟩, rfl, rfl, rfl⟩

/-- A unit replaced by one of its type and channel. -/
theorem touched_setUnit {i : Nat} (hget : b.sUnits[i]? = some relay)
    (hplace : relay'.place = relay.place) : Touched b (b.setUnit i relay') where
  places := map_set_of_eq RelayUnit.place hget hplace
  units_in_memory := rfl
  relays_count := rfl
  sensors_count := rfl
  settings := fun _ _ => rfl
  queue := rfl
  connected := rfl
  ready := rfl

theorem place_of_sameUnit (h : SameUnit relay relay') : relay'.place = relay.place := by
  unfold RelayUnit.place
  rw [h.type, h.channel]

/-- A record lies under no key of a setting. -/
theorem touched_save {key : CStr} (hkey : getUnitNvsKey relay = some key)
    (h : saveRelayToNvs env b (some key) relay' = (err, b')) : Touched b b' := by
  rcases saveRelayToNvs_cases h with ⟨_, _, rfl⟩ | ⟨_, _, rfl⟩
  · refine ⟨⟨rfl, rfl, rfl, rfl, ?_⟩, rfl, rfl, rfl⟩
    intro setting hsetting
    refine Nvs.set_ne _ _ _ _ _ ?_
    obtain ⟨n, _, _, ⟨_, rfl⟩ | ⟨_, rfl⟩⟩ := exists_of_getUnitNvsKey hkey
    · exact (settingKey_ne_unitKey hsetting n).1
    · exact (settingKey_ne_unitKey hsetting n).2
  · exact Touched.refl b'

theorem relayGpioInit_touched (h : relayGpioInit env b relay = (err, relay', b')) :
    Touched b b' := by
  have hgpio := relayGpioInit_onlyGpio env b relay
  rw [h] at hgpio
  exact touched_of_onlyGpio hgpio

theorem applyLevel_frame {state : RelayState} {made : Bool}
    (h : applyLevel env b relay state made = (err, relay', b')) :
    OnlyGpio b b' ∧ SameUnit relay relay' := by
  have hgpio := gpioSetLevel_onlyGpio env b relay.gpioPin (xor state.toBool relay.inverted)
  unfold applyLevel at h
  split at h
  · next hlevel =>
      cases h
      rw [hlevel] at hgpio
      exact ⟨hgpio, unitWithState_sameUnit relay state made⟩
  · next hlevel =>
      cases h
      rw [hlevel] at hgpio
      exact ⟨hgpio, relayGpioDeinit_sameUnit relay⟩

/-- Up to the publishing `relay_set_state` changes pins, and the unit's state. -/
theorem applyState_frame {state : RelayState}
    (h : applyState env b relay state = (err, relay', b')) :
    OnlyGpio b b' ∧ SameUnit relay relay' := by
  unfold applyState at h
  split at h
  · cases h
    exact ⟨OnlyGpio.refl b, SameUnit.refl relay⟩
  · split at h
    · exact applyLevel_frame h
    · have hgpio := relayGpioInit_onlyGpio env b relay
      split at h
      · next hinit =>
          rw [hinit] at hgpio
          obtain ⟨hlevel, hunit⟩ := applyLevel_frame h
          exact ⟨hgpio.trans hlevel, (relayGpioInit_frame hinit).2.trans hunit⟩
      · next hinit =>
          cases h
          rw [hinit] at hgpio
          exact ⟨hgpio, (relayGpioInit_frame hinit).2⟩

/-- The unit that `relay_set_state` changes is put back at its index. -/
theorem touched_applyState {state : RelayState} {i : Nat}
    (hget : b.sUnits[i]? = some relay)
    (h : applyState env b relay state = (err, relay', b')) : Touched b (b'.setUnit i relay') := by
  obtain ⟨hgpio, hunit⟩ := applyState_frame h
  refine (touched_of_onlyGpio hgpio).trans (touched_setUnit ?_ (place_of_sameUnit hunit))
  rw [hgpio.sameTable.units]
  exact hget

theorem place_assignFields (relay : RelayUnit) (u : UnitUpdate) :
    (assignFields relay u).place = relay.place := rfl

/-! ### Operations -/

theorem executeCommand_touched {event : MqttCommandEvent} {work : Work}
    (h : executeCommand env b event = some (work, b')) : Touched b b' := by
  unfold executeCommand at h
  split at h
  · split at h
    · cases h
      exact Touched.refl b
    · split at h
      · cases h
        exact Touched.refl b
      · next hget =>
          split at h
          · next happly =>
              cases h
              exact touched_applyState hget happly
          · cases h
  · cases h
    exact Touched.refl b

/-- A sensor of the table changes its state. -/
theorem changeContact_cases {evt : GpioEvent} {i n m : Nat} (htab : LoadedTable b n m)
    (h : changeContact env b evt = some (i, b')) :
    ∃ relay state, b.sUnits[i]? = some relay ∧ b' = b.setUnit i { relay with state := state } := by
  unfold changeContact at h
  split at h
  · cases h
  rw [getContactSensorList_loaded env htab] at h
  dsimp only at h
  split at h
  · cases h
  split at h
  · cases h
  · next k _ =>
      split at h
      · cases h
      · next relay hsensor =>
          cases h
          refine ⟨relay, _, ?_, rfl⟩
          rw [htab.relays_count]
          exact (getElem?_sensors hsensor).2

/-- An accepted request has found its unit by its key. -/
theorem acceptUpdate_eq_some {req : Request} {u : UnitUpdate} {i : Nat}
    (h : acceptUpdate env b req = some (u, i, relay)) :
    b.sUnits[i]? = some relay ∧ getUnitNvsKey relay = some u.relayKey := by
  have hres : resolveUpdate b req = .ok (u, i, relay) := by
    unfold acceptUpdate at h
    split at h
    · cases h
    · next hres =>
        rw [hres]
        split at h
        · cases h
          rfl
        · split at h
          · cases h
            rfl
          · cases h
  obtain ⟨_, hlookup, hget⟩ := resolveUpdate_eq_ok hres
  exact ⟨hget, (getRelayFromMemoryByKey_eq_ok hlookup hget).2⟩

/-- A request on a sensor replaces it and writes its record. -/
theorem applyUpdate_touched {serializes : Bool} {u : UnitUpdate} {i : Nat}
    {response : Response} (hget : b.sUnits[i]? = some relay) (htype : relay.type = .sensor)
    (hkey : getUnitNvsKey relay = some u.relayKey)
    (h : applyUpdate env serializes b u i relay = some (err, response, b')) :
    Touched b b' := by
  obtain ⟨err₁, relay', b₁, hpersist, rfl, _⟩ := applyUpdate_eq_some h
  have hassigned := touched_setUnit hget (place_assignFields relay u)
  have hfound : (b.setUnit i (assignFields relay u)).sUnits[i]? = some (assignFields relay u) :=
    List.getElem?_set_self (List.getElem?_eq_some_iff.mp hget).1
  have htouched : Touched (b.setUnit i (assignFields relay u)) b₁ := by
    cases persists_of_persistUnit hpersist with
    | actuator hact hset =>
        rw [show (assignFields relay u).type = relay.type from rfl, htype] at hact
        cases hact
    | unsaved _ _ hsave => exact touched_save hkey hsave
    | saved _ _ hsave => exact touched_save hkey hsave
    | stuck _ _ _ hsave hinit =>
        exact (touched_save hkey hsave).trans (relayGpioInit_touched hinit)
    | moved _ _ hsave hinit hreg =>
        exact ((touched_save hkey hsave).trans (relayGpioInit_touched hinit)).trans
          (touched_of_onlyGpio (relaySensorRegisterIsr_onlyGpio hreg))
  -- what the save leaves is put back at the index
  obtain ⟨htable, hunit⟩ := persistUnit_frame hpersist
  refine hassigned.trans (htouched.trans (touched_setUnit ?_ (place_of_sameUnit hunit)))
  rw [htable.units]
  exact hfound

theorem deinitSensor_touched (b : Board) (i : Nat) : Touched b (deinitSensor b i) := by
  unfold deinitSensor
  split
  · next relay hget =>
      split
      · exact touched_setUnit hget (place_of_sameUnit (relayGpioDeinit_sameUnit relay))
      · exact Touched.refl b
  · exact Touched.refl b

/-! ### Events of the Units -/

/-- The event on a unit of a type and a channel. -/
def eventOfPlace (place : RelayType × Int) : Option RelayEvent :=
  eventOf { RelayUnit.zero with type := place.1, channel := place.2 }

/-- A table whose units have these events, and settings under which MQTT is used. -/
structure WiredBoard (events : List RelayEvent) (mqttPrefix deviceId : CStr) (b : Board) :
    Prop where
  table : ∃ n m, LoadedTable b n m
  events : b.sUnits.map eventOf = events.map some
  configured : Configured b.nvs mqttPrefix deviceId
  mode : ∃ mode : Nat, b.nvs sNamespace sKeyMqttConnect = some (.u16 mode) ∧ mode ≠ 0

section board
variable {events : List RelayEvent} {mqttPrefix deviceId : CStr}

theorem WiredBoard.stable (h : WiredBoard events mqttPrefix deviceId b) (hsame : Stable b b') :
    WiredBoard events mqttPrefix deviceId b' := by
  obtain ⟨n, m, htab⟩ := h.table
  refine ⟨⟨n, m, ?_⟩, ?_, ?_, ?_⟩
  · exact htab.of_places hsame.units_in_memory hsame.relays_count hsame.sensors_count
      hsame.places
  · -- the events are those of the places
    have hplaces := congrArg (List.map eventOfPlace) hsame.places
    rw [List.map_map, List.map_map] at hplaces
    exact hplaces.trans h.events
  · refine ⟨?_, ?_, h.configured.mqttShort, h.configured.idLength⟩
    · rw [hsame.settings _ (by decide)]
      exact h.configured.mqttStored
    · rw [hsame.settings _ (by decide)]
      exact h.configured.idStored
  · rw [hsame.settings _ (by decide)]
    exact h.mode

theorem WiredBoard.length (h : WiredBoard events mqttPrefix deviceId b) :
    b.sUnits.length = events.length := by
  have hlength := congrArg List.length h.events
  simpa using hlength

/-- Every unit has its event. -/
theorem WiredBoard.event (h : WiredBoard events mqttPrefix deviceId b) {i : Nat}
    (hget : b.sUnits[i]? = some relay) :
    ∃ event, events[i]? = some event ∧ eventOf relay = some event := by
  have hmap : (b.sUnits.map eventOf)[i]? = some (eventOf relay) := by
    rw [List.getElem?_map, hget]
    rfl
  rw [h.events, List.getElem?_map] at hmap
  obtain ⟨event, hevent, heq⟩ := Option.map_eq_some_iff.mp hmap
  exact ⟨event, hevent, heq.symm⟩

/-- Every event is that of a unit. -/
theorem WiredBoard.unit (h : WiredBoard events mqttPrefix deviceId b) {i : Nat}
    {event : RelayEvent} (hevent : events[i]? = some event) :
    ∃ relay, b.sUnits[i]? = some relay ∧ eventOf relay = some event := by
  have hmap : (events.map some)[i]? = some (some event) := by
    rw [List.getElem?_map, hevent]
    rfl
  rw [← h.events, List.getElem?_map] at hmap
  exact Option.map_eq_some_iff.mp hmap

theorem eventOf_eq_some {event : RelayEvent} (h : eventOf relay = some event) :
    getUnitNvsKey relay = some event.relayKey ∧ relay.type = event.relayType := by
  unfold eventOf at h
  obtain ⟨key, hkey, rfl⟩ := Option.map_eq_some_iff.mp h
  exact ⟨hkey, rfl⟩

/-- A table has one unit of a key. -/
theorem index_inj {n m : Nat} (htab : LoadedTable b n m) {i j : Nat} {key : CStr}
    (hi : b.sUnits[i]? = some relay) (hj : b.sUnits[j]? = some relay')
    (hkey : getUnitNvsKey relay = some key) (hkey' : getUnitNvsKey relay' = some key) :
    i = j := by
  obtain ⟨htype, hchannel⟩ := eq_of_key hkey hkey'
  rcases htab.cases hi with ⟨_, hact, hch⟩ | ⟨k, _, hk, hsens, hch⟩
  · rcases htab.cases hj with ⟨_, _, hch'⟩ | ⟨_, _, _, hsens', _⟩
    · omega
    · rw [htype, hsens'] at hact
      cases hact
  · rcases htab.cases hj with ⟨_, hact', _⟩ | ⟨k', _, hk', _, hch'⟩
    · rw [htype, hact'] at hsens
      cases hsens
    · omega

theorem getRelayFromMemoryByKey_found {type : RelayType} {key : CStr} {i : Nat}
    (h : getRelayFromMemoryByKey b type key = .ok i) : ∃ relay, b.sUnits[i]? = some relay := by
  cases type with
  | actuator =>
      obtain ⟨_, relay, hget, _⟩ := getRelayActuatorFromMemoryByKey_eq_ok h
      exact ⟨relay, hget⟩
  | sensor =>
      obtain ⟨_, relay, hget, _⟩ := getRelaySensorFromMemoryByKey_eq_ok h
      exact ⟨relay, hget⟩

/-- The lookup finds the unit of an event. -/
theorem WiredBoard.lookup (h : WiredBoard events mqttPrefix deviceId b) {event : RelayEvent}
    (hmem : event ∈ events) :
    ∃ i, events[i]? = some event ∧
      getRelayFromMemoryByKey b event.relayType event.relayKey = .ok i := by
  obtain ⟨n, m, htab⟩ := h.table
  obtain ⟨j, hj⟩ := List.getElem?_of_mem hmem
  obtain ⟨relay, hget, heq⟩ := h.unit hj
  obtain ⟨hkey, htype⟩ := eventOf_eq_some heq
  obtain ⟨i, hlookup⟩ := htab.lookup (List.mem_of_getElem? hget) hkey
  rw [htype] at hlookup
  obtain ⟨relay', hget'⟩ := getRelayFromMemoryByKey_found hlookup
  obtain ⟨htype', hkey'⟩ := getRelayFromMemoryByKey_eq_ok hlookup hget'
  obtain ⟨event', hevent', heq'⟩ := h.event hget'
  -- a unit found under key and type of the event has that event
  have hsame : event' = event := by
    obtain ⟨hk, ht⟩ := eventOf_eq_some heq'
    rw [hkey'] at hk
    cases event
    cases event'
    cases hk
    cases htype'.symm.trans ht
    rfl
  exact ⟨i, hsame ▸ hevent', hlookup⟩

end board

/-! ### Invariant -/

/-- The topic of the unit of an event. -/
def eventTopic (mqttPrefix deviceId : CStr) (event : RelayEvent) : CStr :=
  unitTopic mqttPrefix deviceId event.relayKey (haDeviceStatePath event.relayType)

/-- The publishing task is at work on a unit, under the topic of that unit. -/
def WiredPc (events : List RelayEvent) (mqttPrefix deviceId : CStr) : EventPc → Prop
  | .receiving => True
  | .received event => event ∈ events
  | .loaded i => ∃ event, events[i]? = some event
  | .reconnecting i => ∃ event, events[i]? = some event
  | .publishing i topic _ _ _ =>
      ∃ event, events[i]? = some event ∧ topic = eventTopic mqttPrefix deviceId event
  | .published _ => True

/-- Every event under way is that of a unit. -/
structure Wired (events : List RelayEvent) (mqttPrefix deviceId : CStr) (s : State) :
    Prop where
  board : WiredBoard events mqttPrefix deviceId s.board
  queued : s.board.mqttEventQueue ⊆ events
  eventTask : WiredPc events mqttPrefix deviceId s.eventTask

section wired
variable {events : List RelayEvent} {mqttPrefix deviceId : CStr} {s s' : State}

theorem Wired.touched (h : Wired events mqttPrefix deviceId s)
    (hboard : Touched s.board s'.board) (htask : s'.eventTask = s.eventTask) :
    Wired events mqttPrefix deviceId s' := by
  refine ⟨h.board.stable hboard.toStable, ?_, ?_⟩
  · rw [hboard.queue]
    exact h.queued
  · rw [htask]
    exact h.eventTask

/-- An event of a unit is put in the queue. -/
theorem trigger_eq_some {event : RelayEvent} (h : trigger b event = some b') :
    b' = { b with mqttEventQueue := b.mqttEventQueue ++ [event] } := by
  unfold trigger at h
  split at h
  · cases h
    rfl
  · cases h

theorem Wired.trigger (h : Wired events mqttPrefix deviceId s) {i : Nat}
    (hget : s.board.sUnits[i]? = some relay) {event : RelayEvent}
    (hevent : eventOf relay = some event) (hb : Publication.trigger s.board event = some b)
    (hboard : s'.board = b) (htask : s'.eventTask = s.eventTask) :
    Wired events mqttPrefix deviceId s' := by
  obtain ⟨event', hin, heq⟩ := h.board.event hget
  rw [hevent] at heq
  cases heq
  obtain rfl := trigger_eq_some hb
  refine ⟨?_, ?_, ?_⟩
  · rw [hboard]
    exact h.board.stable ⟨rfl, rfl, rfl, rfl, fun _ _ => rfl⟩
  · rw [hboard]
    refine List.append_subset.mpr ⟨h.queued, ?_⟩
    intro event' hmem
    rw [List.mem_singleton.mp hmem]
    exact List.mem_of_getElem? hin
  · rw [htask]
    exact h.eventTask

/-- Every unit of the table has its turn, and its event is sent. -/
theorem publishTurn_eq_some (h : WiredBoard events mqttPrefix deviceId b) {i : Nat}
    (hget : b.sUnits[i]? = some relay) {subscribe : Bool}
    (hturn : publishTurn b relay = some (subscribe, b')) :
    subscribe = true ∧ ∃ event, eventOf relay = some event ∧ trigger b event = some b' := by
  obtain ⟨event, _, heq⟩ := h.event hget
  unfold publishTurn at hturn
  rw [heq] at hturn
  obtain ⟨b₁, hb₁, hpair⟩ := Option.map_eq_some_iff.mp hturn
  cases hpair
  exact ⟨rfl, event, heq, hb₁⟩

/-- The settings can be read and the unit has a key. -/
theorem startPublishing_eq (h : WiredBoard events mqttPrefix deviceId b) {i : Nat}
    {event : RelayEvent} (hevent : events[i]? = some event) :
    startPublishing b i = .publishing i (eventTopic mqttPrefix deviceId event) Field.all
      (readsNext Field.all) RelayUnit.zero := by
  obtain ⟨relay, hget, heq⟩ := h.unit hevent
  unfold startPublishing
  rw [readString_of_some h.configured.mqttStored, readString_of_some h.configured.idStored, hget,
    Option.bind_some, heq]
  rfl

/-- The test of the client lets the task publish, or there is no connection. -/
theorem checkClient_cases (h : WiredBoard events mqttPrefix deviceId b) (hasClient : Bool)
    (i : Nat) :
    (hasClient && b.mqttConnected) = true ∧ checkClient b hasClient i = startPublishing b i ∨
      (hasClient && b.mqttConnected) = false ∧
        (checkClient b hasClient i = .reconnecting i ∨
          checkClient b hasClient i = .published i) := by
  obtain ⟨mode, hmode, hne⟩ := h.mode
  have hmin : ¬ (mode : Int) < mqttConnModeNoReconnect := by
    unfold mqttConnModeNoReconnect
    omega
  unfold checkClient
  rw [Nvs.readUint16_eq_ok_iff.mpr hmode]
  dsimp only
  rw [if_neg hmin]
  cases hasClient && b.mqttConnected with
  | true => exact .inl ⟨rfl, if_pos rfl⟩
  | false =>
      refine .inr ⟨rfl, ?_⟩
      rw [if_neg Bool.false_ne_true]
      split
      · exact .inl rfl
      · exact .inr rfl

/-- Every step keeps events and topics. -/
theorem wired_step {print : Print} {l : Label} (h : Wired events mqttPrefix deviceId s)
    (hstep : step print s l s') : Wired events mqttPrefix deviceId s' := by
  obtain ⟨n, m, htab⟩ := h.board.table
  have hstable : ∀ {b₁ : Board}, Stable s.board b₁ → WiredBoard events mqttPrefix deviceId b₁ :=
    fun hsame => h.board.stable hsame
  cases l with
  | connected =>
      obtain ⟨_, rfl⟩ := hstep
      exact ⟨hstable ⟨rfl, rfl, rfl, rfl, fun _ _ => rfl⟩, h.queued, h.eventTask⟩
  | ready =>
      obtain ⟨_, rfl⟩ := hstep
      exact ⟨hstable ⟨rfl, rfl, rfl, rfl, fun _ _ => rfl⟩, h.queued, h.eventTask⟩
  | clientTurn =>
      obtain ⟨i, relay, subscribe, b, _, hget, hturn, rfl⟩ := hstep
      obtain ⟨_, event, hevent, htrigger⟩ := publishTurn_eq_some h.board hget hturn
      exact h.trigger hget hevent htrigger rfl rfl
  | subscribed =>
      obtain ⟨i, _, rfl⟩ := hstep
      exact h.touched (Touched.refl _) rfl
  | handled =>
      obtain ⟨i, _, _, rfl⟩ := hstep
      exact h.touched (Touched.refl _) rfl
  | lost =>
      obtain rfl := hstep
      exact ⟨hstable ⟨rfl, rfl, rfl, rfl, fun _ _ => rfl⟩, h.queued, h.eventTask⟩
  | data topic data =>
      obtain ⟨key, _, _, rfl⟩ := hstep
      exact h.touched (Touched.refl _) rfl
  | queueCommand =>
      obtain ⟨event, _, _, rfl⟩ := hstep
      exact h.touched (Touched.refl _) rfl
  | receiveCommand =>
      obtain ⟨event, queue, _, _, _, rfl⟩ := hstep
      exact h.touched (Touched.refl _) rfl
  | command env event =>
      obtain ⟨work, b, _, _, hexec, rfl⟩ := hstep
      exact h.touched (executeCommand_touched hexec) rfl
  | contact env evt =>
      obtain ⟨i, b, _, hchange, rfl⟩ := hstep
      obtain ⟨relay, state, hget, rfl⟩ := changeContact_cases htab hchange
      exact h.touched (touched_setUnit hget rfl) rfl
  | update env req =>
      obtain ⟨u, i, relay, _, haccept, _, rfl⟩ := hstep
      have hget := (acceptUpdate_eq_some haccept).1
      exact h.touched (touched_setUnit hget (place_assignFields relay u)) rfl
  | updateSensor env serializes req =>
      obtain ⟨u, i, relay, err, response, b, _, haccept, htype, happly, rfl⟩ := hstep
      obtain ⟨hget, hkey⟩ := acceptUpdate_eq_some haccept
      exact h.touched (applyUpdate_touched hget htype hkey happly) rfl
  | apply t env =>
      obtain ⟨i, relay, err, relay', b, _, hget, happly, rfl⟩ := hstep
      exact h.touched (touched_applyState hget happly) rfl
  | check t =>
      obtain ⟨i, todo, mode, _, _, rfl⟩ := hstep
      exact h.touched (Touched.refl _) rfl
  | send t =>
      obtain ⟨i, todo, relay, event, b, _, hget, hevent, htrigger, rfl⟩ := hstep
      exact h.trigger hget hevent htrigger rfl rfl
  | save t env =>
      obtain ⟨i, todo, relay, key, err, b, _, hget, hkey, hsave, _, rfl⟩ := hstep
      exact h.touched (touched_save hkey hsave) rfl
  | refresh =>
      obtain ⟨_, rfl⟩ := hstep
      exact h.touched (Touched.refl _) rfl
  | refreshTurn =>
      obtain ⟨i, relay, subscribe, b, _, hget, hturn, rfl⟩ := hstep
      obtain ⟨_, event, hevent, htrigger⟩ := publishTurn_eq_some h.board hget hturn
      exact h.trigger hget hevent htrigger rfl rfl
  | refreshed =>
      obtain ⟨i, _, _, rfl⟩ := hstep
      exact h.touched (Touched.refl _) rfl
  | receive =>
      obtain ⟨event, queue, _, hqueue, rfl⟩ := hstep
      have hin := h.queued
      rw [hqueue, List.cons_subset] at hin
      exact ⟨hstable ⟨rfl, rfl, rfl, rfl, fun _ _ => rfl⟩, hin.2, hin.1⟩
  | load =>
      obtain ⟨event, htask, rfl⟩ := hstep
      have hmem : event ∈ events := by
        have := h.eventTask
        rwa [htask] at this
      obtain ⟨i, hi, hlookup⟩ := h.board.lookup hmem
      refine ⟨h.board, h.queued, ?_⟩
      dsimp only
      rw [hlookup]
      exact ⟨event, hi⟩
  | test hasClient =>
      obtain ⟨i, htask, rfl⟩ := hstep
      have hpc := h.eventTask
      rw [htask] at hpc
      obtain ⟨event, hevent⟩ := hpc
      refine ⟨h.board, h.queued, ?_⟩
      dsimp only
      rcases checkClient_cases h.board hasClient i with ⟨_, heq⟩ | ⟨_, heq | heq⟩
      · rw [heq, startPublishing_eq h.board hevent]
        exact ⟨event, hevent, rfl⟩
      · rw [heq]
        exact ⟨event, hevent⟩
      · rw [heq]
        trivial
  | reconnect ok =>
      obtain ⟨i, htask, rfl⟩ := hstep
      have hpc := h.eventTask
      rw [htask] at hpc
      obtain ⟨event, hevent⟩ := hpc
      refine ⟨h.board, h.queued, ?_⟩
      dsimp only
      cases ok with
      | true =>
          rw [if_pos rfl, startPublishing_eq h.board hevent]
          exact ⟨event, hevent, rfl⟩
      | false => trivial
  | read =>
      obtain ⟨i, topic, fields, a, unread, copy, relay, htask, _, rfl⟩ := hstep
      have hpc := h.eventTask
      rw [htask] at hpc
      exact ⟨h.board, h.queued, hpc⟩
  | publish delivered =>
      obtain ⟨i, topic, f, fields, copy, msg, htask, _, _, rfl⟩ := hstep
      have hpc := h.eventTask
      rw [htask] at hpc
      exact ⟨h.board, h.queued, hpc⟩
  | unprinted =>
      obtain ⟨i, topic, f, fields, copy, htask, _, rfl⟩ := hstep
      have hpc := h.eventTask
      rw [htask] at hpc
      exact ⟨h.board, h.queued, hpc⟩
  | unitDone =>
      obtain ⟨i, topic, unread, copy, _, rfl⟩ := hstep
      exact ⟨h.board, h.queued, trivial⟩
  | eventDone =>
      obtain ⟨i, _, rfl⟩ := hstep
      have htouched := deinitSensor_touched s.board i
      refine ⟨h.board.stable htouched.toStable, ?_, trivial⟩
      rw [htouched.queue]
      exact h.queued
  | levels level =>
      obtain rfl := hstep
      exact h.touched (touched_of_onlyGpio ⟨_, rfl⟩) rfl

end wired

/-! ### Devices That Use MQTT -/

/-- A device whose units are in memory and that uses MQTT. -/
structure Online (b : Board) (mqttPrefix deviceId : CStr) : Prop where
  table : ∃ n ≤ 15, ∃ m ≤ 8, LoadedTable b n m
  configured : Configured b.nvs mqttPrefix deviceId
  mode : ∃ mode : Nat, b.nvs sNamespace sKeyMqttConnect = some (.u16 mode) ∧ mode ≠ 0
  queue : b.mqttEventQueue = []

section online
variable {b : Board} {mqttPrefix deviceId : CStr}

/-- All units have their events. -/
theorem Online.events (h : Online b mqttPrefix deviceId) :
    ∃ events : List RelayEvent, b.sUnits.map eventOf = events.map some := by
  obtain ⟨n, hn, m, hm, htab⟩ := h.table
  have hall : ∀ relay ∈ b.sUnits, ∃ event, eventOf relay = some event := by
    intro relay hmem
    obtain ⟨key, hkey⟩ := htab.key (by omega) (by omega) hmem
    exact ⟨⟨key, relay.type⟩, by unfold eventOf; rw [hkey]; rfl⟩
  generalize b.sUnits = units at hall
  induction units with
  | nil => exact ⟨[], rfl⟩
  | cons relay units ih =>
      obtain ⟨event, hevent⟩ := hall relay List.mem_cons_self
      obtain ⟨events, hevents⟩ := ih fun r hr => hall r (List.mem_cons_of_mem relay hr)
      refine ⟨event :: events, ?_⟩
      rw [List.map_cons, List.map_cons, hevent, hevents]

/-- The pipeline starts wired. -/
theorem Online.wired (h : Online b mqttPrefix deviceId) {events : List RelayEvent}
    (hevents : b.sUnits.map eventOf = events.map some) :
    Wired events mqttPrefix deviceId (start b) := by
  obtain ⟨n, _, m, _, htab⟩ := h.table
  refine ⟨⟨⟨n, m, htab⟩, hevents, h.configured, h.mode⟩, ?_, trivial⟩
  show b.mqttEventQueue ⊆ events
  rw [h.queue]
  exact List.nil_subset events

end online

/-- A board with one actuator, and MQTT without reconnection. -/
def onlineBoard : Board :=
  { freshBoard 1 0 with
    nvs := Nvs.setAll Nvs.empty sNamespace [(sKeyMqttConnect, .u16 1),
      (sKeyMqttPrefix, .str "relay_board".toList), (sKeyDeviceId, .str "AABBCCDDEEFF".toList)] }

end Publication
