import RelayBoard.Device.Coherence
import RelayBoard.Mqtt.CommandDelivery

/-! # The Last Command

  As long as no request changes an actuator, only commands do: contacts, connections,
  refreshes, publications and requests on sensors leave actuators and their records
  alone. So once the commands delivered have been executed every actuator has the state
  of the last command for it, in memory and in NVS.
-/

open CString Coherence Device LTS MqttQueue Relay Settings TopicBuffers UnitData Web

namespace Publication

/-! ### Last Commands -/

/-- The state that the last command for a key asks for. -/
def lastCommand (key : CStr) (events : List MqttCommandEvent) : Option RelayState :=
  (events.filter fun event => event.relayKey = key).getLast?.map MqttCommandEvent.state

theorem lastCommand_append_self {key : CStr} {event : MqttCommandEvent}
    (h : event.relayKey = key) (events : List MqttCommandEvent) :
    lastCommand key (events ++ [event]) = some event.state := by
  unfold lastCommand
  rw [List.filter_append, List.filter_cons_of_pos (by rw [decide_eq_true_eq]; exact h),
    List.filter_nil, List.getLast?_concat]
  rfl

theorem lastCommand_append_ne {key : CStr} {event : MqttCommandEvent}
    (h : event.relayKey ≠ key) (events : List MqttCommandEvent) :
    lastCommand key (events ++ [event]) = lastCommand key events := by
  unfold lastCommand
  rw [List.filter_append, List.filter_cons_of_neg (by rw [decide_eq_true_eq]; exact h),
    List.filter_nil, List.append_nil]

/-! ### What Leaves Actuators Alone -/

/-- The actuators and their records are the same. -/
structure SparesActuators (b b' : Board) : Prop where
  units : ∀ (i : Nat) relay, relay.type = .actuator → b.sUnits[i]? = some relay →
    b'.sUnits[i]? = some relay
  records : ∀ n, b'.nvs sNamespace (chKey n) = b.nvs sNamespace (chKey n)

variable {env : Env} {b b' b'' : Board} {relay relay' : RelayUnit} {err : EspErr}

theorem SparesActuators.refl (b : Board) : SparesActuators b b :=
  ⟨fun _ _ _ hget => hget, fun _ => rfl⟩

theorem SparesActuators.trans (h : SparesActuators b b') (h' : SparesActuators b' b'') :
    SparesActuators b b'' where
  units := fun i relay htype hget => h'.units i relay htype (h.units i relay htype hget)
  records := fun n => (h'.records n).trans (h.records n)

theorem sparesActuators_of_onlyGpio (h : OnlyGpio b b') : SparesActuators b b' := by
  obtain ⟨gpio, rfl⟩ := h
  exact ⟨fun _ _ _ hget => hget, fun _ => rfl⟩

theorem onlyGpio_of_init (h : relayGpioInit env b relay = (err, relay', b')) :
    OnlyGpio b b' := by
  have hgpio := relayGpioInit_onlyGpio env b relay
  rwa [h] at hgpio

/-- A sensor is replaced. -/
theorem sparesActuators_setUnit {i : Nat} (hget : b.sUnits[i]? = some relay)
    (htype : relay.type = .sensor) (relay' : RelayUnit) :
    SparesActuators b (b.setUnit i relay') := by
  refine ⟨?_, fun _ => rfl⟩
  intro j other hact hother
  have hne : i ≠ j := by
    rintro rfl
    rw [hget] at hother
    cases hother
    rw [htype] at hact
    cases hact
  show (b.sUnits.set i relay')[j]? = some other
  rw [List.getElem?_set_ne hne]
  exact hother

/-- The record of a sensor is written. -/
theorem sparesActuators_save {key : CStr} (hkey : getUnitNvsKey relay = some key)
    (htype : relay.type = .sensor)
    (h : saveRelayToNvs env b (some key) relay' = (err, b')) : SparesActuators b b' := by
  rcases saveRelayToNvs_cases h with ⟨_, _, rfl⟩ | ⟨_, _, rfl⟩
  · refine ⟨fun _ _ _ hget => hget, fun n => Nvs.set_ne _ _ _ _ _ ?_⟩
    obtain ⟨m, _, _, ⟨hact, _⟩ | ⟨_, rfl⟩⟩ := exists_of_getUnitNvsKey hkey
    · rw [htype] at hact
      cases hact
    · exact chKey_ne_snKey n m
  · exact SparesActuators.refl b'

theorem deinitSensor_spares (b : Board) (i : Nat) : SparesActuators b (deinitSensor b i) := by
  unfold deinitSensor
  split
  · next hget =>
      split
      · next htype => exact sparesActuators_setUnit hget htype _
      · exact SparesActuators.refl b
  · exact SparesActuators.refl b

/-- A contact changes a sensor. -/
theorem changeContact_spares {evt : GpioEvent} {i n m : Nat} (htab : LoadedTable b n m)
    (h : changeContact env b evt = some (i, b')) : SparesActuators b b' := by
  unfold changeContact at h
  split at h
  · cases h
  rw [getContactSensorList_loaded env htab] at h
  dsimp only at h
  split at h
  · cases h
  split at h
  · cases h
  · split at h
    · cases h
    · next relay hsensor =>
        cases h
        obtain ⟨hlt, hget⟩ := getElem?_sensors hsensor
        rw [htab.relays_count]
        -- a unit behind the actuators is a sensor
        obtain ⟨relay', hget', htype, _⟩ := htab.sensor _ hlt
        rw [hget] at hget'
        cases hget'
        exact sparesActuators_setUnit hget htype _

/-- So does a request on a sensor. -/
theorem applyUpdate_spares {serializes : Bool} {u : UnitUpdate} {i : Nat}
    {response : Response} (hget : b.sUnits[i]? = some relay) (htype : relay.type = .sensor)
    (hkey : getUnitNvsKey relay = some u.relayKey)
    (h : applyUpdate env serializes b u i relay = some (err, response, b')) :
    SparesActuators b b' := by
  obtain ⟨err₁, relay', b₁, hpersist, rfl, _⟩ := applyUpdate_eq_some h
  have hassigned := sparesActuators_setUnit hget htype (assignFields relay u)
  have hfound : (b.setUnit i (assignFields relay u)).sUnits[i]? = some (assignFields relay u) :=
    List.getElem?_set_self (List.getElem?_eq_some_iff.mp hget).1
  have htype' : (assignFields relay u).type = .sensor := htype
  have hspares : SparesActuators (b.setUnit i (assignFields relay u)) b₁ := by
    cases persists_of_persistUnit hpersist with
    | actuator hact hset =>
        rw [htype'] at hact
        cases hact
    | unsaved _ _ hsave => exact sparesActuators_save hkey htype hsave
    | saved _ _ hsave => exact sparesActuators_save hkey htype hsave
    | stuck _ _ _ hsave hinit =>
        exact (sparesActuators_save hkey htype hsave).trans
          (sparesActuators_of_onlyGpio (onlyGpio_of_init hinit))
    | moved _ _ hsave hinit hreg =>
        exact ((sparesActuators_save hkey htype hsave).trans
          (sparesActuators_of_onlyGpio (onlyGpio_of_init hinit))).trans
          (sparesActuators_of_onlyGpio (relaySensorRegisterIsr_onlyGpio hreg))
  -- what the save leaves is put back at the index
  obtain ⟨htable, hunit⟩ := persistUnit_frame hpersist
  refine hassigned.trans (hspares.trans (sparesActuators_setUnit ?_ htype' relay'))
  rw [htable.units]
  exact hfound

/-! ### Commands -/

theorem getRelayTypeFromKey_chKey (n : Nat) : getRelayTypeFromKey (chKey n) = some .actuator := by
  unfold getRelayTypeFromKey chKey
  rw [if_pos (List.take_left' rfl)]

theorem applyLevel_state {state : RelayState} {made : Bool}
    (h : applyLevel env b relay state made = (.ok, relay', b')) : relay'.state = state := by
  unfold applyLevel at h
  split at h
  · cases h
    exact unitWithState_state relay state made
  · cases h

theorem applyState_state {state : RelayState}
    (h : applyState env b relay state = (.ok, relay', b')) : relay'.state = state := by
  unfold applyState at h
  split at h
  · cases h
  · split at h
    · exact applyLevel_state h
    · split at h
      · exact applyLevel_state h
      · cases h

/-- A command finds no actuator, or sets the state of the one with its key. -/
theorem executeCommand_cases {event : MqttCommandEvent} {work : Work} {n m : Nat}
    (htab : LoadedTable b n m) (h : executeCommand env b event = some (work, b')) :
    (b' = b ∧ work.todo = [] ∧ ∀ relay ∈ b.sUnits, relay.type = .actuator →
      getRelayNvsKey relay.channel ≠ some event.relayKey) ∨
    ∃ i relay relay' b₁, b.sUnits[i]? = some relay ∧ relay.type = .actuator ∧
      getRelayNvsKey relay.channel = some event.relayKey ∧
      applyState env b relay event.state = (.ok, relay', b₁) ∧ work = ⟨i, stateWork⟩ ∧
      b' = b₁.setUnit i relay' := by
  -- an actuator is found under its key
  have hnone : ∀ err, getRelayActuatorFromMemoryByKey b event.relayKey = .error err →
      ∀ relay ∈ b.sUnits, relay.type = .actuator →
        getRelayNvsKey relay.channel ≠ some event.relayKey := by
    intro err herr relay hmem htype hkey
    have hunit : getUnitNvsKey relay = some event.relayKey := by
      unfold getUnitNvsKey
      rw [htype]
      exact hkey
    obtain ⟨i, hlookup⟩ := htab.lookup hmem hunit
    rw [htype] at hlookup
    rw [show getRelayFromMemoryByKey b .actuator event.relayKey =
      getRelayActuatorFromMemoryByKey b event.relayKey from rfl, herr] at hlookup
    cases hlookup
  unfold executeCommand at h
  split at h
  · split at h
    · next err hlookup =>
        cases h
        exact .inl ⟨rfl, rfl, hnone err hlookup⟩
    · next i hlookup =>
        obtain ⟨_, relay, hget, htype, hkey⟩ := getRelayActuatorFromMemoryByKey_eq_ok hlookup
        rw [hget] at h
        dsimp only at h
        split at h
        · next relay' b₁ happly =>
            cases h
            exact .inr ⟨i, relay, relay', b₁, hget, htype, hkey, happly, rfl, rfl⟩
        · cases h
  · next hother =>
      cases h
      refine .inl ⟨rfl, rfl, ?_⟩
      intro relay _ _ hkey
      obtain ⟨channel, _, _, hch⟩ := exists_of_getRelayNvsKey hkey
      refine hother ?_
      rw [hch]
      exact getRelayTypeFromKey_chKey channel

/-! ### What a Step Does to Actuators -/

variable {print : Print} {s s' s₁ : State} {l : Label} {ls : List Label} {t : Task}
  {work : Work} {i : Nat}

/-- No request changes an actuator. -/
def NoApply (s : State) : Prop := ∀ t, Action.apply ∉ (s.work t).todo

/-- The command task is about to write the record of the unit at an index. -/
structure SavePending (s : State) (i : Nat) : Prop where
  unit : (s.work .command).unit = i
  save : Action.save ∈ (s.work .command).todo

theorem NoApply.setWork (h : NoApply s₁) (hwork : Action.apply ∉ work.todo) :
    NoApply (s₁.setWork t work) := by
  intro t'
  show Action.apply ∉ (Function.update s₁.work t work t').todo
  rw [Function.update_apply]
  split
  · exact hwork
  · exact h t'

theorem SavePending.setWork (h : SavePending s₁ i)
    (hwork : t = .command → work.unit = i ∧ Action.save ∈ work.todo) :
    SavePending (s₁.setWork t work) i := by
  have hupdate : (s₁.setWork t work).work .command =
      if Task.command = t then work else s₁.work .command := Function.update_apply _ _ _ _
  constructor
  · rw [hupdate]
    split
    · next heq => exact (hwork heq.symm).1
    · exact h.unit
  · rw [hupdate]
    split
    · next heq => exact (hwork heq.symm).2
    · exact h.save

/-- What a step does to the actuators, when no request changes them. -/
inductive ActuatorStep (s s' : State) : Label → Prop where
  | command {env : Env} {event : MqttCommandEvent} (hidle : (s.work .command).todo = [])
      (hexec : executeCommand env s.board event = some (s'.work .command, s'.board)) :
      ActuatorStep s s' (.command env event)
  | save {t : Task} {env : Env} {j : Nat} {todo : List Action} {relay : RelayUnit} {key : CStr}
      (hwork : s.work t = ⟨j, .save :: todo⟩) (hget : s.board.sUnits[j]? = some relay)
      (hkey : getUnitNvsKey relay = some key)
      (hboard : s'.board =
        { s.board with nvs := Nvs.set s.board.nvs sNamespace key (.blob (storedCopy relay)) })
      (hothers : ∀ i, i ≠ j → SavePending s i → SavePending s' i) :
      ActuatorStep s s' (.save t env)
  | other {l : Label} (hexecutes : l.executes = none)
      (hspares : SparesActuators s.board s'.board)
      (hpending : ∀ i, SavePending s i → SavePending s' i) : ActuatorStep s s' l

/-- Work that is left is no more than there was, and has a save left if it had one. -/
theorem pending_of_work {todo todo' : List Action} (hwork : s.work t = ⟨i, todo⟩)
    (hsave : Action.save ∈ todo → Action.save ∈ todo') {j : Nat} (h : SavePending s j) :
    t = .command → (⟨i, todo'⟩ : Work).unit = j ∧ Action.save ∈ (⟨i, todo'⟩ : Work).todo := by
  rintro rfl
  have hunit := h.unit
  have hpending := h.save
  rw [hwork] at hunit hpending
  exact ⟨hunit, hsave hpending⟩

/-- A step that leaves the units, NVS and the work alone. -/
theorem ActuatorStep.same (hexecutes : l.executes = none)
    (hunits : s'.board.sUnits = s.board.sUnits) (hnvs : s'.board.nvs = s.board.nvs)
    (hwork : s'.work = s.work) (h : NoApply s) : NoApply s' ∧ ActuatorStep s s' l := by
  refine ⟨fun t => by rw [hwork]; exact h t, .other hexecutes ⟨?_, ?_⟩ ?_⟩
  · intro i relay _ hget
    rw [hunits]
    exact hget
  · intro n
    rw [hnvs]
  · intro i hpending
    exact ⟨by rw [hwork]; exact hpending.unit, by rw [hwork]; exact hpending.save⟩

theorem publishTurn_frame {subscribe : Bool}
    (h : publishTurn b relay = some (subscribe, b')) :
    b'.sUnits = b.sUnits ∧ b'.nvs = b.nvs := by
  unfold publishTurn at h
  split at h
  · cases h
    exact ⟨rfl, rfl⟩
  · obtain ⟨b₁, htrigger, hpair⟩ := Option.map_eq_some_iff.mp h
    cases hpair
    obtain rfl := trigger_eq_some htrigger
    exact ⟨rfl, rfl⟩

theorem actuatorStep_of_step {n m : Nat} (htab : LoadedTable s.board n m) (h : NoApply s)
    (hl : ∀ env req, l ≠ .update env req) (hstep : step print s l s') :
    NoApply s' ∧ ActuatorStep s s' l := by
  cases l with
  | command env event =>
      obtain ⟨work, b, _, hidle, hexec, rfl⟩ := hstep
      have hwork : Function.update s.work .command work .command = work :=
        Function.update_self Task.command work s.work
      refine ⟨NoApply.setWork h ?_, .command hidle ?_⟩
      · rcases executeCommand_cases htab hexec with ⟨_, htodo, _⟩ | ⟨i, _, _, _, _, _, _, _, rfl, _⟩
        · rw [htodo]
          exact List.not_mem_nil
        · exact (by decide : Action.apply ∉ stateWork)
      · show executeCommand env s.board event =
          some (Function.update s.work .command work .command, b)
        rw [hwork]
        exact hexec
  | save t env =>
      obtain ⟨j, todo, relay, key, err, b, hwork, hget, hkey, hsave, herr, rfl⟩ := hstep
      have hnot : Action.apply ∉ todo := by
        have hall := h t
        rw [hwork] at hall
        exact fun hmem => hall (List.mem_cons_of_mem _ hmem)
      refine ⟨NoApply.setWork h ?_, ?_⟩
      · show Action.apply ∉ (if err = EspErr.ok then todo else [])
        split
        · exact hnot
        · exact List.not_mem_nil
      · -- a command's unit is saved
        rcases saveRelayToNvs_cases hsave with ⟨_, rfl, rfl⟩ | ⟨_, rfl, rfl⟩
        · refine .save hwork hget hkey rfl ?_
          intro i hne hpending
          refine SavePending.setWork ⟨hpending.unit, hpending.save⟩ ?_
          rintro rfl
          have hunit := hpending.unit
          rw [hwork] at hunit
          exact absurd hunit.symm hne
        · refine .other rfl (SparesActuators.refl _) ?_
          intro i hpending
          refine SavePending.setWork ⟨hpending.unit, hpending.save⟩ ?_
          intro hcommand
          exact absurd (herr hcommand) (by decide)
  | check t =>
      obtain ⟨i, todo, mode, hwork, _, rfl⟩ := hstep
      have hnot : Action.apply ∉ todo := by
        have hall := h t
        rw [hwork] at hall
        exact fun hmem => hall (List.mem_cons_of_mem _ hmem)
      refine ⟨NoApply.setWork h ?_, .other rfl (SparesActuators.refl _) ?_⟩
      · show Action.apply ∉ (if _ then Action.send :: todo else todo)
        split
        · exact List.not_mem_cons_of_ne_of_not_mem (by decide) hnot
        · exact hnot
      · intro j hpending
        refine SavePending.setWork hpending (pending_of_work hwork ?_ hpending)
        intro hmem
        have hmem' := (List.mem_cons.mp hmem).resolve_left (by decide)
        split
        · exact List.mem_cons_of_mem _ hmem'
        · exact hmem'
  | send t =>
      obtain ⟨i, todo, relay, event, b, hwork, _, _, htrigger, rfl⟩ := hstep
      have hnot : Action.apply ∉ todo := by
        have hall := h t
        rw [hwork] at hall
        exact fun hmem => hall (List.mem_cons_of_mem _ hmem)
      obtain rfl := trigger_eq_some htrigger
      refine ⟨NoApply.setWork h hnot, .other rfl ⟨fun _ _ _ hget => hget, fun _ => rfl⟩ ?_⟩
      intro j hpending
      refine SavePending.setWork ⟨hpending.unit, hpending.save⟩ (pending_of_work hwork ?_ hpending)
      intro hmem
      exact (List.mem_cons.mp hmem).resolve_left (by decide)
  | apply t env =>
      obtain ⟨i, relay, err, relay', b, hwork, _, _, rfl⟩ := hstep
      have hall := h t
      rw [hwork] at hall
      exact absurd List.mem_cons_self hall
  | update env req => exact absurd rfl (hl env req)
  | contact env evt =>
      obtain ⟨i, b, _, hchange, rfl⟩ := hstep
      refine ⟨NoApply.setWork h (by decide : Action.apply ∉ contactWork),
        .other rfl (changeContact_spares htab hchange) ?_⟩
      intro j hpending
      exact SavePending.setWork ⟨hpending.unit, hpending.save⟩ fun heq => by cases heq
  | updateSensor env serializes req =>
      obtain ⟨u, i, relay, err, response, b, _, haccept, htype, happly, rfl⟩ := hstep
      obtain ⟨hget, hkey⟩ := acceptUpdate_eq_some haccept
      exact ⟨h, .other rfl (applyUpdate_spares hget htype hkey happly)
        fun i hpending => ⟨hpending.unit, hpending.save⟩⟩
  | eventDone =>
      obtain ⟨i, _, rfl⟩ := hstep
      exact ⟨h, .other rfl (deinitSensor_spares s.board i)
        fun i hpending => ⟨hpending.unit, hpending.save⟩⟩
  | clientTurn =>
      obtain ⟨i, relay, subscribe, b, _, _, hturn, rfl⟩ := hstep
      obtain ⟨hunits, hnvs⟩ := publishTurn_frame hturn
      exact ActuatorStep.same rfl hunits hnvs rfl h
  | refreshTurn =>
      obtain ⟨i, relay, subscribe, b, _, _, hturn, rfl⟩ := hstep
      obtain ⟨hunits, hnvs⟩ := publishTurn_frame hturn
      exact ActuatorStep.same rfl hunits hnvs rfl h
  -- the other steps are those of the client and of the publishing task
  | connected =>
      obtain ⟨_, rfl⟩ := hstep
      exact ActuatorStep.same rfl rfl rfl rfl h
  | ready =>
      obtain ⟨_, rfl⟩ := hstep
      exact ActuatorStep.same rfl rfl rfl rfl h
  | subscribed =>
      obtain ⟨i, _, rfl⟩ := hstep
      exact ActuatorStep.same rfl rfl rfl rfl h
  | handled =>
      obtain ⟨i, _, _, rfl⟩ := hstep
      exact ActuatorStep.same rfl rfl rfl rfl h
  | lost =>
      obtain rfl := hstep
      exact ActuatorStep.same rfl rfl rfl rfl h
  | data topic payload =>
      obtain ⟨key, _, _, rfl⟩ := hstep
      exact ActuatorStep.same rfl rfl rfl rfl h
  | queueCommand =>
      obtain ⟨event, _, _, rfl⟩ := hstep
      exact ActuatorStep.same rfl rfl rfl rfl h
  | receiveCommand =>
      obtain ⟨event, queue, _, _, _, rfl⟩ := hstep
      exact ActuatorStep.same rfl rfl rfl rfl h
  | refresh =>
      obtain ⟨_, rfl⟩ := hstep
      exact ActuatorStep.same rfl rfl rfl rfl h
  | refreshed =>
      obtain ⟨i, _, _, rfl⟩ := hstep
      exact ActuatorStep.same rfl rfl rfl rfl h
  | receive =>
      obtain ⟨event, queue, _, _, rfl⟩ := hstep
      exact ActuatorStep.same rfl rfl rfl rfl h
  | load =>
      obtain ⟨event, _, rfl⟩ := hstep
      exact ActuatorStep.same rfl rfl rfl rfl h
  | test hasClient =>
      obtain ⟨i, _, rfl⟩ := hstep
      exact ActuatorStep.same rfl rfl rfl rfl h
  | reconnect ok =>
      obtain ⟨i, _, rfl⟩ := hstep
      exact ActuatorStep.same rfl rfl rfl rfl h
  | read =>
      obtain ⟨i, topic, fields, a, unread, copy, relay, _, _, rfl⟩ := hstep
      exact ActuatorStep.same rfl rfl rfl rfl h
  | publish delivered =>
      obtain ⟨i, topic, f, fields, copy, msg, _, _, _, rfl⟩ := hstep
      exact ActuatorStep.same rfl rfl rfl rfl h
  | unprinted =>
      obtain ⟨i, topic, f, fields, copy, _, _, rfl⟩ := hstep
      exact ActuatorStep.same rfl rfl rfl rfl h
  | unitDone =>
      obtain ⟨i, topic, unread, copy, _, rfl⟩ := hstep
      exact ActuatorStep.same rfl rfl rfl rfl h
  | levels level =>
      obtain rfl := hstep
      exact ActuatorStep.same rfl rfl rfl rfl h

/-! ### Obedience -/

/-- The actuator at an index has a key and a state, and is recorded once the command task
    has written its record. -/
def Obeys (key : CStr) (i : Nat) (state : RelayState) (s : State) : Prop :=
  ∃ relay, s.board.sUnits[i]? = some relay ∧ relay.type = .actuator ∧
    getRelayNvsKey relay.channel = some key ∧ relay.state = state ∧
    (Recorded s.board.nvs relay ∨ SavePending s i)

theorem unitKey_actuator {key : CStr} (htype : relay.type = .actuator)
    (hkey : getRelayNvsKey relay.channel = some key) : getUnitNvsKey relay = some key := by
  unfold getUnitNvsKey
  rw [htype]
  exact hkey

/-- What is recorded is in a store with the same records. -/
theorem recorded_of_same {nvs nvs' : Nvs.Store RelayUnit} {key : CStr}
    (hkey : getUnitNvsKey relay = some key) (hsame : nvs' sNamespace key = nvs sNamespace key)
    (h : Recorded nvs relay) : Recorded nvs' relay := by
  obtain ⟨key', record, hkey', hstored, hunit, hstate⟩ := h
  rw [hkey] at hkey'
  cases hkey'
  exact ⟨key, record, hkey, hsame.trans hstored, hunit, hstate⟩

/-- The state of the last command after one more step. -/
def nextState (key : CStr) (state : RelayState) : Option MqttCommandEvent → RelayState
  | some event => if event.relayKey = key then event.state else state
  | none => state

theorem obeys_step {key : CStr} {state : RelayState} {n m : Nat}
    (htab : LoadedTable s.board n m) (h : Obeys key i state s) (hstep : ActuatorStep s s' l) :
    Obeys key i (nextState key state l.executes) s' := by
  obtain ⟨relay, hget, htype, hkey, hstate, hrecorded⟩ := h
  have hunitKey := unitKey_actuator htype hkey
  cases hstep with
  | @command env event hidle hexec =>
      have hstored : Recorded s.board.nvs relay := by
        refine hrecorded.resolve_right fun hpending => ?_
        have hsave := hpending.save
        rw [hidle] at hsave
        exact List.not_mem_nil hsave
      rcases executeCommand_cases htab hexec with
        ⟨hboard, _, hnone⟩ | ⟨j, other, other', b₁, hgetj, htypej, hkeyj, happly, hwork, hboard⟩
      · -- the command is for none of the actuators
        have hne : event.relayKey ≠ key := by
          rintro rfl
          exact hnone relay (List.mem_of_getElem? hget) htype hkey
        refine ⟨relay, by rw [hboard]; exact hget, htype, hkey, ?_, .inl ?_⟩
        · exact hstate.trans (if_neg hne).symm
        · rw [hboard]
          exact hstored
      · obtain ⟨hgpio, hsame⟩ := applyState_frame happly
        have hunits : s'.board.sUnits = s.board.sUnits.set j other' := by
          rw [hboard]
          show b₁.sUnits.set j other' = _
          rw [hgpio.sameTable.units]
        have hnvs : s'.board.nvs = s.board.nvs := by
          rw [hboard]
          exact hgpio.nvs
        by_cases hij : i = j
        · -- the command is for this actuator
          subst hij
          rw [hget] at hgetj
          cases hgetj
          rw [hkey] at hkeyj
          cases hkeyj
          refine ⟨other', units_replaced_self hunits hget, hsame.type.trans htype, ?_, ?_,
            .inr ⟨by rw [hwork], by rw [hwork]; exact (by decide : Action.save ∈ stateWork)⟩⟩
          · rw [hsame.channel]
            exact hkey
          · exact (applyState_state happly).trans (if_pos rfl).symm
        · have hne : event.relayKey ≠ key := by
            rintro rfl
            exact hij (index_inj htab hget hgetj hunitKey (unitKey_actuator htypej hkeyj))
          refine ⟨relay, (units_replaced_ne hunits hij).trans hget, htype, hkey, ?_, .inl ?_⟩
          · exact hstate.trans (if_neg hne).symm
          · rw [hnvs]
            exact hstored
  | @save t env j todo other keyj hwork hgetj hkeyj hboard hothers =>
      by_cases hij : i = j
      · -- the record is that of this actuator
        subst hij
        rw [hget] at hgetj
        cases hgetj
        rw [hunitKey] at hkeyj
        cases hkeyj
        refine ⟨relay, by rw [hboard]; exact hget, htype, hkey, hstate,
          .inl ⟨key, storedCopy relay, hunitKey, ?_, ⟨rfl, rfl, rfl, rfl, rfl⟩, rfl⟩⟩
        rw [hboard]
        exact Nvs.set_self _ _ _ _
      · have hne : key ≠ keyj := by
          rintro rfl
          exact hij (index_inj htab hget hgetj hunitKey hkeyj)
        refine ⟨relay, by rw [hboard]; exact hget, htype, hkey, hstate, ?_⟩
        refine hrecorded.imp (recorded_of_same hunitKey ?_) (hothers i hij)
        rw [hboard]
        exact Nvs.set_ne _ _ _ _ _ hne
  | other hexecutes hspares hpending =>
      rw [hexecutes]
      refine ⟨relay, hspares.units i relay htype hget, htype, hkey, hstate, ?_⟩
      refine hrecorded.imp (recorded_of_same hunitKey ?_) (hpending i)
      obtain ⟨channel, _, _, rfl⟩ := exists_of_getRelayNvsKey hkey
      exact hspares.records channel

/-! ### Runs -/

/-- What has been executed decides about an actuator, as long as no request has changed
    one. -/
def Followed (events : List RelayEvent) (mqttPrefix deviceId key : CStr) (i : Nat)
    (state : RelayState) (ls : List Label) (s : State) : Prop :=
  (∀ env req, Label.update env req ∉ ls) →
    Wired events mqttPrefix deviceId s ∧ NoApply s ∧
      Obeys key i ((lastCommand key (ls.filterMap Label.executes)).getD state) s

theorem nextState_lastCommand (key : CStr) (state : RelayState) (events : List MqttCommandEvent)
    (event : Option MqttCommandEvent) :
    nextState key ((lastCommand key events).getD state) event =
      (lastCommand key (events ++ event.toList)).getD state := by
  cases event with
  | none =>
      rw [Option.toList_none, List.append_nil]
      rfl
  | some event =>
      rw [Option.toList_some]
      by_cases h : event.relayKey = key
      · rw [lastCommand_append_self h]
        exact if_pos h
      · rw [lastCommand_append_ne h]
        exact if_neg h

theorem followed_of_run {events : List RelayEvent} {mqttPrefix deviceId key : CStr}
    {state : RelayState} (hwired : Wired events mqttPrefix deviceId (start b))
    (hobeys : Obeys key i state (start b)) (h : Run (pipeline print b) (start b) ls s) :
    Followed events mqttPrefix deviceId key i state ls s := by
  refine Run.invariant ?_ ?_ h
  · exact fun _ => ⟨hwired, fun _ => List.not_mem_nil, hobeys⟩
  · intro ls s l s' hinv hstep hrequests
    have hl : ∀ env req, l ≠ .update env req := by
      rintro env req rfl
      exact hrequests env req (List.mem_append_right ls List.mem_cons_self)
    obtain ⟨hwired, hnoApply, hobeys⟩ :=
      hinv fun env req hmem => hrequests env req (List.mem_append_left [l] hmem)
    obtain ⟨n, m, htab⟩ := hwired.board.table
    obtain ⟨hnoApply', hactuators⟩ := actuatorStep_of_step htab hnoApply hl hstep
    refine ⟨wired_step hwired hstep, hnoApply', ?_⟩
    rw [filterMap_append_singleton, ← nextState_lastCommand]
    exact obeys_step htab hobeys hactuators

/-- Once the commands delivered have been executed, every actuator has the state of the
    last one for its key, or its first state if there was none, and lies in NVS so. -/
theorem last_command_wins (print : Print) (b : Board) (mqttPrefix deviceId : CStr)
    (honline : Online b mqttPrefix deviceId)
    (hrecorded : ∀ relay ∈ b.sUnits, relay.type = .actuator → Recorded b.nvs relay)
    (ls : List Label) (s : State) (hrun : Run (pipeline print b) (start b) ls s)
    (hrequests : ∀ env req, Label.update env req ∉ ls)
    (hdone : underWay s = []) (hidle : (s.work .command).todo = []) :
    ∀ (i : Nat) relay key, b.sUnits[i]? = some relay → relay.type = .actuator →
      getRelayNvsKey relay.channel = some key →
      ∃ relay', s.board.sUnits[i]? = some relay' ∧
        relay'.state = (lastCommand key (ls.filterMap Label.delivers)).getD relay.state ∧
        Recorded s.board.nvs relay' := by
  intro i relay key hget htype hkey
  obtain ⟨events, hevents⟩ := honline.events
  have hobeys : Obeys key i relay.state (start b) :=
    ⟨relay, hget, htype, hkey, rfl, .inl (hrecorded relay (List.mem_of_getElem? hget) htype)⟩
  obtain ⟨_, _, relay', hget', _, _, hstate, hrecorded'⟩ :=
    followed_of_run (honline.wired hevents) hobeys hrun hrequests
  -- what has been executed is all that has been delivered
  have hall := (accounted_of_run hrun).commands
  rw [hdone, List.append_nil] at hall
  refine ⟨relay', hget', by rw [hall]; exact hstate, hrecorded'.resolve_right fun hpending => ?_⟩
  have hsave := hpending.save
  rw [hidle] at hsave
  exact List.not_mem_nil hsave

/-- `onlineBoard` with the record of its actuator. -/
def recordedBoard : Board :=
  { onlineBoard with
    nvs := Nvs.set onlineBoard.nvs sNamespace (chKey 0) (.blob (getActuatorRelay 0 0)) }

theorem recordedBoard_online :
    Online recordedBoard "relay_board".toList "AABBCCDDEEFF".toList where
  table := ⟨1, by decide, 0, by decide,
    (loadedTable_freshBoard 1 0).of_places rfl rfl rfl rfl⟩
  configured := ⟨by decide +kernel, by decide +kernel, by decide, by decide⟩
  mode := ⟨1, by decide +kernel, by decide⟩
  queue := rfl

/-- The actuator is switched on. -/
theorem last_command_wins_on :
    ∃ ls s relay, Run (pipeline (fun _ => none) recordedBoard) (start recordedBoard) ls s ∧
      s.board.sUnits[0]? = some relay ∧ relay.state = .on ∧ Recorded s.board.nvs relay := by
  have hkey : MqttTopic.resolveKeyFromTopic onlineSetTopic = some (some (chKey 0)) := by
    decide +kernel
  have hmode : Nvs.readUint16 recordedBoard.nvs sNamespace sKeyMqttConnect = .ok 1 :=
    Nvs.readUint16_eq_ok_iff.mpr (by decide +kernel)
  have h₀ : Run (pipeline (fun _ => none) recordedBoard) (start recordedBoard) [] _ := .nil
  have h₁ := h₀.snoc (l := Label.data onlineSetTopic "True".toList) ⟨_, rfl, hkey, rfl⟩
  have h₂ := h₁.snoc (l := Label.queueCommand) ⟨_, rfl, by decide, rfl⟩
  have h₃ := h₂.snoc (l := Label.receiveCommand) ⟨_, _, rfl, rfl, rfl, rfl⟩
  have h₄ := h₃.snoc (l := Label.command Env.ok ⟨chKey 0, .on⟩) ⟨_, _, rfl, rfl, by rfl, rfl⟩
  have h₅ := h₄.snoc (l := Label.check .command) ⟨0, [.save], 1, rfl, hmode, rfl⟩
  have h₆ := h₅.snoc (l := Label.save .command Env.ok)
    ⟨0, [], _, _, _, _, by rfl, by rfl, by rfl, by rfl, fun _ => rfl, rfl⟩
  have hrecorded : ∀ relay ∈ recordedBoard.sUnits, relay.type = .actuator →
      Recorded recordedBoard.nvs relay := by
    intro relay hmem _
    have heq : relay = getActuatorRelay 0 0 := List.mem_singleton.mp hmem
    subst heq
    have hstored := Nvs.set_self onlineBoard.nvs sNamespace (chKey 0) (.blob (getActuatorRelay 0 0))
    exact ⟨chKey 0, getActuatorRelay 0 0, rfl, hstored, ⟨rfl, rfl, rfl, rfl, rfl⟩, rfl⟩
  obtain ⟨relay, hget, hstate, hrecorded'⟩ := last_command_wins (fun _ => none) recordedBoard _ _
    recordedBoard_online hrecorded _ _ h₆ (by simp) rfl rfl 0 (getActuatorRelay 0 0) (chKey 0)
    rfl rfl rfl
  refine ⟨_, _, relay, h₆, hget, hstate.trans ?_, hrecorded'⟩
  decide +kernel

end Publication
