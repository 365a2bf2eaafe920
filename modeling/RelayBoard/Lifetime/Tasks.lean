import RelayBoard.Boot.Restart
import RelayBoard.Mqtt.PublicationInvariant

/-! # The Tasks of a Device at Work

  No step of any task of a running device, whatever its calls answer, takes a unit out
  of the table or moves it to a pin that is not safe, and what is written of the units
  are their own records.
-/

open Boot CString Device LTS Publication Relay Settings Web

namespace Lifetime

variable {env : Env} {counts : Counts} {b b' : Board} {relay relay' : RelayUnit} {err : EspErr}

/-! ### Parts of Steps -/

theorem keeps_of_trigger (h : Serving counts b) {event : RelayEvent}
    (hsend : trigger b event = some b') : Keeps counts b b' := by
  obtain rfl := trigger_eq_some hsend
  exact h.same ⟨rfl, rfl, rfl, rfl⟩ rfl

theorem keeps_of_publishTurn (h : Serving counts b) {subscribe : Bool}
    (hturn : publishTurn b relay = some (subscribe, b')) : Keeps counts b b' := by
  unfold publishTurn at hturn
  split at hturn
  · cases hturn
    exact h.keeps
  · obtain ⟨b₁, hsend, hpair⟩ := Option.map_eq_some_iff.mp hturn
    cases hpair
    exact keeps_of_trigger h hsend

/-- The unit that `relay_set_state` changes is put back at its index. -/
theorem keeps_of_applyState (h : Serving counts b) {state : RelayState} {i : Nat}
    (hget : b.sUnits[i]? = some relay)
    (happly : applyState env b relay state = (err, relay', b')) :
    Keeps counts b (b'.setUnit i relay') := by
  obtain ⟨hgpio, hunit⟩ := applyState_frame happly
  have hkeeps := h.onlyGpio hgpio
  refine hkeeps.trans (hkeeps.serving.setUnit ?_ (place_of_sameUnit hunit) ?_)
  · rw [hgpio.sameTable.units]
    exact hget
  · rw [hunit.gpio_pin]
    exact h.pins relay (List.mem_of_getElem? hget)

theorem keeps_of_executeCommand (h : Serving counts b) {event : MqttCommandEvent}
    {work : Work} (hexec : executeCommand env b event = some (work, b')) :
    Keeps counts b b' := by
  unfold executeCommand at hexec
  split at hexec
  · split at hexec
    · cases hexec
      exact h.keeps
    · split at hexec
      · cases hexec
        exact h.keeps
      · next hget =>
          split at hexec
          · next happly =>
              cases hexec
              exact keeps_of_applyState h hget happly
          · cases hexec
  · cases hexec
    exact h.keeps

/-- An accepted request asks for a safe pin, or for none. -/
theorem acceptUpdate_pin {req : Request} {u : UnitUpdate} {i : Nat}
    (haccept : acceptUpdate env b req = some (u, i, relay))
    (hpin : relay.gpioPin ∈ safeGpioPins) : (assignFields relay u).gpioPin ∈ safeGpioPins := by
  unfold acceptUpdate at haccept
  split at haccept
  · cases haccept
  · split at haccept
    · next hnone =>
        cases haccept
        show u.relayGpioPin.getD relay.gpioPin ∈ safeGpioPins
        rw [hnone]
        exact hpin
    · next pin hsome =>
        rw [checkGpioPin_eq] at haccept
        split at haccept
        · next hcheck =>
            cases haccept
            show u.relayGpioPin.getD relay.gpioPin ∈ safeGpioPins
            rw [hsome]
            split at hcheck
            · next hsafe => exact isGpioSafe_iff.mp hsafe
            · cases hcheck
        · cases haccept

/-- A request on a sensor assigns its fields and saves it. -/
theorem keeps_of_applyUpdate (h : Serving counts b) {serializes : Bool} {u : UnitUpdate}
    {i : Nat} {response : Response} (hget : b.sUnits[i]? = some relay)
    (htype : relay.type = .sensor) (hkey : getUnitNvsKey relay = some u.relayKey)
    (hpin : (assignFields relay u).gpioPin ∈ safeGpioPins)
    (happly : applyUpdate env serializes b u i relay = some (err, response, b')) :
    Keeps counts b b' := by
  obtain ⟨err₁, relay', b₁, hpersist, rfl, _⟩ := applyUpdate_eq_some happly
  have hassigned := h.setUnit hget (place_assignFields relay u) hpin
  have hfound : (b.setUnit i (assignFields relay u)).sUnits[i]? = some (assignFields relay u) :=
    List.getElem?_set_self (List.getElem?_eq_some_iff.mp hget).1
  have hkey' : getUnitNvsKey (assignFields relay u) = some u.relayKey := hkey
  have hsaved : ∀ {err : EspErr} {b₂ : Board},
      saveRelayToNvs env (b.setUnit i (assignFields relay u)) (some u.relayKey)
        (assignFields relay u) = (err, b₂) → Keeps counts b b₂ :=
    fun hsave => hassigned.trans (hassigned.serving.save hfound rfl hpin hkey' hsave)
  have hinited : ∀ {err : EspErr} {relay₂ : RelayUnit} {b₂ b₃ : Board}, Keeps counts b b₂ →
      relayGpioInit env b₂ (assignFields relay u) = (err, relay₂, b₃) → Keeps counts b b₃ := by
    intro err relay₂ b₂ b₃ hkeeps hinit
    have hgpio := relayGpioInit_onlyGpio env b₂ (assignFields relay u)
    rw [hinit] at hgpio
    exact hkeeps.trans (hkeeps.serving.onlyGpio hgpio)
  have hkeeps : Keeps counts b b₁ := by
    cases persists_of_persistUnit hpersist with
    | actuator hact _ => exact absurd (htype.symm.trans hact) (by decide)
    | unsaved _ _ hsave => exact hsaved hsave
    | saved _ _ hsave => exact hsaved hsave
    | stuck _ _ _ hsave hinit => exact hinited (hsaved hsave) hinit
    | moved _ _ hsave hinit hreg =>
        have hmoved := hinited (hsaved hsave) hinit
        exact hmoved.trans (hmoved.serving.onlyGpio (relaySensorRegisterIsr_onlyGpio hreg))
  -- what the save leaves is put back at the index
  obtain ⟨htable, hunit⟩ := persistUnit_frame hpersist
  refine hkeeps.trans (hkeeps.serving.setUnit ?_ (place_of_sameUnit hunit)
    (by rw [hunit.gpio_pin]; exact hpin))
  rw [htable.units]
  exact hfound

theorem keeps_of_deinitSensor (h : Serving counts b) (i : Nat) :
    Keeps counts b (deinitSensor b i) := by
  unfold deinitSensor
  split
  · next relay hget =>
      have hunit := relayGpioDeinit_sameUnit relay
      split
      · refine h.setUnit hget (place_of_sameUnit hunit) ?_
        rw [hunit.gpio_pin]
        exact h.pins relay (List.mem_of_getElem? hget)
      · exact h.keeps
  · exact h.keeps

/-! ### Steps -/

/-- **Step lemma**: every step of every task keeps the device at work and the settings. -/
theorem keeps_step {print : Print} {s s' : State} {l : Publication.Label}
    (h : Serving counts s.board) (hstep : step print s l s') :
    Keeps counts s.board s'.board := by
  have hsame : ∀ {connected ready : Bool} {queue : List RelayEvent},
      Keeps counts s.board { s.board with
        mqttConnected := connected, mqttReady := ready, mqttEventQueue := queue } :=
    h.same ⟨rfl, rfl, rfl, rfl⟩ rfl
  cases l with
  | connected =>
      obtain ⟨_, rfl⟩ := hstep
      exact hsame
  | ready =>
      obtain ⟨_, rfl⟩ := hstep
      exact hsame
  | clientTurn =>
      obtain ⟨i, relay, subscribe, b, _, _, hturn, rfl⟩ := hstep
      exact keeps_of_publishTurn h hturn
  | lost =>
      obtain rfl := hstep
      exact hsame
  | command env event =>
      obtain ⟨work, b, _, _, hexec, rfl⟩ := hstep
      exact keeps_of_executeCommand h hexec
  | contact env evt =>
      obtain ⟨i, b, _, hchange, rfl⟩ := hstep
      obtain ⟨relay, state, hget, rfl⟩ := changeContact_cases h.table hchange
      exact h.setUnit hget rfl (h.pins relay (List.mem_of_getElem? hget))
  | update env req =>
      obtain ⟨u, i, relay, _, haccept, _, rfl⟩ := hstep
      have hget := (acceptUpdate_eq_some haccept).1
      exact h.setUnit hget (place_assignFields relay u)
        (acceptUpdate_pin haccept (h.pins relay (List.mem_of_getElem? hget)))
  | updateSensor env serializes req =>
      obtain ⟨u, i, relay, err, response, b, _, haccept, htype, happly, rfl⟩ := hstep
      obtain ⟨hget, hkey⟩ := acceptUpdate_eq_some haccept
      exact keeps_of_applyUpdate h hget htype hkey
        (acceptUpdate_pin haccept (h.pins relay (List.mem_of_getElem? hget))) happly
  | apply t env =>
      obtain ⟨i, relay, err, relay', b, _, hget, happly, rfl⟩ := hstep
      exact keeps_of_applyState h hget happly
  | send t =>
      obtain ⟨i, todo, relay, event, b, _, _, _, htrigger, rfl⟩ := hstep
      exact keeps_of_trigger h htrigger
  | save t env =>
      obtain ⟨i, todo, relay, key, err, b, _, hget, hkey, hsave, _, rfl⟩ := hstep
      exact h.save hget rfl (h.pins relay (List.mem_of_getElem? hget)) hkey hsave
  | refreshTurn =>
      obtain ⟨i, relay, subscribe, b, _, _, hturn, rfl⟩ := hstep
      exact keeps_of_publishTurn h hturn
  | receive =>
      obtain ⟨event, queue, _, _, rfl⟩ := hstep
      exact hsame
  | eventDone =>
      obtain ⟨i, _, rfl⟩ := hstep
      exact keeps_of_deinitSensor h i
  | levels level =>
      obtain rfl := hstep
      exact h.onlyGpio ⟨_, rfl⟩
  -- the other steps leave the board
  | subscribed =>
      obtain ⟨i, _, rfl⟩ := hstep
      exact h.keeps
  | handled =>
      obtain ⟨i, _, _, rfl⟩ := hstep
      exact h.keeps
  | data topic payload =>
      obtain ⟨key, _, _, rfl⟩ := hstep
      exact h.keeps
  | queueCommand =>
      obtain ⟨event, _, _, rfl⟩ := hstep
      exact h.keeps
  | receiveCommand =>
      obtain ⟨event, queue, _, _, _, rfl⟩ := hstep
      exact h.keeps
  | check t =>
      obtain ⟨i, todo, mode, _, _, rfl⟩ := hstep
      exact h.keeps
  | refresh =>
      obtain ⟨_, rfl⟩ := hstep
      exact h.keeps
  | refreshed =>
      obtain ⟨i, _, _, rfl⟩ := hstep
      exact h.keeps
  | load =>
      obtain ⟨event, _, rfl⟩ := hstep
      exact h.keeps
  | test hasClient =>
      obtain ⟨i, _, rfl⟩ := hstep
      exact h.keeps
  | reconnect ok =>
      obtain ⟨i, _, rfl⟩ := hstep
      exact h.keeps
  | read =>
      obtain ⟨i, topic, fields, a, unread, copy, relay, _, _, rfl⟩ := hstep
      exact h.keeps
  | publish delivered =>
      obtain ⟨i, topic, f, fields, copy, msg, _, _, _, rfl⟩ := hstep
      exact h.keeps
  | unprinted =>
      obtain ⟨i, topic, f, fields, copy, _, _, rfl⟩ := hstep
      exact h.keeps
  | unitDone =>
      obtain ⟨i, topic, unread, copy, _, rfl⟩ := hstep
      exact h.keeps

end Lifetime
