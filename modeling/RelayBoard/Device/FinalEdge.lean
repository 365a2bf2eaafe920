import RelayBoard.Device.SensorEvents

/-! # The Final Edge

  A burst of edges on a sensor's pin, with events that are dropped by the full
  queue or by the debounce check. When the task has handled all that is left,
  the sensor's state is that of the level, unless the event of an edge was
  dropped with no other event on its way that stands for the new level.
-/

open Boot CString Device LTS Relay Settings

namespace FinalEdge

/-! ### System -/

/-- A device that has booted after any history, with a driver that does not fail. -/
def edgeSystem : System EventState EventLabel where
  init := fun s => ∃ b₀ env newDeviceId newDeviceSerial gpio b,
    Reachable Completeness.deviceSystem b₀ ∧ env.driver = Gpio.Driver.ok ∧
    appMain env newDeviceId newDeviceSerial b₀.nvs gpio = some b ∧ s = booted b
  step := eventStep

/-! ### Properties -/

/-- The queue is empty, and the task waits. -/
def AtRest (s : EventState) : Prop := s.task = .waiting ∧ s.gpioEvtQueue = []

instance (s : EventState) : Decidable (AtRest s) := inferInstanceAs (Decidable (_ ∧ _))

/-- The sensor at an index of the table has the state of the level of its pin. -/
def Settled (i : Nat) (s : EventState) : Prop :=
  ∀ relay, s.board.sUnits[i]? = some relay → relay.type = .sensor →
    relay.state = sensorState (s.board.gpio.level relay.gpioPin) relay

/-- No sensor before the index is on the pin. -/
def firstOnPin (b : Board) (i : Nat) (pin : Int) : Bool :=
  (b.sUnits.take i).all fun other => !(other.type = .sensor && other.gpioPin = pin)

/-- The state the unit at an index has once the task has finished what it has accepted. -/
def finalState (s : EventState) (i : Nat) (relay : RelayUnit) : RelayState :=
  match s.task with
  | .accepted evt =>
      if evt.gpioNum = relay.gpioPin ∧ firstOnPin s.board i relay.gpioPin = true then
        sensorState evt.level relay
      else relay.state
  | _ => relay.state

/-- The events that wait for their debounce check. -/
def unchecked (s : EventState) : List GpioEvent :=
  match s.task with
  | .debouncing evt => evt :: s.gpioEvtQueue
  | _ => s.gpioEvtQueue

/-- An edge of the sensor's pin is not lost: the sensor has the state of the new level
    already, or the task finds the sensor by its pin, and there is room in the queue or
    an event of the new level waits for its check. -/
def Kept (i : Nat) (s : EventState) (l : EventLabel) : Prop :=
  ∀ pin relay, l = .edge pin → s.board.sUnits[i]? = some relay → relay.type = .sensor →
    relay.gpioPin = pin →
    finalState s i relay = sensorState (!s.board.gpio.level pin) relay ∨
      firstOnPin s.board i pin = true ∧
        (s.gpioEvtQueue.length < gpioEvtQueueLength ∨
          ⟨pin, !s.board.gpio.level pin⟩ ∈ unchecked s)

/-- A step of the task. -/
def TaskStep (s s' : EventState) : Prop :=
  ∃ l, (∀ pin, l ≠ .edge pin) ∧ eventStep s l s'

/-! ### Lost Edges -/

/-- The sensor will not have the state of the level, whatever the task still does. -/
def Lost (i : Nat) (s : EventState) : Prop :=
  ∃ relay, s.board.sUnits[i]? = some relay ∧ relay.type = .sensor ∧
    finalState s i relay ≠ sensorState (s.board.gpio.level relay.gpioPin) relay ∧
    (firstOnPin s.board i relay.gpioPin = true →
      ⟨relay.gpioPin, s.board.gpio.level relay.gpioPin⟩ ∉ unchecked s)

variable {i : Nat} {s s' : EventState} {b b' : Board} {relay : RelayUnit}

theorem lost_iff (hget : s.board.sUnits[i]? = some relay) (htype : relay.type = .sensor) :
    Lost i s ↔ finalState s i relay ≠ sensorState (s.board.gpio.level relay.gpioPin) relay ∧
      (firstOnPin s.board i relay.gpioPin = true →
        ⟨relay.gpioPin, s.board.gpio.level relay.gpioPin⟩ ∉ unchecked s) := by
  constructor
  · rintro ⟨other, hother, _, hlost⟩
    rw [hget] at hother
    cases hother
    exact hlost
  · intro hlost
    exact ⟨relay, hget, htype, hlost⟩

/-- At rest nothing is left to do for the task. -/
theorem settled_iff (h : AtRest s) : Settled i s ↔ ¬ Lost i s := by
  obtain ⟨htask, hqueue⟩ := h
  have hfinal : ∀ relay, finalState s i relay = relay.state := by
    intro relay
    simp [finalState, htask]
  have hnone : unchecked s = [] := by simp [unchecked, htask, hqueue]
  constructor
  · rintro hsettled ⟨relay, hget, htype, hstate, _⟩
    rw [hfinal] at hstate
    exact hstate (hsettled relay hget htype)
  · intro hnot relay hget htype
    by_contra hstate
    refine hnot ⟨relay, hget, htype, ?_, ?_⟩
    · rwa [hfinal]
    · simp [hnone]

theorem firstOnPin_iff {pin : Int} : firstOnPin b i pin = true ↔
    ∀ (j : Nat) other, j < i → b.sUnits[j]? = some other → other.type = .sensor →
      other.gpioPin ≠ pin := by
  unfold firstOnPin
  rw [List.all_eq_true]
  constructor
  · intro hall j other hj hget htype hpin
    have hmem : other ∈ b.sUnits.take i := by
      apply List.mem_of_getElem? (i := j)
      rw [List.getElem?_take_of_lt hj]
      exact hget
    simpa [htype, hpin] using hall other hmem
  · intro hfirst other hmem
    obtain ⟨j, hget⟩ := List.getElem?_of_mem hmem
    have hj : j < i := by
      have := (List.getElem?_eq_some_iff.mp hget).1
      rw [List.length_take] at this
      omega
    rw [List.getElem?_take_of_lt hj] at hget
    by_cases htype : other.type = .sensor
    · simpa [htype] using hfirst j other hj hget htype
    · simp [htype]

/-! ### Invariant -/

theorem listening_init (h : edgeSystem.init s) : Listening s.board ∧ ¬ Lost i s := by
  obtain ⟨b₀, env, newDeviceId, newDeviceSerial, gpio, b, hreach, hdriver, hboot, rfl⟩ := h
  obtain ⟨book, hstored, hsafe, _⟩ := Completeness.inv_of_reachable hreach
  have hinputs := appMain_inputs hstored hsafe hboot
  refine ⟨⟨⟨_, _, hinputs.table⟩, fun relay hmem htype =>
    (hinputs.listens hdriver relay hmem htype).1⟩, ?_⟩
  rw [← settled_iff ⟨rfl, rfl⟩]
  intro relay hget htype
  exact (hinputs.listens hdriver relay (List.mem_of_getElem? hget) htype).2

/-! ### Steps -/

/-- Pins and types are all that matters for the first sensor on a pin. -/
theorem firstOnPin_congr {pin : Int}
    (h : b'.sUnits.map (fun relay => (relay.type, relay.gpioPin)) =
      b.sUnits.map (fun relay => (relay.type, relay.gpioPin))) :
    firstOnPin b' i pin = firstOnPin b i pin := by
  have hmap : ∀ b : Board, firstOnPin b i pin =
      ((b.sUnits.map fun relay => (relay.type, relay.gpioPin)).take i).all
        fun p => !(p.1 = .sensor && p.2 = pin) := by
    intro b
    rw [← List.map_take, List.all_map]
    rfl
  rw [hmap, hmap, h]

/-- An edge adds its event to those that wait, if its handler runs and finds room. -/
theorem mem_unchecked_edge (s : EventState) {pin : Int} {evt : GpioEvent} :
    evt ∈ unchecked (edge s pin) ↔ evt ∈ unchecked s ∨
      (interrupts (flipLevel s.board pin).gpio pin = true ∧
        s.gpioEvtQueue.length < gpioEvtQueueLength) ∧
        evt = gpioEvent (flipLevel s.board pin).gpio pin := by
  have hqueue : evt ∈ (edge s pin).gpioEvtQueue ↔ evt ∈ s.gpioEvtQueue ∨
      (interrupts (flipLevel s.board pin).gpio pin = true ∧
        s.gpioEvtQueue.length < gpioEvtQueueLength) ∧
        evt = gpioEvent (flipLevel s.board pin).gpio pin := by
    unfold edge gpioIsrHandler
    dsimp only
    split
    · next hrun =>
        split
        · next hroom => simp [hrun, hroom]
        · next hfull => simp [hfull]
    · next hnot => simp [hnot]
  have htask : (edge s pin).task = s.task := rfl
  unfold unchecked
  rw [htask]
  cases s.task <;> simp [hqueue, or_assoc]

theorem kept_iff (hget : s.board.sUnits[i]? = some relay) (htype : relay.type = .sensor) :
    Kept i s (.edge relay.gpioPin) ↔
      finalState s i relay = sensorState (!s.board.gpio.level relay.gpioPin) relay ∨
        firstOnPin s.board i relay.gpioPin = true ∧
          (s.gpioEvtQueue.length < gpioEvtQueueLength ∨
            ⟨relay.gpioPin, !s.board.gpio.level relay.gpioPin⟩ ∈ unchecked s) := by
  constructor
  · intro hkept
    exact hkept _ relay rfl hget htype rfl
  · rintro hkept pin other hpin hother _ rfl
    rw [hget] at hother
    cases hother
    exact hkept

/-- An edge on the sensor's pin is lost exactly when it is not kept. -/
theorem lost_edge_iff (h : Listening s.board) (hget : s.board.sUnits[i]? = some relay)
    (htype : relay.type = .sensor) :
    Lost i (edge s relay.gpioPin) ↔ ¬ Kept i s (.edge relay.gpioPin) := by
  have hlistens := h.listens relay (List.mem_of_getElem? hget) htype
  have hrun : interrupts (flipLevel s.board relay.gpioPin).gpio relay.gpioPin = true := by
    show (s.board.gpio.isr relay.gpioPin &&
      decide (s.board.gpio.mode relay.gpioPin = .input)) = true
    simp [hlistens.isr, hlistens.mode]
  have hlevel : (flipLevel s.board relay.gpioPin).gpio.level relay.gpioPin =
      !s.board.gpio.level relay.gpioPin := flipLevel_self s.board relay.gpioPin
  -- the handler samples the new level
  have hevent : gpioEvent (flipLevel s.board relay.gpioPin).gpio relay.gpioPin =
      ⟨relay.gpioPin, !s.board.gpio.level relay.gpioPin⟩ := by
    unfold gpioEvent
    rw [(h.flipLevel relay.gpioPin).getLevel hget htype, hlevel]
  rw [lost_iff (s := edge s relay.gpioPin) hget htype, kept_iff hget htype]
  show finalState s i relay ≠
      sensorState ((flipLevel s.board relay.gpioPin).gpio.level relay.gpioPin) relay ∧
    (firstOnPin s.board i relay.gpioPin = true →
      ⟨relay.gpioPin, (flipLevel s.board relay.gpioPin).gpio.level relay.gpioPin⟩ ∉
        unchecked (edge s relay.gpioPin)) ↔ _
  rw [hlevel, mem_unchecked_edge, hevent]
  simp only [hrun, true_and, and_true]
  tauto

/-- An edge on another pin does not matter to the sensor. -/
theorem lost_edge_ne {pin : Int} (hget : s.board.sUnits[i]? = some relay)
    (htype : relay.type = .sensor) (hne : relay.gpioPin ≠ pin) :
    Lost i (edge s pin) ↔ Lost i s := by
  have hlevel : (flipLevel s.board pin).gpio.level relay.gpioPin =
      s.board.gpio.level relay.gpioPin := flipLevel_ne s.board hne
  have hmem : ∀ level, ⟨relay.gpioPin, level⟩ ∈ unchecked (edge s pin) ↔
      ⟨relay.gpioPin, level⟩ ∈ unchecked s := by
    intro level
    rw [mem_unchecked_edge]
    simp [gpioEvent, hne]
  rw [lost_iff (s := edge s pin) hget htype, lost_iff hget htype]
  show finalState s i relay ≠
      sensorState ((flipLevel s.board pin).gpio.level relay.gpioPin) relay ∧
    (firstOnPin s.board i relay.gpioPin = true →
      ⟨relay.gpioPin, (flipLevel s.board pin).gpio.level relay.gpioPin⟩ ∉
        unchecked (edge s pin)) ↔ _
  rw [hlevel, hmem]

/-- Taking an event out of the queue loses nothing. -/
theorem lost_receive {evt : GpioEvent} {rest : List GpioEvent} (htask : s.task = .waiting)
    (hqueue : s.gpioEvtQueue = evt :: rest) :
    Lost i { s with gpioEvtQueue := rest, task := .debouncing evt } ↔ Lost i s := by
  unfold Lost finalState unchecked
  simp [htask, hqueue]

/-- Before the check the event is still one of those that wait. -/
theorem lost_debouncing_iff {evt : GpioEvent} (htask : s.task = .debouncing evt)
    (hget : s.board.sUnits[i]? = some relay) (htype : relay.type = .sensor) :
    Lost i s ↔ relay.state ≠ sensorState (s.board.gpio.level relay.gpioPin) relay ∧
      (firstOnPin s.board i relay.gpioPin = true →
        ⟨relay.gpioPin, s.board.gpio.level relay.gpioPin⟩ ∉ evt :: s.gpioEvtQueue) := by
  have hfinal : finalState s i relay = relay.state := by simp [finalState, htask]
  have hwait : unchecked s = evt :: s.gpioEvtQueue := by simp [unchecked, htask]
  rw [lost_iff hget htype, hfinal, hwait]

/-- After the check only the queue is left. -/
theorem lost_debounce_iff (evt : GpioEvent) (hget : s.board.sUnits[i]? = some relay)
    (htype : relay.type = .sensor) :
    Lost i (debounce s evt) ↔
      finalState (debounce s evt) i relay ≠
          sensorState (s.board.gpio.level relay.gpioPin) relay ∧
        (firstOnPin s.board i relay.gpioPin = true →
          ⟨relay.gpioPin, s.board.gpio.level relay.gpioPin⟩ ∉ s.gpioEvtQueue) := by
  have hwait : unchecked (debounce s evt) = s.gpioEvtQueue := by
    by_cases hpass : Gpio.getLevel s.board.gpio evt.gpioNum = evt.level <;>
      simp [unchecked, debounce, hpass]
  rw [lost_iff (s := debounce s evt) hget htype, hwait]
  rfl

/-- The check drops an event of another level, and accepts one of the level. -/
theorem lost_check (h : Listening s.board) {evt : GpioEvent} (htask : s.task = .debouncing evt)
    (hget : s.board.sUnits[i]? = some relay) (htype : relay.type = .sensor) :
    Lost i (debounce s evt) ↔ Lost i s := by
  have hlevel := h.getLevel hget htype
  rw [lost_debounce_iff evt hget htype, lost_debouncing_iff htask hget htype]
  by_cases hpass : Gpio.getLevel s.board.gpio evt.gpioNum = evt.level
  · have htask' : (debounce s evt).task = .accepted evt := by simp [debounce, hpass]
    by_cases hown : evt.gpioNum = relay.gpioPin ∧ firstOnPin s.board i relay.gpioPin = true
    · -- the sensor will have the level of its own event
      have hevt : evt = ⟨relay.gpioPin, s.board.gpio.level relay.gpioPin⟩ := by
        rw [← hlevel, ← hown.1, hpass]
      have hfinal : finalState (debounce s evt) i relay =
          sensorState (s.board.gpio.level relay.gpioPin) relay := by
        unfold finalState
        rw [htask']
        show (if evt.gpioNum = relay.gpioPin ∧ firstOnPin s.board i relay.gpioPin = true then _
          else _) = _
        rw [if_pos hown, hevt]
      constructor
      · intro hlost
        exact absurd hfinal hlost.1
      · intro hlost
        exact absurd (by simp [← hevt]) (hlost.2 hown.2)
    · have hfinal : finalState (debounce s evt) i relay = relay.state := by
        unfold finalState
        rw [htask']
        exact if_neg hown
      rw [hfinal]
      refine and_congr_right fun _ => forall_congr' fun hfirst => ?_
      -- the event is of another pin
      have hne : (⟨relay.gpioPin, s.board.gpio.level relay.gpioPin⟩ : GpioEvent) ≠ evt := by
        intro heq
        exact hown ⟨by rw [← heq], hfirst⟩
      simp [hne]
  · have hfinal : finalState (debounce s evt) i relay = relay.state := by
      simp [finalState, debounce, hpass]
    have hne : (⟨relay.gpioPin, s.board.gpio.level relay.gpioPin⟩ : GpioEvent) ≠ evt := by
      intro heq
      rw [← heq] at hpass
      exact hpass hlevel
    rw [hfinal]
    simp [hne]

/-- Two first sensors on one pin are one. -/
theorem eq_of_firstOnPin {k : Nat} {other : RelayUnit} (hget : b.sUnits[i]? = some relay)
    (htype : relay.type = .sensor) (hfirst : firstOnPin b i relay.gpioPin = true)
    (hother : b.sUnits[k]? = some other) (hsensor : other.type = .sensor)
    (hfirst' : firstOnPin b k other.gpioPin = true) (hpin : other.gpioPin = relay.gpioPin) :
    k = i := by
  rcases Nat.lt_trichotomy k i with hlt | heq | hlt
  · exact absurd hpin (firstOnPin_iff.mp hfirst k other hlt hother hsensor)
  · exact heq
  · exact absurd hpin.symm (firstOnPin_iff.mp hfirst' i relay hlt hget htype)

/-- Finishing an event gives the sensor the state it was bound to have. -/
theorem lost_contact {env : Env} {evt : GpioEvent} {k : Nat} {contact : RelayUnit}
    (htask : s.task = .accepted evt)
    (hcontact : ContactUpdated env s.board evt k contact b') :
    Lost i { s with board := b', task := .waiting } ↔ Lost i s := by
  have hfirst : ∀ pin, firstOnPin b' i pin = firstOnPin s.board i pin := by
    intro pin
    apply firstOnPin_congr
    rw [hcontact.units]
    exact map_set_of_eq _ hcontact.found rfl
  have hown : firstOnPin s.board k contact.gpioPin = true := by
    rw [firstOnPin_iff, hcontact.pin]
    exact hcontact.first
  by_cases hik : i = k
  · subst hik
    -- the event was of this sensor: its state is what it was bound to be
    have hget' : b'.sUnits[i]? =
        some { contact with state := sensorState evt.level contact } :=
      units_replaced_self hcontact.units hcontact.found
    have hfinal : finalState s i contact = sensorState evt.level contact := by
      unfold finalState
      rw [htask]
      exact if_pos ⟨hcontact.pin.symm, hown⟩
    rw [lost_iff (s := { s with board := b', task := .waiting }) hget' hcontact.type,
      lost_iff hcontact.found hcontact.type, hfinal]
    simp [finalState, unchecked, htask, hcontact.gpio, hfirst, sensorState]
  · have hget' : b'.sUnits[i]? = s.board.sUnits[i]? := units_replaced_ne hcontact.units hik
    unfold Lost
    rw [hget']
    refine exists_congr fun relay => and_congr_right fun hget => and_congr_right fun htype => ?_
    have hfinal : finalState s i relay = relay.state := by
      unfold finalState
      rw [htask]
      -- an event belongs to the first sensor on its pin only
      apply if_neg
      rintro ⟨hpin, hfirstOn⟩
      exact hik (eq_of_firstOnPin hget htype hfirstOn hcontact.found hcontact.type hown
        (hcontact.pin.trans hpin)).symm
    rw [hfinal]
    simp [finalState, unchecked, htask, hcontact.gpio, hfirst]

/-- A step of the task neither loses an edge nor makes up for a lost one. -/
theorem lost_taskStep (h : Listening s.board) (hstep : TaskStep s s') :
    Listening s'.board ∧ (Lost i s' ↔ Lost i s) := by
  obtain ⟨l, hl, hstep⟩ := hstep
  match l with
  | .edge pin => exact absurd rfl (hl pin)
  | .receive =>
      obtain ⟨evt, rest, htask, hqueue, rfl⟩ := hstep
      exact ⟨h, lost_receive htask hqueue⟩
  | .check =>
      obtain ⟨evt, htask, rfl⟩ := hstep
      refine ⟨h, ?_⟩
      by_cases hsensor : ∃ relay, s.board.sUnits[i]? = some relay ∧ relay.type = .sensor
      · obtain ⟨relay, hget, htype⟩ := hsensor
        exact lost_check h htask hget htype
      · -- there is no sensor at the index
        refine iff_of_false ?_ ?_ <;>
          exact fun ⟨relay, hget, htype, _⟩ => hsensor ⟨relay, hget, htype⟩
  | .finish env =>
      obtain ⟨evt, b', htask, hupdate, rfl⟩ := hstep
      obtain ⟨n, m, htab⟩ := h.table
      rcases updateContact_updated htab hupdate with ⟨rfl, hnil⟩ | ⟨k, contact, hcontact⟩
      · refine ⟨h, iff_of_false ?_ ?_⟩ <;>
          exact fun ⟨relay, hget, _⟩ => by simp [hnil] at hget
      · exact ⟨h.contact hcontact, lost_contact htask hcontact⟩

/-- A step loses an edge exactly when it does not keep it. -/
theorem lost_step {l : EventLabel} (h : Listening s.board) (hstep : eventStep s l s') :
    Listening s'.board ∧
      (¬ Kept i s l → Lost i s') ∧ (Kept i s l → ¬ Lost i s → ¬ Lost i s') := by
  by_cases hedge : ∃ pin, l = .edge pin
  · obtain ⟨pin, rfl⟩ := hedge
    obtain rfl := hstep
    refine ⟨h.flipLevel pin, ?_⟩
    by_cases hsensor : ∃ relay, s.board.sUnits[i]? = some relay ∧ relay.type = .sensor
    · obtain ⟨relay, hget, htype⟩ := hsensor
      by_cases hpin : relay.gpioPin = pin
      · subst hpin
        rw [lost_edge_iff h hget htype]
        exact ⟨fun hnot => hnot, fun hkept _ hnot => hnot hkept⟩
      · rw [lost_edge_ne hget htype hpin]
        refine ⟨fun hnot => absurd ?_ hnot, fun _ hlost => hlost⟩
        rintro pin' other hl hother _ rfl
        cases hl
        rw [hget] at hother
        cases hother
        exact absurd rfl hpin
    · refine ⟨fun hnot => absurd ?_ hnot, fun _ _ => ?_⟩
      · intro pin' relay _ hget htype
        exact absurd ⟨relay, hget, htype⟩ hsensor
      · rintro ⟨relay, hget, htype, _⟩
        exact hsensor ⟨relay, hget, htype⟩
  · obtain ⟨hlistening, hlost⟩ := lost_taskStep (i := i) h ⟨l, fun pin hl => hedge ⟨pin, hl⟩, hstep⟩
    refine ⟨hlistening, fun hnot => absurd ?_ hnot, fun _ hnot => by rwa [hlost]⟩
    intro pin relay hl
    exact absurd ⟨pin, hl⟩ hedge

/-! ### Runs -/

theorem not_lost_of_kept (h : ReachableWhen edgeSystem (Kept i) s) :
    Listening s.board ∧ ¬ Lost i s :=
  h.invariant (fun _ hinit => listening_init hinit)
    (fun _ _ _ hinv hkept hstep =>
      have hlost := lost_step hinv.1 hstep
      ⟨hlost.1, hlost.2.2 hkept hinv.2⟩)

/-- Without another edge a lost one stays lost. -/
theorem lost_taskSteps (h : Listening s.board) (hlost : Lost i s)
    (hsteps : Relation.ReflTransGen TaskStep s s') : Listening s'.board ∧ Lost i s' := by
  induction hsteps with
  | refl => exact ⟨h, hlost⟩
  | tail _ hstep ih =>
      obtain ⟨hlistening, hiff⟩ := lost_taskStep (i := i) ih.1 hstep
      exact ⟨hlistening, hiff.mpr ih.2⟩

/-! ### Main Theorem -/

/-- While the edges on a sensor's pin are kept, the sensor is settled whenever the task
    is at rest. After one that is not kept it is unsettled when the task comes to rest. -/
theorem settled_of_kept (i : Nat) (s : EventState) (h : ReachableWhen edgeSystem (Kept i) s) :
    (AtRest s → Settled i s) ∧
      ∀ l s' s'', eventStep s l s' → ¬ Kept i s l → Relation.ReflTransGen TaskStep s' s'' →
        AtRest s'' → ¬ Settled i s'' := by
  obtain ⟨hlistening, hnot⟩ := not_lost_of_kept h
  constructor
  · intro hrest
    rw [settled_iff hrest]
    exact hnot
  · intro l s' s'' hstep hunkept hsteps hrest
    obtain ⟨hlistening', hlost, _⟩ := lost_step (i := i) hlistening hstep
    rw [settled_iff hrest, not_not]
    exact (lost_taskSteps hlistening' (hlost hunkept) hsteps).2

/-- A computed run without edges keeps what has been kept. -/
theorem reachableWhen_performAll {ls : List EventLabel} (h : ReachableWhen edgeSystem (Kept i) s)
    (hls : ∀ l ∈ ls, ∀ pin, l ≠ .edge pin) (hrun : performAll s ls = some s') :
    ReachableWhen edgeSystem (Kept i) s' := by
  induction ls generalizing s with
  | nil =>
      cases hrun
      exact h
  | cons l ls ih =>
      obtain ⟨s₁, hl, hrest⟩ := Option.bind_eq_some_iff.mp hrun
      have hkept : Kept i s l := fun pin _ hpin => absurd hpin (hls l (by simp) pin)
      exact ih (h.step hkept (eventStep_of_perform hl)) (fun l' hl' => hls l' (by simp [hl'])) hrest

theorem reachable_performAll {ls : List EventLabel} (h : Reachable edgeSystem s)
    (hrun : performAll s ls = some s') : Reachable edgeSystem s' := by
  induction ls generalizing s with
  | nil =>
      cases hrun
      exact h
  | cons l ls ih =>
      obtain ⟨s₁, hl, hrest⟩ := Option.bind_eq_some_iff.mp hrun
      exact ih (h.step (eventStep_of_perform hl)) hrest

theorem init_bootSensors {n : Nat} (hn : n < channelLimit .sensor)
    (hboot : bootSensors n = some b) : edgeSystem.init (booted b) := by
  obtain ⟨b₀, hreach, happMain⟩ := exists_boot_of_bootSensors hn hboot
  exact ⟨b₀, Env.ok, _, _, _, b, hreach, rfl, happMain, rfl⟩

/-- The pin of the only sensor rises, and the task updates it. -/
theorem settled_of_kept_rise :
    ∃ s, ReachableWhen edgeSystem (Kept 2) s ∧ AtRest s ∧
      s.board.sUnits.map RelayUnit.state = [.off, .off, .on] ∧ Settled 2 s := by
  have hrun : (bootSensors 1).any (fun b => firstOnPin b 2 6 &&
      (performAll (edge (booted b) 6) [.receive, .check, .finish Env.ok]).any fun s =>
        decide (AtRest s ∧ s.board.sUnits.map RelayUnit.state = [.off, .off, .on])) = true := by
    decide +kernel
  obtain ⟨b, hboot, hb⟩ := (Option.any_eq_true _ _).mp hrun
  rw [Bool.and_eq_true] at hb
  obtain ⟨s, hperform, hs⟩ := (Option.any_eq_true _ _).mp hb.2
  rw [decide_eq_true_eq] at hs
  -- the queue has room for the edge
  have hkept : Kept 2 (booted b) (.edge 6) := by
    intro pin relay hpin _ _ _
    cases hpin
    exact Or.inr ⟨hb.1, Or.inl (by simp [booted, gpioEvtQueueLength])⟩
  have hedge : ReachableWhen edgeSystem (Kept 2) (edge (booted b) 6) :=
    (ReachableWhen.init (init_bootSensors (by decide) hboot)).step hkept
      (show edgeSystem.step (booted b) (.edge 6) _ from rfl)
  have hreach := reachableWhen_performAll hedge (by simp) hperform
  exact ⟨s, hreach, hs.1, hs.2, (settled_of_kept 2 s hreach).1 hs.1⟩

/-- With the queue full, a rise is dropped, the task takes an event out, and the fall after
    it is queued. The event taken out is dropped if it is one of a rise. -/
def bounceRounds : List EventLabel :=
  (List.replicate 5 [.edge 6, .receive, .edge 6, .check,
    .edge 6, .receive, .edge 6, .check, .finish Env.ok]).flatten

/-- Ten edges fill the queue, a bounce fills it with falls, and a last rise is dropped. -/
def burst : List EventLabel :=
  List.replicate 10 (.edge 6) ++ bounceRounds ++ [.edge 6] ++
    (List.replicate 10 [.receive, .check]).flatten

/-- After the burst the only sensor is off while its pin is high. -/
theorem not_settled_of_reachable :
    ¬ ∀ s, Reachable edgeSystem s → AtRest s → ∀ i, Settled i s := by
  intro hall
  have hrun : (bootSensors 1).any (fun b => (performAll (booted b) burst).any fun s =>
      decide (AtRest s) && (s.board.sUnits[2]?).any fun relay =>
        decide (relay.type = .sensor ∧
          relay.state ≠ sensorState (s.board.gpio.level relay.gpioPin) relay)) = true := by
    decide +kernel
  obtain ⟨b, hboot, hb⟩ := (Option.any_eq_true _ _).mp hrun
  obtain ⟨s, hperform, hs⟩ := (Option.any_eq_true _ _).mp hb
  rw [Bool.and_eq_true, decide_eq_true_eq] at hs
  obtain ⟨relay, hget, hrelay⟩ := (Option.any_eq_true _ _).mp hs.2
  rw [decide_eq_true_eq] at hrelay
  have hreach := reachable_performAll
    (Reachable.init (init_bootSensors (by decide) hboot)) hperform
  exact hrelay.2 (hall s hreach hs.1 2 relay hget hrelay.1)

end FinalEdge
