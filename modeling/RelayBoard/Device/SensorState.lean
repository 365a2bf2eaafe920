import RelayBoard.Device.SensorEvents

/-! # The State of Sensors

  Level changes that settle before they are handled, and accepted updates of
  sensors. The state of every sensor, in memory and in NVS, is that of the
  level of its pin, as long as a change is saved and finds one sensor on the
  pin, and an update agrees with the level.
-/

open Boot CString Device LTS Relay Settings Web

namespace SensorState

/-! ### System -/

/-- What happens to a booted device. -/
inductive Label where
  /-- The level of a sensor's pin changes, and `gpio_event_task` handles its event. -/
  | level (pin : Int) (env : Env)
  /-- `update_relay_post_handler` accepts an update of a sensor. -/
  | update (env : Env) (serializes : Bool) (req : Request) (response : Response)

/-- A device that has booted after any history, without a failure. -/
def sensorStateSystem : System Board Label where
  init := fun b => ∃ b₀ newDeviceId newDeviceSerial gpio,
    Reachable Completeness.deviceSystem b₀ ∧
    appMain Env.ok newDeviceId newDeviceSerial b₀.nvs gpio = some b
  step := fun b l b' =>
    match l with
    | .level pin env =>
        (∃ relay ∈ b.sUnits, relay.type = .sensor ∧ relay.gpioPin = pin) ∧
        gpioEventTask env (flipLevel b pin) (gpioEvent (flipLevel b pin).gpio pin) = some b'
    | .update env serializes req response =>
        (∃ u i relay, resolveUpdate b req = .ok (u, i, relay) ∧ relay.type = .sensor) ∧
        updateRelayPostHandler env serializes b req = some (.ok, response, b')

/-! ### Properties -/

/-- The state of the level of a sensor's pin. -/
def levelState (b : Board) (relay : RelayUnit) : RelayState :=
  sensorState (b.gpio.level relay.gpioPin) relay

/-- Every sensor has the state of the level, in memory and in its record. -/
def Tracks (b : Board) : Prop :=
  ∀ relay ∈ b.sUnits, relay.type = .sensor → relay.state = levelState b relay ∧
    ∃ key record, getUnitNvsKey relay = some key ∧
      b.nvs sNamespace key = some (.blob record) ∧ record.state = levelState b relay

/-- A request asks for the state that the level of the pin gives, or it asks for none and
    the pin and the inversion it leaves give the state that those before have given. -/
def Agrees (b : Board) (u : UnitUpdate) (relay : RelayUnit) : Prop :=
  u.relayState.getD (xor (b.gpio.level relay.gpioPin) relay.inverted) =
    xor (b.gpio.level (u.relayGpioPin.getD relay.gpioPin))
      (u.relayInverted.getD relay.inverted)

/-- A changed pin has one sensor, whose record can be written, and a request agrees with
    the level. -/
def Tracking (b : Board) : Label → Prop
  | .level pin env =>
      (∀ (i j : Nat) relay other, b.sUnits[i]? = some relay → b.sUnits[j]? = some other →
        relay.type = .sensor → other.type = .sensor → relay.gpioPin = pin →
        other.gpioPin = pin → i = j) ∧
      ∀ relay ∈ b.sUnits, relay.type = .sensor → relay.gpioPin = pin →
        ∀ key, getUnitNvsKey relay = some key → env.nvsWrite key = true
  | .update _ _ req _ =>
      ∀ u i relay, resolveUpdate b req = .ok (u, i, relay) → Agrees b u relay

/-! ### Invariant -/

/-- The table is that of the book in NVS, and its sensors listen. -/
structure Kept (b : Board) : Prop where
  booted : ∃ counts book, Booted b counts book
  listening : Listening b

variable {b b' : Board} {relay relay' : RelayUnit} {i : Nat}

/-- The record of a unit has the unit's state. -/
theorem Kept.record (h : Kept b) (hmem : relay ∈ b.sUnits) :
    ∃ key record, getUnitNvsKey relay = some key ∧
      b.nvs sNamespace key = some (.blob record) ∧ record.state = relay.state := by
  obtain ⟨counts, book, hbooted⟩ := h.booted
  obtain ⟨j, hget⟩ := List.getElem?_of_mem hmem
  obtain ⟨type, c, hc, _, hrecord⟩ := hbooted.unit hget
  have hkey := getUnitNvsKey_of_isRecord ((book type).isRecord c _ hrecord)
    (Nat.lt_trans hc (hbooted.counts_lt type))
  exact ⟨_, _, hkey, (stored_iff hbooted.holds).mpr hrecord, rfl⟩

/-- Where the records are those of the table, only the table matters. -/
theorem Kept.tracks_iff (h : Kept b) : Tracks b ↔
    ∀ (j : Nat) relay, b.sUnits[j]? = some relay → relay.type = .sensor →
      relay.state = levelState b relay := by
  constructor
  · intro htracks j relay hget htype
    exact (htracks relay (List.mem_of_getElem? hget) htype).1
  · intro hall relay hmem htype
    obtain ⟨j, hget⟩ := List.getElem?_of_mem hmem
    have hstate := hall j relay hget htype
    obtain ⟨key, record, hkey, hstored, hrecord⟩ := h.record hmem
    exact ⟨hstate, key, record, hkey, hstored, hrecord.trans hstate⟩

theorem kept_init (h : sensorStateSystem.init b) : Kept b ∧ Tracks b := by
  obtain ⟨b₀, newDeviceId, newDeviceSerial, gpio, hreach, hboot⟩ := h
  obtain ⟨book, hstored, hsafe, _⟩ := Completeness.inv_of_reachable hreach
  obtain ⟨b₁, book', heq, _, hloaded⟩ := appMain_loaded Env.ok (fun _ => rfl) newDeviceId
    newDeviceSerial gpio hstored
  rw [hboot] at heq
  cases heq
  have hinputs := appMain_inputs hstored hsafe hboot
  have hkept : Kept b := ⟨⟨_, book', hloaded.booted⟩, ⟨_, _, hinputs.table⟩,
    fun relay hmem htype => (hinputs.listens rfl relay hmem htype).1⟩
  refine ⟨hkept, hkept.tracks_iff.mpr ?_⟩
  intro j relay hget htype
  exact (hinputs.listens rfl relay (List.mem_of_getElem? hget) htype).2

/-! ### Level Changes -/

theorem sensorState_not (level : Bool) (relay : RelayUnit) :
    sensorState (!level) relay ≠ sensorState level relay := by
  unfold sensorState RelayState.ofBool
  cases level <;> cases relay.inverted <;> decide

/-- What a settled change of a pin does: one sensor on it gets the state of the new level,
    and so does its record if the write succeeds. -/
structure LevelChanged (env : Env) (b : Board) (pin : Int) (k : Nat) (contact : RelayUnit)
    (b' : Board) : Prop where
  found : b.sUnits[k]? = some contact
  type : contact.type = .sensor
  pin_eq : contact.gpioPin = pin
  level : b'.gpio.level pin = !b.gpio.level pin
  level_ne : ∀ p, p ≠ pin → b'.gpio.level p = b.gpio.level p
  updated : b'.sUnits[k]? =
    some { contact with state := sensorState (!b.gpio.level pin) contact }
  others : ∀ j, j ≠ k → b'.sUnits[j]? = b.sUnits[j]?
  unsaved : ∀ key, getUnitNvsKey contact = some key → env.nvsWrite key ≠ true → b'.nvs = b.nvs
  kept : (∀ key, getUnitNvsKey contact = some key → env.nvsWrite key = true) → Kept b'

/-- With the record written, the table stays that of the book. -/
theorem Kept.contact (h : Kept b) {pin : Int} {env : Env} {evt : GpioEvent} {k : Nat}
    {contact : RelayUnit} (hcontact : ContactUpdated env (flipLevel b pin) evt k contact b')
    (hwrite : ∀ key, getUnitNvsKey contact = some key → env.nvsWrite key = true) : Kept b' := by
  obtain ⟨counts, book, hbooted⟩ := h.booted
  obtain ⟨key, hkey, hsaved⟩ := hcontact.saved
  rw [if_pos (hwrite key hkey)] at hsaved
  have hrep : Replaced (flipLevel b pin) b' k contact
      { contact with state := sensorState evt.level contact } :=
    ⟨hcontact.found, rfl, rfl, hcontact.units, ⟨key, hkey, hsaved⟩, hcontact.units_in_memory,
      hcontact.relays_count, hcontact.sensors_count⟩
  have hflipped : Booted (flipLevel b pin) counts book := hbooted.onlyGpio ⟨_, rfl⟩
  obtain ⟨_, _, _, _, _, _, _, hbooted'⟩ := hflipped.replaced hrep
  exact ⟨⟨counts, _, hbooted'⟩, (h.listening.flipLevel pin).contact hcontact⟩

/-- The event has the new level, so the contact gets its state. -/
theorem Kept.levelChanged (h : Kept b) {pin : Int} {env : Env}
    (hstep : sensorStateSystem.step b (.level pin env) b') :
    ∃ k contact, LevelChanged env b pin k contact b' := by
  obtain ⟨⟨relay, hmem, htype, hpin⟩, htask⟩ := hstep
  have hlistening := h.listening.flipLevel pin
  obtain ⟨n, m, htab⟩ := hlistening.table
  obtain ⟨j, hget⟩ := List.getElem?_of_mem hmem
  have hlevel : (gpioEvent (flipLevel b pin).gpio pin).level = !b.gpio.level pin := by
    subst hpin
    rw [← flipLevel_self b relay.gpioPin]
    exact hlistening.getLevel hget htype
  rw [gpioEventTask_eq, if_neg (by simp [gpioEvent])] at htask
  rcases updateContact_updated htab htask with ⟨_, hnil⟩ | ⟨k, contact, hcontact⟩
  · -- there is a sensor, so the table is not empty
    rw [show b.sUnits = [] from hnil] at hmem
    cases hmem
  · have hfound : b.sUnits[k]? = some contact := hcontact.found
    refine ⟨k, contact, hfound, hcontact.type, hcontact.pin, ?_, ?_, ?_, ?_, ?_,
      h.contact hcontact⟩
    · rw [hcontact.gpio]
      exact flipLevel_self b pin
    · intro p hp
      rw [hcontact.gpio]
      exact flipLevel_ne b hp
    · rw [← hlevel]
      exact units_replaced_self hcontact.units hcontact.found
    · intro j hj
      exact units_replaced_ne hcontact.units hj
    · intro key hkey hfail
      obtain ⟨key', hkey', hsaved⟩ := hcontact.saved
      rw [hkey] at hkey'
      cases hkey'
      rw [if_neg hfail] at hsaved
      exact hsaved

section levelChanged
variable {env : Env} {pin : Int} {k : Nat} {contact : RelayUnit}

/-- A second sensor on the pin would have kept the state of the old level. -/
theorem LevelChanged.only (h : LevelChanged env b pin k contact b') (htracks : Tracks b)
    (htracks' : Tracks b') {j : Nat} (hget : b.sUnits[j]? = some relay)
    (htype : relay.type = .sensor) (hpin : relay.gpioPin = pin) : j = k := by
  by_contra hj
  have hold := (htracks relay (List.mem_of_getElem? hget) htype).1
  rw [← h.others j hj] at hget
  have hnew := (htracks' relay (List.mem_of_getElem? hget) htype).1
  unfold levelState at hold hnew
  rw [hpin, h.level, hold, hpin] at hnew
  exact sensorState_not _ relay hnew.symm

/-- Without the write, the record would have kept the state of the old level. -/
theorem LevelChanged.written (h : LevelChanged env b pin k contact b') (htracks : Tracks b)
    (htracks' : Tracks b') {key : CStr} (hkey : getUnitNvsKey contact = some key) :
    env.nvsWrite key = true := by
  by_contra hfail
  obtain ⟨_, key₁, record, hkey₁, hstored, hold⟩ :=
    htracks contact (List.mem_of_getElem? h.found) h.type
  obtain ⟨_, key₂, record', hkey₂, hstored', hnew⟩ :=
    htracks' _ (List.mem_of_getElem? h.updated) h.type
  have hkeys : key₂ = key₁ := Option.some.inj (hkey₂.symm.trans hkey₁)
  rw [hkeys, h.unsaved key hkey hfail, hstored] at hstored'
  cases hstored'
  have hstate : sensorState (!b.gpio.level pin) contact = sensorState (b.gpio.level pin) contact :=
    calc sensorState (!b.gpio.level pin) contact
        = sensorState (b'.gpio.level pin) contact := by rw [h.level]
      _ = record.state := by
          rw [hnew]
          show _ = sensorState (b'.gpio.level contact.gpioPin) contact
          rw [h.pin_eq]
      _ = sensorState (b.gpio.level pin) contact := by
          rw [hold]
          show sensorState (b.gpio.level contact.gpioPin) contact = _
          rw [h.pin_eq]
  exact sensorState_not _ contact hstate

/-- Alone on its pin and saved, the contact tracks the new level, and the others their own. -/
theorem LevelChanged.tracks (h : LevelChanged env b pin k contact b') (htracks : Tracks b)
    (htracking : Tracking b (.level pin env)) : Kept b' ∧ Tracks b' := by
  have hkept := h.kept (htracking.2 contact (List.mem_of_getElem? h.found) h.type h.pin_eq)
  refine ⟨hkept, ?_⟩
  rw [hkept.tracks_iff]
  intro j relay hget htype
  unfold levelState
  by_cases hj : j = k
  · rw [hj, h.updated] at hget
    cases hget
    show _ = sensorState (b'.gpio.level contact.gpioPin) _
    rw [h.pin_eq, h.level]
    rfl
  · rw [h.others j hj] at hget
    have hne : relay.gpioPin ≠ pin := fun hpin =>
      hj (htracking.1 j k relay contact hget h.found htype h.type hpin h.pin_eq)
    rw [h.level_ne _ hne]
    exact (htracks relay (List.mem_of_getElem? hget) htype).1

end levelChanged

/-- What a change leaves is right exactly when one sensor is on the pin and its record has
    been written. -/
theorem tracks_level_iff (h : Kept b) (htracks : Tracks b) {pin : Int} {env : Env}
    (hstep : sensorStateSystem.step b (.level pin env) b') :
    (Tracks b' ↔ Tracking b (.level pin env)) ∧ (Tracking b (.level pin env) → Kept b') := by
  obtain ⟨k, contact, hchanged⟩ := h.levelChanged hstep
  refine ⟨⟨?_, fun htracking => (hchanged.tracks htracks htracking).2⟩,
    fun htracking => (hchanged.tracks htracks htracking).1⟩
  intro htracks'
  have honly : ∀ {j : Nat} {relay : RelayUnit}, b.sUnits[j]? = some relay →
      relay.type = .sensor → relay.gpioPin = pin → j = k := fun hget htype hpin =>
    hchanged.only htracks htracks' hget htype hpin
  constructor
  · intro i j relay other hget hget' htype htype' hpin hpin'
    rw [honly hget htype hpin, honly hget' htype' hpin']
  · intro relay hmem htype hpin key hkey
    obtain ⟨j, hget⟩ := List.getElem?_of_mem hmem
    rw [honly hget htype hpin, hchanged.found] at hget
    cases hget
    exact hchanged.written htracks htracks' hkey

/-! ### Updates -/

/-- An accepted update keeps the table that of the book and the sensors listening. -/
theorem Kept.update (h : Kept b) {req : Request} {u : UnitUpdate}
    (hupdated : Updated b req b' u i relay relay') (htype : relay.type = .sensor)
    (hsaved : SensorSaved b relay.gpioPin (assignFields relay u) relay' b') : Kept b' := by
  obtain ⟨counts, book, hbooted⟩ := h.booted
  obtain ⟨_, _, _, _, _, _, _, hbooted'⟩ := hbooted.replaced hupdated.replaced
  obtain ⟨_, _, hfound⟩ := resolveUpdate_eq_ok hupdated.resolved
  refine ⟨⟨counts, _, hbooted'⟩, ⟨_, _, hbooted'.loadedTable⟩, ?_⟩
  intro other hmem hsensor
  rw [hupdated.units] at hmem
  rcases List.mem_or_eq_of_mem_set hmem with hold | rfl
  · have hlistens := h.listening.listens other hold hsensor
    exact ⟨hsaved.isr _ hlistens.isr, hsaved.mode _ hlistens.mode⟩
  · have hpin : other.gpioPin = (assignFields relay u).gpioPin := hupdated.assigned.gpio_pin
    by_cases hmoved : relay.gpioPin = (assignFields relay u).gpioPin
    · have hlistens := h.listening.listens relay (List.mem_of_getElem? hfound) htype
      have hkept : other.gpioPin = relay.gpioPin := hpin.trans hmoved.symm
      refine ⟨hsaved.isr _ ?_, hsaved.mode _ ?_⟩
      · rw [hkept]
        exact hlistens.isr
      · rw [hkept]
        exact hlistens.mode
    · -- the new pin has been asked for, so it is safe
      have hnew : (assignFields relay u).gpioPin = u.relayGpioPin.getD relay.gpioPin := rfl
      cases hreq : u.relayGpioPin with
      | none =>
          rw [hreq] at hnew
          exact absurd hnew.symm hmoved
      | some pin =>
          rw [hreq, Option.getD_some] at hnew
          apply hsaved.listens hmoved
          rw [hnew]
          exact safeGpioPin_bounds (isGpioSafe_iff.mp (hupdated.safe pin hreq))

/-- On a sensor with the state of the level, a request agrees with the level exactly when
    the assignments leave it the state of the level. -/
theorem agrees_iff {u : UnitUpdate} (hstate : relay.state = levelState b relay) :
    Agrees b u relay ↔
      (assignFields relay u).state = levelState b (assignFields relay u) := by
  have hinj : ∀ on off : Bool, RelayState.ofBool on = RelayState.ofBool off ↔ on = off := by
    decide
  have hassigned : (assignFields relay u).state = RelayState.ofBool
      (u.relayState.getD (xor (b.gpio.level relay.gpioPin) relay.inverted)) := by
    unfold assignFields
    dsimp only
    cases u.relayState with
    | none => exact hstate
    | some on => rfl
  rw [hassigned]
  exact (hinj _ _).symm

/-- What an update leaves is right exactly when the request agrees with the level. -/
theorem tracks_update_iff (h : Kept b) (htracks : Tracks b) {env : Env} {serializes : Bool}
    {req : Request} {response : Response}
    (hstep : sensorStateSystem.step b (.update env serializes req response) b') :
    (Tracks b' ↔ Tracking b (.update env serializes req response)) ∧ Kept b' := by
  obtain ⟨⟨u, i, relay, hres, htype⟩, hupdate⟩ := hstep
  obtain ⟨relay', hupdated, hsaved⟩ := updateRelayPostHandler_sensor hres htype hupdate
  have hkept := h.update hupdated htype hsaved
  obtain ⟨_, _, hfound⟩ := resolveUpdate_eq_ok hres
  have hsame := hupdated.assigned
  have hnew : b'.sUnits[i]? = some relay' := units_replaced_self hupdated.units hfound
  have hlevel : ∀ other, levelState b' other = levelState b other := by
    intro other
    unfold levelState
    rw [hsaved.level]
  have hassigned : levelState b relay' = levelState b (assignFields relay u) := by
    unfold levelState sensorState
    rw [hsame.gpio_pin, hsame.inverted]
  have hsensor : relay'.type = .sensor := hsame.type.trans htype
  have hbefore := (htracks relay (List.mem_of_getElem? hfound) htype).1
  refine ⟨?_, hkept⟩
  rw [hkept.tracks_iff]
  constructor
  · -- the unit that was addressed is all that can be wrong
    intro hall u' i' other hres'
    rw [hres] at hres'
    cases hres'
    rw [agrees_iff hbefore, ← hassigned, ← hlevel, ← hsaved.state]
    exact hall i relay' hnew hsensor
  · intro htracking j other hget hother
    rw [hlevel]
    by_cases hj : j = i
    · subst hj
      rw [hnew] at hget
      cases hget
      rw [hassigned, hsaved.state]
      exact (agrees_iff hbefore).mp (htracking u j relay hres)
    · rw [units_replaced_ne hupdated.units hj] at hget
      exact (htracks other (List.mem_of_getElem? hget) hother).1

/-! ### Main Theorem -/

theorem tracks_step_iff {l : Label} (h : Kept b) (htracks : Tracks b)
    (hstep : sensorStateSystem.step b l b') :
    (Tracks b' ↔ Tracking b l) ∧ (Tracking b l → Kept b') := by
  match l with
  | .level pin env => exact tracks_level_iff h htracks hstep
  | .update env serializes req response =>
      obtain ⟨hiff, hkept⟩ := tracks_update_iff h htracks hstep
      exact ⟨hiff, fun _ => hkept⟩

/-- The sensors track their pins as long as every operation meets its condition, and the
    first one that does not leaves a sensor with a wrong state. -/
theorem tracks_of_tracking (b : Board) (h : ReachableWhen sensorStateSystem Tracking b) :
    Tracks b ∧ ∀ l b', sensorStateSystem.step b l b' → (Tracks b' ↔ Tracking b l) := by
  have hinv : Kept b ∧ Tracks b := by
    refine h.invariant (fun _ hinit => kept_init hinit) ?_
    intro b l b' hinv htracking hstep
    obtain ⟨hiff, hkept⟩ := tracks_step_iff hinv.1 hinv.2 hstep
    exact ⟨hkept htracking, hiff.mpr htracking⟩
  exact ⟨hinv.2, fun l b' hstep => (tracks_step_iff hinv.1 hinv.2 hstep).1⟩

theorem init_bootSensors {n : Nat} (hn : n < channelLimit .sensor)
    (hboot : bootSensors n = some b) : sensorStateSystem.init b := by
  obtain ⟨b₀, hreach, happMain⟩ := exists_boot_of_bootSensors hn hboot
  exact ⟨b₀, _, _, _, hreach, happMain⟩

/-- The pin of the only sensor rises. -/
theorem tracks_of_tracking_rise :
    ∃ b, ReachableWhen sensorStateSystem Tracking b ∧
      b.sUnits.map RelayUnit.state = [.off, .off, .on] ∧ Tracks b := by
  have hrun : (bootSensors 1).any (fun b =>
      decide (b.sUnits.map (fun relay => (relay.type, relay.gpioPin)) =
        [(.actuator, 4), (.actuator, 5), (.sensor, 6)]) &&
      (gpioEventTask Env.ok (flipLevel b 6) (gpioEvent (flipLevel b 6).gpio 6)).any fun b' =>
        decide (b'.sUnits.map RelayUnit.state = [.off, .off, .on])) = true := by
    decide +kernel
  obtain ⟨b, hboot, hb⟩ := (Option.any_eq_true _ _).mp hrun
  rw [Bool.and_eq_true, decide_eq_true_eq] at hb
  obtain ⟨hunits, hlevel⟩ := hb
  obtain ⟨b', htask, hstates⟩ := (Option.any_eq_true _ _).mp hlevel
  rw [decide_eq_true_eq] at hstates
  have hplace : ∀ (i : Nat) relay, b.sUnits[i]? = some relay →
      [(RelayType.actuator, (4 : Int)), (.actuator, 5), (.sensor, 6)][i]? =
        some (relay.type, relay.gpioPin) := by
    intro i relay hget
    rw [← hunits, List.getElem?_map, hget]
    rfl
  -- there is one sensor
  have honly : ∀ (i : Nat) relay, b.sUnits[i]? = some relay → relay.type = .sensor → i = 2 := by
    intro i relay hget htype
    have hi := hplace i relay hget
    rw [htype] at hi
    match i with
    | 0 => simp at hi
    | 1 => simp at hi
    | 2 => rfl
    | n + 3 => simp at hi
  have hsensor : ∃ relay ∈ b.sUnits, relay.type = .sensor ∧ relay.gpioPin = 6 := by
    have hmem : (RelayType.sensor, (6 : Int)) ∈
        b.sUnits.map (fun relay => (relay.type, relay.gpioPin)) := by
      rw [hunits]
      simp
    obtain ⟨relay, hmem, heq⟩ := List.mem_map.mp hmem
    exact ⟨relay, hmem, congrArg Prod.fst heq, congrArg Prod.snd heq⟩
  have htracking : Tracking b (.level 6 Env.ok) :=
    ⟨fun i j relay other hget hget' htype htype' _ _ =>
      (honly i relay hget htype).trans (honly j other hget' htype').symm,
      fun _ _ _ _ _ _ => rfl⟩
  have hreach : ReachableWhen sensorStateSystem Tracking b' :=
    (ReachableWhen.init (init_bootSensors (by decide) hboot)).step htracking
      (show sensorStateSystem.step b (.level 6 Env.ok) b' from ⟨hsensor, htask⟩)
  exact ⟨b', hreach, hstates, (tracks_of_tracking b' hreach).1⟩

/-- The only sensor is inverted while its pin is low: it stays off. -/
theorem not_tracks_of_reachable : ¬ ∀ b, Reachable sensorStateSystem b → Tracks b := by
  intro hall
  have hrun : (bootSensors 1).any (fun b =>
      (match resolveUpdate b (sensorRequest [("relay_inverted".toList, .bool true)]) with
        | .ok (_, _, relay) => decide (relay.type = .sensor)
        | .error _ => false) &&
      (updateRelayPostHandler Env.ok true b
        (sensorRequest [("relay_inverted".toList, .bool true)])).any fun (err, _, b') =>
          decide (err = .ok) && b'.sUnits.any fun relay =>
            decide (relay.type = .sensor ∧ relay.state ≠ levelState b' relay)) = true := by
    decide +kernel
  obtain ⟨b, hboot, hb⟩ := (Option.any_eq_true _ _).mp hrun
  rw [Bool.and_eq_true] at hb
  obtain ⟨hresolves, hupdate⟩ := hb
  obtain ⟨⟨err, response, b'⟩, hupdate, hb'⟩ := (Option.any_eq_true _ _).mp hupdate
  dsimp only at hb'
  rw [Bool.and_eq_true, decide_eq_true_eq, List.any_eq_true] at hb'
  obtain ⟨rfl, relay', hmem, hwrong⟩ := hb'
  rw [decide_eq_true_eq] at hwrong
  have hresolved : ∃ u i relay,
      resolveUpdate b (sensorRequest [("relay_inverted".toList, .bool true)]) =
        .ok (u, i, relay) ∧ relay.type = .sensor := by
    split at hresolves
    · next u i relay heq => exact ⟨u, i, relay, heq, by simpa using hresolves⟩
    · cases hresolves
  have hreach : Reachable sensorStateSystem b' :=
    (Reachable.init (init_bootSensors (by decide) hboot)).step
      (show sensorStateSystem.step b (.update Env.ok true _ response) b' from
        ⟨hresolved, hupdate⟩)
  exact hwrong.2 (hall b' hreach relay' hmem hwrong.1).1

end SensorState
