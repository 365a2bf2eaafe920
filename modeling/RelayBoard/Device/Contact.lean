import RelayBoard.Device.Tasks
import RelayBoard.Relay.Inputs

/-! # Contacts

  `gpio_event_task` of `main/relay.c` past its debounce check, on a table in
  memory: the first sensor on the pin of the event gets the state of the
  level, whether or not its record can be written.
-/

open CString Relay Settings

namespace Device

/-! ### The Task -/

/-- `gpio_event_task` past its debounce check. -/
def updateContact (env : Env) (b : Board) (evt : GpioEvent) : Option Board :=
  match getContactSensorList env b with
  | none => none
  | some (sensors, b) =>
      if sensorListIsNull b then some b
      else
        match sensors.findIdx? (fun relay => relay.gpioPin = evt.gpioNum) with
        | none => none
        | some k =>
            match sensors[k]? with
            | none => none
            | some relay => saveContactState env b k relay evt.level

/-- One event is dropped, or updates a contact. -/
theorem gpioEventTask_eq (env : Env) (b : Board) (evt : GpioEvent) :
    gpioEventTask env b evt =
      if Gpio.getLevel b.gpio evt.gpioNum ≠ evt.level then some b
      else updateContact env b evt := by
  obtain ⟨pin, level⟩ := evt
  unfold gpioEventTask updateContact
  dsimp only
  by_cases h : Gpio.getLevel b.gpio pin = level
  · -- the level read is the one the event has
    obtain rfl := h
    exact (if_neg (not_not.mpr rfl)).trans (if_neg (not_not.mpr rfl)).symm
  · rw [if_pos h, if_pos h]

/-- What an update of a contact does: the first sensor on the pin gets the state of the
    event, and its record as well if the write succeeds. -/
structure ContactUpdated (env : Env) (b : Board) (evt : GpioEvent) (i : Nat)
    (relay : RelayUnit) (b' : Board) : Prop where
  found : b.sUnits[i]? = some relay
  type : relay.type = .sensor
  pin : relay.gpioPin = evt.gpioNum
  first : ∀ j other, j < i → b.sUnits[j]? = some other → other.type = .sensor →
    other.gpioPin ≠ evt.gpioNum
  units : b'.sUnits = b.sUnits.set i { relay with state := sensorState evt.level relay }
  gpio : b'.gpio = b.gpio
  units_in_memory : b'.unitsInMemory = b.unitsInMemory
  relays_count : b'.sRelaysCount = b.sRelaysCount
  sensors_count : b'.sSensorsCount = b.sSensorsCount
  saved : ∃ key, getUnitNvsKey relay = some key ∧
    b'.nvs = if env.nvsWrite key then Nvs.set b.nvs sNamespace key
      (.blob (storedCopy { relay with state := sensorState evt.level relay })) else b.nvs

/-! ### The List of Sensors -/

/-- The contact sensors of a loaded table. -/
theorem getContactSensorList_loaded (env : Env) {b : Board} {n m : Nat}
    (htab : LoadedTable b n m) :
    getContactSensorList env b = some ((b.sUnits.drop n).take m, b) := by
  unfold getContactSensorList
  rw [if_pos htab.in_memory, htab.relays_count, htab.sensors_count]

/-- A sensor of a loaded table is one of the list. -/
theorem mem_sensors {b : Board} {n m : Nat} (htab : LoadedTable b n m) {relay : RelayUnit}
    (hmem : relay ∈ b.sUnits) (htype : relay.type = .sensor) :
    relay ∈ (b.sUnits.drop n).take m := by
  obtain ⟨i, hget⟩ := List.getElem?_of_mem hmem
  rcases htab.cases hget with ⟨_, hact, _⟩ | ⟨k, hk, hi, _, _⟩
  · rw [htype] at hact
    cases hact
  · apply List.mem_of_getElem? (i := k)
    rw [List.getElem?_take_of_lt hk, List.getElem?_drop, ← hi]
    exact hget

/-- The part of the table that the list is, by index. -/
theorem getElem?_sensors {b : Board} {n m k : Nat} {relay : RelayUnit}
    (h : ((b.sUnits.drop n).take m)[k]? = some relay) :
    k < m ∧ b.sUnits[n + k]? = some relay := by
  have hk : k < m := by
    have := (List.getElem?_eq_some_iff.mp h).1
    rw [List.length_take] at this
    omega
  rw [List.getElem?_take_of_lt hk, List.getElem?_drop] at h
  exact ⟨hk, h⟩

/-! ### What an Update Does -/

/-- Saving the state of a sensor found in the table. -/
theorem saveContactState_loaded {env : Env} {b b' : Board} {n m k : Nat}
    (htab : LoadedTable b n m) {relay : RelayUnit} (htype : relay.type = .sensor)
    {level : Bool} (h : saveContactState env b k relay level = some b') :
    SameTable (b.setUnit (n + k) { relay with state := sensorState level relay }) b' ∧
      b'.gpio = b.gpio ∧ ∃ key, getUnitNvsKey relay = some key ∧
        b'.nvs = if env.nvsWrite key then Nvs.set b.nvs sNamespace key
          (.blob (storedCopy { relay with state := sensorState level relay })) else b.nvs := by
  unfold saveContactState at h
  dsimp only at h
  rw [if_pos htab.in_memory, htab.relays_count] at h
  split at h
  · rw [if_pos (by exact htab.in_memory)] at h
    cases h
  · next key hkey =>
      have hunit : getUnitNvsKey relay = some key := by
        unfold getUnitNvsKey
        rw [htype]
        exact hkey
      unfold saveRelayToNvs nvsWriteRelay at h
      dsimp only at h
      by_cases hwrite : env.nvsWrite key = true
      · rw [if_pos hwrite] at h
        have hsame := publishUpdate_sameTable h
        have hgpio := publishUpdate_gpio h
        have hnvs := publishUpdate_nvs h
        refine ⟨⟨hsame.units_in_memory, hsame.units, hsame.relays_count, hsame.sensors_count⟩,
          hgpio, key, hunit, ?_⟩
        rw [if_pos hwrite]
        exact hnvs
      · rw [if_neg hwrite] at h
        cases h
        exact ⟨SameTable.refl _, rfl, key, hunit, (if_neg hwrite).symm⟩

theorem updateContact_updated {env : Env} {b b' : Board} {n m : Nat}
    (htab : LoadedTable b n m) {evt : GpioEvent} (h : updateContact env b evt = some b') :
    (b' = b ∧ b.sUnits = []) ∨ ∃ i relay, ContactUpdated env b evt i relay b' := by
  unfold updateContact at h
  rw [getContactSensorList_loaded env htab] at h
  dsimp only at h
  split at h
  · next hnull =>
      cases h
      unfold sensorListIsNull at hnull
      rw [if_pos htab.in_memory] at hnull
      exact Or.inl ⟨rfl, List.isEmpty_iff.mp hnull⟩
  · split at h
    · cases h
    · next k hk =>
        split at h
        · cases h
        · next relay hget =>
            obtain ⟨hkm, hunit⟩ := getElem?_sensors hget
            obtain ⟨hlt, hpin, hbefore⟩ := List.findIdx?_eq_some_iff_getElem.mp hk
            have hrelay : ((b.sUnits.drop n).take m)[k] = relay :=
              (List.getElem?_eq_some_iff.mp hget).2
            rw [hrelay, decide_eq_true_eq] at hpin
            have htype : relay.type = .sensor := by
              obtain ⟨other, hother, htype, _⟩ := htab.sensor k hkm
              rw [hunit] at hother
              cases hother
              exact htype
            obtain ⟨htable, hgpio, hsaved⟩ := saveContactState_loaded htab htype h
            refine Or.inr ⟨n + k, relay, hunit, htype, hpin, ?_, htable.units, hgpio,
              htable.units_in_memory, htable.relays_count, htable.sensors_count, hsaved⟩
            -- the scan has passed the sensors before
            intro j other hj hother hsensor
            rcases htab.cases hother with ⟨_, hact, _⟩ | ⟨c, hc, hjc, _, _⟩
            · rw [hsensor] at hact
              cases hact
            · have hck : c < k := by omega
              have hlist : ((b.sUnits.drop n).take m)[c]? = some other := by
                rw [List.getElem?_take_of_lt hc, List.getElem?_drop, ← hjc]
                exact hother
              have hnot := hbefore c hck
              rw [(List.getElem?_eq_some_iff.mp hlist).2, decide_eq_true_eq] at hnot
              exact hnot

end Device
