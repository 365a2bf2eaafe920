import RelayBoard.Web.FailedUpdate

/-! # The Frame of a Unit Update

  What a request that `update_relay_post_handler` of `main/web.c` has answered with
  `ESP_OK` changes, and what the same request changes when it comes again.
-/

open CString PinExclusivity Relay Settings

namespace Web

/-! ### Whatever the Outcome -/

section persistUnit
variable {env : Env} {b b' : Board} {relayKey : CStr} {gpioPinOld : Int}
  {relay relay' : RelayUnit} {err : EspErr}

/-- Saving and applying a unit touches its driver bookkeeping only, and writes its record
    if anything. -/
theorem persistUnit_fields (hkey : getUnitNvsKey relay = some relayKey)
    (h : persistUnit env b relayKey gpioPinOld relay = some (err, relay', b')) :
    storedCopy relay' = storedCopy relay ∧
      (b'.nvs = b.nvs ∨
        b'.nvs = Nvs.set b.nvs sNamespace relayKey (.blob (storedCopy relay))) := by
  cases persists_of_persistUnit h with
  | actuator htype hset =>
      rw [getUnitNvsKey, htype] at hkey
      cases relaySetState_outcome htype hkey hset with
      | notSetUp _ hnvs => exact ⟨rfl, .inl hnvs⟩
      | notSet _ _ hnvs => exact ⟨rfl, .inl hnvs⟩
      | unsaved _ _ _ hnvs => exact ⟨storedCopy_releasedUnit relay, .inl hnvs⟩
      | saved _ _ _ hnvs => exact ⟨storedCopy_releasedUnit relay, .inr hnvs⟩
  | unsaved _ herr hsave =>
      rcases saveRelayToNvs_cases hsave with ⟨-, rfl, -⟩ | ⟨-, -, rfl⟩
      · exact absurd rfl herr
      · exact ⟨rfl, .inl rfl⟩
  | saved _ _ hsave =>
      obtain ⟨_, hsome, hnvs⟩ := saveRelayToNvs_ok hsave
      cases hsome
      exact ⟨rfl, .inr hnvs⟩
  | @stuck _ _ b₁ _ _ _ _ hsave hinit =>
      obtain ⟨_, hsome, hnvs⟩ := saveRelayToNvs_ok hsave
      cases hsome
      have hcopy := storedCopy_relayGpioInit env b₁ relay
      have hgpio := (relayGpioInit_onlyGpio env b₁ relay).nvs
      rw [hinit] at hcopy hgpio
      exact ⟨hcopy, .inr (hgpio.trans hnvs)⟩
  | @moved _ _ b₁ b₂ _ _ _ hsave hinit hreg =>
      obtain ⟨_, hsome, hnvs⟩ := saveRelayToNvs_ok hsave
      cases hsome
      have hcopy := storedCopy_relayGpioInit env b₁ relay
      have hgpio := (relayGpioInit_onlyGpio env b₁ relay).nvs
      rw [hinit] at hcopy hgpio
      exact ⟨hcopy, .inr ((relaySensorRegisterIsr_onlyGpio hreg).nvs.trans (hgpio.trans hnvs))⟩

end persistUnit

/-! ### The Frame -/

/-- What an accepted request leaves of its unit: each field it carries a value of the right
    type for has that value, the others are kept. -/
structure FieldsUpdated (data : Json) (relay relay' : RelayUnit) : Prop where
  channel : relay'.channel = relay.channel
  type : relay'.type = relay.type
  gpio_pin : relay'.gpioPin = (numberItem data "relay_gpio_pin".toList).getD relay.gpioPin
  state : relay'.state =
    ((boolItem data "relay_state".toList).map RelayState.ofBool).getD relay.state
  enabled : relay'.enabled = (boolItem data "relay_enabled".toList).getD relay.enabled
  inverted : relay'.inverted = (boolItem data "relay_inverted".toList).getD relay.inverted

/-- One unit and its record are replaced, the other units and records are kept. -/
structure Framed (b b' : Board) (data : Json) (key : CStr) (i : Nat)
    (relay relay' : RelayUnit) : Prop where
  found : b.sUnits[i]? = some relay
  key_eq : getUnitNvsKey relay = some key
  fields : FieldsUpdated data relay relay'
  units : b'.sUnits = b.sUnits.set i relay'
  nvs : b'.nvs = Nvs.set b.nvs sNamespace key (.blob (storedCopy relay'))

theorem parseUpdate_ok {b : Board} {req : Request} {u : UnitUpdate}
    (h : parseUpdate b req = .ok u) :
    ∃ json data, req.json = some json ∧ json.getObjectItem "data".toList = some data ∧
      (data.getObjectItem "relay_key".toList).bind Json.valuestring = some u.relayKey ∧
      u = unitUpdate data u.relayKey := by
  unfold parseUpdate at h
  split at h
  · cases h
  split at h
  · cases h
  split at h
  · cases h
  next json hjson =>
  split at h
  · cases h
  split at h
  · cases h
  next data hdata =>
  split at h
  · cases h
  next relayKey hkey =>
  cases h
  exact ⟨json, data, hjson, hdata, hkey, rfl⟩

theorem fieldsUpdated_of_storedCopy {data : Json} {relayKey : CStr} {relay relay' : RelayUnit}
    (h : storedCopy relay' = storedCopy (assignFields relay (unitUpdate data relayKey))) :
    FieldsUpdated data relay relay' where
  channel := (congrArg RelayUnit.channel h :)
  type := (congrArg RelayUnit.type h :)
  gpio_pin := (congrArg RelayUnit.gpioPin h :)
  state := by
    have hstate := congrArg RelayUnit.state h
    simp only [storedCopy, assignFields, unitUpdate] at hstate
    rw [hstate]
    cases boolItem data "relay_state".toList with
    | none => rfl
    | some on => rfl
  enabled := (congrArg RelayUnit.enabled h :)
  inverted := (congrArg RelayUnit.inverted h :)

/-- Assigning the same fields again assigns nothing. -/
theorem assignFields_again {u : UnitUpdate} {relay relay' : RelayUnit}
    (h : storedCopy relay' = storedCopy (assignFields relay u)) :
    assignFields relay' u = relay' := by
  have hgetD : ∀ {α : Type} {o : Option α} {x y : α}, y = o.getD x → o.getD y = y := by
    intro α o x y hy
    cases o with
    | none => rfl
    | some z => exact hy.symm
  have hpin : u.relayGpioPin.getD relay'.gpioPin = relay'.gpioPin :=
    hgetD (congrArg RelayUnit.gpioPin h :)
  have henabled : u.relayEnabled.getD relay'.enabled = relay'.enabled :=
    hgetD (congrArg RelayUnit.enabled h :)
  have hinverted : u.relayInverted.getD relay'.inverted = relay'.inverted :=
    hgetD (congrArg RelayUnit.inverted h :)
  have hstate : (assignFields relay' u).state = relay'.state := by
    have hassigned : relay'.state = (assignFields relay u).state :=
      (congrArg RelayUnit.state h :)
    rw [hassigned]
    cases hon : u.relayState with
    | none =>
        simp only [assignFields, hon] at hassigned ⊢
        exact hassigned
    | some on => simp only [assignFields, hon]
  calc assignFields relay' u
      = { relay' with
          gpioPin := u.relayGpioPin.getD relay'.gpioPin
          state := (assignFields relay' u).state
          enabled := u.relayEnabled.getD relay'.enabled
          inverted := u.relayInverted.getD relay'.inverted } := rfl
    _ = relay' := by rw [hpin, hstate, henabled, hinverted]

/-! ### The Same Request Again -/

/-- The lookups see the type and the channel of the units only. -/
theorem getRelayFromMemoryByKey_congr {b b' : Board} (hmem : b'.unitsInMemory = b.unitsInMemory)
    (hsensors : b'.sSensorsCount = b.sSensorsCount)
    (hplaces : b'.sUnits.map RelayUnit.place = b.sUnits.map RelayUnit.place)
    (type : RelayType) (key : CStr) :
    getRelayFromMemoryByKey b' type key = getRelayFromMemoryByKey b type key := by
  have hactuator : isActuatorWithKey key = (fun place : RelayType × Int =>
      decide (place.1 = .actuator ∧ getRelayNvsKey place.2 = some key)) ∘ RelayUnit.place := rfl
  have hsensor : isSensorWithKey key = (fun place : RelayType × Int =>
      decide (place.1 = .sensor ∧ getContactSensorNvsKey place.2 = some key)) ∘
        RelayUnit.place := rfl
  have hlength : b'.sUnits.length = b.sUnits.length := by
    simpa using congrArg List.length hplaces
  cases type with
  | actuator =>
      simp only [getRelayFromMemoryByKey, getRelayActuatorFromMemoryByKey, hmem]
      rw [hactuator, ← List.findIdx?_map, ← List.findIdx?_map, hplaces]
  | sensor =>
      simp only [getRelayFromMemoryByKey, getRelaySensorFromMemoryByKey, hmem, hlength, hsensors]
      rw [hsensor, ← List.findIdx?_map, ← List.findIdx?_map, List.map_drop, List.map_drop,
        hplaces]

/-- The check of the request sees two settings of NVS only. -/
theorem parseUpdate_congr {b b' : Board} (req : Request)
    (hid : b'.nvs sNamespace sKeyDeviceId = b.nvs sNamespace sKeyDeviceId)
    (hserial : b'.nvs sNamespace sKeyDeviceSerial = b.nvs sNamespace sKeyDeviceSerial) :
    parseUpdate b' req = parseUpdate b req := by
  have hvalidate : ∀ json, validateDeviceIdentityFromJson b'.nvs json =
      validateDeviceIdentityFromJson b.nvs json := by
    intro json
    unfold validateDeviceIdentityFromJson Nvs.readString
    rw [hid, hserial]
  unfold parseUpdate
  simp only [hvalidate]

/-- A unit's key is that of no setting. -/
theorem getUnitNvsKey_ne {relay : RelayUnit} {key : CStr} (h : getUnitNvsKey relay = some key)
    {setting : CStr} (hsetting : setting ∈ settingKeys) : setting ≠ key := by
  unfold getUnitNvsKey at h
  split at h
  · obtain ⟨n, _, _, rfl⟩ := exists_of_getContactSensorNvsKey h
    exact (settingKey_ne_unitKey hsetting n).2
  · obtain ⟨n, _, _, rfl⟩ := exists_of_getRelayNvsKey h
    exact (settingKey_ne_unitKey hsetting n).1

/-- What a request answered with `ESP_OK` has done, up to the driver bookkeeping. -/
structure AppliedUpdate (b : Board) (req : Request) (b' : Board) (u : UnitUpdate) (i : Nat)
    (relay relay' : RelayUnit) : Prop where
  updated : Updated b req b' u i relay relay'
  copy : storedCopy relay' = storedCopy (assignFields relay u)
  mode : relay.type = .actuator →
    ∃ mode, Nvs.readUint16 b.nvs sNamespace sKeyMqttConnect = .ok mode

/-- A state that was set came with an MQTT mode that could be read. -/
theorem relaySetState_mode {env : Env} {b b' : Board} {relay relay' : RelayUnit}
    {state : RelayState} {persist : Bool}
    (h : relaySetState env b relay state persist = some (.ok, relay', b')) :
    ∃ mode, Nvs.readUint16 b.nvs sNamespace sKeyMqttConnect = .ok mode := by
  have hpublished : ∀ {b₁ : Board} {relay₁ : RelayUnit} {made : Bool}, b₁.nvs = b.nvs →
      setLevelAndPersist env b₁ relay₁ state made persist = some (.ok, relay', b') →
      ∃ mode, Nvs.readUint16 b.nvs sNamespace sKeyMqttConnect = .ok mode := by
    intro b₁ relay₁ made hnvs hset
    have hlevelNvs := (gpioSetLevel_onlyGpio env b₁ relay₁.gpioPin
      (xor state.toBool relay₁.inverted)).nvs
    rcases setLevelAndPersist_cases hset with ⟨_, _, herr, _, _⟩ | ⟨b₂, b₃, hlevel, _, hpub, _⟩
    · cases herr
    · rw [hlevel] at hlevelNvs
      unfold publishUpdate at hpub
      split at hpub
      · cases hpub
      · next mode hmode =>
          rw [← hnvs, ← hlevelNvs]
          exact ⟨mode, hmode⟩
  unfold relaySetState at h
  split at h
  · cases h
  split at h
  · exact hpublished rfl h
  have hinit := (relayGpioInit_onlyGpio env b relay).nvs
  split at h
  · next heq =>
      rw [heq] at hinit
      exact hpublished hinit h
  · cases h

theorem updateRelayPostHandler_applied {env : Env} {serializes : Bool} {b b' : Board}
    {req : Request} {response : Response}
    (h : updateRelayPostHandler env serializes b req = some (.ok, response, b')) :
    ∃ u i relay relay', AppliedUpdate b req b' u i relay relay' := by
  rcases updateRelayPostHandler_cases h with ⟨herr, _, _⟩ | ⟨u, i, relay, hres, hsafe, happ⟩
  · cases herr
  · obtain ⟨_, hlookup, hget⟩ := resolveUpdate_eq_ok hres
    have hkey := (getRelayFromMemoryByKey_eq_ok hlookup hget).2
    obtain ⟨err₁, relay', b₁, hpersist, rfl, hok⟩ := applyUpdate_eq_some happ
    rw [hok rfl] at hpersist
    refine ⟨u, i, relay, relay', updated_of_persistUnit hres hsafe hpersist,
      (persistUnit_fields (by exact hkey) hpersist).1, ?_⟩
    intro htype
    cases persists_of_persistUnit hpersist with
    | actuator _ hset =>
        have hmode := relaySetState_mode hset
        exact hmode
    | unsaved hsensor | saved hsensor | stuck hsensor | moved hsensor =>
        rw [show (assignFields relay u).type = relay.type from rfl, htype] at hsensor
        cases hsensor

section again
variable {b b' : Board} {req : Request} {u : UnitUpdate} {i : Nat} {relay relay' : RelayUnit}
  (h : AppliedUpdate b req b' u i relay relay')
include h

/-- The settings are those before the request. -/
theorem AppliedUpdate.setting {setting : CStr} (hsetting : setting ∈ settingKeys) :
    b'.nvs sNamespace setting = b.nvs sNamespace setting := by
  rw [h.updated.saved]
  exact Nvs.set_ne _ _ _ _ _ (getUnitNvsKey_ne h.updated.key hsetting)

/-- The same request resolves to the same unit. -/
theorem AppliedUpdate.resolve_again : resolveUpdate b' req = .ok (u, i, relay') := by
  obtain ⟨hparse, hlookup, hget⟩ := resolveUpdate_eq_ok h.updated.resolved
  have hplace : relay'.place = relay.place :=
    Prod.ext h.updated.assigned.type h.updated.assigned.channel
  have hplaces : b'.sUnits.map RelayUnit.place = b.sUnits.map RelayUnit.place := by
    rw [h.updated.units, map_set_of_eq _ hget hplace]
  have hparse' : parseUpdate b' req = .ok u := by
    rw [parseUpdate_congr req (h.setting (by decide)) (h.setting (by decide))]
    exact hparse
  have hlookup' : getRelayFromMemoryByKey b' u.relayType u.relayKey = .ok i := by
    rw [getRelayFromMemoryByKey_congr h.updated.units_in_memory h.updated.sensors_count hplaces]
    exact hlookup
  unfold resolveUpdate
  simp only [hparse', hlookup', units_replaced_self h.updated.units hget]

theorem AppliedUpdate.key_again : getUnitNvsKey relay' = some u.relayKey := by
  unfold getUnitNvsKey
  rw [h.updated.assigned.type, h.updated.assigned.channel]
  exact h.updated.key

/-- Whatever the second handling comes to, units and records are the same afterwards. -/
theorem AppliedUpdate.handle_again {env : Env} {serializes : Bool} {err : EspErr}
    {response : Response} {b'' : Board}
    (h' : updateRelayPostHandler env serializes b' req = some (err, response, b'')) :
    b''.sUnits.map storedCopy = b'.sUnits.map storedCopy ∧ b''.nvs = b'.nvs := by
  rcases updateRelayPostHandler_cases h' with ⟨_, rfl, _⟩ | ⟨u₂, i₂, relay₂, hres, _, happ⟩
  · exact ⟨rfl, rfl⟩
  · rw [h.resolve_again] at hres
    cases hres
    obtain ⟨err₁, relay'', b₁, hpersist, rfl, _⟩ := applyUpdate_eq_some happ
    have hassign := assignFields_again h.copy
    rw [hassign] at hpersist
    obtain ⟨hcopy, hnvs⟩ := persistUnit_fields h.key_again hpersist
    have hget : b'.sUnits[i]? = some relay' :=
      units_replaced_self h.updated.units (resolveUpdate_eq_ok h.updated.resolved).2.2
    constructor
    · show (b₁.sUnits.set i relay'').map storedCopy = _
      rw [(persistUnit_frame hpersist).1.units]
      show ((b'.sUnits.set i relay').set i relay'').map storedCopy = _
      rw [List.set_set, map_set_of_eq storedCopy hget hcopy]
    · rcases hnvs with hnvs | hnvs
      · exact hnvs
      · -- the record that is written is the one that is there
        refine hnvs.trans (set_eq_self_iff.mpr ?_)
        show b'.nvs sNamespace u.relayKey = _
        rw [h.updated.saved, Nvs.set_self]

end again

/-! ### Calls That Succeed -/

theorem publishUpdate_isSome {b : Board} {relay : RelayUnit} {mode : Nat} {key : CStr}
    (hmode : Nvs.readUint16 b.nvs sNamespace sKeyMqttConnect = .ok mode)
    (hkey : getUnitNvsKey relay = some key) : ∃ b', publishUpdate b relay = some b' := by
  unfold publishUpdate
  rw [hmode]
  dsimp only
  split
  · rw [hkey]
    exact ⟨_, rfl⟩
  · exact ⟨_, rfl⟩

theorem setLevelAndPersist_envOk {b : Board} {relay : RelayUnit} {state : RelayState}
    {gpioInitMade : Bool} {mode : Nat} {key : CStr} (htype : relay.type = .actuator)
    (hmode : Nvs.readUint16 b.nvs sNamespace sKeyMqttConnect = .ok mode)
    (hkey : getRelayNvsKey relay.channel = some key) :
    ∃ relay' b', setLevelAndPersist Env.ok b relay state gpioInitMade true =
      some (.ok, relay', b') := by
  have hsame := unitWithState_sameUnit relay state gpioInitMade
  have hkey' : getRelayNvsKey (unitWithState relay state gpioInitMade).channel = some key := by
    rw [hsame.channel]
    exact hkey
  have hunitKey : getUnitNvsKey (unitWithState relay state gpioInitMade) = some key := by
    unfold getUnitNvsKey
    rw [hsame.type, htype]
    exact hkey'
  obtain ⟨b₁, hlevel⟩ : ∃ b₁, gpioSetLevel Env.ok b relay.gpioPin
      (xor state.toBool relay.inverted) = (.ok, b₁) := ⟨_, rfl⟩
  have hnvs := (gpioSetLevel_onlyGpio Env.ok b relay.gpioPin
    (xor state.toBool relay.inverted)).nvs
  rw [hlevel] at hnvs
  have hmode₁ : Nvs.readUint16 b₁.nvs sNamespace sKeyMqttConnect = .ok mode := by
    rw [hnvs]
    exact hmode
  obtain ⟨b₂, hpub⟩ := publishUpdate_isSome hmode₁ hunitKey
  unfold unitWithState at hpub hkey'
  unfold setLevelAndPersist
  rw [hlevel]
  simp only [hpub, if_true, hkey', saveRelayToNvs_some, Env.ok]
  exact ⟨_, _, rfl⟩

theorem relaySetState_envOk {b : Board} {relay : RelayUnit} {state : RelayState} {mode : Nat}
    {key : CStr} (htype : relay.type = .actuator)
    (hmode : Nvs.readUint16 b.nvs sNamespace sKeyMqttConnect = .ok mode)
    (hkey : getRelayNvsKey relay.channel = some key) :
    ∃ relay' b', relaySetState Env.ok b relay state true = some (.ok, relay', b') := by
  unfold relaySetState
  simp only [htype]
  split
  · exact setLevelAndPersist_envOk htype hmode hkey
  · obtain ⟨relay₁, b₁, hinit⟩ : ∃ relay₁ b₁, relayGpioInit Env.ok b relay = (.ok, relay₁, b₁) :=
      ⟨_, _, rfl⟩
    have hsame := (relayGpioInit_frame hinit).2
    have hnvs := (relayGpioInit_onlyGpio Env.ok b relay).nvs
    rw [hinit] at hnvs ⊢
    have hmode₁ : Nvs.readUint16 b₁.nvs sNamespace sKeyMqttConnect = .ok mode := by
      rw [show b₁.nvs = b.nvs from hnvs]
      exact hmode
    exact setLevelAndPersist_envOk (hsame.type.trans htype) hmode₁ (hsame.channel ▸ hkey)

/-- A unit on its old pin is saved and applied when all calls succeed. -/
theorem persistUnit_envOk {b : Board} {relay : RelayUnit} {relayKey : CStr}
    (hkey : getUnitNvsKey relay = some relayKey)
    (hmode : relay.type = .actuator →
      ∃ mode, Nvs.readUint16 b.nvs sNamespace sKeyMqttConnect = .ok mode) :
    ∃ relay' b', persistUnit Env.ok b relayKey relay.gpioPin relay = some (.ok, relay', b') := by
  unfold persistUnit
  cases htype : relay.type with
  | actuator =>
      obtain ⟨mode, hmode⟩ := hmode htype
      rw [getUnitNvsKey, htype] at hkey
      exact relaySetState_envOk htype hmode hkey
  | sensor =>
      simp only [saveRelayToNvs_some, Env.ok, if_true, ne_eq, not_true_eq_false, if_false]
      exact ⟨_, _, rfl⟩

/-- The second handling is answered with `ESP_OK` again when all its calls succeed. -/
theorem AppliedUpdate.accepted_again {b b' : Board} {req : Request} {u : UnitUpdate} {i : Nat}
    {relay relay' : RelayUnit} (h : AppliedUpdate b req b' u i relay relay') :
    ∃ response b'', updateRelayPostHandler Env.ok true b' req = some (.ok, response, b'') := by
  have hmode : relay'.type = .actuator →
      ∃ mode, Nvs.readUint16 (b'.setUnit i relay').nvs sNamespace sKeyMqttConnect =
        .ok mode := by
    intro htype
    obtain ⟨mode, hmode⟩ := h.mode (h.updated.assigned.type.symm.trans htype)
    refine ⟨mode, ?_⟩
    show Nvs.readUint16 b'.nvs sNamespace sKeyMqttConnect = .ok mode
    unfold Nvs.readUint16 at hmode ⊢
    rw [h.setting (by decide)]
    exact hmode
  obtain ⟨relay'', b₁, hpersist⟩ := persistUnit_envOk h.key_again hmode
  have happly : applyUpdate Env.ok true b' u i relay' =
      some (.ok, .json (updateResponse relay''), b₁.setUnit i relay'') := by
    unfold applyUpdate
    simp only [assignFields_again h.copy, hpersist, if_true]
  unfold updateRelayPostHandler
  rw [h.resolve_again]
  simp only
  cases hpin : u.relayGpioPin with
  | none => exact ⟨_, _, happly⟩
  | some pin =>
      simp only
      rw [checkGpioPin_eq, if_pos (h.updated.safe pin hpin)]
      exact ⟨_, _, happly⟩

/-! ### Main Theorem -/

/-- **A unit update answered with `ESP_OK`** replaces the addressed unit and its record, in
    the fields that the request carries a value for. Coming again, the request is accepted
    again, and changes no unit and no record, whatever its outcome. -/
theorem updateRelayPostHandler_framed {env : Env} {serializes : Bool} {b b' : Board}
    {req : Request} {response : Response}
    (h : updateRelayPostHandler env serializes b req = some (.ok, response, b')) :
    (∃ json data key i relay relay', req.json = some json ∧
      json.getObjectItem "data".toList = some data ∧
      (data.getObjectItem "relay_key".toList).bind Json.valuestring = some key ∧
      Framed b b' data key i relay relay') ∧
    (∃ response' b'', updateRelayPostHandler Env.ok true b' req = some (.ok, response', b'')) ∧
    ∀ env' serializes' err' response' b'',
      updateRelayPostHandler env' serializes' b' req = some (err', response', b'') →
        b''.sUnits.map storedCopy = b'.sUnits.map storedCopy ∧ b''.nvs = b'.nvs := by
  obtain ⟨u, i, relay, relay', happlied⟩ := updateRelayPostHandler_applied h
  refine ⟨?_, happlied.accepted_again, fun _ _ _ _ _ h' => happlied.handle_again h'⟩
  have hupdated := happlied.updated
  obtain ⟨hparse, _, hget⟩ := resolveUpdate_eq_ok hupdated.resolved
  obtain ⟨json, data, hjson, hdata, hkey, hu⟩ := parseUpdate_ok hparse
  have hcopy := happlied.copy
  rw [hu] at hcopy
  exact ⟨json, data, u.relayKey, i, relay, relay', hjson, hdata, hkey,
    ⟨hget, hupdated.key, fieldsUpdated_of_storedCopy hcopy, hupdated.units, hupdated.saved⟩⟩

/-- Actuator 0 is moved to pin 6, twice. -/
theorem updateRelayPostHandler_framed_move :
    ∃ response b', updateRelayPostHandler Env.ok true twoActuators (moveFirst 6) =
        some (.ok, response, b') ∧ b'.sUnits.map RelayUnit.gpioPin = [6, 5] ∧
      ∀ env' serializes' err' response' b'',
        updateRelayPostHandler env' serializes' b' (moveFirst 6) =
            some (err', response', b'') →
          b''.sUnits.map storedCopy = b'.sUnits.map storedCopy ∧ b''.nvs = b'.nvs := by
  have hrun : (updateRelayPostHandler Env.ok true twoActuators (moveFirst 6)).any
      (fun r => r.1 = .ok ∧ r.2.2.sUnits.map RelayUnit.gpioPin = [6, 5]) = true := by
    decide +kernel
  obtain ⟨⟨err, response, b'⟩, hupdate, hr⟩ := (Option.any_eq_true _ _).mp hrun
  obtain ⟨herr, hpins⟩ := of_decide_eq_true hr
  cases herr
  exact ⟨response, b', hupdate, hpins, (updateRelayPostHandler_framed hupdate).2.2⟩

end Web
