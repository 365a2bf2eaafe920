import RelayBoard.Platform.Json
import RelayBoard.Relay.Frame

/-! # The Unit Update Request

  `update_relay_post_handler` of `main/web.c`: the request is checked, the
  unit is looked up in memory, its fields are assigned in place, and the unit
  is saved and applied to its pin.
-/

open CString Relay Settings

namespace Web

/-! ### Requests and Responses -/

/-- What reaches a JSON handler: the length of the body, whether every
    `httpd_req_recv` returned data, and what `cJSON_Parse` makes of the body. -/
structure Request where
  contentLen : Nat
  received : Bool
  json : Option Json

/-- What the handler sends. -/
inductive Response where
  /-- `httpd_resp_send` of a JSON text. -/
  | json (body : Json)
  /-- `HTTPD_400_BAD_REQUEST`. -/
  | badRequest (text : CStr)
  /-- `HTTPD_401_UNAUTHORIZED`. -/
  | unauthorized (text : CStr)
  /-- `httpd_resp_send_500`. -/
  | internalError

/-- `sizeof(content)` in `update_relay_post_handler`. -/
def contentSize : Nat := 512

/-- The fields of the `data` object. -/
structure UnitUpdate where
  relayKey : CStr
  relayType : RelayType
  relayGpioPin : Option Int
  relayState : Option Bool
  relayEnabled : Option Bool
  relayInverted : Option Bool
  deriving DecidableEq, Repr

/-! ### Reading the Request -/

/-- `validate_device_identity_from_json`. -/
def validateDeviceIdentityFromJson (nvs : Nvs.Store RelayUnit) (json : Json) : EspErr :=
  match (json.getObjectItemCaseSensitive "device_id".toList).bind Json.valuestring,
      (json.getObjectItemCaseSensitive "device_serial".toList).bind Json.valuestring with
  | some deviceIdIn, some deviceSerialIn =>
      match Nvs.readString nvs sNamespace sKeyDeviceId,
          Nvs.readString nvs sNamespace sKeyDeviceSerial with
      | .ok deviceId, .ok deviceSerial =>
          if deviceIdIn = deviceId ∧ deviceSerialIn = deviceSerial then .ok else .fail
      | _, _ => .fail
  | _, _ => .fail

/-- A member that is a number. -/
def numberItem (data : Json) (name : CStr) : Option Int :=
  match data.getObjectItem name with
  | some item => if item.isNumber then some item.valueint else none
  | none => none

/-- A member that is a boolean. -/
def boolItem (data : Json) (name : CStr) : Option Bool :=
  match data.getObjectItem name with
  | some item => if item.isBool then some (item.valueint ≠ 0) else none
  | none => none

/-- The unit type a request names; an actuator unless it says otherwise. -/
def requestedType (data : Json) : RelayType :=
  if numberItem data "relay_type".toList = some 1 then .sensor else .actuator

/-- The fields of `data` once its `relay_key` has been read. -/
def unitUpdate (data : Json) (relayKey : CStr) : UnitUpdate where
  relayKey := relayKey
  relayType := requestedType data
  relayGpioPin := numberItem data "relay_gpio_pin".toList
  relayState := boolItem data "relay_state".toList
  relayEnabled := boolItem data "relay_enabled".toList
  relayInverted := boolItem data "relay_inverted".toList

/-- The handler up to the fields of `data`. -/
def parseUpdate (b : Board) (req : Request) : Except Response UnitUpdate :=
  if req.contentLen ≥ contentSize then .error .internalError
  else if req.received = false then .error .internalError
  else
    match req.json with
    | none => .error (.badRequest "Failed to parse JSON".toList)
    | some json =>
        if validateDeviceIdentityFromJson b.nvs json ≠ .ok then
          .error (.unauthorized
            "Device identity validation failed: invalid serial or ID".toList)
        else
          match json.getObjectItem "data".toList with
          | none => .error (.badRequest "No 'data' object in JSON".toList)
          | some data =>
              match (data.getObjectItem "relay_key".toList).bind Json.valuestring with
              | none => .error (.badRequest "Missing or invalid 'relay_key'".toList)
              | some relayKey => .ok (unitUpdate data relayKey)

/-- The handler up to the lookup: the index of the unit in `s_units` and the unit. -/
def resolveUpdate (b : Board) (req : Request) :
    Except Response (UnitUpdate × Nat × RelayUnit) :=
  match parseUpdate b req with
  | .error response => .error response
  | .ok u =>
      match getRelayFromMemoryByKey b u.relayType u.relayKey with
      | .error _ => .error .internalError
      | .ok i =>
          match b.sUnits[i]? with
          | some relay => .ok (u, i, relay)
          | none => .error .internalError

/-! ### The Pin -/

/-- The two checks of a requested pin. The second compares the old pin with the
    pin that the unit still has, so it never gets to the scan. -/
def checkGpioPin (env : Env) (b : Board) (gpioPinOld : Int) (relay : RelayUnit)
    (gpioPin : Int) : Option (Except Response Unit × Board) :=
  if isGpioSafe gpioPin = false then
    some (.error (.badRequest "Invalid GPIO pin".toList), b)
  else if gpioPinOld ≠ relay.gpioPin then
    match isGpioPinInUse env b gpioPin with
    | none => none
    | some (true, b) => some (.error (.badRequest "GPIO pin is in use".toList), b)
    | some (false, b) => some (.ok (), b)
  else some (.ok (), b)

/-! ### Applying the Request -/

/-- The assignments to the unit. -/
def assignFields (relay : RelayUnit) (u : UnitUpdate) : RelayUnit :=
  { relay with
    gpioPin := u.relayGpioPin.getD relay.gpioPin
    state := match u.relayState with
      | some on => RelayState.ofBool on
      | none => relay.state
    enabled := u.relayEnabled.getD relay.enabled
    inverted := u.relayInverted.getD relay.inverted }

/-- "save to NVS: actuators -- via setting the state, sensors -- just saving". A
    sensor on a new pin also gets its pin and its interrupt set up. -/
def persistUnit (env : Env) (b : Board) (relayKey : CStr) (gpioPinOld : Int)
    (relay : RelayUnit) : Option (EspErr × RelayUnit × Board) :=
  match relay.type with
  | .actuator => relaySetState env b relay relay.state true
  | .sensor =>
      match saveRelayToNvs env b (some relayKey) relay with
      | (.ok, b) =>
          if gpioPinOld ≠ relay.gpioPin then
            match relayGpioInit env b relay with
            | (.ok, relay, b) =>
                let (err, b) := relaySensorRegisterIsr b relay
                some (err, relay, b)
            | (err, relay, b) => some (err, relay, b)
          else some (.ok, relay, b)
      | (err, b) => some (err, relay, b)

/-- The number of a type in JSON. -/
def typeNumber : RelayType → Int
  | .actuator => 0
  | .sensor => 1

/-- `serialize_relay_unit`; a null key leaves `relay_key` out. -/
def serializeRelayUnit (relay : RelayUnit) : Json :=
  .object ((match getUnitNvsKey relay with
    | some key => [("relay_key".toList, .string key)]
    | none => []) ++
    [("channel".toList, .number relay.channel),
      ("state".toList, .bool (relay.state = .on)),
      ("inverted".toList, .bool relay.inverted),
      ("gpio_pin".toList, .number relay.gpioPin),
      ("enabled".toList, .bool relay.enabled),
      ("type".toList, .number (typeNumber relay.type))])

/-- The body of a successful answer. -/
def updateResponse (relay : RelayUnit) : Json :=
  .object [("data".toList, serializeRelayUnit relay),
    ("status".toList, .object [("error".toList, .string "OK".toList),
      ("code".toList, .number 0)])]

/-- The handler after the checks; `serializes` tells whether
    `serialize_relay_unit` finds memory. -/
def applyUpdate (env : Env) (serializes : Bool) (b : Board) (u : UnitUpdate) (i : Nat)
    (relay : RelayUnit) : Option (EspErr × Response × Board) :=
  let gpioPinOld := relay.gpioPin
  let relay := assignFields relay u
  match persistUnit env (b.setUnit i relay) u.relayKey gpioPinOld relay with
  | none => none
  | some (.ok, relay, b) =>
      if serializes then some (.ok, .json (updateResponse relay), b.setUnit i relay)
      else some (.fail, .internalError, b.setUnit i relay)
  | some (_, relay, b) => some (.fail, .internalError, b.setUnit i relay)

/-- `update_relay_post_handler`. -/
def updateRelayPostHandler (env : Env) (serializes : Bool) (b : Board) (req : Request) :
    Option (EspErr × Response × Board) :=
  match resolveUpdate b req with
  | .error response => some (.fail, response, b)
  | .ok (u, i, relay) =>
      match u.relayGpioPin with
      | none => applyUpdate env serializes b u i relay
      | some gpioPin =>
          match checkGpioPin env b relay.gpioPin relay gpioPin with
          | none => none
          | some (.error response, b) => some (.fail, response, b)
          | some (.ok (), b) => applyUpdate env serializes b u i relay

/-! ### What a Request Does to the Table -/

/-- The pin check is the safety check alone. -/
theorem checkGpioPin_eq (env : Env) (b : Board) (relay : RelayUnit) (gpioPin : Int) :
    checkGpioPin env b relay.gpioPin relay gpioPin =
      some (if isGpioSafe gpioPin then .ok ()
        else .error (.badRequest "Invalid GPIO pin".toList), b) := by
  unfold checkGpioPin
  cases isGpioSafe gpioPin with
  | false => rfl
  | true =>
      -- the old pin is the pin the unit still has
      rw [if_neg (by simp), if_neg (by simp)]
      rfl

theorem resolveUpdate_eq_ok {b : Board} {req : Request} {u : UnitUpdate} {i : Nat}
    {relay : RelayUnit} (h : resolveUpdate b req = .ok (u, i, relay)) :
    parseUpdate b req = .ok u ∧ getRelayFromMemoryByKey b u.relayType u.relayKey = .ok i ∧
      b.sUnits[i]? = some relay := by
  unfold resolveUpdate at h
  split at h
  · cases h
  · next u' hparse =>
      split at h
      · cases h
      · next i' hlookup =>
          split at h
          · next relay' hget =>
              cases h
              exact ⟨hparse, hlookup, hget⟩
          · cases h

/-- How `persistUnit` comes to its result. -/
inductive Persists (env : Env) (b : Board) (relayKey : CStr) (gpioPinOld : Int)
    (relay : RelayUnit) : EspErr → RelayUnit → Board → Prop where
  | actuator {err : EspErr} {relay' : RelayUnit} {b' : Board} (htype : relay.type = .actuator)
      (hset : relaySetState env b relay relay.state true = some (err, relay', b')) :
      Persists env b relayKey gpioPinOld relay err relay' b'
  /-- The record of a sensor is not written. -/
  | unsaved {err : EspErr} {b' : Board} (htype : relay.type = .sensor) (herr : err ≠ .ok)
      (hsave : saveRelayToNvs env b (some relayKey) relay = (err, b')) :
      Persists env b relayKey gpioPinOld relay err relay b'
  /-- The sensor has kept its pin. -/
  | saved {b' : Board} (htype : relay.type = .sensor) (hpin : gpioPinOld = relay.gpioPin)
      (hsave : saveRelayToNvs env b (some relayKey) relay = (.ok, b')) :
      Persists env b relayKey gpioPinOld relay .ok relay b'
  /-- The new pin of the sensor is not set up. -/
  | stuck {err : EspErr} {relay' : RelayUnit} {b₁ b' : Board} (htype : relay.type = .sensor)
      (hpin : gpioPinOld ≠ relay.gpioPin) (herr : err ≠ .ok)
      (hsave : saveRelayToNvs env b (some relayKey) relay = (.ok, b₁))
      (hinit : relayGpioInit env b₁ relay = (err, relay', b')) :
      Persists env b relayKey gpioPinOld relay err relay' b'
  | moved {err : EspErr} {relay' : RelayUnit} {b₁ b₂ b' : Board}
      (htype : relay.type = .sensor) (hpin : gpioPinOld ≠ relay.gpioPin)
      (hsave : saveRelayToNvs env b (some relayKey) relay = (.ok, b₁))
      (hinit : relayGpioInit env b₁ relay = (.ok, relay', b₂))
      (hreg : relaySensorRegisterIsr b₂ relay' = (err, b')) :
      Persists env b relayKey gpioPinOld relay err relay' b'

section persistUnit
variable {env : Env} {b b' : Board} {relayKey : CStr} {gpioPinOld : Int}
  {relay relay' : RelayUnit} {err : EspErr}

theorem persists_of_persistUnit
    (h : persistUnit env b relayKey gpioPinOld relay = some (err, relay', b')) :
    Persists env b relayKey gpioPinOld relay err relay' b' := by
  unfold persistUnit at h
  split at h
  · next htype => exact .actuator htype h
  · next htype =>
      split at h
      · next b₁ hsave =>
          split at h
          · next hpin =>
              split at h
              · next relay₂ b₂ hinit =>
                  cases h
                  exact .moved htype hpin hsave hinit rfl
              · next herr hinit =>
                  cases h
                  exact .stuck htype hpin herr hsave hinit
          · next hpin =>
              cases h
              exact .saved htype (not_not.mp hpin) hsave
      · next herr hsave =>
          cases h
          exact .unsaved htype herr hsave

/-- The writes after the assignments keep the table and the unit's own fields. -/
theorem persistUnit_frame
    (h : persistUnit env b relayKey gpioPinOld relay = some (err, relay', b')) :
    SameTable b b' ∧ SameUnit relay relay' := by
  cases persists_of_persistUnit h with
  | actuator htype hset => exact relaySetState_frame hset
  | unsaved htype herr hsave =>
      exact ⟨saveRelayToNvs_sameTable hsave, SameUnit.refl relay⟩
  | saved htype hpin hsave =>
      exact ⟨saveRelayToNvs_sameTable hsave, SameUnit.refl relay⟩
  | stuck htype hpin herr hsave hinit =>
      obtain ⟨htab, hunit⟩ := relayGpioInit_frame hinit
      exact ⟨(saveRelayToNvs_sameTable hsave).trans htab, hunit⟩
  | moved htype hpin hsave hinit hreg =>
      obtain ⟨htab, hunit⟩ := relayGpioInit_frame hinit
      have hisr := (relaySensorRegisterIsr_onlyGpio hreg).sameTable
      exact ⟨((saveRelayToNvs_sameTable hsave).trans htab).trans hisr, hunit⟩

end persistUnit

/-- `applyUpdate` stores what `persistUnit` returns, and is no more successful. -/
theorem applyUpdate_eq_some {env : Env} {serializes : Bool} {b b' : Board} {u : UnitUpdate}
    {i : Nat} {relay : RelayUnit} {err : EspErr} {response : Response}
    (h : applyUpdate env serializes b u i relay = some (err, response, b')) :
    ∃ err₁ relay' b₁, persistUnit env (b.setUnit i (assignFields relay u)) u.relayKey
        relay.gpioPin (assignFields relay u) = some (err₁, relay', b₁) ∧
      b' = b₁.setUnit i relay' ∧ (err = .ok → err₁ = .ok) := by
  unfold applyUpdate at h
  dsimp only at h
  split at h
  · cases h
  · next relay' b₁ hpersist =>
      refine ⟨.ok, relay', b₁, hpersist, ?_, fun _ => rfl⟩
      split at h <;> cases h <;> rfl
  · next err₁ relay' b₁ _ hpersist =>
      cases h
      refine ⟨err₁, relay', b₁, hpersist, rfl, ?_⟩
      intro hok
      cases hok

/-- Whatever its outcome, `applyUpdate` puts one unit with the assigned fields in
    the place of the old one. -/
theorem applyUpdate_units {env : Env} {serializes : Bool} {b b' : Board} {u : UnitUpdate}
    {i : Nat} {relay : RelayUnit} {err : EspErr} {response : Response}
    (h : applyUpdate env serializes b u i relay = some (err, response, b')) :
    ∃ relay', SameUnit (assignFields relay u) relay' ∧ b'.sUnits = b.sUnits.set i relay' := by
  obtain ⟨err₁, relay', b₁, hpersist, rfl, _⟩ := applyUpdate_eq_some h
  obtain ⟨htab, hunit⟩ := persistUnit_frame hpersist
  refine ⟨relay', hunit, ?_⟩
  show b₁.sUnits.set i relay' = _
  rw [htab.units]
  exact List.set_set _

/-- A request is refused before anything changes, or it has resolved to a unit,
    its pin is safe, and the fields have been assigned. -/
theorem updateRelayPostHandler_cases {env : Env} {serializes : Bool} {b b' : Board}
    {req : Request} {err : EspErr} {response : Response}
    (h : updateRelayPostHandler env serializes b req = some (err, response, b')) :
    (err = .fail ∧ b' = b ∧
      ∀ u i relay, resolveUpdate b req = .ok (u, i, relay) →
        ∃ pin, u.relayGpioPin = some pin ∧ isGpioSafe pin = false) ∨
    (∃ u i relay, resolveUpdate b req = .ok (u, i, relay) ∧
      (∀ pin, u.relayGpioPin = some pin → isGpioSafe pin = true) ∧
      applyUpdate env serializes b u i relay = some (err, response, b')) := by
  unfold updateRelayPostHandler at h
  split at h
  · next hresolve =>
      cases h
      left
      refine ⟨rfl, rfl, ?_⟩
      intro u i relay hok
      rw [hresolve] at hok
      cases hok
  · next u i relay hresolve =>
      split at h
      · next hnone =>
          right
          refine ⟨u, i, relay, hresolve, ?_, h⟩
          intro pin hpin
          rw [hnone] at hpin
          cases hpin
      · next pin hpin =>
          -- the pin check comes before anything is changed
          rw [checkGpioPin_eq] at h
          cases hsafe : isGpioSafe pin with
          | false =>
              rw [hsafe] at h
              cases h
              left
              refine ⟨rfl, rfl, ?_⟩
              intro u' i' relay' hok
              rw [hresolve] at hok
              cases hok
              exact ⟨pin, hpin, hsafe⟩
          | true =>
              rw [hsafe] at h
              right
              refine ⟨u, i, relay, hresolve, ?_, h⟩
              intro pin' hpin'
              rw [hpin] at hpin'
              cases hpin'
              exact hsafe

/-! ### What a Successful Request Stores -/

/-- After a successful `persistUnit` the record of the unit is the unit. -/
theorem persistUnit_saved {env : Env} {b b' : Board} {relayKey : CStr} {gpioPinOld : Int}
    {relay relay' : RelayUnit} (hkey : getUnitNvsKey relay = some relayKey)
    (h : persistUnit env b relayKey gpioPinOld relay = some (.ok, relay', b')) :
    b'.nvs = Nvs.set b.nvs sNamespace relayKey (.blob (storedCopy relay')) := by
  have hunit := (persistUnit_frame h).2
  cases persists_of_persistUnit h with
  | actuator htype hset =>
      unfold getUnitNvsKey at hkey
      rw [htype] at hkey
      obtain ⟨key, hkey', hsaved⟩ := relaySetState_saved hset
      rw [hunit.channel] at hkey'
      have hsame : key = relayKey := Option.some.inj (hkey'.symm.trans hkey)
      rw [hsaved, hsame]
  | unsaved htype herr hsave => exact absurd rfl herr
  | saved htype hpin hsave =>
      obtain ⟨key, hsome, hsaved⟩ := saveRelayToNvs_ok hsave
      cases hsome
      exact hsaved
  | stuck htype hpin herr hsave hinit => exact absurd rfl herr
  | @moved _ _ b₁ b₂ _ htype hpin hsave hinit hreg =>
      obtain ⟨key, hsome, hsaved⟩ := saveRelayToNvs_ok hsave
      cases hsome
      -- the record was written before the pin was set up
      have hnvs := (relayGpioInit_onlyGpio env b₁ relay).nvs
      have hcopy := storedCopy_relayGpioInit env b₁ relay
      rw [hinit] at hnvs hcopy
      dsimp only at hnvs hcopy
      rw [(relaySensorRegisterIsr_onlyGpio hreg).nvs, hnvs, hsaved, hcopy]

/-- What a request that is answered with `ESP_OK` has done. -/
structure Updated (b : Board) (req : Request) (b' : Board) (u : UnitUpdate) (i : Nat)
    (relay relay' : RelayUnit) : Prop where
  resolved : resolveUpdate b req = .ok (u, i, relay)
  safe : ∀ pin, u.relayGpioPin = some pin → isGpioSafe pin = true
  key : getUnitNvsKey relay = some u.relayKey
  assigned : SameUnit (assignFields relay u) relay'
  units : b'.sUnits = b.sUnits.set i relay'
  saved : b'.nvs = Nvs.set b.nvs sNamespace u.relayKey (.blob (storedCopy relay'))
  units_in_memory : b'.unitsInMemory = b.unitsInMemory
  relays_count : b'.sRelaysCount = b.sRelaysCount
  sensors_count : b'.sSensorsCount = b.sSensorsCount

/-- A request whose unit has been saved has updated it. -/
theorem updated_of_persistUnit {env : Env} {b b₁ : Board} {req : Request} {u : UnitUpdate}
    {i : Nat} {relay relay' : RelayUnit} (hres : resolveUpdate b req = .ok (u, i, relay))
    (hsafe : ∀ pin, u.relayGpioPin = some pin → isGpioSafe pin = true)
    (hpersist : persistUnit env (b.setUnit i (assignFields relay u)) u.relayKey
      relay.gpioPin (assignFields relay u) = some (.ok, relay', b₁)) :
    Updated b req (b₁.setUnit i relay') u i relay relay' := by
  obtain ⟨_, hlookup, hget⟩ := resolveUpdate_eq_ok hres
  have hkey := (getRelayFromMemoryByKey_eq_ok hlookup hget).2
  obtain ⟨htab, hunit⟩ := persistUnit_frame hpersist
  have hsaved := persistUnit_saved (by exact hkey) hpersist
  refine ⟨hres, hsafe, hkey, hunit, ?_, hsaved, htab.units_in_memory, htab.relays_count,
    htab.sensors_count⟩
  show b₁.sUnits.set i relay' = _
  rw [htab.units]
  exact List.set_set _

theorem updateRelayPostHandler_ok {env : Env} {serializes : Bool} {b b' : Board}
    {req : Request} {response : Response}
    (h : updateRelayPostHandler env serializes b req = some (.ok, response, b')) :
    ∃ u i relay relay', Updated b req b' u i relay relay' := by
  rcases updateRelayPostHandler_cases h with ⟨herr, _, _⟩ | ⟨u, i, relay, hres, hsafe, happ⟩
  · cases herr
  · obtain ⟨err₁, relay', b₁, hpersist, rfl, hok⟩ := applyUpdate_eq_some happ
    rw [hok rfl] at hpersist
    exact ⟨u, i, relay, relay', updated_of_persistUnit hres hsafe hpersist⟩

end Web
