import RelayBoard.Boot.Lookup
import RelayBoard.Device.SensorEvents

/-! # The Required Fields of an Update Request

  Of the members of `data` only `relay_key` is required. Without a `relay_type`
  `update_relay_post_handler` of `main/web.c` takes the unit for an actuator. The
  file determines which units of a booted device a request can name by its key.
-/

open CString LTS Relay Settings Boot Web Device

namespace RequiredFields

/-! ### Requests -/

/-- A request of the device's owner for the unit with a key, without `relay_type`. The
    other members of `data` may be anything. -/
structure NamesKey (b : Board) (req : Request) (key : CStr) : Prop where
  short : req.contentLen < contentSize
  received : req.received = true
  body : ∃ json data, req.json = some json ∧ validateDeviceIdentityFromJson b.nvs json = .ok ∧
    json.getObjectItem "data".toList = some data ∧
    (data.getObjectItem "relay_key".toList).bind Json.valuestring = some key ∧
    data.getObjectItem "relay_type".toList = none

/-- The request gets to the unit at index `i`, and changes it unless it names an
    unsafe pin. -/
def AppliedTo (b : Board) (req : Request) (i : Nat) (relay : RelayUnit) : Prop :=
  ∃ u, resolveUpdate b req = .ok (u, i, relay) ∧
    ∀ env serializes, (∀ pin, u.relayGpioPin = some pin → isGpioSafe pin = true) →
      updateRelayPostHandler env serializes b req = applyUpdate env serializes b u i relay

/-- A device directly behind a boot, after any history and with any outcome of the calls. -/
def LoadedAtBoot (b : Board) : Prop :=
  ∃ b₀ env newDeviceId newDeviceSerial gpio, Reachable Completeness.deviceSystem b₀ ∧
    appMain env newDeviceId newDeviceSerial b₀.nvs gpio = some b

variable {b : Board} {req : Request} {key : CStr}

/-! ### Resolution -/

/-- Without a type the request is for an actuator. -/
theorem parseUpdate_namesKey (h : NamesKey b req key) :
    ∃ u, parseUpdate b req = .ok u ∧ u.relayKey = key ∧ u.relayType = .actuator := by
  obtain ⟨json, data, hjson, hid, hdata, hkey, htype⟩ := h.body
  have hactuator : requestedType data = .actuator := by
    simp only [requestedType, numberItem, htype]
    rfl
  refine ⟨unitUpdate data key, ?_, rfl, hactuator⟩
  unfold parseUpdate
  rw [if_neg (Nat.not_le_of_lt h.short), if_neg (by rw [h.received]; decide), hjson]
  simp only [hid, ne_eq, not_true_eq_false, if_false, hdata, hkey]

/-- A request resolves to what the lookup finds among the actuators. -/
theorem resolveUpdate_namesKey (h : NamesKey b req key) {i : Nat} {relay : RelayUnit}
    (hget : b.sUnits[i]? = some relay) :
    (∃ u, resolveUpdate b req = .ok (u, i, relay)) ↔
      getRelayFromMemoryByKey b .actuator key = .ok i := by
  obtain ⟨u, hparse, hkey, htype⟩ := parseUpdate_namesKey h
  constructor
  · rintro ⟨u', hres⟩
    obtain ⟨hparse', hlookup, _⟩ := resolveUpdate_eq_ok hres
    rw [hparse] at hparse'
    cases hparse'
    rwa [hkey, htype] at hlookup
  · intro hlookup
    refine ⟨u, ?_⟩
    unfold resolveUpdate
    rw [hparse]
    simp only [htype, hkey, hlookup, hget]

/-- A request that resolves to a unit is applied to it. -/
theorem appliedTo_iff {i : Nat} {relay : RelayUnit} :
    AppliedTo b req i relay ↔ ∃ u, resolveUpdate b req = .ok (u, i, relay) := by
  constructor
  · rintro ⟨u, hres, -⟩
    exact ⟨u, hres⟩
  · rintro ⟨u, hres⟩
    refine ⟨u, hres, ?_⟩
    intro env serializes hsafe
    unfold updateRelayPostHandler
    rw [hres]
    simp only
    cases hpin : u.relayGpioPin with
    | none => rfl
    | some pin =>
        simp only
        rw [checkGpioPin_eq, if_pos (hsafe pin hpin)]

/-! ### Main Theorem -/

/-- **The required fields** name a unit of a booted device exactly when it is an
    actuator. -/
theorem appliedTo_iff_actuator (hboot : LoadedAtBoot b) {i : Nat} {relay : RelayUnit}
    (hget : b.sUnits[i]? = some relay) (hkey : getUnitNvsKey relay = some key)
    (hreq : NamesKey b req key) :
    AppliedTo b req i relay ↔ relay.type = .actuator := by
  obtain ⟨b₀, env, newDeviceId, newDeviceSerial, gpio, hreach, hmain⟩ := hboot
  obtain ⟨book, hstored, hsafe, _⟩ := Completeness.inv_of_reachable hreach
  have htab := (appMain_inputs hstored hsafe hmain).table
  have hlim : ∀ type, countsOf b₀.nvs type ≤ channelLimit type :=
    fun type => Nat.le_of_lt (hstored.counts_lt type)
  -- the unit is at the place of its type and channel, under the key of both
  obtain ⟨c, hc, hchannel, hi⟩ := tableIndex_unique htab hget
  have hown := getUnitNvsKey_of_lt (Nat.lt_of_lt_of_le hc (hlim _)) rfl hchannel
  have hkey' : key = unitKey relay.type c := Option.some.inj (hkey.symm.trans hown)
  rw [appliedTo_iff, resolveUpdate_namesKey hreq hget]
  constructor
  · intro hlookup
    obtain ⟨c', _, _, hactuator, _⟩ := tableIndex_of_byKey htab hlim hlookup
    exact (unitKey_inj.mp (hkey'.symm.trans hactuator)).1
  · intro htype
    rw [htype] at hc hkey' hi
    rw [hkey', hi]
    exact getRelayFromMemoryByKey_tableIndex htab hc hlim

/-- The body of a request with an identity and a key alone. -/
def keyJson (key : CStr) : Json :=
  .object [("device_id".toList, .string "DC".toList),
    ("device_serial".toList, .string "S".toList),
    ("data".toList, .object [("relay_key".toList, .string key)])]

/-- A request with that body. -/
def keyRequest (key : CStr) : Request := ⟨100, true, some (keyJson key)⟩

theorem namesKey_keyRequest (hid : Nvs.readString b.nvs sNamespace sKeyDeviceId = .ok "DC".toList)
    (hserial : Nvs.readString b.nvs sNamespace sKeyDeviceSerial = .ok "S".toList) :
    NamesKey b (keyRequest key) key := by
  have hidIn : ((keyJson key).getObjectItemCaseSensitive "device_id".toList).bind
      Json.valuestring = some "DC".toList := rfl
  have hserialIn : ((keyJson key).getObjectItemCaseSensitive "device_serial".toList).bind
      Json.valuestring = some "S".toList := rfl
  refine ⟨show 100 < 512 by decide, rfl, keyJson key, .object [("relay_key".toList, .string key)], rfl, ?_,
    rfl, rfl, rfl⟩
  simp only [validateDeviceIdentityFromJson, hidIn, hserialIn, hid, hserial, and_self, if_true]

/-- A device that has booted with one sensor. -/
theorem exists_oneSensor :
    ∃ b, LoadedAtBoot b ∧ b.sUnits.map RelayUnit.place =
        [(.actuator, 0), (.actuator, 1), (.sensor, 0)] ∧
      ∀ key, NamesKey b (keyRequest key) key := by
  have hrun : (bootSensors 1).any (fun b =>
      b.sUnits.map RelayUnit.place = [(.actuator, 0), (.actuator, 1), (.sensor, 0)] ∧
        Nvs.readString b.nvs sNamespace sKeyDeviceId = .ok "DC".toList ∧
        Nvs.readString b.nvs sNamespace sKeyDeviceSerial = .ok "S".toList) = true := by
    decide +kernel
  obtain ⟨b, hboot, hb⟩ := (Option.any_eq_true _ _).mp hrun
  obtain ⟨hplaces, hid, hserial⟩ := of_decide_eq_true hb
  obtain ⟨b₀, hreach, hmain⟩ := exists_boot_of_bootSensors (by decide) hboot
  exact ⟨b, ⟨b₀, Env.ok, _, _, _, hreach, hmain⟩, hplaces,
    fun _ => namesKey_keyRequest hid hserial⟩

theorem getElem?_of_places {places : List (RelayType × Int)} {i : Nat} {place : RelayType × Int}
    (hplaces : b.sUnits.map RelayUnit.place = places) (hplace : places[i]? = some place) :
    ∃ relay, b.sUnits[i]? = some relay ∧ relay.type = place.1 ∧ relay.channel = place.2 := by
  rw [← hplaces, List.getElem?_map] at hplace
  obtain ⟨relay, hget, rfl⟩ := Option.map_eq_some_iff.mp hplace
  exact ⟨relay, hget, rfl, rfl⟩

/-- The first actuator is found under its key. -/
theorem appliedTo_iff_actuator_first :
    ∃ b relay, LoadedAtBoot b ∧ b.sUnits[0]? = some relay ∧
      (AppliedTo b (keyRequest (chKey 0)) 0 relay ↔ relay.type = .actuator) ∧
      AppliedTo b (keyRequest (chKey 0)) 0 relay := by
  obtain ⟨b, hboot, hplaces, hreq⟩ := exists_oneSensor
  obtain ⟨relay, hget, htype, hchannel⟩ := getElem?_of_places hplaces (i := 0) rfl
  have hkey : getUnitNvsKey relay = some (unitKey .actuator 0) :=
    getUnitNvsKey_of_lt (by decide) htype hchannel
  have hiff := appliedTo_iff_actuator hboot hget hkey (hreq _)
  exact ⟨b, relay, hboot, hget, hiff, hiff.mpr htype⟩

/-- The sensor is not: its key is looked up among the actuators. -/
theorem not_appliedTo :
    ¬ ∀ (b : Board) (i : Nat) (relay : RelayUnit) (key : CStr) (req : Request),
      LoadedAtBoot b → b.sUnits[i]? = some relay → getUnitNvsKey relay = some key →
      NamesKey b req key → AppliedTo b req i relay := by
  intro h
  obtain ⟨b, hboot, hplaces, hreq⟩ := exists_oneSensor
  obtain ⟨relay, hget, htype, hchannel⟩ := getElem?_of_places hplaces (i := 2) rfl
  have hkey : getUnitNvsKey relay = some (unitKey .sensor 0) :=
    getUnitNvsKey_of_lt (by decide) htype hchannel
  have happlied := h b 2 relay _ _ hboot hget hkey (hreq _)
  have hlookup := (resolveUpdate_namesKey (hreq _) hget).mp (appliedTo_iff.mp happlied)
  have hactuator := (getRelayFromMemoryByKey_eq_ok hlookup hget).1
  exact absurd (htype.symm.trans hactuator) (by decide)

end RequiredFields
