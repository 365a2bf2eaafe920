import RelayBoard.Mqtt.EntityHeap

/-! # The Memory of a Round

  `mqtt_device_config_task` publishes the discovery records round after round. Every round
  loses a copy of the prefix for each unit; a round that fails can lose what it had built.
-/

open CString Settings Relay Memory EntityDiscovery HomeAssistantConfig

namespace EntityHeap

/-! ### Freeing a Record -/

/-- `ha_availability_free`, `ha_device_free` and `ha_origin_free`. -/
def freeRecord (fields : List Pointer) (record : Pointer) : HeapM Unit :=
  if record = .null then pure () else forAll free (fields ++ [record])

/-- `ha_entity_discovery_free`. -/
def haEntityDiscoveryFree (d : DiscoveryPointers) : HeapM Unit := do
  freeRecord d.availabilityFields.pointers d.availability
  freeRecord d.deviceFields.pointers d.device
  freeRecord d.originFields.pointers d.origin
  forAll free [d.jsonAttributesTopic, d.stateTopic, d.objectId, d.uniqueId, d.valueTemplate]
  forAll free (if d.commandTopic = .null then [] else [d.commandTopic])
  forAll free [d.name]

/-! ### A Round -/

/-- What a round meets. The units are told apart by their index. -/
structure Round where
  /-- The mode in NVS. -/
  mode : Except EspErr Nat
  /-- Are both bits set before the wait ends? -/
  ready : Bool
  /-- `s_units`. -/
  units : List RelayUnit
  /-- What `ha_entity_discovery_fullfill` meets for a unit. -/
  env : Nat → EntityDiscovery.Env RelayUnit
  keyMalloc : Nat → Bool
  entityMalloc : Nat → Bool
  jsonMalloc : Nat → Bool
  entryMalloc : Nat → Bool
  configPublished : Nat → Bool
  onlinePublished : Nat → Bool

/-- The body of the loop once the record of the unit at index `i` is complete: has a
    publication failed? -/
def publishEntity (round : Round) (deviceId homeassistantPrefix keyText : CStr) (i : Nat)
    (relayKey entityDiscovery : Pointer) (d : DiscoveryPointers) : HeapM (Except Crash Bool) := do
  -- `ha_entity_discovery_print_JSON` skips null texts
  forAll access ((d.records ++ d.texts).filter (· ≠ .null))
  let discoveryJson ← malloc (round.jsonMalloc i)
  match sprintf discoveryPathSize (discoveryPath homeassistantPrefix) with
  | none => pure (.error .overrun)
  | some path =>
      forAll access [relayKey]
      match sprintf configTopicSize (configTopic path deviceId keyText) with
      | none => pure (.error .overrun)
      | some _ =>
          let entry ← malloc (round.entryMalloc i)
          forAll access [d.availability, d.availabilityFields.topic]
          forAll free [entry, discoveryJson, relayKey]
          haEntityDiscoveryFree d
          forAll free [entityDiscovery]
          pure (.ok (!round.configPublished i || !round.onlinePublished i))

/-- The loop of `mqtt_publish_home_assistant_config` from index `i` on. -/
def configLoop (round : Round) (deviceId homeassistantPrefix : CStr) :
    Nat → List RelayUnit → Bool → HeapM (Except Crash EspErr)
  | _, [], isError => pure (.ok (if isError then .fail else .ok))
  | i, relay :: relayList, isError =>
      match getUnitNvsKey relay with
      | none => configLoop round deviceId homeassistantPrefix (i + 1) relayList isError
      | some keyText => do
          let relayKey ← malloc (round.keyMalloc i)
          if relayKey = .null then
            configLoop round deviceId homeassistantPrefix (i + 1) relayList isError
          else
            let entityDiscovery ← malloc (round.entityMalloc i)
            if entityDiscovery = .null then
              -- the key is not freed
              configLoop round deviceId homeassistantPrefix (i + 1) relayList true
            else
              match ← haEntityDiscoveryFullfill (round.env i) relayKey with
              | .error crash => pure (.error crash)
              | .ok (err, d) =>
                  if err ≠ .ok then
                    forAll free [entityDiscovery]
                    pure (.ok .fail)
                  else
                    match ← publishEntity round deviceId homeassistantPrefix keyText i relayKey
                      entityDiscovery d with
                    | .error crash => pure (.error crash)
                    | .ok failed =>
                        configLoop round deviceId homeassistantPrefix (i + 1) relayList
                          (isError || failed)

/-- `mqtt_publish_home_assistant_config` with the units in memory. -/
def mqttPublishHomeAssistantConfig (round : Round) (deviceId homeassistantPrefix : CStr) :
    HeapM (Except Crash EspErr) :=
  match round.mode with
  | .error _ => pure (.error .check)
  | .ok mode =>
      if (mode : Int) < mqttConnModeNoReconnect then pure (.ok .ok)
      else if round.ready = false then pure (.ok .fail)
      else configLoop round deviceId homeassistantPrefix 0 round.units false

/-- The units from index `i` on that there is a key for. -/
def keyed (round : Round) : Nat → List RelayUnit → Nat
  | _, [] => 0
  | i, relay :: relayList =>
      (if (getUnitNvsKey relay).isSome && round.keyMalloc i then 1 else 0) +
        keyed round (i + 1) relayList

/-- What a round loses that publishes all it can. -/
def Round.lost (round : Round) : Nat :=
  match round.mode with
  | .error _ => 0
  | .ok mode =>
      if (mode : Int) < mqttConnModeNoReconnect ∨ round.ready = false then 0
      else keyed round 0 round.units

/-- A loop has lost one block for each of `n` units if it succeeds, and never more than `16`
    beyond that. -/
def Lost (n : Nat) (r : Except Crash EspErr) (own : Multiset Nat) : Prop :=
  (r = .ok .ok → own.card = n) ∧ ∀ err, r = .ok err → own.card ≤ n + 16

variable {β : Type} {rest : Multiset Nat} {post : β → Multiset Nat → Prop}

variable {round : Round} {deviceId homeassistantPrefix : CStr}

end EntityHeap
