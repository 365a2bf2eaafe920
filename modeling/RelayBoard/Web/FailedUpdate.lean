import RelayBoard.Relay.Inputs
import RelayBoard.Web.PinExclusivity

/-! # Failed Unit Updates

  `update_relay_post_handler` assigns the requested fields to the unit in memory
  before it sets the level, writes the record and builds the answer. The file
  determines after which errors the unit, its record and the registered handlers
  are those before the request.
-/

open CString PinExclusivity Relay Settings

namespace Web

/-! ### Setting the State -/

/-- Is the pin of the unit set up, or does `gpio_config` set it up? -/
def pinSetUp (env : Env) (b : Board) (relay : RelayUnit) : Bool :=
  relay.gpioInitialized || env.driver.config b.gpio.calls relay.gpioPin

/-- Does `gpio_set_level` succeed, after `gpio_config` where that is called? -/
def levelSet (env : Env) (b : Board) (relay : RelayUnit) : Bool :=
  env.driver.setLevel
    (if relay.gpioInitialized then b.gpio.calls else b.gpio.calls + 1) relay.gpioPin

/-- The unit behind `relay_set_state`: a pin that was set up for it is released. -/
def releasedUnit (relay : RelayUnit) : RelayUnit :=
  if relay.gpioInitialized then relay else storedCopy relay

@[simp] theorem storedCopy_releasedUnit (relay : RelayUnit) :
    storedCopy (releasedUnit relay) = storedCopy relay := by
  unfold releasedUnit
  split <;> rfl

/-- How `relay_set_state` ends on an actuator that keeps its state. -/
inductive StateOutcome (env : Env) (b : Board) (relay : RelayUnit) (key : CStr) :
    EspErr → RelayUnit → Board → Prop where
  | notSetUp {b' : Board} (hpin : pinSetUp env b relay = false) (hnvs : b'.nvs = b.nvs) :
      StateOutcome env b relay key .fail relay b'
  | notSet {b' : Board} (hpin : pinSetUp env b relay = true)
      (hlevel : levelSet env b relay = false) (hnvs : b'.nvs = b.nvs) :
      StateOutcome env b relay key .fail (storedCopy relay) b'
  | unsaved {b' : Board} (hpin : pinSetUp env b relay = true)
      (hlevel : levelSet env b relay = true) (hwrite : env.nvsWrite key = false)
      (hnvs : b'.nvs = b.nvs) :
      StateOutcome env b relay key .fail (releasedUnit relay) b'
  | saved {b' : Board} (hpin : pinSetUp env b relay = true)
      (hlevel : levelSet env b relay = true) (hwrite : env.nvsWrite key = true)
      (hnvs : b'.nvs = Nvs.set b.nvs sNamespace key (.blob (storedCopy relay))) :
      StateOutcome env b relay key .ok (releasedUnit relay) b'

theorem relayGpioDeinit_of_initialized {relay : RelayUnit} (h : relay.gpioInitialized = true) :
    relayGpioDeinit relay = storedCopy relay := by
  unfold relayGpioDeinit
  rw [if_pos h]
  rfl

theorem gpioSetLevel_cases {env : Env} {b b' : Board} {pin : Int} {level : Bool} {err : EspErr}
    (h : gpioSetLevel env b pin level = (err, b')) :
    (env.driver.setLevel b.gpio.calls pin = true ∧ err = .ok ∧
      b' = { b with gpio := (Gpio.applyLevel b.gpio pin level).tick }) ∨
    (env.driver.setLevel b.gpio.calls pin = false ∧ err = .fail ∧
      b' = { b with gpio := b.gpio.tick }) := by
  unfold gpioSetLevel at h
  split at h
  · next hset =>
      cases h
      exact .inl ⟨hset, rfl, rfl⟩
  · next hset =>
      cases h
      exact .inr ⟨Bool.eq_false_of_not_eq_true hset, rfl, rfl⟩

/-- How the second half of `relay_set_state` ends. -/
theorem setLevelAndPersist_outcome {env : Env} {b b' : Board} {relay relay' : RelayUnit}
    {gpioInitMade : Bool} {err : EspErr} {key : CStr}
    (hkey : getRelayNvsKey relay.channel = some key)
    (h : setLevelAndPersist env b relay relay.state gpioInitMade true =
      some (err, relay', b')) :
    (env.driver.setLevel b.gpio.calls relay.gpioPin = false ∧ err = .fail ∧
      relay' = relayGpioDeinit relay ∧ b'.nvs = b.nvs) ∨
    (env.driver.setLevel b.gpio.calls relay.gpioPin = true ∧
      relay' = unitWithState relay relay.state gpioInitMade ∧
      (env.nvsWrite key = false ∧ err = .fail ∧ b'.nvs = b.nvs ∨
        env.nvsWrite key = true ∧ err = .ok ∧
          b'.nvs = Nvs.set b.nvs sNamespace key (.blob (storedCopy relay')))) := by
  rcases setLevelAndPersist_cases h with
    ⟨err₁, herr₁, herr, hrelay, hlevel⟩ | ⟨b₁, b₂, hlevel, hrelay, hpub, hsaved⟩
  · left
    rcases gpioSetLevel_cases hlevel with ⟨-, rfl, -⟩ | ⟨hset, -, rfl⟩
    · exact absurd rfl herr₁
    · exact ⟨hset, herr, hrelay, rfl⟩
  · right
    rcases gpioSetLevel_cases hlevel with ⟨hset, -, rfl⟩ | ⟨-, hfail, -⟩
    · -- the state is published before it is saved
      have hnvs := publishUpdate_nvs hpub
      dsimp only at hnvs
      have hchannel : getRelayNvsKey relay'.channel = some key := by
        rw [hrelay, (unitWithState_sameUnit relay relay.state gpioInitMade).channel]
        exact hkey
      refine ⟨hset, hrelay, ?_⟩
      cases hsaved with
      | keyless hnone =>
          rw [hchannel] at hnone
          cases hnone
      | unsaved hkey' herr hsave =>
          rw [hchannel] at hkey'
          cases hkey'
          rcases saveRelayToNvs_cases hsave with ⟨-, rfl, -⟩ | ⟨hwrite, -, rfl⟩
          · exact absurd rfl herr
          · exact .inl ⟨hwrite, rfl, hnvs⟩
      | saved hkey' hsave =>
          rw [hchannel] at hkey'
          cases hkey'
          rcases saveRelayToNvs_cases hsave with ⟨hwrite, -, rfl⟩ | ⟨-, hfail, -⟩
          · refine .inr ⟨hwrite, rfl, ?_⟩
            rw [hnvs]
          · cases hfail
    · cases hfail

/-- `relay_set_state` on an actuator that keeps its state. -/
theorem relaySetState_outcome {env : Env} {b b' : Board} {relay relay' : RelayUnit}
    {err : EspErr} {key : CStr} (htype : relay.type = .actuator)
    (hkey : getRelayNvsKey relay.channel = some key)
    (h : relaySetState env b relay relay.state true = some (err, relay', b')) :
    StateOutcome env b relay key err relay' b' := by
  unfold relaySetState at h
  simp only [htype] at h
  cases hinit : relay.gpioInitialized with
  | true =>
      have hpin : pinSetUp env b relay = true := by rw [pinSetUp, hinit]; rfl
      -- a pin in use needs no other call before the level
      have hlevel : levelSet env b relay = env.driver.setLevel b.gpio.calls relay.gpioPin := by
        rw [levelSet, if_pos hinit]
      have hreleased : unitWithState relay relay.state false = releasedUnit relay := by
        rw [releasedUnit, if_pos hinit]
        rfl
      rw [if_pos hinit] at h
      rcases setLevelAndPersist_outcome hkey h with
        ⟨hset, rfl, rfl, hnvs⟩ | ⟨hset, rfl, ⟨hwrite, rfl, hnvs⟩ | ⟨hwrite, rfl, hnvs⟩⟩
      · rw [relayGpioDeinit_of_initialized hinit]
        exact .notSet hpin (hlevel.trans hset) hnvs
      · rw [hreleased]
        exact .unsaved hpin (hlevel.trans hset) hwrite hnvs
      · rw [hreleased] at hnvs ⊢
        rw [storedCopy_releasedUnit] at hnvs
        exact .saved hpin (hlevel.trans hset) hwrite hnvs
  | false =>
      rw [if_neg (by rw [hinit]; exact Bool.false_ne_true)] at h
      cases hconfig : env.driver.config b.gpio.calls relay.gpioPin with
      | false =>
          have hpin : pinSetUp env b relay = false := by rw [pinSetUp, hinit, hconfig]; rfl
          simp only [relayGpioInit, gpioConfig, hconfig, Bool.false_eq_true, if_false] at h
          cases h
          exact .notSetUp hpin rfl
      | true =>
          have hpin : pinSetUp env b relay = true := by rw [pinSetUp, hinit, hconfig]; rfl
          -- the set-up is one call of the driver, the level is the next
          have hlevel : levelSet env b relay =
              env.driver.setLevel (b.gpio.calls + 1) relay.gpioPin := by
            rw [levelSet, if_neg (by rw [hinit]; exact Bool.false_ne_true)]
          have hreleased : storedCopy relay = releasedUnit relay := by
            rw [releasedUnit, if_neg (by rw [hinit]; exact Bool.false_ne_true)]
          simp only [relayGpioInit, gpioConfig, hconfig, if_true] at h
          have hout := @setLevelAndPersist_outcome env _ b'
            { relay with ioConf := relayIoConf relay, gpioInitialized := true } relay' true err
            key hkey h
          rcases hout with
            ⟨hset, rfl, rfl, hnvs⟩ | ⟨hset, rfl, ⟨hwrite, rfl, hnvs⟩ | ⟨hwrite, rfl, hnvs⟩⟩
          · exact .notSet hpin (hlevel.trans hset) hnvs
          · have hunsaved : StateOutcome env b relay key .fail (releasedUnit relay) b' :=
              .unsaved hpin (hlevel.trans hset) hwrite hnvs
            rw [← hreleased] at hunsaved
            exact hunsaved
          · have hsaved : StateOutcome env b relay key .ok (releasedUnit relay) b' :=
              .saved hpin (hlevel.trans hset) hwrite hnvs
            rw [← hreleased] at hsaved
            exact hsaved

/-! ### What Stays -/

/-- The units in memory, NVS and the pins with a handler are the same. -/
structure Unchanged (b b' : Board) : Prop where
  units : b'.sUnits = b.sUnits
  nvs : b'.nvs = b.nvs
  isr : b'.gpio.isr = b.gpio.isr

/-- The record of the unit is the copy a save would store. -/
def RecordMatches (b : Board) (key : CStr) (relay : RelayUnit) : Prop :=
  b.nvs sNamespace key = some (.blob (storedCopy relay))

/-- The request asks for the values that the unit has, and the calls that are made
    leave the unit and its record as they are. -/
def KeepsOnError (env : Env) (b : Board) (u : UnitUpdate) (relay : RelayUnit) : Prop :=
  assignFields relay u = relay ∧
    match relay.type with
    | .actuator =>
        pinSetUp env b relay = false ∨
          levelSet env b relay = false ∧ storedCopy relay = relay ∨
          levelSet env b relay = true ∧ releasedUnit relay = relay ∧
            (env.nvsWrite u.relayKey = true → RecordMatches b u.relayKey relay)
    | .sensor => env.nvsWrite u.relayKey = true → RecordMatches b u.relayKey relay

/-- A store keeps its content under a write exactly when the value is there already. -/
theorem set_eq_self_iff {nvs : Nvs.Store RelayUnit} {ns key : CStr}
    {value : Nvs.Value RelayUnit} :
    Nvs.set nvs ns key value = nvs ↔ nvs ns key = some value := by
  constructor
  · intro h
    rw [← h, Nvs.set_self]
  · intro h
    funext ns' key'
    unfold Nvs.set
    split
    · next heq =>
        rw [heq.1, heq.2]
        exact h.symm
    · rfl

/-- The bookkeeping is not assigned: if only that was reset, nothing was assigned. -/
theorem assignFields_of_storedCopy {relay : RelayUnit} {u : UnitUpdate}
    (h : storedCopy (assignFields relay u) = relay) : assignFields relay u = relay := by
  calc assignFields relay u
      = { storedCopy (assignFields relay u) with
          gpioInitialized := relay.gpioInitialized, ioConf := relay.ioConf } := rfl
    _ = relay := by rw [h]

theorem assignFields_of_releasedUnit {relay : RelayUnit} {u : UnitUpdate}
    (h : releasedUnit (assignFields relay u) = relay) : assignFields relay u = relay := by
  unfold releasedUnit at h
  split at h
  · exact h
  · exact assignFields_of_storedCopy h

section persistUnit
variable {env : Env} {b b' : Board} {u : UnitUpdate} {i : Nat} {relay relay' : RelayUnit}
  {err : EspErr}

/-- The table is the same only if the unit put back is the old one. -/
theorem eq_of_units_eq (htab : SameTable (b.setUnit i (assignFields relay u)) b')
    (hget : b.sUnits[i]? = some relay) (h : (b'.setUnit i relay').sUnits = b.sUnits) :
    relay' = relay := by
  have hset : b.sUnits.set i relay' = b.sUnits := by
    calc b.sUnits.set i relay'
        = b'.sUnits.set i relay' := by rw [htab.units]; exact (List.set_set _).symm
      _ = b.sUnits := h
  have hlt := (List.getElem?_eq_some_iff.mp hget).1
  have hnew : (b.sUnits.set i relay')[i]? = some relay' := List.getElem?_set_self hlt
  rw [hset, hget] at hnew
  exact (Option.some.inj hnew).symm

/-- Where no handler is added, the old unit and NVS are all that has to stay. -/
theorem unchanged_iff (htab : SameTable (b.setUnit i (assignFields relay u)) b')
    (hget : b.sUnits[i]? = some relay) (hisr : b'.gpio.isr = b.gpio.isr) :
    Unchanged b (b'.setUnit i relay') ↔ relay' = relay ∧ b'.nvs = b.nvs := by
  constructor
  · intro h
    exact ⟨eq_of_units_eq htab hget h.units, h.nvs⟩
  · rintro ⟨rfl, hnvs⟩
    refine ⟨?_, hnvs, hisr⟩
    show b'.sUnits.set i relay' = b.sUnits
    obtain ⟨hlt, hvalue⟩ := List.getElem?_eq_some_iff.mp hget
    rw [htab.units]
    show (b.sUnits.set i (assignFields relay' u)).set i relay' = b.sUnits
    rw [List.set_set, ← hvalue, List.set_getElem_self]

/-- After the level and the record of an actuator. -/
theorem persistUnit_actuator_unchanged (htype : relay.type = .actuator)
    (hget : b.sUnits[i]? = some relay) (hkey : getUnitNvsKey relay = some u.relayKey)
    (hset : relaySetState env (b.setUnit i (assignFields relay u)) (assignFields relay u)
      (assignFields relay u).state true = some (err, relay', b')) :
    Unchanged b (b'.setUnit i relay') ↔ KeepsOnError env b u relay := by
  have hrelayKey : getRelayNvsKey (assignFields relay u).channel = some u.relayKey := by
    rw [getUnitNvsKey, htype] at hkey
    exact hkey
  have hout := relaySetState_outcome (by exact htype) hrelayKey hset
  rw [unchanged_iff (relaySetState_frame hset).1 hget (relaySetState_sameInputs hset).isr,
    KeepsOnError, htype]
  dsimp only
  cases hout with
  -- the ways the call ends are the ways a board can keep its state
  | notSetUp hpin hnvs =>
      constructor
      · rintro ⟨hsame, -⟩
        rw [hsame] at hpin
        exact ⟨hsame, .inl hpin⟩
      · rintro ⟨hsame, -⟩
        exact ⟨hsame, hnvs⟩
  | notSet hpin hlevel hnvs =>
      constructor
      · rintro ⟨hcopy, -⟩
        have hsame := assignFields_of_storedCopy hcopy
        rw [hsame] at hlevel hcopy
        exact ⟨hsame, .inr (.inl ⟨hlevel, hcopy⟩)⟩
      · rintro ⟨hsame, hkeeps⟩
        rw [hsame] at hpin hlevel ⊢
        rcases hkeeps with hpin' | ⟨-, hcopy⟩ | ⟨hlevel', -⟩
        · exact absurd (hpin.symm.trans hpin') (by decide)
        · exact ⟨hcopy, hnvs⟩
        · exact absurd (hlevel.symm.trans hlevel') (by decide)
  | unsaved hpin hlevel hwrite hnvs =>
      constructor
      · rintro ⟨hreleased, -⟩
        have hsame := assignFields_of_releasedUnit hreleased
        rw [hsame] at hlevel hreleased
        refine ⟨hsame, .inr (.inr ⟨hlevel, hreleased, fun hwrite' => ?_⟩)⟩
        exact absurd (hwrite.symm.trans hwrite') (by decide)
      · rintro ⟨hsame, hkeeps⟩
        rw [hsame] at hpin hlevel ⊢
        rcases hkeeps with hpin' | ⟨hlevel', -⟩ | ⟨-, hreleased, -⟩
        · exact absurd (hpin.symm.trans hpin') (by decide)
        · exact absurd (hlevel.symm.trans hlevel') (by decide)
        · exact ⟨hreleased, hnvs⟩
  | saved hpin hlevel hwrite hnvs =>
      constructor
      · rintro ⟨hreleased, hnvs'⟩
        have hsame := assignFields_of_releasedUnit hreleased
        rw [hsame] at hlevel hreleased hnvs
        -- a record was written: it is the one that was stored
        refine ⟨hsame, .inr (.inr ⟨hlevel, hreleased, fun _ => ?_⟩)⟩
        exact set_eq_self_iff.mp (hnvs.symm.trans hnvs')
      · rintro ⟨hsame, hkeeps⟩
        rw [hsame] at hpin hlevel hnvs ⊢
        rcases hkeeps with hpin' | ⟨hlevel', -⟩ | ⟨-, hreleased, hrecord⟩
        · exact absurd (hpin.symm.trans hpin') (by decide)
        · exact absurd (hlevel.symm.trans hlevel') (by decide)
        · exact ⟨hreleased, hnvs.trans (set_eq_self_iff.mpr (hrecord hwrite))⟩

/-- After the record of a sensor and its new pin. -/
theorem persistUnit_sensor_unchanged (htype : relay.type = .sensor)
    (hget : b.sUnits[i]? = some relay)
    (h : persistUnit env (b.setUnit i (assignFields relay u)) u.relayKey relay.gpioPin
      (assignFields relay u) = some (err, relay', b')) :
    Unchanged b (b'.setUnit i relay') ↔ KeepsOnError env b u relay := by
  have htab := (persistUnit_frame h).1
  have hpinKept := (persistUnit_frame h).2.gpio_pin
  -- a sensor that has moved is not the old one
  have hmoved : relay.gpioPin ≠ (assignFields relay u).gpioPin →
      (Unchanged b (b'.setUnit i relay') ↔ KeepsOnError env b u relay) := by
    intro hpin
    constructor
    · intro hunchanged
      have hsame := eq_of_units_eq htab hget hunchanged.units
      rw [hsame] at hpinKept
      exact absurd hpinKept hpin
    · rintro ⟨hsame, -⟩
      rw [hsame] at hpin
      exact absurd rfl hpin
  cases persists_of_persistUnit h with
  | actuator hact hset =>
      rw [show (assignFields relay u).type = relay.type from rfl, htype] at hact
      cases hact
  | unsaved _ herr hsave =>
      rcases saveRelayToNvs_cases hsave with ⟨-, rfl, -⟩ | ⟨hwrite, -, rfl⟩
      · exact absurd rfl herr
      · rw [unchanged_iff htab hget rfl, KeepsOnError, htype]
        constructor
        · rintro ⟨hsame, -⟩
          exact ⟨hsame, fun hwrite' => absurd (hwrite.symm.trans hwrite') (by decide)⟩
        · rintro ⟨hsame, -⟩
          exact ⟨hsame, rfl⟩
  | saved _ _ hsave =>
      rcases saveRelayToNvs_cases hsave with ⟨hwrite, -, rfl⟩ | ⟨-, hfail, -⟩
      · rw [unchanged_iff htab hget rfl, KeepsOnError, htype]
        constructor
        · rintro ⟨hsame, hnvs⟩
          rw [hsame] at hnvs
          exact ⟨hsame, fun _ => set_eq_self_iff.mp hnvs⟩
        · rintro ⟨hsame, hrecord⟩
          rw [hsame]
          exact ⟨rfl, set_eq_self_iff.mpr (hrecord hwrite)⟩
      · cases hfail
  | stuck _ hpin _ _ _ => exact hmoved hpin
  | moved _ hpin _ _ _ => exact hmoved hpin

end persistUnit

/-! ### Main Theorem -/

/-- **A unit update that is answered with an error** changes nothing exactly when it was
    refused before the assignments, or keeps what it finds. -/
theorem unchanged_of_error_iff {env : Env} {serializes : Bool} {b b' : Board} {req : Request}
    {err : EspErr} {response : Response}
    (h : updateRelayPostHandler env serializes b req = some (err, response, b'))
    (_ : err ≠ .ok) :
    Unchanged b b' ↔
      ∀ u i relay, resolveUpdate b req = .ok (u, i, relay) →
        (∀ pin, u.relayGpioPin = some pin → isGpioSafe pin = true) →
        KeepsOnError env b u relay := by
  rcases updateRelayPostHandler_cases h with ⟨_, rfl, hrefused⟩ | ⟨u, i, relay, hres, hsafe, happ⟩
  · refine iff_of_true ⟨rfl, rfl, rfl⟩ ?_
    intro u i relay hres hsafe
    obtain ⟨pin, hpin, hunsafe⟩ := hrefused u i relay hres
    rw [hsafe pin hpin] at hunsafe
    cases hunsafe
  · obtain ⟨_, hlookup, hget⟩ := resolveUpdate_eq_ok hres
    have hkey := (getRelayFromMemoryByKey_eq_ok hlookup hget).2
    obtain ⟨err₁, relay', b₁, hpersist, rfl, _⟩ := applyUpdate_eq_some happ
    have hiff : Unchanged b (b₁.setUnit i relay') ↔ KeepsOnError env b u relay := by
      cases htype : relay.type with
      | actuator =>
          cases persists_of_persistUnit hpersist with
          | actuator _ hset => exact persistUnit_actuator_unchanged htype hget hkey hset
          | unsaved hsensor | saved hsensor | stuck hsensor | moved hsensor =>
              rw [show (assignFields relay u).type = relay.type from rfl, htype] at hsensor
              cases hsensor
      | sensor => exact persistUnit_sensor_unchanged htype hget hpersist
    rw [hiff]
    constructor
    · intro hkeeps u' i' relay₁ hres' _
      rw [hres] at hres'
      cases hres'
      exact hkeeps
    · intro hall
      exact hall u i relay hres hsafe

/-- NVS writes fail, the GPIO driver does not. -/
def noNvsWrite : Env := ⟨fun _ => false, Gpio.Driver.ok⟩

/-- A request for the pin that the actuator has. -/
theorem unchanged_of_error_iff_samePin :
    ∃ response b', updateRelayPostHandler noNvsWrite true twoActuators (moveFirst 4) =
        some (.fail, response, b') ∧
      (Unchanged twoActuators b' ↔
        ∀ u i relay, resolveUpdate twoActuators (moveFirst 4) = .ok (u, i, relay) →
          (∀ pin, u.relayGpioPin = some pin → isGpioSafe pin = true) →
          KeepsOnError noNvsWrite twoActuators u relay) := by
  have hrun : (updateRelayPostHandler noNvsWrite true twoActuators (moveFirst 4)).any
      (fun r => r.1 = .fail) = true := by decide +kernel
  obtain ⟨⟨err, response, b'⟩, hupdate, herr⟩ := (Option.any_eq_true _ _).mp hrun
  cases of_decide_eq_true herr
  exact ⟨response, b', hupdate, unchanged_of_error_iff hupdate (by decide)⟩

/-- The record is not written, and the unit in memory has the new pin. -/
theorem not_unchanged_of_error :
    ¬ ∀ (env : Env) (serializes : Bool) (b b' : Board) (req : Request) (err : EspErr)
      (response : Response),
      updateRelayPostHandler env serializes b req = some (err, response, b') → err ≠ .ok →
      Unchanged b b' := by
  intro h
  have hrun : (updateRelayPostHandler noNvsWrite true twoActuators (moveFirst 6)).any
      (fun r => r.1 = .fail ∧ r.2.2.sUnits ≠ twoActuators.sUnits) = true := by decide +kernel
  obtain ⟨⟨err, response, b'⟩, hupdate, hr⟩ := (Option.any_eq_true _ _).mp hrun
  obtain ⟨herr, hunits⟩ := of_decide_eq_true hr
  cases herr
  have hunchanged := h _ _ _ _ _ _ _ hupdate (by decide)
  exact hunits hunchanged.units

end Web
