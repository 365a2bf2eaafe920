import Mathlib.Data.List.Nodup
import RelayBoard.Framework.Transition
import RelayBoard.Web.UpdateRelay

/-! # Pins Under Update Requests

  The README asks that pins in use are not assigned twice, and
  `update_relay_post_handler` has a check for it. The check is never reached,
  so distinct pins stay distinct exactly while no request asks for a pin that
  another unit uses.
-/

open CString LTS Relay Settings

namespace PinExclusivity

open Web

/-! ### System -/

/-- One request, the outcomes of the calls made for it, and the answer. -/
structure Label where
  env : Env
  serializes : Bool
  req : Request
  err : EspErr
  response : Response

/-- Runs of update requests, from any table with distinct pins. A request during
    which the chip panics ends the run. -/
def updateSystem : System Board Label where
  init := PinsDistinct
  step := fun b l b' =>
    updateRelayPostHandler l.env l.serializes b l.req = some (l.err, l.response, b')

/-- A unit other than the one at index `i` uses the pin. -/
def UsedByOther (b : Board) (i : Nat) (pin : Int) : Prop :=
  ∃ j other, b.sUnits[j]? = some other ∧ other.gpioPin = pin ∧ j ≠ i

/-- The request asks for a pin that a unit other than the addressed one uses. -/
def AsksUsedPin (b : Board) (req : Request) : Prop :=
  ∃ u pin j other, parseUpdate b req = .ok u ∧ u.relayGpioPin = some pin ∧
    b.sUnits[j]? = some other ∧ other.gpioPin = pin ∧
    getRelayFromMemoryByKey b u.relayType u.relayKey ≠ .ok j

/-- The side condition: a request that resolves to a unit and names a safe pin
    does not name one that another unit uses. -/
def NoClash (b : Board) (l : Label) : Prop :=
  ∀ u i relay pin, resolveUpdate b l.req = .ok (u, i, relay) → u.relayGpioPin = some pin →
    isGpioSafe pin = true → ¬ UsedByOther b i pin

/-! ### Replacing an Element -/

/-- Replacing one element of a list without duplicates keeps it so exactly when
    the new element is nowhere else. -/
theorem nodup_set_iff {α : Type} {l : List α} (hl : l.Nodup) {i : Nat} (hi : i < l.length)
    (a : α) : (l.set i a).Nodup ↔ ∀ j, l[j]? = some a → j = i := by
  constructor
  · intro hset j hj
    by_cases hne : j = i
    · exact hne
    · exfalso
      have hjlt : j < l.length := (List.getElem?_eq_some_iff.mp hj).1
      have hgetj : (l.set i a)[j]? = some a := by
        rw [List.getElem?_set_ne (Ne.symm hne)]
        exact hj
      have hgeti : (l.set i a)[i]? = some a := List.getElem?_set_self hi
      rw [List.nodup_iff_getElem?_ne_getElem?] at hset
      rcases Nat.lt_or_gt_of_ne hne with hlt | hlt
      · exact hset j i hlt (by simpa using hi) (hgetj.trans hgeti.symm)
      · exact hset i j hlt (by simpa using hjlt) (hgeti.trans hgetj.symm)
  · intro honly
    rw [List.nodup_iff_getElem?_ne_getElem?]
    intro j k hjk hk heq
    rw [List.length_set] at hk
    have hj : j < l.length := by omega
    by_cases hji : j = i
    · -- the new element and a later old one
      subst hji
      rw [List.getElem?_set_self hi, List.getElem?_set_ne (by omega)] at heq
      exact absurd (honly k heq.symm) (by omega)
    · by_cases hki : k = i
      · subst hki
        rw [List.getElem?_set_self hi, List.getElem?_set_ne (by omega)] at heq
        exact hji (honly j heq)
      · rw [List.getElem?_set_ne (Ne.symm hji), List.getElem?_set_ne (Ne.symm hki)] at heq
        exact List.nodup_iff_getElem?_ne_getElem?.mp hl j k hjk hk heq

/-! ### One Request -/

/-- After an update that got past the checks, the pins are distinct exactly when
    the assigned pin is no other unit's. -/
theorem pinsDistinct_applied_iff {b b' : Board} {i : Nat} {relay relay' : RelayUnit}
    (hd : PinsDistinct b) (hget : b.sUnits[i]? = some relay)
    (hunits : b'.sUnits = b.sUnits.set i relay') :
    PinsDistinct b' ↔ ¬ UsedByOther b i relay'.gpioPin := by
  have hlt : i < (b.sUnits.map RelayUnit.gpioPin).length := by
    rw [List.length_map]
    exact (List.getElem?_eq_some_iff.mp hget).1
  unfold PinsDistinct
  rw [hunits, List.map_set, nodup_set_iff hd hlt]
  constructor
  · rintro honly ⟨j, other, hj, hpin, hne⟩
    apply hne
    apply honly j
    rw [List.getElem?_map, hj]
    exact congrArg some hpin
  · intro hunused j hj
    by_cases hne : j = i
    · exact hne
    · exfalso
      rw [List.getElem?_map] at hj
      obtain ⟨other, hother, hpin⟩ := Option.map_eq_some_iff.mp hj
      exact hunused ⟨j, other, hother, hpin, hne⟩

/-- The pin a unit already has is used by no other. -/
theorem not_usedByOther_self {b : Board} {i : Nat} {relay : RelayUnit} (hd : PinsDistinct b)
    (hget : b.sUnits[i]? = some relay) : ¬ UsedByOther b i relay.gpioPin := by
  have hself : b.sUnits.set i relay = b.sUnits := by
    rw [← (List.getElem?_eq_some_iff.mp hget).2, List.set_getElem_self]
  exact (pinsDistinct_applied_iff hd hget (show b.sUnits = _ from hself.symm)).mp hd

/-- A request keeps distinct pins distinct exactly when it does not clash. -/
theorem pinsDistinct_step_iff {b b' : Board} {l : Label} (hd : PinsDistinct b)
    (hstep : updateSystem.step b l b') : PinsDistinct b' ↔ NoClash b l := by
  rcases updateRelayPostHandler_cases hstep with
    ⟨_, rfl, hrefused⟩ | ⟨u, i, relay, hresolve, hsafe, happly⟩
  · -- refused: nothing changed, and a request that resolves names an unsafe pin
    refine ⟨fun _ => ?_, fun _ => hd⟩
    intro u i relay pin hresolve hpin hpinSafe
    obtain ⟨pin', hpin', hunsafe⟩ := hrefused u i relay hresolve
    rw [hpin] at hpin'
    cases hpin'
    rw [hpinSafe] at hunsafe
    cases hunsafe
  · obtain ⟨relay', hsame, hunits⟩ := applyUpdate_units happly
    have hget := (resolveUpdate_eq_ok hresolve).2.2
    rw [pinsDistinct_applied_iff hd hget hunits, hsame.gpio_pin]
    constructor
    · intro hunused u' i' relay₁ pin hresolve' hpin _
      rw [hresolve] at hresolve'
      cases hresolve'
      have hassigned : (assignFields relay u).gpioPin = pin := by simp [assignFields, hpin]
      rw [← hassigned]
      exact hunused
    · intro hnoclash
      cases hpin : u.relayGpioPin with
      | none =>
          have hkept : (assignFields relay u).gpioPin = relay.gpioPin := by
            simp [assignFields, hpin]
          rw [hkept]
          exact not_usedByOther_self hd hget
      | some pin =>
          have hassigned : (assignFields relay u).gpioPin = pin := by
            simp [assignFields, hpin]
          rw [hassigned]
          exact hnoclash u i relay pin hresolve hpin (hsafe pin hpin)

/-- A request for a used pin that does not clash is refused. -/
theorem refused_of_asksUsedPin {b b' : Board} {l : Label}
    (hstep : updateSystem.step b l b') (hnoclash : NoClash b l)
    (hasks : AsksUsedPin b l.req) : l.err ≠ .ok ∧ b' = b := by
  rcases updateRelayPostHandler_cases hstep with
    ⟨herr, hb, _⟩ | ⟨u, i, relay, hresolve, hsafe, _⟩
  · rw [herr]
    exact ⟨by simp, hb⟩
  · exfalso
    obtain ⟨u', pin, j, other, hparse, hpin, hj, hother, hlookup⟩ := hasks
    obtain ⟨hparse', hlookup', _⟩ := resolveUpdate_eq_ok hresolve
    rw [hparse] at hparse'
    cases hparse'
    have hji : j ≠ i := by
      rintro rfl
      exact hlookup hlookup'
    exact hnoclash _ i relay pin hresolve hpin (hsafe pin hpin) ⟨j, other, hj, hother, hji⟩

/-! ### Main Theorem -/

/-- In a run without clashing requests the pins stay distinct and every request
    for a used pin is refused without a change; a clashing request always leaves
    two units on one pin. -/
theorem pinsDistinct_of_noClash (b : Board)
    (hreach : ReachableWhen updateSystem NoClash b) :
    PinsDistinct b ∧ ∀ l b', updateSystem.step b l b' →
      (NoClash b l → AsksUsedPin b l.req → l.err ≠ .ok ∧ b' = b) ∧
        (¬ NoClash b l → ¬ PinsDistinct b') := by
  have hd : PinsDistinct b :=
    hreach.invariant (fun _ h => h)
      (fun _ _ _ hd hnoclash hstep => (pinsDistinct_step_iff hd hstep).mpr hnoclash)
  refine ⟨hd, ?_⟩
  intro l b' hstep
  refine ⟨fun hnoclash hasks => refused_of_asksUsedPin hstep hnoclash hasks, ?_⟩
  intro hclash hd'
  exact hclash ((pinsDistinct_step_iff hd hstep).mp hd')

/-! ### Two Actuators -/

/-- A board with actuators 0 and 1 on pins 4 and 5. -/
def twoActuators : Board :=
  { Board.reset (Nvs.setAll Nvs.empty sNamespace
      [(sKeyMqttConnect, .u16 0), (sKeyDeviceId, .str "DC".toList),
        (sKeyDeviceSerial, .str "S".toList)]) Gpio.State.initial with
    unitsInMemory := true
    sUnits := [getActuatorRelay 0 4, getActuatorRelay 1 5]
    sRelaysCount := 2 }

/-- A request of the board's owner that moves actuator 0 to `pin`. -/
def moveFirst (pin : Nat) : Request where
  contentLen := 100
  received := true
  json := some (.object [("device_id".toList, .string "DC".toList),
    ("device_serial".toList, .string "S".toList),
    ("data".toList, .object [("relay_key".toList, .string "relay_ch_0".toList),
      ("relay_gpio_pin".toList, .number (pin : Rat))])])

theorem pinsDistinct_twoActuators : PinsDistinct twoActuators := by
  show [(4 : Int), 5].Nodup
  decide

/-- The fields of that request. -/
def moveFirstUpdate (pin : Int) : UnitUpdate :=
  ⟨"relay_ch_0".toList, .actuator, some pin, none, none, none⟩

/-- What that request resolves to. -/
theorem noClash_moveFirst_iff {pin : Nat}
    (hresolve : (resolveUpdate twoActuators (moveFirst pin)).toOption =
      some (moveFirstUpdate pin, 0, getActuatorRelay 0 4))
    (hsafe : isGpioSafe pin = true) (err : EspErr) (response : Response) :
    NoClash twoActuators ⟨Env.ok, true, moveFirst pin, err, response⟩ ↔ (pin : Int) ≠ 5 := by
  have hok : resolveUpdate twoActuators (moveFirst pin) =
      .ok (moveFirstUpdate pin, 0, getActuatorRelay 0 4) := by
    cases hres : resolveUpdate twoActuators (moveFirst pin) with
    | error _ =>
        rw [hres] at hresolve
        cases hresolve
    | ok result =>
        rw [hres] at hresolve
        exact congrArg Except.ok (Option.some.inj hresolve)
  constructor
  · intro hnoclash hpin
    apply hnoclash _ _ _ pin hok rfl hsafe
    exact ⟨1, getActuatorRelay 1 5, rfl, hpin.symm, by decide⟩
  · rintro hpin u i relay pin' hresolve' hpin' _ ⟨j, other, hj, hother, hne⟩
    have hsame := hok.symm.trans hresolve'
    cases hsame
    cases hpin'
    -- the only other unit is actuator 1
    match j, hj with
    | 0, _ => exact hne rfl
    | 1, hj =>
        cases hj
        exact hpin hother.symm
    | j + 2, hj => cases hj

/-- Moving actuator 0 to pin 6. -/
theorem pinsDistinct_of_noClash_move :
    ∃ b, ReachableWhen updateSystem NoClash b ∧
      b.sUnits.map RelayUnit.gpioPin = [6, 5] ∧ PinsDistinct b := by
  obtain ⟨⟨err, response, b'⟩, hstep⟩ := Option.isSome_iff_exists.mp
    (show (updateRelayPostHandler Env.ok true twoActuators (moveFirst 6)).isSome = true by
      decide +kernel)
  have hpins : (updateRelayPostHandler Env.ok true twoActuators (moveFirst 6)).map
      (fun r => r.2.2.sUnits.map RelayUnit.gpioPin) = some [6, 5] := by
    decide +kernel
  rw [hstep] at hpins
  have hnoclash : NoClash twoActuators ⟨Env.ok, true, moveFirst 6, err, response⟩ :=
    (noClash_moveFirst_iff (by decide +kernel) (by decide) err response).mpr (by decide)
  have hreach : ReachableWhen updateSystem NoClash b' :=
    (ReachableWhen.init pinsDistinct_twoActuators).step hnoclash hstep
  exact ⟨b', hreach, Option.some.inj hpins, (pinsDistinct_of_noClash b' hreach).1⟩

/-- Moving actuator 0 to pin 5, where actuator 1 is. -/
theorem not_pinsDistinct :
    ¬ ∀ b, Reachable updateSystem b → PinsDistinct b ∧
      ∀ l b', updateSystem.step b l b' → AsksUsedPin b l.req → l.err ≠ .ok ∧ b' = b := by
  intro hall
  obtain ⟨⟨err, response, b'⟩, hstep⟩ := Option.isSome_iff_exists.mp
    (show (updateRelayPostHandler Env.ok true twoActuators (moveFirst 5)).isSome = true by
      decide +kernel)
  have hreach : Reachable updateSystem b' :=
    (Reachable.init pinsDistinct_twoActuators).step
      (l := ⟨Env.ok, true, moveFirst 5, err, response⟩) hstep
  have hnoclash := (pinsDistinct_step_iff
    (l := ⟨Env.ok, true, moveFirst 5, err, response⟩) pinsDistinct_twoActuators hstep).mp
    (hall b' hreach).1
  exact (noClash_moveFirst_iff (by decide +kernel) (by decide) err response).mp hnoclash
    (by decide)

end PinExclusivity
