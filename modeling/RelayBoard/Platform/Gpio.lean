import Mathlib.Algebra.Order.Group.Nat
import RelayBoard.Platform.Esp

/-! # GPIO Driver

  The state of the pins as the ESP-IDF driver leaves it: the configuration
  each pin got last, the output latch, the level the outside applies, and
  the pins with an interrupt handler. Outcomes of driver calls come from
  the environment and may differ from call to call.
-/

namespace Gpio

/-- `gpio_mode_t`. -/
inductive Mode where
  | disable
  | input
  | output
  deriving DecidableEq, Repr

/-- `gpio_int_type_t`. -/
inductive IntrType where
  | disable
  | anyedge
  deriving DecidableEq, Repr

/-- `gpio_config_t`. -/
structure Config where
  pinBitMask : Nat
  mode : Mode
  pullUpEn : Bool
  pullDownEn : Bool
  intrType : IntrType
  deriving DecidableEq, Repr

/-- `(gpio_config_t){0}`. -/
def Config.zero : Config := ⟨0, .disable, false, false, .disable⟩

/-- `1ULL << pin`. -/
def pinMask (pin : Int) : Nat := if 0 ≤ pin ∧ pin < 64 then 2 ^ pin.toNat else 0

/-- The pins and the driver. -/
structure State where
  /-- Mode of each pin. -/
  mode : Int → Mode
  /-- Output latch of each pin. -/
  latch : Int → Bool
  /-- Level applied to each pin from outside. -/
  level : Int → Bool
  /-- Pins with a handler added by `gpio_isr_handler_add`. -/
  isr : Int → Bool
  /-- Number of driver calls made so far. -/
  calls : Nat

/-- Outcomes of the driver calls: each may depend on how many were made before. -/
structure Driver where
  /-- Does `gpio_config` on this pin return `ESP_OK`? -/
  config : Nat → Int → Bool
  /-- Does `gpio_set_level` on this pin return `ESP_OK`? -/
  setLevel : Nat → Int → Bool

/-- A driver all of whose calls succeed. -/
def Driver.ok : Driver := ⟨fun _ _ => true, fun _ _ => true⟩

/-- The pins at power-on, with nothing connected. -/
def State.initial : State :=
  ⟨fun _ => .disable, fun _ => false, fun _ => false, fun _ => false, 0⟩

/-- The pins after a reset of the chip: only the outside levels stay. -/
def State.reset (g : State) : State :=
  { g with mode := fun _ => .disable, latch := fun _ => false, isr := fun _ => false }

/-- `gpio_config` on the pins of the mask. -/
def applyConfig (g : State) (conf : Config) : State :=
  { g with
    mode := fun p => if 0 ≤ p ∧ conf.pinBitMask.testBit p.toNat then conf.mode else g.mode p }

/-- Count one driver call. -/
def State.tick (g : State) : State := { g with calls := g.calls + 1 }

/-- `gpio_set_level`: writes the latch whatever the mode. -/
def applyLevel (g : State) (pin : Int) (level : Bool) : State :=
  { g with latch := fun p => if p = pin then level else g.latch p }

/-- `gpio_get_level`: a pin not configured for input reads 0. -/
def getLevel (g : State) (pin : Int) : Bool :=
  if g.mode pin = .input then g.level pin else false

/-- `gpio_isr_handler_add`. -/
def isrHandlerAdd (g : State) (pin : Int) : State :=
  { g with isr := fun p => if p = pin then true else g.isr p }

/-- The mask of one pin selects that pin only. -/
theorem testBit_pinMask {pin p : Int} (hp : 0 ≤ p) (hpin : 0 ≤ pin ∧ pin < 64) :
    (pinMask pin).testBit p.toNat = decide (p = pin) := by
  have hiff : p.toNat = pin.toNat ↔ p = pin := by omega
  simp only [pinMask, if_pos hpin, Nat.testBit_two_pow]
  rw [decide_eq_decide, eq_comm, hiff]

/-- One pin is configured and driven as before. -/
def KeepsPin (p : Int) (g g' : State) : Prop := g'.mode p = g.mode p ∧ g'.latch p = g.latch p

theorem KeepsPin.refl (p : Int) (g : State) : KeepsPin p g g := ⟨rfl, rfl⟩

theorem KeepsPin.trans {p : Int} {g g' g'' : State} (h : KeepsPin p g g')
    (h' : KeepsPin p g' g'') : KeepsPin p g g'' :=
  ⟨h'.1.trans h.1, h'.2.trans h.2⟩

/-- A one-pin configuration touches that pin only. -/
theorem applyConfig_keepsPin {g : State} {conf : Config} {pin p : Int}
    (hmask : conf.pinBitMask = pinMask pin) (hne : p ≠ pin) :
    KeepsPin p g (applyConfig g conf) := by
  refine ⟨?_, rfl⟩
  unfold applyConfig
  dsimp only
  rw [hmask]
  apply if_neg
  rintro ⟨hp, hbit⟩
  unfold pinMask at hbit
  split at hbit
  · next hpin =>
      rw [Nat.testBit_two_pow, decide_eq_true_eq] at hbit
      omega
  · simp at hbit

theorem applyLevel_keepsPin {g : State} {pin p : Int} {level : Bool} (hne : p ≠ pin) :
    KeepsPin p g (applyLevel g pin level) :=
  ⟨rfl, if_neg hne⟩

/-- A one-pin configuration sets the mode of that pin only. -/
theorem applyConfig_mode {g : State} {conf : Config} {pin : Int}
    (hmask : conf.pinBitMask = pinMask pin) (hpin : 0 ≤ pin ∧ pin < 64) (p : Int) :
    (applyConfig g conf).mode p = if p = pin then conf.mode else g.mode p := by
  by_cases hp : 0 ≤ p
  · simp [applyConfig, hmask, testBit_pinMask hp hpin, hp]
  · have hne : p ≠ pin := by omega
    simp [applyConfig, hp, hne]

end Gpio
