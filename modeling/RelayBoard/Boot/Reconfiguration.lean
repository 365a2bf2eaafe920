import RelayBoard.Boot.FirstFitBook
import RelayBoard.Boot.Table
import RelayBoard.Framework.Transition

/-! # Pins Across Reconfiguration

  The numbers of units are changed and the device is restarted, again and
  again. The scan for a free pin sees the units below the counts only, so the
  pins of the active units stay distinct as long as no boot creates a record
  while another one is out of sight.
-/

open Boot CString LTS Relay Settings

namespace Reconfiguration

/-! ### System -/

/-- What happens to a device nobody sends unit updates to. -/
inductive Label where
  /-- `apply_setting` accepts a number of units. -/
  | setCount (type : RelayType) (writeOk : Bool) (val : Json) (out : SettingUpdateMsg)
  /-- The chip restarts: `settings_init`, then `init_relay_units_in_memory`. -/
  | boot (env : Env) (newDeviceId newDeviceSerial : CStr) (gpio : Gpio.State)

/-- A device from empty NVS on. -/
def reconfigSystem : System Board Label where
  init := fun b => ∃ gpio, b = Board.reset Nvs.empty gpio
  step := fun b l b' =>
    match l with
    | .setCount type writeOk val out =>
        ∃ out' nvs,
          applySetting writeOk b.nvs (some (countKey type)) (some val) out =
            (.ok, out', nvs) ∧
          b' = { b with nvs := nvs }
    | .boot env newDeviceId newDeviceSerial gpio =>
        loadUnits env newDeviceId newDeviceSerial (Board.reset b.nvs gpio) = some b'

/-! ### Side Condition -/

/-- Some unit below the counts has no record. -/
def CreatesRecord (nvs : Nvs.Store RelayUnit) : Prop :=
  ∃ type i, i < countsOf nvs type ∧ nvs sNamespace (unitKey type i) = none

/-- Some unit with a record is not below the counts. -/
def HidesRecord (nvs : Nvs.Store RelayUnit) : Prop :=
  ∃ type i relay, countsOf nvs type ≤ i ∧ Stored nvs type i relay

/-- A boot that creates a record finds all stored ones below the counts. -/
def SeesAll (b : Board) : Label → Prop
  | .setCount .. => True
  | .boot .. => CreatesRecord b.nvs → ¬ HidesRecord b.nvs

theorem createsRecord_iff {nvs : Nvs.Store RelayUnit} {book : Book} (h : Holds nvs book) :
    CreatesRecord nvs ↔ ∃ type, (book type).records.length < countsOf nvs type := by
  constructor
  · rintro ⟨type, i, hi, hnone⟩
    rw [h type i, Option.map_eq_none_iff, List.getElem?_eq_none_iff] at hnone
    exact ⟨type, by omega⟩
  · rintro ⟨type, hlt⟩
    refine ⟨type, (book type).records.length, hlt, ?_⟩
    rw [h type, List.getElem?_eq_none (Nat.le_refl _)]
    rfl

theorem hidesRecord_iff {nvs : Nvs.Store RelayUnit} {book : Book} (h : Holds nvs book) :
    HidesRecord nvs ↔ ∃ type, countsOf nvs type < (book type).records.length := by
  constructor
  · rintro ⟨type, i, relay, hi, hstored⟩
    have hlt := (List.getElem?_eq_some_iff.mp ((stored_iff h).mp hstored)).1
    exact ⟨type, by omega⟩
  · rintro ⟨type, hlt⟩
    exact ⟨type, _, _, Nat.le_refl _, (stored_iff h).mpr (List.getElem?_eq_getElem hlt)⟩

/-! ### Invariant -/

/-- The records make up a compact book; the table has the ones below the counts of
    the last boot. -/
structure Inv (b : Board) (book : Book) (counts : Counts) : Prop where
  stored : WellStored b.nvs book
  compact : book.Compact
  length_lt : ∀ type, (book type).records.length < channelLimit type
  units : b.sUnits.map storedCopy =
    book.active counts .actuator ++ book.active counts .sensor

theorem Inv.pinsDistinct {b : Board} {book : Book} {counts : Counts} (h : Inv b book counts) :
    PinsDistinct b := by
  unfold PinsDistinct
  rw [map_gpioPin_eq_activePins h.units]
  exact h.compact.nodup.sublist (book.activePins_sublist counts)

theorem inv_init {b : Board} (h : reconfigSystem.init b) :
    Inv b Book.empty fun _ => 0 := by
  obtain ⟨gpio, rfl⟩ := h
  refine ⟨⟨Or.inl rfl, Or.inl rfl, holds_empty fun _ _ => rfl⟩, Book.compact_empty, ?_, rfl⟩
  intro type
  cases type <;> decide

/-- A boot that meets the condition leaves a compact book. -/
theorem compact_provision {nvs : Nvs.Store RelayUnit} {book : Book}
    (hstored : WellStored nvs book) (hcompact : book.Compact)
    (hsees : CreatesRecord nvs → ¬ HidesRecord nvs) :
    (book.provision (countsOf nvs)).Compact := by
  rw [createsRecord_iff hstored.holds, hidesRecord_iff hstored.holds] at hsees
  by_cases hcreates : ∃ type, (book type).records.length < countsOf nvs type
  · -- nothing is hidden, so each new pin is the next safe one
    have hfit : ∀ type, (book type).records.length ≤ countsOf nvs type := by
      intro type
      by_contra hlt
      exact hsees hcreates ⟨type, by omega⟩
    exact hcompact.provision hstored.counts_lt hfit
  · have hfull : ∀ type, countsOf nvs type ≤ (book type).records.length := by
      intro type
      by_contra hlt
      exact hcreates ⟨type, by omega⟩
    rw [Book.provision_eq_self hfull]
    exact hcompact

theorem inv_step {b b' : Board} {l : Label} (hinv : ∃ book counts, Inv b book counts)
    (hsees : SeesAll b l) (hstep : reconfigSystem.step b l b') :
    ∃ book counts, Inv b' book counts := by
  obtain ⟨book, counts, h⟩ := hinv
  match l with
  | .setCount type writeOk val out =>
      obtain ⟨out', nvs, happly, rfl⟩ := hstep
      obtain ⟨n, hn, rfl⟩ := applySetting_countKey happly
      exact ⟨book, counts, h.stored.setCount hn, h.compact, h.length_lt, h.units⟩
  | .boot env newDeviceId newDeviceSerial gpio =>
      have hloaded := (loadUnits_spec (b := Board.reset b.nvs gpio) env newDeviceId
        newDeviceSerial rfl rfl h.stored).2 b' hstep
      have hgrows := (book.grows_provision h.stored.counts_lt).1
      exact ⟨_, _, hloaded.stored, compact_provision h.stored h.compact hsees,
        hgrows.length_lt h.stored.counts_lt h.length_lt, hloaded.booted.units⟩

theorem inv_of_reachableWhen {b : Board} (h : ReachableWhen reconfigSystem SeesAll b) :
    ∃ book counts, Inv b book counts :=
  h.invariant (fun _ hinit => ⟨_, _, inv_init hinit⟩)
    (fun _ _ _ hinv hsees hstep => inv_step hinv hsees hstep)

/-! ### Reconfiguring -/

/-- `apply_setting` on a number of units, with a plain number. -/
def setCountTo (type : RelayType) (n : Nat) : Label :=
  .setCount type true (.number (n : Rat)) ⟨[], .ok, false, []⟩

/-- A restart during which every call succeeds. -/
def restart : Label := .boot Env.ok [] [] Gpio.State.initial

/-- Any number of units that all have keys is accepted. -/
theorem setCountTo_step (b : Board) {type : RelayType} {n : Nat} (hn : n < channelLimit type) :
    reconfigSystem.step b (setCountTo type n)
      { b with nvs := Nvs.set b.nvs sNamespace (countKey type) (.u16 n) } := by
  obtain ⟨out', happly⟩ := applySetting_count_ok b.nvs hn
  exact ⟨out', _, happly, rfl⟩

/-- A board whose table has the pins of the book's records below the counts. -/
structure Shows (b : Board) (book : Book) (counts : Counts) : Prop where
  stored : WellStored b.nvs book
  counts_eq : countsOf b.nvs = counts
  pins : b.sUnits.map RelayUnit.gpioPin = book.activePins counts

/-- A restart provisions the book. -/
theorem exists_restarted {b : Board} {book : Book} (h : WellStored b.nvs book) :
    ∃ b', reconfigSystem.step b restart b' ∧
      Shows b' (book.provision (countsOf b.nvs)) (countsOf b.nvs) := by
  obtain ⟨hsome, hspec⟩ := loadUnits_spec (b := Board.reset b.nvs Gpio.State.initial) Env.ok
    [] [] rfl rfl h
  obtain ⟨b', hload⟩ := hsome fun _ => rfl
  have hloaded := hspec b' hload
  exact ⟨b', hload, hloaded.stored, hloaded.counts_eq,
    map_gpioPin_eq_activePins hloaded.booted.units⟩

/-- One change of a history, on books. -/
def reconfigure (result : Book × Counts) (change : RelayType × Nat) : Book × Counts :=
  (result.1.provision (Function.update result.2 change.1 change.2),
    Function.update result.2 change.1 change.2)

/-- A device can go through any history of changes, each followed by a boot. -/
theorem Shows.history {b : Board} (result : Book × Counts) (h : Shows b result.1 result.2)
    (changes : List (RelayType × Nat))
    (hchanges : ∀ change ∈ changes, change.2 < channelLimit change.1) :
    ∃ b', Steps reconfigSystem b b' ∧
      Shows b' (changes.foldl reconfigure result).1 (changes.foldl reconfigure result).2 := by
  induction changes generalizing b result with
  | nil => exact ⟨b, Steps.refl b, h⟩
  | cons change changes ih =>
      obtain ⟨type, n⟩ := change
      have hn := hchanges (type, n) List.mem_cons_self
      obtain ⟨b₁, hboot, hshows⟩ := exists_restarted
        (b := { b with nvs := Nvs.set b.nvs sNamespace (countKey type) (.u16 n) })
        (h.stored.setCount hn)
      dsimp only at hshows
      rw [countsOf_setCount, h.counts_eq] at hshows
      obtain ⟨b', hsteps, hshows'⟩ := ih (reconfigure result (type, n)) hshows
        fun c hc => hchanges c (List.mem_cons_of_mem _ hc)
      have hfirst : Steps reconfigSystem b b₁ :=
        ((Steps.refl b).step (setCountTo_step b hn)).step hboot
      exact ⟨b', hfirst.trans hsteps, hshows'⟩

/-- When a clash is stored, raising both counts to the stored units shows it. -/
theorem Shows.exists_not_pinsDistinct {b : Board} {book : Book} {counts : Counts}
    (h : Shows b book counts) (hclash : book.Clash)
    (hlen : ∀ type, (book type).records.length < channelLimit type)
    (hcounts : ∀ type, counts type ≤ (book type).records.length) :
    ∃ b', Steps reconfigSystem b b' ∧ ¬ PinsDistinct b' := by
  have hchanges : ∀ change ∈ [(RelayType.actuator, (book .actuator).records.length),
      (RelayType.sensor, (book .sensor).records.length)],
      change.2 < channelLimit change.1 := by
    intro change hmem
    rcases List.mem_cons.mp hmem with rfl | hmem
    · exact hlen .actuator
    · rw [List.mem_singleton.mp hmem]
      exact hlen .sensor
  obtain ⟨b', hsteps, hshows⟩ := h.history (book, counts) _ hchanges
  -- nothing is missing on the way, so the book stays
  have hfirst : ∀ type, Function.update counts .actuator (book .actuator).records.length type ≤
      (book type).records.length := by
    intro type
    cases type with
    | actuator => exact Nat.le_refl _
    | sensor => exact hcounts .sensor
  have hsecond : ∀ type, Function.update (Function.update counts .actuator
      (book .actuator).records.length) .sensor (book .sensor).records.length type =
      (book type).records.length := by
    intro type
    cases type <;> rfl
  have hbook : (book.provision (Function.update counts .actuator
      (book .actuator).records.length)) = book := Book.provision_eq_self hfirst
  have hpins := hshows.pins
  simp only [List.foldl_cons, List.foldl_nil, reconfigure] at hpins
  rw [hbook, Book.provision_eq_self fun type => Nat.le_of_eq (hsecond type)] at hpins
  refine ⟨b', hsteps, ?_⟩
  unfold PinsDistinct
  rw [hpins]
  exact hclash.not_nodup fun type => Nat.le_of_eq (hsecond type).symm

/-- A boot that creates a record while another is hidden leads to a clash. -/
theorem exists_not_pinsDistinct_of_boot {b b' : Board} {book : Book} {counts : Counts}
    {l : Label} (hinv : Inv b book counts) (hstep : reconfigSystem.step b l b')
    (hunseen : ¬ SeesAll b l) : ∃ b'', Steps reconfigSystem b' b'' ∧ ¬ PinsDistinct b'' := by
  match l with
  | .setCount .. => exact absurd trivial hunseen
  | .boot env newDeviceId newDeviceSerial gpio =>
      obtain ⟨hcreates, hhides⟩ := Classical.not_imp.mp hunseen
      rw [Classical.not_not] at hhides
      obtain ⟨type, hmissing⟩ := (createsRecord_iff hinv.stored.holds).mp hcreates
      obtain ⟨type', hhidden⟩ := (hidesRecord_iff hinv.stored.holds).mp hhides
      have hloaded := (loadUnits_spec (b := Board.reset b.nvs gpio) env newDeviceId
        newDeviceSerial rfl rfl hinv.stored).2 b' hstep
      have hlt := hinv.stored.counts_lt
      obtain ⟨hgrows, hcomplete⟩ := book.grows_provision hlt
      have hshows : Shows b' (book.provision (countsOf b.nvs)) (countsOf b.nvs) :=
        ⟨hloaded.stored, hloaded.counts_eq, map_gpioPin_eq_activePins hloaded.booted.units⟩
      exact hshows.exists_not_pinsDistinct
        (Book.clash_provision hinv.compact hlt hmissing hhidden)
        (hgrows.length_lt hlt hinv.length_lt) hcomplete

/-! ### Main Theorem -/

/-- As long as no boot creates a record while another one is above the counts, the
    units have distinct pins after every boot; each boot that does can be followed by
    count changes and boots that show two units on one pin. -/
theorem pinsDistinct_of_seesAll (b : Board) (h : ReachableWhen reconfigSystem SeesAll b) :
    PinsDistinct b ∧ ∀ l b', reconfigSystem.step b l b' → ¬ SeesAll b l →
      ∃ b'', Steps reconfigSystem b' b'' ∧ ¬ PinsDistinct b'' := by
  obtain ⟨book, counts, hinv⟩ := inv_of_reachableWhen h
  exact ⟨hinv.pinsDistinct, fun _ _ hstep hunseen =>
    exists_not_pinsDistinct_of_boot hinv hstep hunseen⟩

/-- An empty device, configured for three actuators and booted. -/
theorem pinsDistinct_of_seesAll_threeActuators :
    ∃ b, ReachableWhen reconfigSystem SeesAll b ∧
      b.sUnits.map RelayUnit.gpioPin = [4, 5, 6] ∧ PinsDistinct b := by
  have hinit : reconfigSystem.init (Board.reset Nvs.empty Gpio.State.initial) := ⟨_, rfl⟩
  have hn : 3 < channelLimit .actuator := by decide
  have hstored := (inv_init hinit).stored.setCount hn
  obtain ⟨b', hboot, hshows⟩ := exists_restarted (b := { Board.reset Nvs.empty
    Gpio.State.initial with nvs := Nvs.set Nvs.empty sNamespace (countKey .actuator) (.u16 3) })
    hstored
  have hsees : SeesAll { Board.reset Nvs.empty Gpio.State.initial with
      nvs := Nvs.set Nvs.empty sNamespace (countKey .actuator) (.u16 3) } restart := by
    -- nothing is stored yet
    rintro _ hhides
    obtain ⟨type, hlt⟩ := (hidesRecord_iff hstored.holds).mp hhides
    exact absurd hlt (Nat.not_lt_zero _)
  have hpins := hshows.pins
  dsimp only at hpins
  rw [countsOf_setCount] at hpins
  have hreach : ReachableWhen reconfigSystem SeesAll b' :=
    ((ReachableWhen.init hinit).step (l := setCountTo .actuator 3) trivial
      (setCountTo_step _ hn)).step hsees hboot
  exact ⟨b', hreach, hpins.trans (by decide +kernel), (pinsDistinct_of_seesAll b' hreach).1⟩

/-- Two actuators, then one, then also a sensor, then two actuators again: the sensor
    has taken pin 5 from actuator 1. -/
theorem not_pinsDistinct_reconfigured :
    ¬ ∀ b, Reachable reconfigSystem b → PinsDistinct b := by
  intro hall
  have hinit : reconfigSystem.init (Board.reset Nvs.empty Gpio.State.initial) := ⟨_, rfl⟩
  have hshows : Shows (Board.reset Nvs.empty Gpio.State.initial) Book.empty
      (countsOf Nvs.empty) := ⟨(inv_init hinit).stored, rfl, rfl⟩
  obtain ⟨b, hsteps, hlast⟩ := hshows.history (Book.empty, countsOf Nvs.empty)
    [(.actuator, 2), (.actuator, 1), (.sensor, 1), (.actuator, 2)] (by decide)
  have hpins : b.sUnits.map RelayUnit.gpioPin = [4, 5, 5] :=
    hlast.pins.trans (by decide +kernel)
  have hdistinct := hall b (hsteps.reachable (Reachable.init hinit))
  unfold PinsDistinct at hdistinct
  rw [hpins] at hdistinct
  exact absurd hdistinct (by decide)

end Reconfiguration
