import RelayBoard.Boot.Scan

/-! # Pins While Booting

  Each turn of the provisioning loops touches the pin of its own unit and,
  when it scans for a free pin, those of the sensors. While no two active
  units share a pin, an actuator that has been driven stays driven.
-/

open CString Relay Settings

namespace Boot

/-! ### Separate Pins -/

/-- No two units below the counts share a pin. -/
def Book.Separate (book : Book) (counts : Counts) : Prop := (book.activePins counts).Nodup

theorem Book.Separate.gpioPin_ne {book : Book} {counts : Counts} (h : book.Separate counts)
    {type type' : RelayType} {i i' : Nat} {relay relay' : RelayUnit}
    (hget : (book type).records[i]? = some relay) (hi : i < counts type)
    (hget' : (book type').records[i']? = some relay') (hi' : i' < counts type')
    (hne : (type, i) ≠ (type', i')) : relay.gpioPin ≠ relay'.gpioPin := by
  have hpin : ∀ {type : RelayType} {i : Nat} {relay : RelayUnit},
      (book type).records[i]? = some relay → i < counts type →
      ((book.active counts type).map RelayUnit.gpioPin)[i]? = some relay.gpioPin := by
    intro type i relay hget hi
    rw [List.getElem?_map, Book.active, List.getElem?_take_of_lt hi, hget]
    rfl
  have h₁ := hpin hget hi
  have h₂ := hpin hget' hi'
  unfold Book.Separate Book.activePins at h
  rw [List.map_append, List.nodup_append] at h
  obtain ⟨hact, hsens, hdisjoint⟩ := h
  -- on one shelf the pins are distinct by index
  have hshelf : ∀ {type : RelayType} {i i' : Nat} {pin : Int},
      ((book.active counts type).map RelayUnit.gpioPin)[i]? = some pin →
      ((book.active counts type).map RelayUnit.gpioPin)[i']? = some pin → i = i' := by
    intro type i i' pin hi hi'
    obtain ⟨_, hi⟩ := List.getElem?_eq_some_iff.mp hi
    obtain ⟨_, hi'⟩ := List.getElem?_eq_some_iff.mp hi'
    have hnodup : ((book.active counts type).map RelayUnit.gpioPin).Nodup := by
      cases type with
      | actuator => exact hact
      | sensor => exact hsens
    exact (List.Nodup.getElem_inj_iff hnodup).mp (hi.trans hi'.symm)
  intro heq
  rw [← heq] at h₂
  match type, type' with
  | .actuator, .actuator => exact hne (by rw [hshelf h₁ h₂])
  | .sensor, .sensor => exact hne (by rw [hshelf h₁ h₂])
  | .actuator, .sensor =>
      exact hdisjoint _ (List.mem_of_getElem? h₁) _ (List.mem_of_getElem? h₂) rfl
  | .sensor, .actuator =>
      exact hdisjoint _ (List.mem_of_getElem? h₂) _ (List.mem_of_getElem? h₁) rfl

theorem mem_sensorPins_iff {book : Book} {counts : Counts} {p : Int} :
    p ∈ sensorPins book counts ↔ ∃ i relay, (book .sensor).records[i]? = some relay ∧
      i < counts .sensor ∧ relay.gpioPin = p := by
  unfold sensorPins Book.active
  constructor
  · intro hmem
    obtain ⟨relay, hrelay, hpin⟩ := List.mem_map.mp hmem
    obtain ⟨i, hi⟩ := List.getElem?_of_mem hrelay
    have hlt : i < counts .sensor := by
      have := (List.getElem?_eq_some_iff.mp hi).1
      rw [List.length_take] at this
      omega
    rw [List.getElem?_take_of_lt hlt] at hi
    exact ⟨i, relay, hi, hlt, hpin⟩
  · -- a record below the count is in the list
    rintro ⟨i, relay, hget, hi, hpin⟩
    rw [← hpin]
    apply List.mem_map_of_mem
    apply List.mem_of_getElem? (i := i)
    rw [List.getElem?_take_of_lt hi]
    exact hget

/-- An active actuator's pin is no sensor's. -/
theorem Book.Separate.not_mem_sensorPins {book : Book} {counts : Counts}
    (h : book.Separate counts) {i : Nat} {relay : RelayUnit}
    (hget : (book .actuator).records[i]? = some relay) (hi : i < counts .actuator) :
    relay.gpioPin ∉ sensorPins book counts := by
  rw [mem_sensorPins_iff]
  rintro ⟨j, other, hother, hj, hpin⟩
  exact h.gpioPin_ne hother hj hget hi (by simp) hpin

/-- A push adds at most a sensor. -/
theorem Book.sensorPins_push_subset (book : Book) (counts : Counts) (type : RelayType)
    (pin : Int) : sensorPins book counts ⊆ sensorPins (book.push type pin) counts := by
  obtain ⟨more, heq⟩ := book.prefix_push type .sensor pin
  unfold sensorPins Book.active
  rw [← heq, List.take_append, List.map_append]
  exact List.subset_append_left _ _

/-- A growing book only gets more sensors. -/
theorem Book.Grows.sensorPins_subset {book book' : Book} {counts : Counts}
    (h : book.Grows counts book') : sensorPins book counts ⊆ sensorPins book' counts := by
  intro p hp
  rw [mem_sensorPins_iff] at hp ⊢
  obtain ⟨i, relay, hget, hi, hpin⟩ := hp
  refine ⟨i, relay, ?_, hi, hpin⟩
  rw [h.getElem? (List.getElem?_eq_some_iff.mp hget).1]
  exact hget

/-- What a growing book has in the end was separate before. -/
theorem Book.Grows.separate {book book' : Book} {counts : Counts}
    (h : book.Grows counts book') (hsep : book'.Separate counts) : book.Separate counts := by
  have hpre : ∀ type, (book.active counts type).Sublist (book'.active counts type) := by
    intro type
    obtain ⟨more, heq⟩ := h.kept type
    unfold Book.active
    rw [← heq, List.take_append]
    exact List.sublist_append_left _ _
  exact hsep.sublist (((hpre .actuator).append (hpre .sensor)).map _)

/-! ### Setting Up -/

/-- The pin is one that fits the bit mask of `gpio_config`. -/
def Bounded (relay : RelayUnit) : Prop := 0 ≤ relay.gpioPin ∧ relay.gpioPin < 64

/-- What turns for the channels `j`, …, `j + n - 1` of a type do to the pins; `book'`
    is the book after them. -/
structure SetUp (env : Env) (counts : Counts) (book' : Book) (type : RelayType) (j n : Nat)
    (b b' : Board) : Prop where
  keeps : ∀ p ∉ sensorPins book' counts,
    (∀ i relay, j ≤ i → i < j + n → (book' type).records[i]? = some relay →
      relay.gpioPin ≠ p) → Gpio.KeepsPin p b.gpio b'.gpio
  driven : env.driver = Gpio.Driver.ok → type = .actuator → book'.Separate counts →
    ∀ i relay, j ≤ i → i < j + n → (book' type).records[i]? = some relay →
      Bounded relay → Drives b'.gpio relay

variable {env : Env} {counts : Counts} {book book' : Book} {type : RelayType}
  {b b₁ b₂ : Board} {j n : Nat}

theorem SetUp.nil : SetUp env counts book' type j 0 b b :=
  ⟨fun p _ _ => Gpio.KeepsPin.refl p b.gpio, fun _ _ _ i _ hle hlt => by omega⟩

/-- A turn and the turns after it. -/
theorem SetUp.cons (h : SetUp env counts book type j 1 b b₁)
    (hgrows : book.Grows counts book') (hlt : j < (book type).records.length)
    (hn : j + 1 + n ≤ counts type) (h' : SetUp env counts book' type (j + 1) n b₁ b₂) :
    SetUp env counts book' type j (n + 1) b b₂ := by
  have hsame := hgrows.getElem? hlt
  constructor
  · intro p hp hother
    refine (h.keeps p (fun hmem => hp (hgrows.sensorPins_subset hmem)) ?_).trans
      (h'.keeps p hp ?_)
    · intro i relay hle hi hget
      have hij : i = j := by omega
      subst hij
      exact hother i relay hle (by omega) (hsame.trans hget)
    · intro i relay hle hi hget
      exact hother i relay (by omega) (by omega) hget
  · intro hdriver htype hsep i relay hle hi hget hbound
    subst htype
    by_cases hij : i = j
    · -- the actuator of the first turn is left alone by the others
      subst hij
      have hfirst := h.driven hdriver rfl (hgrows.separate hsep) i relay hle (by omega)
        (hsame.symm.trans hget) hbound
      refine hfirst.keeps (h'.keeps _ (hsep.not_mem_sensorPins hget (by omega)) ?_)
      intro k other hk hk' hother
      exact hsep.gpioPin_ne hother (by omega) hget (by omega) (by simp; omega)
    · exact h'.driven hdriver rfl hsep i relay (by omega) (by omega) hget hbound

/-- Every active actuator is driven, if the driver never fails. -/
def AllDriven (env : Env) (counts : Counts) (book : Book) (b : Board) : Prop :=
  env.driver = Gpio.Driver.ok → book.Separate counts →
    ∀ i relay, i < counts .actuator → (book .actuator).records[i]? = some relay →
      Bounded relay → Drives b.gpio relay

/-- Setting up sensors leaves the actuators alone. -/
theorem AllDriven.onlyPins (h : AllDriven env counts book b)
    (honly : OnlyPins (sensorPins book counts) b b₁) : AllDriven env counts book b₁ := by
  intro hdriver hsep i relay hi hget hbound
  exact (h hdriver hsep i relay hi hget hbound).keeps
    (honly.keeps _ (hsep.not_mem_sensorPins hget hi))

/-- The actuator loop drives the actuators, and the sensor loop leaves them alone. -/
theorem SetUp.allDriven (h : SetUp env counts book .actuator 0 (counts .actuator) b b₁)
    (hgrows : book.Grows counts book')
    (hcomplete : counts .actuator ≤ (book .actuator).records.length)
    (h' : SetUp env counts book' .sensor 0 (counts .sensor) b₁ b₂) :
    AllDriven env counts book' b₂ := by
  intro hdriver hsep i relay hi hget hbound
  have hsame := hgrows.getElem? (Nat.lt_of_lt_of_le hi hcomplete)
  have hdrives := h.driven hdriver rfl (hgrows.separate hsep) i relay (Nat.zero_le i)
    (by omega) (hsame.symm.trans hget) hbound
  refine hdrives.keeps (h'.keeps _ (hsep.not_mem_sensorPins hget hi) ?_)
  intro k other _ hk hother
  exact hsep.gpioPin_ne hother (by omega) hget hi (by simp)

end Boot
