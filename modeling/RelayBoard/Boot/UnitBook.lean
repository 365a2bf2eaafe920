import Mathlib.Logic.Function.Basic
import RelayBoard.Boot.DeviceSettings
import RelayBoard.Framework.FirstFit
import RelayBoard.Relay.Frame

/-! # The Book of Stored Units

  What the unit records in NVS stand for: for each type a shelf of records in
  channel order, without gaps. A record lies on its shelf as
  `save_relay_to_nvs` stores it. Provisioning is stated on books, as first
  fit over the pins of the units below the counts.
-/

open CString FirstFit Relay Settings

namespace Boot

/-! ### Keys -/

/-- The key of the unit of a type and channel. -/
def unitKey : RelayType → Nat → CStr
  | .actuator, i => chKey i
  | .sensor, i => snKey i

/-- The number of channels of a type that have a key. -/
def channelLimit : RelayType → Nat
  | .actuator => 16
  | .sensor => 9

theorem unitKey_inj {type type' : RelayType} {i i' : Nat} :
    unitKey type i = unitKey type' i' ↔ type = type' ∧ i = i' := by
  cases type <;> cases type' <;> simp [unitKey]

theorem settingKey_ne {key : CStr} (hkey : key ∈ settingKeys) (type : RelayType) (i : Nat) :
    key ≠ unitKey type i := by
  cases type with
  | actuator => exact (settingKey_ne_unitKey hkey i).1
  | sensor => exact (settingKey_ne_unitKey hkey i).2

theorem getRelayNvsKey_of_lt {i : Nat} (h : i < channelLimit .actuator) :
    getRelayNvsKey i = some (unitKey .actuator i) := by
  rw [getRelayNvsKey_natCast]
  exact if_pos (Nat.le_of_lt_succ h)

theorem getContactSensorNvsKey_of_lt {i : Nat} (h : i < channelLimit .sensor) :
    getContactSensorNvsKey i = some (unitKey .sensor i) := by
  rw [getContactSensorNvsKey_natCast]
  exact if_pos (Nat.le_of_lt_succ h)

/-- The key of a unit with a channel in range. -/
theorem getUnitNvsKey_of_lt {type : RelayType} {c : Nat} (hc : c < channelLimit type)
    {relay : RelayUnit} (htype : relay.type = type) (hchannel : relay.channel = c) :
    getUnitNvsKey relay = some (unitKey type c) := by
  rw [getUnitNvsKey, htype, hchannel]
  cases type with
  | actuator => exact getRelayNvsKey_of_lt hc
  | sensor => exact getContactSensorNvsKey_of_lt hc

/-! ### Shelves -/

/-- What a record of a type and channel looks like in NVS. -/
structure IsRecord (type : RelayType) (i : Nat) (relay : RelayUnit) : Prop where
  type_eq : relay.type = type
  channel_eq : relay.channel = i
  stored : storedCopy relay = relay

/-- The records of one type, in channel order. -/
structure Shelf (type : RelayType) where
  records : List RelayUnit
  isRecord : ∀ i relay, records[i]? = some relay → IsRecord type i relay

/-- The unit provisioning creates. -/
def freshUnit (type : RelayType) (i : Nat) (pin : Int) : RelayUnit :=
  { getActuatorRelay i pin with type := type }

theorem isRecord_freshUnit (type : RelayType) (i : Nat) (pin : Int) :
    IsRecord type i (freshUnit type i pin) :=
  ⟨rfl, rfl, rfl⟩

namespace Shelf

variable {type : RelayType}

def empty (type : RelayType) : Shelf type := ⟨[], by simp⟩

/-- The shelf with a fresh unit at its end. -/
def push (s : Shelf type) (pin : Int) : Shelf type where
  records := s.records ++ [freshUnit type s.records.length pin]
  isRecord := by
    intro i relay h
    rcases Nat.lt_or_ge i s.records.length with hlt | hge
    · rw [List.getElem?_append_left hlt] at h
      exact s.isRecord i relay h
    · rw [List.getElem?_append_right hge] at h
      obtain ⟨hi, hrelay⟩ := List.getElem?_eq_some_iff.mp h
      have heq : i = s.records.length := by simp at hi; omega
      subst heq
      simp only [Nat.sub_self, List.getElem_cons_zero] at hrelay
      rw [← hrelay]
      exact isRecord_freshUnit type _ pin

/-- The shelf with one record replaced. -/
def replace (s : Shelf type) (i : Nat) (relay : RelayUnit) (h : IsRecord type i relay) :
    Shelf type where
  records := s.records.set i relay
  isRecord := by
    intro j relay' hget
    by_cases hji : i = j
    · subst hji
      have hlt : i < s.records.length := by
        have := (List.getElem?_eq_some_iff.mp hget).1
        rwa [List.length_set] at this
      rw [List.getElem?_set_self hlt] at hget
      cases hget
      exact h
    · rw [List.getElem?_set_ne hji] at hget
      exact s.isRecord j relay' hget

@[simp] theorem push_records (s : Shelf type) (pin : Int) :
    (s.push pin).records = s.records ++ [freshUnit type s.records.length pin] := rfl

@[simp] theorem replace_records (s : Shelf type) (i : Nat) (relay : RelayUnit)
    (h : IsRecord type i relay) : (s.replace i relay h).records = s.records.set i relay := rfl

end Shelf

/-! ### Books -/

/-- One shelf for each type. -/
abbrev Book : Type := (type : RelayType) → Shelf type

/-- The number of units of each type in use. -/
abbrev Counts : Type := RelayType → Nat

namespace Book

def empty : Book := fun type => Shelf.empty type

/-- The book with a fresh unit on one shelf. -/
def push (book : Book) (type : RelayType) (pin : Int) : Book :=
  Function.update book type ((book type).push pin)

/-- The book with one record replaced. -/
def replace (book : Book) (type : RelayType) (i : Nat) (relay : RelayUnit)
    (h : IsRecord type i relay) : Book :=
  Function.update book type ((book type).replace i relay h)

/-- The records of a type below its count. -/
def active (book : Book) (counts : Counts) (type : RelayType) : List RelayUnit :=
  (book type).records.take (counts type)

/-- The pins of the units below the counts. -/
def activePins (book : Book) (counts : Counts) : List Int :=
  (book.active counts .actuator ++ book.active counts .sensor).map RelayUnit.gpioPin

/-- The pin provisioning would take; -1 when all are in use. -/
def nextPin (book : Book) (counts : Counts) : Int :=
  (firstFree safeGpioPins (book.activePins counts)).getD (-1)

/-- One turn of a provisioning loop. -/
def provisionUnit (counts : Counts) (type : RelayType) (book : Book) (i : Nat) : Book :=
  if i < (book type).records.length then book else book.push type (book.nextPin counts)

/-- One provisioning loop. -/
def provisionType (counts : Counts) (type : RelayType) (book : Book) : Book :=
  (List.range (counts type)).foldl (provisionUnit counts type) book

/-- What `device_settings_init` does to the records: actuators first, then sensors. -/
def provision (counts : Counts) (book : Book) : Book :=
  provisionType counts .sensor (provisionType counts .actuator book)

@[simp] theorem push_self (book : Book) (type : RelayType) (pin : Int) :
    book.push type pin type = (book type).push pin :=
  Function.update_self type _ book

theorem push_ne (book : Book) {type type' : RelayType} (pin : Int) (h : type' ≠ type) :
    book.push type pin type' = book type' :=
  Function.update_of_ne h _ book

/-- A record of the book after a push is an old one or the new one. -/
theorem getElem?_push {book : Book} {type type' : RelayType} {pin : Int} {i : Nat}
    {relay : RelayUnit} (h : (book.push type pin type').records[i]? = some relay) :
    (book type').records[i]? = some relay ∨
      (type' = type ∧ i = (book type).records.length ∧ relay = freshUnit type i pin) := by
  by_cases htype : type' = type
  · subst htype
    rw [push_self, Shelf.push_records] at h
    rcases Nat.lt_or_ge i (book type').records.length with hlt | hge
    · rw [List.getElem?_append_left hlt] at h
      exact Or.inl h
    · rw [List.getElem?_append_right hge] at h
      obtain ⟨hi, hrelay⟩ := List.getElem?_eq_some_iff.mp h
      rw [List.length_singleton] at hi
      have heq : i = (book type').records.length := by omega
      simp only [heq, Nat.sub_self, List.getElem_cons_zero] at hrelay
      exact Or.inr ⟨rfl, heq, by rw [heq]; exact hrelay.symm⟩
  · rw [push_ne _ _ htype] at h
    exact Or.inl h

/-- The pushed record. -/
theorem getElem?_push_self (book : Book) (type : RelayType) (pin : Int) :
    (book.push type pin type).records[(book type).records.length]? =
      some (freshUnit type (book type).records.length pin) := by
  rw [push_self, Shelf.push_records, List.getElem?_append_right (Nat.le_refl _), Nat.sub_self]
  rfl

/-- A push keeps every record. -/
theorem prefix_push (book : Book) (type type' : RelayType) (pin : Int) :
    (book type').records <+: (book.push type pin type').records := by
  by_cases htype : type' = type
  · subst htype
    rw [push_self, Shelf.push_records]
    exact List.prefix_append _ _
  · have hkept : book.push type pin type' = book type' := push_ne _ _ htype
    simp only [hkept, List.prefix_rfl]

@[simp] theorem replace_self (book : Book) (type : RelayType) (i : Nat) (relay : RelayUnit)
    (h : IsRecord type i relay) : book.replace type i relay h type =
      (book type).replace i relay h :=
  Function.update_self type _ book

theorem replace_ne (book : Book) {type type' : RelayType} (i : Nat) (relay : RelayUnit)
    (h : IsRecord type i relay) (hne : type' ≠ type) :
    book.replace type i relay h type' = book type' :=
  Function.update_of_ne hne _ book

/-- The pin of a record below the counts is active. -/
theorem mem_activePins {book : Book} {counts : Counts} {type : RelayType} {i : Nat}
    {relay : RelayUnit} (hget : (book type).records[i]? = some relay)
    (hi : i < counts type) : relay.gpioPin ∈ book.activePins counts := by
  have hmem : relay ∈ book.active counts type := by
    unfold active
    apply List.mem_of_getElem? (i := i)
    rw [List.getElem?_take_of_lt hi, hget]
  unfold activePins
  apply List.mem_map_of_mem
  rw [List.mem_append]
  cases type with
  | actuator => exact Or.inl hmem
  | sensor => exact Or.inr hmem

/-- Fewer units can be active than there are safe pins. -/
theorem length_activePins_lt (book : Book) {counts : Counts}
    (hcounts : ∀ type, counts type < channelLimit type) :
    (book.activePins counts).length < safeGpioPins.length := by
  have hactuators := hcounts .actuator
  have hsensors := hcounts .sensor
  simp only [channelLimit] at hactuators hsensors
  -- 26 safe pins for at most 15 actuators and 8 sensors
  have hsafe : safeGpioPins.length = 26 := by decide
  unfold activePins active
  rw [List.length_map, List.length_append, List.length_take, List.length_take, hsafe]
  omega

/-- **Pigeonhole**: provisioning always finds a safe pin that no active unit uses. -/
theorem nextPin_spec (book : Book) {counts : Counts}
    (hcounts : ∀ type, counts type < channelLimit type) :
    book.nextPin counts ∈ safeGpioPins ∧ book.nextPin counts ∉ book.activePins counts := by
  obtain ⟨pin, hpin⟩ := exists_firstFree safeGpioPins_nodup
    (book.length_activePins_lt hcounts)
  unfold nextPin
  rw [hpin]
  exact ⟨firstFree_mem hpin, firstFree_not_mem hpin⟩

/-! ### Growing Books -/

/-- `book'` comes from `book` by adding units below the counts, each on a safe pin
    that no other unit below the counts uses. -/
structure Grows (counts : Counts) (book book' : Book) : Prop where
  kept : ∀ type, (book type).records <+: (book' type).records
  added : ∀ type i relay, (book' type).records[i]? = some relay →
    (book type).records.length ≤ i →
    i < counts type ∧ relay.gpioPin ∈ safeGpioPins ∧
      ∀ type' j other, (book' type').records[j]? = some other → j < counts type' →
        (type', j) ≠ (type, i) → other.gpioPin ≠ relay.gpioPin

theorem Grows.refl (counts : Counts) (book : Book) : Grows counts book book := by
  refine ⟨fun _ => List.prefix_refl _, ?_⟩
  intro type i relay hget hge
  have hlt := (List.getElem?_eq_some_iff.mp hget).1
  omega

theorem Grows.getElem? {counts : Counts} {book book' : Book} (h : Grows counts book book')
    {type : RelayType} {i : Nat} (hi : i < (book type).records.length) :
    (book' type).records[i]? = (book type).records[i]? := by
  obtain ⟨more, heq⟩ := h.kept type
  rw [← heq, List.getElem?_append_left hi]

theorem Grows.trans {counts : Counts} {book book' book'' : Book} (h : Grows counts book book')
    (h' : Grows counts book' book'') : Grows counts book book'' := by
  refine ⟨fun type => (h.kept type).trans (h'.kept type), ?_⟩
  intro type i relay hget hge
  rcases Nat.lt_or_ge i (book' type).records.length with hlt | hge'
  · -- added in the first part: later units avoid its pin
    rw [h'.getElem? hlt] at hget
    obtain ⟨hi, hsafe, hother⟩ := h.added type i relay hget hge
    refine ⟨hi, hsafe, ?_⟩
    intro type' j other hj hjlt hne
    rcases Nat.lt_or_ge j (book' type').records.length with hlt' | hge''
    · rw [h'.getElem? hlt'] at hj
      exact hother type' j other hj hjlt hne
    · have hget' : (book'' type).records[i]? = some relay := by
        rw [h'.getElem? hlt, hget]
      exact ((h'.added type' j other hj hge'').2.2 type i relay hget' hi hne.symm).symm
  · exact h'.added type i relay hget hge'

theorem grows_provisionUnit (book : Book) {counts : Counts}
    (hcounts : ∀ type, counts type < channelLimit type) {type : RelayType} {i : Nat}
    (hi : i < counts type) (hle : i ≤ (book type).records.length) :
    Grows counts book (book.provisionUnit counts type i) := by
  unfold provisionUnit
  split
  · exact Grows.refl counts book
  · next hnot =>
      have heqi : i = (book type).records.length := by omega
      obtain ⟨hsafe, hfresh⟩ := book.nextPin_spec hcounts
      refine ⟨fun type' => book.prefix_push type type' _, ?_⟩
      intro type' j relay hget hge
      rcases getElem?_push hget with hold | ⟨rfl, hj, rfl⟩
      · -- an old record is not past the end of its shelf
        have hlt := (List.getElem?_eq_some_iff.mp hold).1
        omega
      · have hji : j = i := hj.trans heqi.symm
        subst hji
        refine ⟨hi, hsafe, ?_⟩
        intro type'' k other hk hklt hne hpin
        rcases getElem?_push hk with hold | ⟨rfl, hk', _⟩
        · -- the other unit was there before, so its pin counted as used
          apply hfresh
          have hnext : other.gpioPin = book.nextPin counts := hpin
          rw [← hnext]
          exact mem_activePins hold hklt
        · exact hne (by rw [hk', hj])

theorem lt_length_provisionUnit (book : Book) (counts : Counts) (type : RelayType)
    {i : Nat} (hle : i ≤ (book type).records.length) :
    i < (book.provisionUnit counts type i type).records.length := by
  unfold provisionUnit
  split
  · assumption
  · rw [push_self, Shelf.push_records, List.length_append, List.length_singleton]
    omega

/-- A stretch of turns grows the book up to its last channel. -/
theorem grows_foldl (book : Book) {counts : Counts}
    (hcounts : ∀ type, counts type < channelLimit type) (type : RelayType) {j n : Nat}
    (hn : j + n ≤ counts type) (hle : j ≤ (book type).records.length) :
    Grows counts book ((List.range' j n).foldl (provisionUnit counts type) book) ∧
      j + n ≤ ((List.range' j n).foldl (provisionUnit counts type) book type).records.length := by
  induction n generalizing j book with
  | zero => exact ⟨Grows.refl counts book, by simpa using hle⟩
  | succ n ih =>
      rw [List.range'_succ, List.foldl_cons]
      have hstep := book.grows_provisionUnit hcounts (i := j) (by omega) hle
      obtain ⟨hgrows, hlen⟩ := ih (book.provisionUnit counts type j) (j := j + 1) (by omega)
        (book.lt_length_provisionUnit counts type hle)
      exact ⟨hstep.trans hgrows, by omega⟩

/-- One loop provides every channel below its count. -/
theorem grows_provisionType (book : Book) {counts : Counts}
    (hcounts : ∀ type, counts type < channelLimit type) (type : RelayType) :
    Grows counts book (book.provisionType counts type) ∧
      counts type ≤ (book.provisionType counts type type).records.length := by
  unfold provisionType
  rw [List.range_eq_range']
  have h := book.grows_foldl hcounts type (j := 0) (n := counts type) (by omega)
    (Nat.zero_le _)
  rwa [Nat.zero_add] at h

/-- Provisioning grows the book, and afterwards every channel below the counts has
    a record. -/
theorem grows_provision (book : Book) {counts : Counts}
    (hcounts : ∀ type, counts type < channelLimit type) :
    Grows counts book (book.provision counts) ∧
      ∀ type, counts type ≤ (book.provision counts type).records.length := by
  unfold provision
  obtain ⟨hact, hactuators⟩ := book.grows_provisionType hcounts .actuator
  obtain ⟨hsens, hsensors⟩ :=
    (book.provisionType counts .actuator).grows_provisionType hcounts .sensor
  refine ⟨hact.trans hsens, ?_⟩
  intro type
  cases type with
  | actuator => exact Nat.le_trans hactuators (hsens.kept .actuator).length_le
  | sensor => exact hsensors

/-! ### Provisioning Without Missing Records -/

/-- Turns for channels that have a record do nothing. -/
theorem foldl_provisionUnit_eq_self {book : Book} {counts : Counts} {type : RelayType}
    {channels : List Nat} (h : ∀ i ∈ channels, i < (book type).records.length) :
    channels.foldl (provisionUnit counts type) book = book := by
  induction channels with
  | nil => rfl
  | cons i channels ih =>
      have hturn : book.provisionUnit counts type i = book :=
        if_pos (h i List.mem_cons_self)
      rw [List.foldl_cons, hturn]
      exact ih fun j hj => h j (List.mem_cons_of_mem _ hj)

theorem provisionType_eq_self {book : Book} {counts : Counts} {type : RelayType}
    (h : counts type ≤ (book type).records.length) :
    book.provisionType counts type = book := by
  apply foldl_provisionUnit_eq_self
  intro i hi
  exact Nat.lt_of_lt_of_le (List.mem_range.mp hi) h

/-- Provisioning leaves a book in which nothing is missing. -/
theorem provision_eq_self {book : Book} {counts : Counts}
    (h : ∀ type, counts type ≤ (book type).records.length) :
    book.provision counts = book := by
  unfold provision
  rw [provisionType_eq_self (h .actuator), provisionType_eq_self (h .sensor)]

/-! ### Safe Pins -/

/-- Every record has a safe pin. -/
def Safe (book : Book) : Prop :=
  ∀ type relay, relay ∈ (book type).records → relay.gpioPin ∈ safeGpioPins

theorem safe_empty : Book.empty.Safe := fun _ _ hmem => absurd hmem List.not_mem_nil

theorem Grows.safe {counts : Counts} {book book' : Book} (h : Grows counts book book')
    (hsafe : book.Safe) : book'.Safe := by
  intro type relay hmem
  obtain ⟨i, hget⟩ := List.getElem?_of_mem hmem
  rcases Nat.lt_or_ge i (book type).records.length with hlt | hge
  · rw [h.getElem? hlt] at hget
    exact hsafe type relay (List.mem_of_getElem? hget)
  · exact (h.added type i relay hget hge).2.1

theorem Safe.replace {book : Book} (h : book.Safe) {type : RelayType} {i : Nat}
    {relay : RelayUnit} (hrec : IsRecord type i relay) (hpin : relay.gpioPin ∈ safeGpioPins) :
    (book.replace type i relay hrec).Safe := by
  intro type' other hmem
  by_cases htype : type' = type
  · subst htype
    rw [replace_self, Shelf.replace_records] at hmem
    rcases List.mem_or_eq_of_mem_set hmem with hold | rfl
    · exact h type' other hold
    · exact hpin
  · rw [replace_ne _ _ _ _ htype] at hmem
    exact h type' other hmem

end Book

/-! ### The Book in NVS -/

/-- The unit records in NVS are those of the book. -/
def Holds (nvs : Nvs.Store RelayUnit) (book : Book) : Prop :=
  ∀ type i, nvs sNamespace (unitKey type i) =
    ((book type).records[i]?).map Nvs.Value.blob

/-- A record is stored under the key of a type and channel. -/
def Stored (nvs : Nvs.Store RelayUnit) (type : RelayType) (i : Nat) (relay : RelayUnit) :
    Prop :=
  nvs sNamespace (unitKey type i) = some (.blob relay)

theorem stored_iff {nvs : Nvs.Store RelayUnit} {book : Book} (h : Holds nvs book)
    {type : RelayType} {i : Nat} {relay : RelayUnit} :
    Stored nvs type i relay ↔ (book type).records[i]? = some relay := by
  unfold Stored
  rw [h type i]
  cases (book type).records[i]? <;> simp

theorem holds_empty {nvs : Nvs.Store RelayUnit}
    (h : ∀ type i, nvs sNamespace (unitKey type i) = none) : Holds nvs Book.empty := by
  intro type i
  rw [h type i]
  rfl

/-- A write under a key that is no unit's leaves the book. -/
theorem Holds.set_other {nvs : Nvs.Store RelayUnit} {book : Book} (h : Holds nvs book)
    {key : CStr} (hkey : ∀ type i, key ≠ unitKey type i) (value : Nvs.Value RelayUnit) :
    Holds (Nvs.set nvs sNamespace key value) book := by
  intro type i
  rw [Nvs.set_ne nvs sNamespace key _ value (Ne.symm (hkey type i))]
  exact h type i

/-- NVS with a fresh unit stored after the last one of its type. -/
def pushRecord (nvs : Nvs.Store RelayUnit) (book : Book) (type : RelayType) (pin : Int) :
    Nvs.Store RelayUnit :=
  Nvs.set nvs sNamespace (unitKey type (book type).records.length)
    (.blob (freshUnit type (book type).records.length pin))

theorem Holds.push {nvs : Nvs.Store RelayUnit} {book : Book} (h : Holds nvs book)
    (type : RelayType) (pin : Int) :
    Holds (pushRecord nvs book type pin) (book.push type pin) := by
  intro type' i
  unfold pushRecord
  rw [Nvs.set_apply]
  by_cases htype : type' = type
  · subst htype
    rw [Book.push_self, Shelf.push_records]
    -- the new record lies behind the old ones
    by_cases hi : i = (book type').records.length
    · subst hi
      rw [if_pos rfl, List.getElem?_append_right (Nat.le_refl _)]
      simp
    · rw [if_neg fun heq => hi (unitKey_inj.mp heq).2, h type' i]
      rcases Nat.lt_or_ge i (book type').records.length with hlt | hge
      · rw [List.getElem?_append_left hlt]
      · rw [List.getElem?_eq_none hge, List.getElem?_eq_none]
        rw [List.length_append, List.length_singleton]
        omega
  · rw [if_neg fun heq => htype (unitKey_inj.mp heq).1, Book.push_ne _ _ htype]
    exact h type' i

/-- Storing a record over another one. -/
theorem Holds.replace {nvs : Nvs.Store RelayUnit} {book : Book} (h : Holds nvs book)
    {type : RelayType} {i : Nat} (hi : i < (book type).records.length) {relay : RelayUnit}
    (hrec : IsRecord type i relay) :
    Holds (Nvs.set nvs sNamespace (unitKey type i) (.blob relay))
      (book.replace type i relay hrec) := by
  intro type' j
  rw [Nvs.set_apply]
  by_cases htype : type' = type
  · subst htype
    rw [Book.replace_self, Shelf.replace_records]
    -- only the replaced record changes
    by_cases hij : i = j
    · subst hij
      rw [if_pos rfl, List.getElem?_set_self hi]
      rfl
    · rw [if_neg fun heq => hij (unitKey_inj.mp heq).2.symm, List.getElem?_set_ne hij]
      exact h type' j
  · rw [if_neg fun heq => htype (unitKey_inj.mp heq).1, Book.replace_ne _ _ _ _ htype]
    exact h type' j

/-! ### Loading Lists -/

/-- A sequence of loads that yields the given records, up to the driver
    bookkeeping, and only failures after them. -/
def LoadsRecords (loads : List (Except EspErr RelayUnit)) (records : List RelayUnit) : Prop :=
  ∃ (units : List RelayUnit) (errs : List (Except EspErr RelayUnit)),
    loads = units.map Except.ok ++ errs ∧ (∀ e ∈ errs, ∃ err, e = .error err) ∧
      units.map storedCopy = records

theorem loadsRecords_nil : LoadsRecords [] [] := ⟨[], [], rfl, by simp, rfl⟩

theorem LoadsRecords.cons {loads : List (Except EspErr RelayUnit)} {records : List RelayUnit}
    (h : LoadsRecords loads records) {relay record : RelayUnit}
    (hrelay : storedCopy relay = record) :
    LoadsRecords (.ok relay :: loads) (record :: records) := by
  obtain ⟨units, errs, rfl, herrs, rfl⟩ := h
  refine ⟨relay :: units, errs, rfl, herrs, ?_⟩
  rw [List.map_cons, hrelay]

theorem LoadsRecords.cons_error {loads : List (Except EspErr RelayUnit)}
    (h : LoadsRecords loads []) (err : EspErr) : LoadsRecords (.error err :: loads) [] := by
  obtain ⟨units, errs, rfl, herrs, hunits⟩ := h
  rw [List.map_eq_nil_iff] at hunits
  subst hunits
  refine ⟨[], .error err :: errs, rfl, ?_, rfl⟩
  intro e he
  rcases List.mem_cons.mp he with rfl | he
  · exact ⟨err, rfl⟩
  · exact herrs e he

/-- The list a caller gets is that of the loaded records. -/
theorem LoadsRecords.packLoaded {loads : List (Except EspErr RelayUnit)}
    {records : List RelayUnit} (h : LoadsRecords loads records) :
    (packLoaded loads).map storedCopy = records := by
  obtain ⟨units, errs, rfl, herrs, rfl⟩ := h
  congr 1
  have hok : (units.map Except.ok).countP loadSucceeded = units.length := by
    rw [List.countP_map, List.countP_eq_length]
    intro relay _
    rfl
  have herr : errs.countP loadSucceeded = 0 := by
    rw [List.countP_eq_zero]
    intro e he
    obtain ⟨err, rfl⟩ := herrs e he
    simp [loadSucceeded]
  have hunits : (units.map Except.ok).map loadedUnit = units := by
    rw [List.map_map]
    exact List.map_id units
  unfold Relay.packLoaded
  rw [List.countP_append, hok, herr, List.map_append, hunits, Nat.add_zero, List.take_left]

end Boot
