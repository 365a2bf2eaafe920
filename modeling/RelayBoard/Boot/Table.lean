import RelayBoard.Boot.Provisioning
import RelayBoard.Settings.Ranges
import RelayBoard.Web.UpdateRelay

/-! # The Booted Board

  After a boot the in-memory table holds the records below the counts, and
  each unit of the table is one of the book. A successful update request
  replaces one unit and its record and keeps the two in step.
-/

open CString Relay Settings Web

namespace Boot

/-! ### The Table and the Book -/

/-- A board with its units in memory: the table lists the records below the counts,
    up to the driver bookkeeping. -/
structure Booted (b : Board) (counts : Counts) (book : Book) : Prop where
  in_memory : b.unitsInMemory = true
  holds : Holds b.nvs book
  counts_lt : ∀ type, counts type < channelLimit type
  complete : ∀ type, counts type ≤ (book type).records.length
  units : b.sUnits.map storedCopy =
    book.active counts .actuator ++ book.active counts .sensor
  relays_count : b.sRelaysCount = counts .actuator
  sensors_count : b.sSensorsCount = counts .sensor

/-- Where the table has the unit of a type and channel. -/
def tableIndex (counts : Counts) : RelayType → Nat → Nat
  | .actuator, i => i
  | .sensor, i => counts .actuator + i

variable {b b' : Board} {counts : Counts} {book : Book}

theorem Loading.wellStored (h : Loading b counts book) :
    WellStored b.nvs book ∧ countsOf b.nvs = counts := by
  refine ⟨⟨Or.inr ⟨_, h.counts_lt .actuator, Nvs.readUint16_eq_ok_iff.mp h.channel_count⟩,
    Or.inr ⟨_, h.counts_lt .sensor, Nvs.readUint16_eq_ok_iff.mp h.sensors_count⟩, h.holds⟩, ?_⟩
  funext type
  cases type with
  | actuator =>
      unfold countsOf uint16OrDefault
      rw [h.channel_count]
  | sensor =>
      unfold countsOf uint16OrDefault
      rw [h.sensors_count]

/-- A complete book has as many active records as units are in use. -/
theorem Book.length_active {book : Book} {counts : Counts}
    (hcomplete : ∀ type, counts type ≤ (book type).records.length) (type : RelayType) :
    (book.active counts type).length = counts type := by
  unfold Book.active
  rw [List.length_take, Nat.min_eq_left (hcomplete type)]

/-- The units of a type in a table of active records. -/
theorem countP_type {book : Book} {counts : Counts}
    (hcomplete : ∀ type, counts type ≤ (book type).records.length) {units : List RelayUnit}
    (hunits : units.map storedCopy =
      book.active counts .actuator ++ book.active counts .sensor) (type : RelayType) :
    units.countP (fun relay => relay.type = type) = counts type := by
  -- a shelf holds units of its own type
  have hshelf : ∀ type', (book.active counts type').countP (fun relay => relay.type = type) =
      if type' = type then counts type else 0 := by
    intro type'
    have htype : ∀ relay ∈ book.active counts type', relay.type = type' := by
      intro relay hmem
      obtain ⟨i, hi⟩ := List.getElem?_of_mem (List.mem_of_mem_take hmem)
      exact ((book type').isRecord i relay hi).type_eq
    split
    · next heq =>
        subst heq
        rw [← Book.length_active hcomplete type', List.countP_eq_length]
        intro relay hmem
        simpa using htype relay hmem
    · next hne =>
        rw [List.countP_eq_zero]
        intro relay hmem
        rw [htype relay hmem]
        simpa using hne
  -- the driver bookkeeping does not matter for the type
  have hcopies : units.countP (fun relay => relay.type = type) =
      (units.map storedCopy).countP (fun relay => relay.type = type) := by
    rw [List.countP_map]
    rfl
  rw [hcopies, hunits, List.countP_append, hshelf, hshelf]
  cases type <;> simp

/-- The pins of a table of active records. -/
theorem map_gpioPin_eq_activePins {b : Board} {book : Book} {counts : Counts}
    (h : b.sUnits.map storedCopy = book.active counts .actuator ++ book.active counts .sensor) :
    b.sUnits.map RelayUnit.gpioPin = book.activePins counts := by
  unfold Book.activePins
  rw [← h, map_gpioPin_storedCopy]

/-- A board right after its table has been loaded. -/
structure Loaded (env : Env) (counts : Counts) (book : Book) (b : Board) : Prop where
  booted : Booted b counts book
  stored : WellStored b.nvs book
  counts_eq : countsOf b.nvs = counts
  driven : AllDriven env counts book b
  idle : ∀ relay ∈ b.sUnits, relay.type = .actuator → relay.gpioInitialized = false

/-- `init_relay_units_in_memory` loads the table. -/
theorem initRelayUnitsInMemory_loading (env : Env) (h : Loading b counts book)
    (hcomplete : ∀ type, counts type ≤ (book type).records.length)
    (hdriven : AllDriven env counts book b) :
    ∃ b', initRelayUnitsInMemory env b = some (.ok, b') ∧ Loaded env counts book b' := by
  obtain ⟨units, b₁, heq, honly, hunits, hidle⟩ := getAllRelayUnits_loading env h
  have hnvs := honly.onlyGpio.nvs
  have hholds : Holds b₁.nvs book := by
    rw [hnvs]
    exact h.holds
  have hstored : WellStored b₁.nvs book ∧ countsOf b₁.nvs = counts := by
    rw [hnvs]
    exact h.wellStored
  have hdriven' : AllDriven env counts book b₁ := hdriven.onlyPins honly
  unfold initRelayUnitsInMemory
  rw [heq]
  exact ⟨_, rfl, ⟨rfl, hholds, h.counts_lt, hcomplete, hunits,
    countP_type hcomplete hunits .actuator, countP_type hcomplete hunits .sensor⟩, hstored.1,
    hstored.2, hdriven', hidle⟩

/-- A boot up to the loaded table provisions the book; it fails only when a write
    fails. -/
theorem loadUnits_spec (env : Env) (newDeviceId newDeviceSerial : CStr)
    (hmem : b.unitsInMemory = false) (hready : b.isMqttReady = false)
    (hstored : WellStored b.nvs book) :
    ((∀ key, env.nvsWrite key = true) →
      ∃ b', loadUnits env newDeviceId newDeviceSerial b = some b') ∧
    ∀ b', loadUnits env newDeviceId newDeviceSerial b = some b' →
      Loaded env (countsOf b.nvs) (book.provision (countsOf b.nvs)) b' := by
  obtain ⟨err, b₁, hinit, hok, hload⟩ :=
    settingsInit_spec env newDeviceId newDeviceSerial hmem hready hstored
  unfold loadUnits
  rw [hinit]
  by_cases herr : err = .ok
  · subst herr
    obtain ⟨h₁, hdriven⟩ := hload rfl
    obtain ⟨b₂, htable, hloaded⟩ := initRelayUnitsInMemory_loading env h₁
      (book.grows_provision hstored.counts_lt).2 hdriven
    dsimp only
    rw [htable]
    refine ⟨fun _ => ⟨b₂, rfl⟩, ?_⟩
    intro b' hb'
    cases hb'
    exact hloaded
  · -- `settings_init` has failed, which needs a failed write
    refine ⟨fun hwrite => absurd (hok hwrite) herr, ?_⟩
    intro b' hb'
    split at hb'
    · next heq =>
        cases heq
        exact absurd rfl herr
    · cases hb'

/-- Two units with one place in the table are one unit. -/
theorem tableIndex_inj {type type' : RelayType} {c c' : Nat} (hc : c < counts type)
    (hc' : c' < counts type') (h : tableIndex counts type c = tableIndex counts type' c') :
    type = type' ∧ c = c' := by
  match type, type' with
  | .actuator, .actuator => exact ⟨rfl, h⟩
  | .sensor, .sensor => exact ⟨rfl, Nat.add_left_cancel h⟩
  | .actuator, .sensor =>
      change c = counts .actuator + c' at h
      omega
  | .sensor, .actuator =>
      change counts .actuator + c = c' at h
      omega

/-- The table has as many units as are in use. -/
theorem Booted.length (h : Booted b counts book) :
    b.sUnits.length = counts .actuator + counts .sensor := by
  have hunits := congrArg List.length h.units
  rw [List.length_map, List.length_append, Book.length_active h.complete,
    Book.length_active h.complete] at hunits
  exact hunits

/-- Every unit of the table is a record below the counts. -/
theorem Booted.unit (h : Booted b counts book) {i : Nat} {relay : RelayUnit}
    (hget : b.sUnits[i]? = some relay) :
    ∃ type c, c < counts type ∧ i = tableIndex counts type c ∧
      (book type).records[c]? = some (storedCopy relay) := by
  have hlen := Book.length_active h.complete .actuator
  have hcopy : (book.active counts .actuator ++ book.active counts .sensor)[i]? =
      some (storedCopy relay) := by
    rw [← h.units, List.getElem?_map, hget]
    rfl
  rcases Nat.lt_or_ge i (counts .actuator) with hlt | hge
  · refine ⟨.actuator, i, hlt, rfl, ?_⟩
    rw [List.getElem?_append_left (by omega)] at hcopy
    unfold Book.active at hcopy
    rwa [List.getElem?_take_of_lt hlt] at hcopy
  · rw [List.getElem?_append_right (by omega), hlen] at hcopy
    have hlt : i - counts .actuator < counts .sensor := by
      have := (List.getElem?_eq_some_iff.mp hcopy).1
      unfold Book.active at this
      rw [List.length_take] at this
      omega
    refine ⟨.sensor, i - counts .actuator, hlt, ?_, ?_⟩
    · show i = counts .actuator + (i - counts .actuator)
      omega
    · unfold Book.active at hcopy
      rwa [List.getElem?_take_of_lt hlt] at hcopy

/-- The table of a booted board lists the actuators and the sensors below the counts. -/
theorem Booted.loadedTable (h : Booted b counts book) :
    LoadedTable b (counts .actuator) (counts .sensor) := by
  have hlen := h.length
  have hplace : ∀ type, ∀ c < counts type, ∃ relay,
      b.sUnits[tableIndex counts type c]? = some relay ∧ relay.type = type ∧
        relay.channel = c := by
    intro type c hc
    have hlt : tableIndex counts type c < b.sUnits.length := by
      cases type with
      | actuator => exact Nat.lt_of_lt_of_le hc (by omega)
      | sensor =>
          show counts .actuator + c < _
          omega
    obtain ⟨type', c', hc', hi, hrecord⟩ := h.unit (List.getElem?_eq_getElem hlt)
    obtain ⟨rfl, rfl⟩ := tableIndex_inj hc hc' hi
    have hrec := (book type).isRecord c _ hrecord
    exact ⟨_, List.getElem?_eq_getElem hlt, hrec.type_eq, hrec.channel_eq⟩
  exact ⟨h.in_memory, h.length, fun c hc => hplace .actuator c hc,
    fun c hc => hplace .sensor c hc, h.relays_count, h.sensors_count⟩

/-- A unit that is the record of a type and channel has that record's key. -/
theorem getUnitNvsKey_of_isRecord {type : RelayType} {c : Nat} {relay : RelayUnit}
    (h : IsRecord type c (storedCopy relay)) (hc : c < channelLimit type) :
    getUnitNvsKey relay = some (unitKey type c) :=
  getUnitNvsKey_of_lt hc h.type_eq h.channel_eq

/-! ### Count Changes -/

/-- The setting with the number of units of a type. -/
def countKey : RelayType → CStr
  | .actuator => sKeyChannelCount
  | .sensor => sKeyContactSensorsCount

theorem countKey_mem (type : RelayType) : countKey type ∈ settingKeys := by
  cases type <;> decide

/-- The range of a count is that of the channels that have a key. -/
theorem count_mem_numericSettings (type : RelayType) :
    (⟨countKey type, .w16, 0, (channelLimit type : Int) - 1⟩ : NumericSetting) ∈
      numericSettings := by
  cases type with
  | actuator => exact List.mem_of_getElem? (i := 4) rfl
  | sensor => exact List.mem_of_getElem? (i := 5) rfl

/-- A count that `apply_setting` accepts is stored, and every channel below it has a
    key. -/
theorem applySetting_countKey {writeOk : Bool} {nvs nvs' : Nvs.Store RelayUnit}
    {type : RelayType} {val : Json} {out out' : SettingUpdateMsg}
    (h : applySetting writeOk nvs (some (countKey type)) (some val) out = (.ok, out', nvs')) :
    ∃ n, n < channelLimit type ∧
      nvs' = Nvs.set nvs sNamespace (countKey type) (.u16 n) := by
  obtain ⟨e, hchecks⟩ := exists_checks (count_mem_numericSettings type)
  obtain ⟨n, ⟨_, hle⟩, hset⟩ := hchecks.applySetting (count_mem_numericSettings type) h
  have hle : (n : Int) ≤ (channelLimit type : Int) - 1 := hle
  exact ⟨n, by omega, hset⟩

/-- Every number all of whose channels have a key is accepted. -/
theorem applySetting_count_ok (nvs : Nvs.Store RelayUnit) {type : RelayType} {n : Nat}
    (hn : n < channelLimit type) :
    ∃ out', Settings.applySetting true nvs (some (countKey type)) (some (.number (n : Rat)))
      ⟨[], .ok, false, []⟩ = (.ok, out', Nvs.set nvs sNamespace (countKey type) (.u16 n)) := by
  obtain ⟨e, hchecks⟩ := exists_checks (count_mem_numericSettings type)
  apply hchecks.applySetting_ok (count_mem_numericSettings type) nvs
  show 0 ≤ (n : Int) ∧ (n : Int) ≤ (channelLimit type : Int) - 1
  omega

/-- Storing a count leaves the records. -/
theorem WellStored.setCount {nvs : Nvs.Store RelayUnit} (h : WellStored nvs book)
    {type : RelayType} {n : Nat} (hn : n < channelLimit type) :
    WellStored (Nvs.set nvs sNamespace (countKey type) (.u16 n)) book := by
  have hholds := h.holds.set_other (settingKey_ne (countKey_mem type)) (.u16 n)
  cases type with
  | actuator =>
      refine ⟨Or.inr ⟨n, hn, Nvs.set_self ..⟩, ?_, hholds⟩
      unfold CountInRange
      rw [Nvs.set_ne _ _ _ _ _ (by decide)]
      exact h.sensors_count
  | sensor =>
      refine ⟨?_, Or.inr ⟨n, hn, Nvs.set_self ..⟩, hholds⟩
      unfold CountInRange
      rw [Nvs.set_ne _ _ _ _ _ (by decide)]
      exact h.channel_count

theorem sSettings_key_mem : ∀ e ∈ sSettings, e.key ∈ settingKeys := by decide

/-- Any setting that `apply_setting` accepts leaves NVS well stored. -/
theorem WellStored.applySetting {writeOk : Bool} {nvs nvs' : Nvs.Store RelayUnit}
    {key : CStr} {val : Json} {out out' : SettingUpdateMsg} (h : WellStored nvs book)
    (happly : Settings.applySetting writeOk nvs (some key) (some val) out =
      (.ok, out', nvs')) : WellStored nvs' book := by
  by_cases hcount : ∃ type, key = countKey type
  · obtain ⟨type, rfl⟩ := hcount
    obtain ⟨n, hn, rfl⟩ := applySetting_countKey happly
    exact h.setCount hn
  · obtain ⟨e, value, he, _, _, rfl⟩ := applySetting_eq_ok happly
    obtain ⟨hmem, hkey⟩ := findSetting_eq_some he
    have hsetting : key ∈ settingKeys := hkey ▸ sSettings_key_mem e hmem
    have hchannels : sKeyChannelCount ≠ key := fun heq => hcount ⟨.actuator, heq.symm⟩
    have hsensors : sKeyContactSensorsCount ≠ key := fun heq => hcount ⟨.sensor, heq.symm⟩
    refine ⟨?_, ?_, h.holds.set_other (settingKey_ne hsetting) value⟩
    · unfold CountInRange
      rw [Nvs.set_ne _ _ _ _ _ hchannels]
      exact h.channel_count
    · unfold CountInRange
      rw [Nvs.set_ne _ _ _ _ _ hsensors]
      exact h.sensors_count

/-- The count of a board on which none is stored. -/
def countDefault : RelayType → Nat
  | .actuator => sDefaultChannelCount
  | .sensor => sDefaultContactSensorsCount

theorem countsOf_eq (nvs : Nvs.Store RelayUnit) (type : RelayType) :
    countsOf nvs type = uint16OrDefault nvs (countKey type) (countDefault type) := by
  cases type <;> rfl

/-- Storing a record leaves the counts. -/
theorem countsOf_setRecord (nvs : Nvs.Store RelayUnit) (type : RelayType) (c : Nat)
    (value : Nvs.Value RelayUnit) :
    countsOf (Nvs.set nvs sNamespace (unitKey type c) value) = countsOf nvs := by
  funext type'
  rw [countsOf_eq, countsOf_eq]
  unfold uint16OrDefault Nvs.readUint16
  rw [Nvs.set_ne _ _ _ _ _ (settingKey_ne (countKey_mem type') type c)]

/-- The counts after one has been stored. -/
theorem countsOf_setCount (nvs : Nvs.Store RelayUnit) (type : RelayType) (n : Nat) :
    countsOf (Nvs.set nvs sNamespace (countKey type) (.u16 n)) =
      Function.update (countsOf nvs) type n := by
  funext type'
  by_cases htype : type' = type
  · subst htype
    rw [Function.update_self, countsOf_eq]
    unfold uint16OrDefault Nvs.readUint16
    rw [Nvs.set_self]
  · have hkey : countKey type' ≠ countKey type := by
      revert htype
      cases type <;> cases type' <;> decide
    rw [Function.update_of_ne htype, countsOf_eq, countsOf_eq]
    unfold uint16OrDefault Nvs.readUint16
    rw [Nvs.set_ne _ _ _ _ _ hkey]

/-! ### Updates -/

/-- Replacing a unit of the table with its record. -/
theorem Book.active_replace (book : Book) (counts : Counts) {type : RelayType} {c : Nat}
    {relay : RelayUnit} (hrec : IsRecord type c relay) (hc : c < counts type)
    (hcomplete : ∀ type, counts type ≤ (book type).records.length) :
    (book.replace type c relay hrec).active counts .actuator ++
        (book.replace type c relay hrec).active counts .sensor =
      (book.active counts .actuator ++ book.active counts .sensor).set
        (tableIndex counts type c) relay := by
  have hlen := Book.length_active hcomplete .actuator
  cases type with
  | actuator =>
      show _ = List.set _ c relay
      rw [List.set_append_left _ _ (by omega)]
      unfold Book.active
      rw [Book.replace_self, Book.replace_ne _ _ _ _ (by decide), Shelf.replace_records,
        List.take_set]
  | sensor =>
      show _ = List.set _ (counts .actuator + c) relay
      rw [List.set_append_right _ _ (by omega), hlen, Nat.add_sub_cancel_left]
      unfold Book.active
      rw [Book.replace_self, Book.replace_ne _ _ _ _ (by decide), Shelf.replace_records,
        List.take_set]

/-- A write under a unit's key leaves the counts. -/
theorem WellStored.replace {nvs : Nvs.Store RelayUnit} (h : WellStored nvs book)
    {type : RelayType} {c : Nat} (hc : c < (book type).records.length) {relay : RelayUnit}
    (hrec : IsRecord type c relay) :
    WellStored (Nvs.set nvs sNamespace (unitKey type c) (.blob relay))
      (book.replace type c relay hrec) := by
  refine ⟨?_, ?_, h.holds.replace hc hrec⟩
  · unfold CountInRange
    rw [Nvs.set_ne _ _ _ _ _ (settingKey_ne (by decide) type c)]
    exact h.channel_count
  · unfold CountInRange
    rw [Nvs.set_ne _ _ _ _ _ (settingKey_ne (by decide) type c)]
    exact h.sensors_count

/-- A unit of the table is replaced by one of the same type and channel, and the new
    one saved under its key: one record of the book is replaced. -/
structure Replaced (b b' : Board) (i : Nat) (relay relay' : RelayUnit) : Prop where
  found : b.sUnits[i]? = some relay
  type : relay'.type = relay.type
  channel : relay'.channel = relay.channel
  units : b'.sUnits = b.sUnits.set i relay'
  saved : ∃ key, getUnitNvsKey relay = some key ∧
    b'.nvs = Nvs.set b.nvs sNamespace key (.blob (storedCopy relay'))
  units_in_memory : b'.unitsInMemory = b.unitsInMemory
  relays_count : b'.sRelaysCount = b.sRelaysCount
  sensors_count : b'.sSensorsCount = b.sSensorsCount

theorem Booted.replaced (h : Booted b counts book) {i : Nat} {relay relay' : RelayUnit}
    (hrep : Replaced b b' i relay relay') :
    ∃ type c, ∃ hrec : IsRecord type c (storedCopy relay'),
      c < counts type ∧ i = tableIndex counts type c ∧
      (book type).records[c]? = some (storedCopy relay) ∧
      b'.nvs = Nvs.set b.nvs sNamespace (unitKey type c) (.blob (storedCopy relay')) ∧
      Booted b' counts (book.replace type c (storedCopy relay') hrec) := by
  obtain ⟨type, c, hc, hi, hrecord⟩ := h.unit hrep.found
  have hold := (book type).isRecord c _ hrecord
  have hlim := Nat.lt_trans hc (h.counts_lt type)
  have hrec : IsRecord type c (storedCopy relay') :=
    ⟨hrep.type.trans hold.type_eq, hrep.channel.trans hold.channel_eq, rfl⟩
  obtain ⟨key, hkey, hsaved⟩ := hrep.saved
  -- the key the record lies under is that of its place
  have hkeyEq : key = unitKey type c :=
    Option.some.inj (hkey.symm.trans (getUnitNvsKey_of_isRecord hold hlim))
  rw [hkeyEq] at hsaved
  refine ⟨type, c, hrec, hc, hi, hrecord, hsaved, ?_⟩
  refine ⟨hrep.units_in_memory.trans h.in_memory, ?_, h.counts_lt, ?_, ?_,
    hrep.relays_count.trans h.relays_count, hrep.sensors_count.trans h.sensors_count⟩
  · rw [hsaved]
    exact h.holds.replace (Nat.lt_of_lt_of_le hc (h.complete type)) hrec
  · -- no record is lost
    intro type'
    by_cases htype : type' = type
    · subst htype
      rw [Book.replace_self, Shelf.replace_records, List.length_set]
      exact h.complete type'
    · rw [Book.replace_ne _ _ _ _ htype]
      exact h.complete type'
  · rw [hrep.units, List.map_set, h.units, hi,
      book.active_replace counts hrec hc h.complete]

/-- A board whose NVS is well stored with safe pins keeps it so when a unit is replaced
    by one on a safe pin. -/
theorem Booted.replaced_wellStored (h : Booted b counts book) (hstored : WellStored b.nvs book)
    (hsafe : book.Safe) {i : Nat} {relay relay' : RelayUnit}
    (hrep : Replaced b b' i relay relay') (hpin : relay'.gpioPin ∈ safeGpioPins) :
    ∃ book', Booted b' counts book' ∧ WellStored b'.nvs book' ∧ book'.Safe ∧
      countsOf b'.nvs = countsOf b.nvs := by
  obtain ⟨type, c, hrec, hc, _, _, hsaved, hbooted⟩ := h.replaced hrep
  refine ⟨_, hbooted, ?_, hsafe.replace hrec hpin, ?_⟩
  · rw [hsaved]
    exact hstored.replace (Nat.lt_of_lt_of_le hc (h.complete type)) hrec
  · rw [hsaved, countsOf_setRecord]

/-- The pins of the table are safe. -/
theorem Booted.safe (h : Booted b counts book) (hsafe : book.Safe) {i : Nat}
    {relay : RelayUnit} (hget : b.sUnits[i]? = some relay) : relay.gpioPin ∈ safeGpioPins := by
  obtain ⟨type, c, _, _, hrecord⟩ := h.unit hget
  exact hsafe type (storedCopy relay) (List.mem_of_getElem? hrecord)

end Boot

namespace Web

/-- A successful update request replaces one unit. -/
theorem Updated.replaced {b b' : Board} {req : Request} {u : UnitUpdate} {i : Nat}
    {relay relay' : RelayUnit} (h : Updated b req b' u i relay relay') :
    Boot.Replaced b b' i relay relay' :=
  ⟨(resolveUpdate_eq_ok h.resolved).2.2, h.assigned.type, h.assigned.channel, h.units,
    ⟨u.relayKey, h.key, h.saved⟩, h.units_in_memory, h.relays_count, h.sensors_count⟩

/-- It assigns a safe pin or keeps the old one. -/
theorem Updated.gpioPin_mem {b b' : Board} {req : Request} {u : UnitUpdate} {i : Nat}
    {relay relay' : RelayUnit} (h : Updated b req b' u i relay relay')
    (hsafe : relay.gpioPin ∈ safeGpioPins) : relay'.gpioPin ∈ safeGpioPins := by
  have hpin : relay'.gpioPin = u.relayGpioPin.getD relay.gpioPin := h.assigned.gpio_pin
  rw [hpin]
  cases hreq : u.relayGpioPin with
  | none => exact hsafe
  | some pin => exact isGpioSafe_iff.mp (h.safe pin hreq)

end Web

namespace Boot

variable {b b' : Board} {counts : Counts} {book : Book}

/-! ### Sensor Interrupts -/

theorem relaySensorRegisterIsr_ok {relay : RelayUnit}
    (h : relaySensorRegisterIsr b relay = (.ok, b')) :
    relay.type = .sensor ∧ OnlyPins [] b b' := by
  obtain ⟨_, htype, rfl⟩ := relaySensorRegisterIsr_eq_ok h
  exact ⟨htype, ⟨_, rfl⟩, fun p _ => ⟨rfl, rfl⟩⟩

/-- Changing only the pins leaves a booted board booted. -/
theorem Booted.onlyGpio (h : Booted b counts book) (hgpio : OnlyGpio b b') :
    Booted b' counts book := by
  obtain ⟨gpio, rfl⟩ := hgpio
  exact ⟨h.in_memory, h.holds, h.counts_lt, h.complete, h.units, h.relays_count,
    h.sensors_count⟩

/-- Writing settings leaves a booted board booted. -/
theorem Booted.withNvs (h : Booted b counts book) {nvs : Nvs.Store RelayUnit}
    (hholds : Holds nvs book) : Booted { b with nvs := nvs } counts book :=
  ⟨h.in_memory, hholds, h.counts_lt, h.complete, h.units, h.relays_count, h.sensors_count⟩

/-- A refreshed sensor is saved, so the refresh replaces one unit. -/
theorem sensorStateRefresh_replaced (env : Env) (hwrite : ∀ key, env.nvsWrite key = true)
    (h : Booted b counts book) {i : Nat} {relay : RelayUnit}
    (hget : b.sUnits[i]? = some relay) (htype : relay.type = .sensor) :
    Replaced b ((sensorStateRefresh env b relay).2.setUnit i
      (sensorStateRefresh env b relay).1) i relay (sensorStateRefresh env b relay).1 := by
  obtain ⟨type, c, hc, _, hrecord⟩ := h.unit hget
  have hrec := (book type).isRecord c _ hrecord
  have hkey := getUnitNvsKey_of_isRecord hrec (Nat.lt_trans hc (h.counts_lt type))
  have hsensor : getContactSensorNvsKey relay.channel = some (unitKey type c) := by
    unfold getUnitNvsKey at hkey
    rw [htype] at hkey
    exact hkey
  -- the save cannot fail and uses the key of the unit
  unfold sensorStateRefresh
  dsimp only
  rw [hsensor, saveRelayToNvs_some, hwrite]
  exact ⟨hget, rfl, rfl, rfl, ⟨_, hkey, rfl⟩, rfl, rfl, rfl⟩

/-- A refresh reads a pin and writes a record. -/
theorem sensorStateRefresh_gpio (env : Env) (b : Board) (relay : RelayUnit) :
    (sensorStateRefresh env b relay).2.gpio = b.gpio :=
  saveRelayToNvs_gpio rfl

/-- A unit without its state. -/
def stateless (relay : RelayUnit) : RelayUnit := { relay with state := .off }

/-- Books that differ in the states of sensors only. -/
structure Refreshed (book book' : Book) : Prop where
  actuators : book' .actuator = book .actuator
  sensors : (book' .sensor).records.map stateless = (book .sensor).records.map stateless

theorem Refreshed.refl (book : Book) : Refreshed book book := ⟨rfl, rfl⟩

theorem Refreshed.trans {book book' book'' : Book} (h : Refreshed book book')
    (h' : Refreshed book' book'') : Refreshed book book'' :=
  ⟨h'.actuators.trans h.actuators, h'.sensors.trans h.sensors⟩

theorem map_gpioPin_stateless (units : List RelayUnit) :
    (units.map stateless).map RelayUnit.gpioPin = units.map RelayUnit.gpioPin := by
  rw [List.map_map]
  rfl

/-- Refreshing moves no unit to another pin. -/
theorem Refreshed.activePins {book book' : Book} (h : Refreshed book book')
    (counts : Counts) : book'.activePins counts = book.activePins counts := by
  have hsensors := congrArg (List.take (counts .sensor)) h.sensors
  rw [← List.map_take, ← List.map_take] at hsensors
  -- the pins of the sensors can be read off without the states
  unfold Book.activePins Book.active
  rw [h.actuators, List.map_append, List.map_append,
    ← map_gpioPin_stateless ((book' .sensor).records.take _), hsensors, map_gpioPin_stateless]

theorem Refreshed.safe {book book' : Book} (h : Refreshed book book') (hsafe : book.Safe) :
    book'.Safe := by
  have hpins : ∀ type, (book' type).records.map RelayUnit.gpioPin =
      (book type).records.map RelayUnit.gpioPin := by
    intro type
    cases type with
    | actuator => rw [h.actuators]
    | sensor => rw [← map_gpioPin_stateless, h.sensors, map_gpioPin_stateless]
  intro type relay hmem
  have hpin : relay.gpioPin ∈ (book type).records.map RelayUnit.gpioPin := by
    rw [← hpins type]
    exact List.mem_map_of_mem hmem
  obtain ⟨other, hother, heq⟩ := List.mem_map.mp hpin
  rw [← heq]
  exact hsafe type other hother

/-- Setting a record to one with another state. -/
theorem refreshed_replace {book : Book} {c : Nat} {relay relay' : RelayUnit}
    (hrec : IsRecord .sensor c relay') (hget : (book .sensor).records[c]? = some relay)
    (hsame : stateless relay' = stateless relay) :
    Refreshed book (book.replace .sensor c relay' hrec) := by
  refine ⟨Book.replace_ne _ _ _ _ (by decide), ?_⟩
  rw [Book.replace_self, Shelf.replace_records, List.map_set, hsame]
  apply List.ext_getElem?
  intro k
  -- at the record itself the states are all that differs
  by_cases hk : c = k
  · subst hk
    have hlt := (List.getElem?_eq_some_iff.mp hget).1
    rw [List.getElem?_set_self (by simpa using hlt), List.getElem?_map, hget]
    rfl
  · rw [List.getElem?_set_ne hk]

/-- Changing the levels and handlers of pins that are kept changes nothing else. -/
theorem Loaded.onlyPins {env : Env} (h : Loaded env counts book b)
    (honly : OnlyPins [] b b') : Loaded env counts book b' := by
  have hdriven := h.driven.onlyPins (honly.mono (List.nil_subset _))
  obtain ⟨⟨gpio, rfl⟩, _⟩ := honly
  exact ⟨h.booted.onlyGpio ⟨gpio, rfl⟩, h.stored, h.counts_eq, hdriven, h.idle⟩

/-- One sensor is refreshed. -/
theorem Loaded.refresh {env : Env} (hwrite : ∀ key, env.nvsWrite key = true)
    (h : Loaded env counts book b) {i : Nat} {relay : RelayUnit}
    (hget : b.sUnits[i]? = some relay) (htype : relay.type = .sensor) :
    ∃ book', Refreshed book book' ∧
      Loaded env counts book' ((sensorStateRefresh env b relay).2.setUnit i
        (sensorStateRefresh env b relay).1) := by
  have hrep := sensorStateRefresh_replaced env hwrite h.booted hget htype
  obtain ⟨type, c, hrec, hc, hi, hrecord, hnvs, hbooted⟩ := h.booted.replaced hrep
  have hsensor : type = .sensor := by
    rw [← ((book type).isRecord c _ hrecord).type_eq]
    exact htype
  subst hsensor
  have hrefreshed := refreshed_replace hrec hrecord rfl
  refine ⟨_, hrefreshed, hbooted, ?_, ?_, ?_, ?_⟩
  · rw [hnvs]
    exact h.stored.replace (Nat.lt_of_lt_of_le hc (h.booted.complete .sensor)) hrec
  · rw [hnvs, countsOf_setRecord]
    exact h.counts_eq
  · -- saving moves no pin, and the actuators' records are the same
    have hgpio : ((sensorStateRefresh env b relay).2.setUnit i
        (sensorStateRefresh env b relay).1).gpio = b.gpio :=
      sensorStateRefresh_gpio env b relay
    intro hdriver hsep j other hj hother hbound
    rw [hgpio]
    unfold Book.Separate at hsep
    rw [hrefreshed.activePins] at hsep
    rw [hrefreshed.actuators] at hother
    exact h.driven hdriver hsep j other hj hother hbound
  · intro other hmem hact
    rw [hrep.units] at hmem
    rcases List.mem_or_eq_of_mem_set hmem with hold | rfl
    · exact h.idle other hold hact
    · exact absurd (htype.symm.trans hact) (by decide)

/-- Registering the sensors changes states of sensors only. -/
theorem Loaded.registerSensors {env : Env} (hwrite : ∀ key, env.nvsWrite key = true)
    (count i : Nat) (h : Loaded env counts book b) :
    ∃ book', Refreshed book book' ∧
      Loaded env counts book' (Boot.registerSensors env count i b) := by
  induction count generalizing i b book with
  | zero => exact ⟨book, Refreshed.refl book, h⟩
  | succ count ih =>
      unfold Boot.registerSensors
      split
      · exact ⟨book, Refreshed.refl book, h⟩
      · next relay hget =>
          split
          · next b₁ hreg =>
              obtain ⟨htype, honly⟩ := relaySensorRegisterIsr_ok hreg
              have hget₁ : b₁.sUnits[i]? = some relay := by
                rw [honly.onlyGpio.sameTable.units]
                exact hget
              obtain ⟨book₁, hrefreshed, h₁⟩ := (h.onlyPins honly).refresh hwrite hget₁ htype
              obtain ⟨book', hrefreshed', h'⟩ := ih (i + 1) h₁
              exact ⟨book', hrefreshed.trans hrefreshed', h'⟩
          · next b₁ hne hreg =>
              rw [relaySensorRegisterIsr_error hreg hne]
              exact ih (i + 1) h

/-! ### The Whole Boot -/

/-- A boot during which all writes succeed completes, with the counts it found and the
    provisioned book, up to the states of the sensors. -/
theorem appMain_loaded (env : Env) (hwrite : ∀ key, env.nvsWrite key = true)
    (newDeviceId newDeviceSerial : CStr) {nvs : Nvs.Store RelayUnit} (gpio : Gpio.State)
    (hstored : WellStored nvs book) :
    ∃ b' book', appMain env newDeviceId newDeviceSerial nvs gpio = some b' ∧
      Refreshed (book.provision (countsOf nvs)) book' ∧
      Loaded env (countsOf nvs) book' b' := by
  obtain ⟨hsome, hspec⟩ := loadUnits_spec (b := Board.reset nvs gpio) env newDeviceId
    newDeviceSerial rfl rfl hstored
  obtain ⟨b₁, hload⟩ := hsome hwrite
  obtain ⟨book', hrefreshed, hloaded⟩ := (hspec b₁ hload).registerSensors hwrite
    b₁.sSensorsCount b₁.sRelaysCount
  refine ⟨_, book', ?_, hrefreshed, hloaded⟩
  unfold appMain
  rw [hload]
  rfl

end Boot
