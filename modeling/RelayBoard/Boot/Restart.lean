import RelayBoard.Boot.Lookup
import RelayBoard.Boot.WellFormed

/-! # Restarting

  `app_main` on records with gaps between them. A boot always gets to an end; when it is
  interrupted, what it leaves can be booted again; when its writes succeed and every
  channel has a key, it ends with a complete table of units on safe pins.
-/

open CString Relay Settings

namespace Boot

variable {env : Env} {nvs nvs' : Nvs.Store RelayUnit} {b b' : Board} {counts : Counts}

/-! ### Loops -/

/-- A loop returns, and succeeds if it can write and its channels have keys. -/
theorem forChannels_ends (env : Env) (h : Provisioning b counts) (type : RelayType)
    {channels : List Nat} (hchannels : ∀ i ∈ channels, i < counts type) :
    ∃ err b', forChannels (initUnit env type) channels b = some (err, b') ∧
      Provisioning b' counts ∧ (WellFormed b.nvs → WellFormed b'.nvs) ∧
      (WritesSucceed env → (∀ type, counts type ≤ channelLimit type) → err = .ok) := by
  induction channels generalizing b with
  | nil => exact ⟨.ok, b, rfl, h, id, fun _ _ => rfl⟩
  | cons i channels ih =>
      rcases Nat.lt_or_ge i (channelLimit type) with hi | hi
      · have hturn : Ends env counts type i b (initUnit env type b i) := by
          cases type with
          | actuator => exact initActuator_ends env h hi
          | sensor => exact initSensor_ends env h hi
        obtain ⟨err, b₁, hrun, h₁, hstores, hok⟩ := hturn
        unfold forChannels
        rw [hrun]
        by_cases herr : err = .ok
        · subst herr
          obtain ⟨err', b₂, hrest, h₂, hwell, hok'⟩ :=
            ih h₁ fun j hj => hchannels j (List.mem_cons_of_mem _ hj)
          exact ⟨err', b₂, hrest, h₂, fun hb => hwell (hstores.wellFormed hb), hok'⟩
        · refine ⟨err, b₁, ?_, h₁, hstores.wellFormed, fun hwrite hfit =>
            absurd (hok hwrite hfit) herr⟩
          cases err <;> first | exact absurd rfl herr | rfl
      · -- the channel has no key, so there are too many of them
        unfold forChannels
        rw [initUnit_keyless env b hi]
        refine ⟨.fail, b, rfl, h, id, fun _ hfit => ?_⟩
        have hlt := hchannels i List.mem_cons_self
        exact absurd (hfit type) (by omega)

/-- Both loops after each other. -/
theorem forChannels_both (env : Env) (h : Provisioning b counts) :
    ∃ err b',
      (match forChannels (initActuator env) (List.range (counts .actuator)) b with
        | none => none
        | some (.ok, b) => forChannels (initSensor env) (List.range (counts .sensor)) b
        | some (err, b) => some (err, b)) = some (err, b') ∧
      Provisioning b' counts ∧ (WellFormed b.nvs → WellFormed b'.nvs) ∧
      (WritesSucceed env → (∀ type, counts type ≤ channelLimit type) → err = .ok) := by
  obtain ⟨err, b₁, hact, h₁, hwell, hok⟩ := forChannels_ends env h .actuator
    (fun i (hi : i ∈ List.range (counts .actuator)) => List.mem_range.mp hi)
  have hact' : forChannels (initActuator env) (List.range (counts .actuator)) b =
      some (err, b₁) := hact
  rw [hact']
  by_cases herr : err = .ok
  · subst herr
    obtain ⟨err', b₂, hsens, h₂, hwell', hok'⟩ := forChannels_ends env h₁ .sensor
      (fun i (hi : i ∈ List.range (counts .sensor)) => List.mem_range.mp hi)
    exact ⟨err', b₂, hsens, h₂, fun hb => hwell' (hwell hb), hok'⟩
  · refine ⟨err, b₁, ?_, h₁, hwell, fun hwrite hfit => absurd (hok hwrite hfit) herr⟩
    cases err <;> first | exact absurd rfl herr | rfl

/-! ### `settings_init` -/

/-- The blocks of `base_settings_init` leave the counts. -/
theorem countsOf_baseSettingsInit (nvsWrite : CStr → Bool) (newDeviceId newDeviceSerial : CStr)
    (nvs : Nvs.Store RelayUnit) :
    countsOf (baseSettingsInit nvsWrite newDeviceId newDeviceSerial nvs).2 = countsOf nvs := by
  obtain ⟨hchannels, hsensors⟩ := counts_not_mem_baseParameters newDeviceId newDeviceSerial
  have hkept : ∀ key, key ∉ (baseParameters newDeviceId newDeviceSerial :
      List (CStr × Nvs.Value RelayUnit)).map Prod.fst →
      (baseSettingsInit nvsWrite newDeviceId newDeviceSerial nvs).2 sNamespace key =
        nvs sNamespace key :=
    fun key hkey => initParameters_of_not_mem nvsWrite nvs fun p hp heq =>
      hkey (heq ▸ List.mem_map_of_mem hp)
  funext type
  cases type with
  | actuator => simp only [countsOf, uint16OrDefault, Nvs.readUint16, hkept _ hchannels]
  | sensor => simp only [countsOf, uint16OrDefault, Nvs.readUint16, hkept _ hsensors]

/-- What a number would be read as depends on the value under its key. -/
theorem uint16OrDefault_congr {key : CStr} (h : nvs' sNamespace key = nvs sNamespace key)
    (default : Nat) : uint16OrDefault nvs' key default = uint16OrDefault nvs key default := by
  unfold uint16OrDefault Nvs.readUint16
  rw [h]

/-- A block replaces what cannot be read by what would be taken for it. -/
theorem uint16OrDefault_initParameter (nvsWrite : CStr → Bool) (nvs : Nvs.Store RelayUnit)
    (key : CStr) (default : Nat) :
    uint16OrDefault (initParameter nvsWrite nvs key (.u16 default)).2 key default =
      uint16OrDefault nvs key default := by
  unfold initParameter
  cases hread : Nvs.readUint16 nvs sNamespace key with
  | ok n =>
      have hpresent : isPresent nvs key (.u16 default : Nvs.Value RelayUnit) = true := by
        unfold isPresent
        rw [hread]
        rfl
      rw [if_pos hpresent]
  | error err =>
      have habsent : ¬ isPresent nvs key (.u16 default : Nvs.Value RelayUnit) = true := by
        unfold isPresent
        rw [hread]
        exact Bool.false_ne_true
      have hdefault : uint16OrDefault nvs key default = default := by
        unfold uint16OrDefault
        rw [hread]
      rw [if_neg habsent]
      split
      · rw [hdefault]
        unfold uint16OrDefault Nvs.readUint16
        dsimp only
        rw [Nvs.set_self]
      · rfl

/-- What a number would be read as stays the same, however far the blocks get. -/
theorem uint16OrDefault_initParameters (nvsWrite : CStr → Bool) {key : CStr} {default : Nat}
    {parameters : List (CStr × Nvs.Value RelayUnit)}
    (hnodup : (parameters.map Prod.fst).Nodup) (hmem : (key, .u16 default) ∈ parameters)
    (nvs : Nvs.Store RelayUnit) :
    uint16OrDefault (Settings.initParameters nvsWrite parameters nvs).2 key default =
      uint16OrDefault nvs key default := by
  induction parameters generalizing nvs with
  | nil => exact absurd hmem List.not_mem_nil
  | cons p parameters ih =>
      rw [List.map_cons, List.nodup_cons] at hnodup
      rcases List.mem_cons.mp hmem with rfl | hmem
      · -- the later blocks have other keys
        have hstep := uint16OrDefault_initParameter nvsWrite nvs key default
        have hother : ∀ q ∈ parameters, q.1 ≠ key := by
          intro q hq heq
          have hq' := List.mem_map_of_mem (f := Prod.fst) hq
          exact hnodup.1 (heq ▸ hq')
        unfold Settings.initParameters
        split
        · next nvs₁ hinit =>
            rw [hinit] at hstep
            exact (uint16OrDefault_congr (initParameters_of_not_mem nvsWrite nvs₁ hother)
              default).trans hstep
        · next hinit =>
            rw [hinit] at hstep
            exact hstep
      · have hne : key ≠ p.1 := by
          intro heq
          have hmem' := List.mem_map_of_mem (f := Prod.fst) hmem
          exact hnodup.1 (heq ▸ hmem')
        have hstep := uint16OrDefault_congr (initParameter_of_ne nvsWrite nvs p.2 hne) default
        unfold Settings.initParameters
        split
        · next nvs₁ hinit =>
            rw [hinit] at hstep
            exact (ih hnodup.2 hmem nvs₁).trans hstep
        · next hinit =>
            rw [hinit] at hstep
            exact hstep

/-- The blocks of `device_settings_init` leave the counts. -/
theorem countsOf_deviceParameters (nvsWrite : CStr → Bool) (nvs : Nvs.Store RelayUnit) :
    countsOf (Settings.initParameters nvsWrite deviceParameters nvs).2 = countsOf nvs := by
  funext type
  cases type with
  | actuator =>
      exact uint16OrDefault_initParameters nvsWrite deviceParameters_keys_nodup
        (by simp [deviceParameters]) nvs
  | sensor =>
      exact uint16OrDefault_initParameters nvsWrite deviceParameters_keys_nodup
        (by simp [deviceParameters]) nvs

/-- The loops read the counts that they go by. -/
theorem Provisioning.countsOf_eq (h : Provisioning b counts) : countsOf b.nvs = counts := by
  funext type
  cases type with
  | actuator => rw [countsOf, uint16OrDefault, h.channel_count]
  | sensor => rw [countsOf, uint16OrDefault, h.sensors_count]

/-- After its blocks have succeeded `device_settings_init` can start its loops. -/
theorem provisioning_of_initParameters {nvsWrite : CStr → Bool}
    (hmem : b.unitsInMemory = false) (hready : b.isMqttReady = false)
    (hmode : ∃ mode, Nvs.readUint16 b.nvs sNamespace sKeyMqttConnect = .ok mode)
    (hinit : Settings.initParameters nvsWrite deviceParameters b.nvs = (.ok, nvs)) :
    Provisioning { b with nvs := nvs } (countsOf b.nvs) := by
  have hread : ∀ {key : CStr} {default : Nat}, (key, .u16 default) ∈ deviceParameters →
      Nvs.readUint16 nvs sNamespace key = .ok (uint16OrDefault b.nvs key default) :=
    fun hp => readUint16_initParameters deviceParameters_keys_nodup hp hinit
  refine ⟨hmem, hready, ?_, hread ?_, hread ?_⟩
  · obtain ⟨mode, hmode⟩ := hmode
    have hother : ∀ p ∈ deviceParameters, p.1 ≠ sKeyMqttConnect := fun p hp heq =>
      mqttConnect_not_mem_deviceParameters (heq ▸ List.mem_map_of_mem hp)
    have hframe := initParameters_of_not_mem nvsWrite b.nvs hother
    rw [hinit] at hframe
    exact ⟨mode, Nvs.readUint16_eq_ok_iff.mpr
      (hframe.trans (Nvs.readUint16_eq_ok_iff.mp hmode))⟩
  · simp [deviceParameters]
  · simp [deviceParameters]

/-- How `settings_init` ends on a board that has been reset. -/
structure Initialises (env : Env) (nvs : Nvs.Store RelayUnit) (err : EspErr) (b' : Board) :
    Prop where
  wellFormed : WellFormed nvs → WellFormed b'.nvs
  counts : countsOf b'.nvs = countsOf nvs
  succeeds : WritesSucceed env → CountsFit nvs → err = .ok
  done : err = .ok → Provisioning b' (countsOf nvs)

theorem deviceSettingsInit_restart (env : Env) (hmem : b.unitsInMemory = false)
    (hready : b.isMqttReady = false)
    (hmode : ∃ mode, Nvs.readUint16 b.nvs sNamespace sKeyMqttConnect = .ok mode) :
    ∃ err b', deviceSettingsInit env b = some (err, b') ∧ Initialises env b.nvs err b' := by
  have hkept := fun h : WellFormed b.nvs => h.initParameters env.nvsWrite deviceParameters_keys
  have hcounts := countsOf_deviceParameters env.nvsWrite b.nvs
  unfold deviceSettingsInit
  dsimp only
  split
  · next nvs hinit =>
      rw [hinit] at hkept
      obtain ⟨err, b', hrun, h', hwell, hok⟩ :=
        forChannels_both env (provisioning_of_initParameters hmem hready hmode hinit)
      exact ⟨err, b', hrun, fun h => hwell (hkept h), h'.countsOf_eq,
        fun hwrite hfit => hok hwrite hfit, fun _ => h'⟩
  · next err nvs hne hinit =>
      rw [hinit] at hkept hcounts
      refine ⟨err, _, rfl, hkept, hcounts, fun hwrite _ => ?_, fun herr => absurd herr hne⟩
      obtain ⟨nvs', hok⟩ := initParameters_ok hwrite deviceParameters b.nvs
      exact congrArg Prod.fst (hinit.symm.trans hok)

/-- `settings_init` gets to an end; it succeeds if it can write and the counts fit. -/
theorem settingsInit_restart (env : Env) (newDeviceId newDeviceSerial : CStr)
    (hmem : b.unitsInMemory = false) (hready : b.isMqttReady = false) :
    ∃ err b', settingsInit env newDeviceId newDeviceSerial b = some (err, b') ∧
      Initialises env b.nvs err b' := by
  have hkept := fun h : WellFormed b.nvs =>
    h.initParameters env.nvsWrite (baseParameters_keys newDeviceId newDeviceSerial)
  have hcounts := countsOf_baseSettingsInit env.nvsWrite newDeviceId newDeviceSerial b.nvs
  unfold settingsInit
  unfold baseSettingsInit at hcounts ⊢
  split
  · next nvs hbase =>
      rw [hbase] at hkept hcounts
      have hmode : (sKeyMqttConnect, Nvs.Value.u16 sDefaultMqttConnect) ∈
          (baseParameters newDeviceId newDeviceSerial : List (CStr × Nvs.Value RelayUnit)) := by
        simp [baseParameters]
      obtain ⟨err, b', hdevice, hinit⟩ := deviceSettingsInit_restart
        (b := { b with nvs := nvs }) env hmem hready
        ⟨_, readUint16_initParameters (baseParameters_keys_nodup _ _) hmode hbase⟩
      rw [hdevice]
      dsimp only at hcounts
      have hfit : CountsFit b.nvs → CountsFit nvs := fun h => by
        unfold CountsFit
        rw [hcounts]
        exact h
      have hdone := hinit.done
      dsimp only at hdone
      rw [hcounts] at hdone
      by_cases herr : err = .ok
      · subst herr
        exact ⟨.ok, b', rfl, fun h => hinit.wellFormed (hkept h), hinit.counts.trans hcounts,
          fun _ _ => rfl, hdone⟩
      · refine ⟨.fail, b', ?_, fun h => hinit.wellFormed (hkept h), hinit.counts.trans hcounts,
          fun hwrite h => absurd (hinit.succeeds hwrite (hfit h)) herr, fun h => by cases h⟩
        cases err <;> first | exact absurd rfl herr | rfl
  · next err nvs hne hbase =>
      rw [hbase] at hkept hcounts
      refine ⟨.fail, _, rfl, hkept, hcounts, fun hwrite _ => ?_, fun h => by cases h⟩
      obtain ⟨nvs', hok⟩ := initParameters_ok hwrite
        (baseParameters newDeviceId newDeviceSerial) b.nvs
      exact absurd (congrArg Prod.fst (hbase.symm.trans hok)) hne

/-- A `settings_init` that succeeds has found a key for every channel. -/
theorem countsFit_of_settingsInit {newDeviceId newDeviceSerial : CStr}
    (h : settingsInit env newDeviceId newDeviceSerial b = some (.ok, b')) :
    CountsFit b.nvs := by
  have hcounts := countsOf_baseSettingsInit env.nvsWrite newDeviceId newDeviceSerial b.nvs
  unfold settingsInit at h
  split at h
  · next nvs hbase =>
      rw [hbase] at hcounts
      split at h
      · cases h
      · next hdevice =>
          have hfit := (keysExist_of_deviceSettingsInit hdevice).counts_le
          dsimp only at hcounts hfit
          rw [hcounts] at hfit
          exact hfit
      · cases h
  · cases h

/-- It leaves a record for every channel. -/
theorem records_of_settingsInit {newDeviceId newDeviceSerial : CStr} (hwell : WellFormed b.nvs)
    (h : settingsInit env newDeviceId newDeviceSerial b = some (.ok, b')) :
    ∀ type, ∀ i < countsOf b.nvs type, unitRecord b'.nvs type i ≠ none := by
  have hkept :=
    hwell.initParameters env.nvsWrite (baseParameters_keys newDeviceId newDeviceSerial)
  have hcounts := countsOf_baseSettingsInit env.nvsWrite newDeviceId newDeviceSerial b.nvs
  unfold settingsInit at h
  unfold baseSettingsInit at h hcounts
  split at h
  · next nvs hbase =>
      rw [hbase] at hkept hcounts
      split at h
      · cases h
      · next hdevice =>
          cases h
          obtain ⟨_, _, _, hrecords⟩ := deviceSettingsInit_records hkept.typed hdevice
          dsimp only at hcounts hrecords
          rw [hcounts] at hrecords
          exact hrecords
      · cases h
  · cases h

/-! ### The Table -/

/-- A device at work: every configured unit is in memory, on a safe pin, and NVS can be
    booted from. -/
structure Serving (counts : Counts) (b : Board) : Prop where
  fit : ∀ type, counts type ≤ channelLimit type
  table : LoadedTable b (counts .actuator) (counts .sensor)
  pins : ∀ relay ∈ b.sUnits, relay.gpioPin ∈ safeGpioPins
  wellFormed : WellFormed b.nvs

/-- A change after which the device is at work with the same settings. -/
structure Keeps (counts : Counts) (b b' : Board) : Prop where
  serving : Serving counts b'
  settings : ∀ key ∈ settingKeys, b'.nvs sNamespace key = b.nvs sNamespace key

theorem Keeps.trans {b'' : Board} (h : Keeps counts b b') (h' : Keeps counts b' b'') :
    Keeps counts b b'' :=
  ⟨h'.serving, fun key hkey => (h'.settings key hkey).trans (h.settings key hkey)⟩

theorem Keeps.countsOf_eq (h : Keeps counts b b') : countsOf b'.nvs = countsOf b.nvs := by
  funext type
  rw [Boot.countsOf_eq, Boot.countsOf_eq]
  exact uint16OrDefault_congr (h.settings _ (countKey_mem type)) _

theorem Serving.keeps (h : Serving counts b) : Keeps counts b b := ⟨h, fun _ _ => rfl⟩

/-- Neither the table nor NVS has changed. -/
theorem Serving.same (h : Serving counts b) (htab : SameTable b b') (hnvs : b'.nvs = b.nvs) :
    Keeps counts b b' := by
  refine ⟨⟨h.fit, h.table.of_places htab.units_in_memory htab.relays_count htab.sensors_count
    (by rw [htab.units]), ?_, ?_⟩, fun _ _ => by rw [hnvs]⟩
  · rw [htab.units]
    exact h.pins
  · rw [hnvs]
    exact h.wellFormed

theorem Serving.onlyGpio (h : Serving counts b) (hgpio : OnlyGpio b b') : Keeps counts b b' :=
  h.same hgpio.sameTable hgpio.nvs

/-- A unit is replaced by one of its type and channel. -/
theorem Serving.setUnit (h : Serving counts b) {i : Nat} {relay relay' : RelayUnit}
    (hget : b.sUnits[i]? = some relay) (hplace : relay'.place = relay.place)
    (hpin : relay'.gpioPin ∈ safeGpioPins) : Keeps counts b (b.setUnit i relay') := by
  refine ⟨⟨h.fit, h.table.set hget hplace rfl rfl rfl rfl, ?_, h.wellFormed⟩, fun _ _ => rfl⟩
  intro other hmem
  rcases List.mem_or_eq_of_mem_set hmem with hold | rfl
  · exact h.pins other hold
  · exact hpin

/-- What a unit of the table would be stored as is its record. -/
theorem Serving.isRecord (h : Serving counts b) {i : Nat} {relay relay' : RelayUnit}
    (hget : b.sUnits[i]? = some relay) (hplace : relay'.place = relay.place) :
    ∃ type c, IsRecord type c (storedCopy relay') ∧
      getUnitNvsKey relay' = some (unitKey type c) := by
  have htype : relay'.type = relay.type := congrArg Prod.fst hplace
  have hchannel : relay'.channel = relay.channel := congrArg Prod.snd hplace
  rcases h.table.cases hget with ⟨hi, hact, hch⟩ | ⟨j, hj, _, hsens, hch⟩
  · exact ⟨.actuator, i, ⟨htype.trans hact, hchannel.trans hch, rfl⟩,
      getUnitNvsKey_of_lt (Nat.lt_of_lt_of_le hi (h.fit .actuator)) (htype.trans hact)
        (hchannel.trans hch)⟩
  · exact ⟨.sensor, j, ⟨htype.trans hsens, hchannel.trans hch, rfl⟩,
      getUnitNvsKey_of_lt (Nat.lt_of_lt_of_le hj (h.fit .sensor)) (htype.trans hsens)
        (hchannel.trans hch)⟩

/-- A unit of the table is saved under its key, or the write fails. -/
theorem Serving.save (h : Serving counts b) {i : Nat} {relay relay' : RelayUnit}
    (hget : b.sUnits[i]? = some relay) (hplace : relay'.place = relay.place)
    (hpin : relay'.gpioPin ∈ safeGpioPins) {key : CStr} (hkey : getUnitNvsKey relay' = some key)
    {err : EspErr} (hsave : saveRelayToNvs env b (some key) relay' = (err, b')) :
    Keeps counts b b' := by
  obtain ⟨type, c, hrecord, hkey'⟩ := h.isRecord hget hplace
  rw [hkey] at hkey'
  cases hkey'
  rcases saveRelayToNvs_cases hsave with ⟨_, _, rfl⟩ | ⟨_, _, rfl⟩
  · exact ⟨⟨h.fit, h.table.of_places rfl rfl rfl rfl, h.pins, h.wellFormed.setRecord hrecord hpin⟩,
      fun key hkey => Nvs.set_ne _ _ _ _ _ (settingKey_ne hkey type c)⟩
  · exact h.keeps

/-- With a record for every channel the table is complete. -/
theorem initRelayUnitsInMemory_serving (env : Env) (h : Provisioning b counts)
    (hwell : WellFormed b.nvs) (hfit : ∀ type, counts type ≤ channelLimit type)
    (hrecords : ∀ type, ∀ i < counts type, unitRecord b.nvs type i ≠ none) :
    ∃ b', initRelayUnitsInMemory env b = some (.ok, b') ∧ b'.nvs = b.nvs ∧ Serving counts b' := by
  have hstored : ∀ type, ∀ i < counts type,
      let relay := (unitRecord b.nvs type i).getD RelayUnit.zero
      b.nvs sNamespace (unitKey type i) = some (.blob relay) ∧ IsRecord type i relay ∧
        relay.gpioPin ∈ safeGpioPins := by
    intro type i hi
    obtain ⟨relay, hrelay⟩ := Option.ne_none_iff_exists'.mp (hrecords type i hi)
    rw [hrelay]
    exact hwell.record (Nat.lt_of_lt_of_le hi (hfit type)) hrelay
  have hholds : HoldsUnits b.nvs counts
      fun type i => (unitRecord b.nvs type i).getD RelayUnit.zero :=
    ⟨h.channel_count, h.sensors_count, fun type i hi => (hstored type i hi).1,
      fun type i hi => (hstored type i hi).2.1.type_eq,
      fun type i hi => (hstored type i hi).2.1.channel_eq⟩
  obtain ⟨b', hinit, hunits, htab⟩ := hholds.initRelayUnitsInMemory_ok env hfit h.in_memory
  have hnvs : b'.nvs = b.nvs := by
    unfold initRelayUnitsInMemory at hinit
    split at hinit
    · cases hinit
    · next hall =>
        have hnvs := getAllRelayUnits_nvs hall
        cases hinit
        exact hnvs
  refine ⟨b', hinit, hnvs, hfit, htab, ?_, hnvs ▸ hwell⟩
  intro relay hmem
  -- the pin of a unit is that of its record
  have hcopy : storedCopy relay ∈ b'.sUnits.map storedCopy := List.mem_map_of_mem hmem
  rw [hunits] at hcopy
  have hpin : ∀ type, storedCopy relay ∈ recordsOf counts
      (fun type i => (unitRecord b.nvs type i).getD RelayUnit.zero) type →
      relay.gpioPin ∈ safeGpioPins := by
    intro type hin
    obtain ⟨i, hi, heq⟩ := List.mem_map.mp hin
    have hsame : (storedCopy relay).gpioPin = _ := congrArg RelayUnit.gpioPin heq.symm
    have hsafe := (hstored type i (List.mem_range.mp hi)).2.2
    exact hsame ▸ hsafe
  rcases List.mem_append.mp hcopy with hin | hin
  · exact hpin .actuator hin
  · exact hpin .sensor hin

/-! ### Sensor Interrupts -/

/-- The level of a sensor is taken into its unit and its record. -/
theorem Serving.sensorStateRefresh (h : Serving counts b) (env : Env) {i : Nat}
    {relay : RelayUnit} (hget : b.sUnits[i]? = some relay) (htype : relay.type = .sensor) :
    Keeps counts b ((Boot.sensorStateRefresh env b relay).2.setUnit i
      (Boot.sensorStateRefresh env b relay).1) := by
  have hplace : (Boot.sensorStateRefresh env b relay).1.place = relay.place := rfl
  have hsafe : (Boot.sensorStateRefresh env b relay).1.gpioPin ∈ safeGpioPins :=
    h.pins relay (List.mem_of_getElem? hget)
  have hkey : getUnitNvsKey (Boot.sensorStateRefresh env b relay).1 =
      getContactSensorNvsKey relay.channel := by
    show getUnitNvsKey { relay with state := _ } = _
    unfold getUnitNvsKey
    rw [htype]
  obtain ⟨type, c, _, hown⟩ := h.isRecord hget hplace
  have hsensor : getContactSensorNvsKey relay.channel = some (unitKey type c) :=
    hkey.symm.trans hown
  -- the unit is saved under its own key
  have hsave : saveRelayToNvs env b (some (unitKey type c))
      (Boot.sensorStateRefresh env b relay).1 =
      ((saveRelayToNvs env b (some (unitKey type c)) (Boot.sensorStateRefresh env b relay).1).1,
        (Boot.sensorStateRefresh env b relay).2) := by
    unfold Boot.sensorStateRefresh
    dsimp only
    rw [hsensor]
  have hsaved : Keeps counts b (Boot.sensorStateRefresh env b relay).2 :=
    h.save hget hplace hsafe hown hsave
  have hunits : (Boot.sensorStateRefresh env b relay).2.sUnits = b.sUnits := by
    unfold Boot.sensorStateRefresh
    dsimp only
    rw [hsensor, saveRelayToNvs_some]
    split <;> rfl
  exact hsaved.trans (hsaved.serving.setUnit (by rw [hunits]; exact hget) hplace hsafe)

/-- Registering the sensors keeps the device at work, whatever is saved. -/
theorem Serving.registerSensors (env : Env) (count i : Nat) (h : Serving counts b) :
    Keeps counts b (Boot.registerSensors env count i b) := by
  induction count generalizing i b with
  | zero => exact h.keeps
  | succ count ih =>
      unfold Boot.registerSensors
      split
      · exact h.keeps
      · next relay hget =>
          split
          · next b₁ hreg =>
              have honly := relaySensorRegisterIsr_onlyGpio hreg
              have hget₁ : b₁.sUnits[i]? = some relay := by
                rw [honly.sameTable.units]
                exact hget
              have hisr := h.onlyGpio honly
              have hturn := hisr.trans (hisr.serving.sensorStateRefresh env hget₁
                (relaySensorRegisterIsr_eq_ok hreg).2.1)
              exact hturn.trans (ih (i + 1) hturn.serving)
          · next hne hreg =>
              rw [relaySensorRegisterIsr_error hreg hne]
              exact ih (i + 1) h

end Boot
