import RelayBoard.Settings.Apply

/-! # Ranges of the Numeric Settings

  The twelve numeric settings of `s_settings` with the ranges `settings.h`
  documents. `apply_setting` keeps every one of them in its range.
-/

open CString

namespace Settings

variable {Blob : Type}

/-- A numeric setting with its width and its bounds, both included. -/
structure NumericSetting where
  key : CStr
  w : Width
  lo : Int
  hi : Int

/-- The numeric settings. -/
def numericSettings : List NumericSetting :=
  [⟨sKeyHaUpdateInterval, .w32, haUpdateIntervalMin, haUpdateIntervalMax⟩,
    ⟨sKeyMqttConnect, .w16, mqttConnModeDisable, mqttConnModeAutoconnect⟩,
    ⟨sKeyMqttPort, .w16, 1, 65535⟩,
    ⟨sKeyRelayRefreshInterval, .w16, relayRefreshIntervalMin, relayRefreshIntervalMax⟩,
    ⟨sKeyChannelCount, .w16, channelCountMin, channelCountMax⟩,
    ⟨sKeyContactSensorsCount, .w16, contactSensorsCountMin, contactSensorsCountMax⟩,
    ⟨sKeyNetLoggingType, .w16, 0, 3⟩,
    ⟨sKeyNetLoggingPort, .w16, 1, 65535⟩,
    ⟨sKeyNetLoggingKeepStdout, .w16, 0, 1⟩,
    ⟨sKeyStatusMemguardMode, .w16, memgrdModeDisabled, memgrdModeRestart⟩,
    ⟨sKeyStatusMemguardThreshold, .w32, memguardThresholdMin, memguardThresholdMax⟩,
    ⟨sKeyOtaUpdateResetConfig, .w16, otaUpdateResetConfigMin, otaUpdateResetConfigMax⟩]

/-- Is a number in the range of the setting? -/
def NumericSetting.InBounds (r : NumericSetting) (n : Nat) : Prop := r.lo ≤ n ∧ (n : Int) ≤ r.hi

/-- Every numeric setting that is in NVS has its width and is in its range. -/
def NumericSettingsInRange (nvs : Nvs.Store Blob) : Prop :=
  ∀ r ∈ numericSettings, ∀ value, nvs sNamespace r.key = some value →
    ∃ n, r.InBounds n ∧ value = r.w.value n

theorem numericSettings_bounds :
    ∀ r ∈ numericSettings, 0 ≤ r.lo ∧ r.hi < r.w.modulus ∧ r.hi < Json.intMax := by
  decide

theorem inRange_iff {lo hi n : Int} : inRange lo hi n = true ↔ lo ≤ n ∧ n ≤ hi := by
  simp [inRange]

/-- The three modes are the range from the first to the last. -/
theorem memgrdModeIsValid_iff {mode : Int} :
    memgrdModeIsValid mode = true ↔ memgrdModeDisabled ≤ mode ∧ mode ≤ memgrdModeRestart := by
  simp only [memgrdModeDisabled, memgrdModeRestart]
  constructor
  · intro h
    by_contra hout
    have h0 : mode ≠ 0 := by omega
    have h1 : mode ≠ 1 := by omega
    have h2 : mode ≠ 2 := by omega
    simp [memgrdModeIsValid, memgrdModeDisabled, memgrdModeWarn, memgrdModeRestart, h0, h1,
      h2] at h
  · intro h
    have hmode : mode = 0 ∨ mode = 1 ∨ mode = 2 := by omega
    rcases hmode with rfl | rfl | rfl <;> decide

/-- The entry of `s_settings` with this key, type and handler. -/
structure Checks (r : NumericSetting) (e : SettingEntry) : Prop where
  mem : e ∈ sSettings
  key_eq : e.key = r.key
  typeT : e.typeT = r.w.settingsType
  handler : ∃ (read : Json → Int) (accepts : Int → Bool) (message : Int → CStr),
    e.handler = some (checkNumber read accepts message) ∧
    (read = Json.valueint ∨ read = Json.intOfDouble) ∧
    ∀ n, accepts n = true ↔ r.lo ≤ n ∧ n ≤ r.hi

/-- Each numeric setting has an entry in `s_settings` whose handler checks its range,
    through one of the two readings of the number. -/
theorem exists_checks {r : NumericSetting} (hr : r ∈ numericSettings) : ∃ e, Checks r e := by
  simp only [numericSettings, List.mem_cons, List.not_mem_nil, or_false] at hr
  rcases hr with rfl | rfl | rfl | rfl | rfl | rfl | rfl | rfl | rfl | rfl | rfl | rfl
  · exact ⟨_, List.mem_of_getElem? (i := 1) rfl, rfl, rfl, _, _, _, rfl, Or.inl rfl,
      fun _ => inRange_iff⟩
  · refine ⟨_, List.mem_of_getElem? (i := 2) rfl, rfl, rfl, _, _, _, rfl, Or.inr rfl, ?_⟩
    simp [mqttConnModeIsValid]
  · exact ⟨_, List.mem_of_getElem? (i := 4) rfl, rfl, rfl, _, _, _, rfl, Or.inl rfl,
      fun _ => inRange_iff⟩
  · exact ⟨_, List.mem_of_getElem? (i := 10) rfl, rfl, rfl, _, _, _, rfl, Or.inl rfl,
      fun _ => inRange_iff⟩
  · exact ⟨_, List.mem_of_getElem? (i := 11) rfl, rfl, rfl, _, _, _, rfl, Or.inl rfl,
      fun _ => inRange_iff⟩
  · exact ⟨_, List.mem_of_getElem? (i := 12) rfl, rfl, rfl, _, _, _, rfl, Or.inl rfl,
      fun _ => inRange_iff⟩
  · exact ⟨_, List.mem_of_getElem? (i := 13) rfl, rfl, rfl, _, _, _, rfl, Or.inr rfl,
      fun _ => inRange_iff⟩
  · exact ⟨_, List.mem_of_getElem? (i := 15) rfl, rfl, rfl, _, _, _, rfl, Or.inl rfl,
      fun _ => inRange_iff⟩
  · exact ⟨_, List.mem_of_getElem? (i := 16) rfl, rfl, rfl, _, _, _, rfl, Or.inr rfl,
      fun _ => inRange_iff⟩
  · exact ⟨_, List.mem_of_getElem? (i := 17) rfl, rfl, rfl, _, _, _, rfl, Or.inr rfl,
      fun _ => memgrdModeIsValid_iff⟩
  · exact ⟨_, List.mem_of_getElem? (i := 18) rfl, rfl, rfl, _, _, _, rfl, Or.inr rfl,
      fun _ => inRange_iff⟩
  · exact ⟨_, List.mem_of_getElem? (i := 19) rfl, rfl, rfl, _, _, _, rfl, Or.inr rfl,
      fun _ => inRange_iff⟩

/-- The other entries of `s_settings` are the strings. -/
theorem exists_numericSetting {e : SettingEntry} (hmem : e ∈ sSettings)
    (htype : e.typeT ≠ .string) : ∃ r ∈ numericSettings, e.key = r.key := by
  have hkeys : ∀ e ∈ sSettings, e.typeT ≠ .string →
      e.key ∈ numericSettings.map NumericSetting.key := by decide
  obtain ⟨r, hr, hkey⟩ := List.mem_map.mp (hkeys e hmem htype)
  exact ⟨r, hr, hkey.symm⟩

/-- What is stored for a number that passes the check. -/
theorem Checks.stored {r : NumericSetting} (hr : r ∈ numericSettings) {e : SettingEntry}
    (h : Checks r e) {v : Json} {value : Nvs.Value Blob} {out : SettingUpdateMsg}
    (hrun : (runHandler e v out).1 = .ok) (hvalue : settingValue e v = .ok value) :
    ∃ (x : Rat) (n : Nat), v = .number x ∧ (n : Int) = x.num.tdiv x.den ∧ r.InBounds n ∧
      value = r.w.value n := by
  obtain ⟨read, accepts, message, hhandler, hread, haccepts⟩ := h.handler
  obtain ⟨hlo, hhi, hmax⟩ := numericSettings_bounds r hr
  have hrange : ∀ n, accepts n = true → 0 ≤ n ∧ n < r.w.modulus ∧ n < Json.intMax := by
    intro n hn
    have := (haccepts n).mp hn
    omega
  obtain ⟨x, n, hx, hn, haccept, hstored⟩ :=
    settingValue_of_accepted h.typeT hhandler hread hrange hrun hvalue
  exact ⟨x, n, hx, hn, (haccepts n).mp haccept, hstored⟩

/-- What `apply_setting` stores under a numeric key is in range. -/
theorem Checks.applySetting {r : NumericSetting} (hr : r ∈ numericSettings) {e : SettingEntry}
    (h : Checks r e) {writeOk : Bool} {nvs nvs' : Nvs.Store Blob} {v : Json}
    {out out' : SettingUpdateMsg}
    (happly : applySetting writeOk nvs (some r.key) (some v) out = (.ok, out', nvs')) :
    ∃ n, r.InBounds n ∧ nvs' = Nvs.set nvs sNamespace r.key (r.w.value n) := by
  rw [← h.key_eq] at happly ⊢
  obtain ⟨e', value, he', ⟨_, hrun⟩, hvalue, hset⟩ := applySetting_eq_ok happly
  rw [findSetting_of_mem h.mem] at he'
  cases he'
  obtain ⟨_, n, _, _, hn, rfl⟩ := h.stored hr hrun hvalue
  exact ⟨n, hn, hset⟩

/-- A number in range is stored. -/
theorem Checks.applySetting_ok {r : NumericSetting} (hr : r ∈ numericSettings)
    {e : SettingEntry} (h : Checks r e) (nvs : Nvs.Store Blob) {n : Nat} (hn : r.InBounds n)
    (out : SettingUpdateMsg) :
    ∃ out', Settings.applySetting true nvs (some r.key) (some (.number (n : Rat))) out =
      (.ok, out', Nvs.set nvs sNamespace r.key (r.w.value n)) := by
  obtain ⟨read, accepts, message, hhandler, hread, haccepts⟩ := h.handler
  obtain ⟨_, hhi, hmax⟩ := numericSettings_bounds r hr
  have hlt : n < r.w.modulus ∧ (n : Int) < Json.intMax := by
    have hle := hn.2
    omega
  rw [← h.key_eq]
  exact applySetting_number_ok nvs h.mem h.typeT hhandler hread hlt ((haccepts n).mpr hn) out

/-- **Step lemma**: whatever is asked for, an `apply_setting` keeps the numeric
    settings in range. -/
theorem NumericSettingsInRange.applySetting {nvs : Nvs.Store Blob}
    (h : NumericSettingsInRange nvs) (writeOk : Bool) (key : Option CStr) (val : Option Json)
    (out : SettingUpdateMsg) :
    NumericSettingsInRange (applySetting writeOk nvs key val out).2.2 := by
  by_cases hok : (Settings.applySetting writeOk nvs key val out).1 = .ok
  · match key, val with
    | none, _ => exact absurd hok (by simp [Settings.applySetting, setResult])
    | some _, none => exact absurd hok (by simp [Settings.applySetting, setResult])
    | some key, some v =>
        obtain ⟨out', nvs', happly⟩ : ∃ out' nvs',
            Settings.applySetting writeOk nvs (some key) (some v) out = (.ok, out', nvs') :=
          ⟨_, _, by rw [← hok]⟩
        rw [happly]
        show NumericSettingsInRange nvs'
        intro r hr value hvalue
        by_cases hkey : r.key = key
        · -- the setting that has changed
          subst hkey
          obtain ⟨e, he⟩ := exists_checks hr
          obtain ⟨n, hn, rfl⟩ := he.applySetting hr happly
          rw [Nvs.set_self] at hvalue
          exact ⟨n, hn, (Option.some.inj hvalue).symm⟩
        · obtain ⟨_, _, _, _, _, rfl⟩ := applySetting_eq_ok happly
          rw [Nvs.set_ne _ _ _ _ _ hkey] at hvalue
          exact h r hr value hvalue
  · rw [applySetting_of_ne_ok hok]
    exact h

end Settings
