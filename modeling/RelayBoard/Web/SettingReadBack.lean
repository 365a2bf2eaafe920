import RelayBoard.Certificate.CaCertManager
import RelayBoard.Settings.Ranges
import RelayBoard.Web.SettingRead

/-! # A Setting Reads Back

  `apply_setting` against `get_setting_value_JSON`: a setting that cannot be
  applied leaves NVS alone, and one that is applied changes the record of its
  own key only, and is what a later read of the key returns.
-/

open CString Settings

namespace Web

variable {Blob : Type}

/-! ### Keys out of Reach -/

/-- The keys that no setting has: those of the identity, of the units' records, and of
    the records of the two certificates. -/
inductive Protected : CStr → Prop where
  | deviceId : Protected sKeyDeviceId
  | deviceSerial : Protected sKeyDeviceSerial
  | channel (i : Nat) : Protected (chKey i)
  | contactSensor (i : Nat) : Protected (snKey i)
  | certificate {path : CStr}
      (hpath : path ∈ [CaCertManager.caCertPathMqtts, CaCertManager.caCertPathHttps])
      {text : CStr} {w : CStr × Nvs.Value NvsLarge.LargeBlob}
      (hw : w ∈ NvsLarge.writesOf (CaCertManager.espBasename (some path)) text) : Protected w.1

/-- The records of a large string are kept under keys that continue its key. -/
theorem prefix_of_mem_writesOf {key text : CStr} (hkey : key.length ≤ 13)
    {w : CStr × Nvs.Value NvsLarge.LargeBlob} (hw : w ∈ NvsLarge.writesOf key text) :
    key <+: w.1 := by
  rw [NvsLarge.writesOf, List.mem_append, List.mem_map] at hw
  rcases hw with ⟨i, -, rfl⟩ | hw
  · show key <+: NvsLarge.generateChunkKey key i
    rw [NvsLarge.generateChunkKey_eq hkey]
    exact List.prefix_append _ _
  · rcases List.mem_pair.mp hw with rfl | rfl
    · exact List.prefix_rfl
    · exact List.prefix_append _ _

/-- A setting that can be applied is one of the settings, and not of the identity. -/
theorem key_of_mem_sSettings {e : SettingEntry} (hmem : e ∈ sSettings) :
    e.key ∈ settingKeys ∧ e.key ≠ sKeyDeviceId ∧ e.key ≠ sKeyDeviceSerial ∧
      ¬ "ca-".toList <+: e.key := by
  revert e
  decide

theorem not_protected {e : SettingEntry} (hmem : e ∈ sSettings) : ¬ Protected e.key := by
  obtain ⟨hkeys, hid, hserial, hca⟩ := key_of_mem_sSettings hmem
  intro hprotected
  generalize e.key = key at *
  cases hprotected with
  | deviceId => exact hid rfl
  | deviceSerial => exact hserial rfl
  | channel i => exact (settingKey_ne_unitKey hkeys i).1 rfl
  | contactSensor i => exact (settingKey_ne_unitKey hkeys i).2 rfl
  | certificate hpath hw =>
      -- both file names start with "ca-"
      have hname : ∀ path ∈ [CaCertManager.caCertPathMqtts, CaCertManager.caCertPathHttps],
          "ca-".toList <+: CaCertManager.espBasename (some path) ∧
            (CaCertManager.espBasename (some path)).length ≤ 13 := by
        decide
      obtain ⟨hstart, hlength⟩ := hname _ hpath
      exact hca (hstart.trans (prefix_of_mem_writesOf hlength hw))

/-! ### Values -/

/-- What a read returns for a value that was set: a string as it is, a number truncated
    toward zero. -/
def ReadsAs (v value : Json) : Prop :=
  (∃ s, v = .string s ∧ value = .string s) ∨
    ∃ x : Rat, v = .number x ∧ value = .number (x.num.tdiv x.den : Int)

/-- The value of a setting in an answer of `get_setting_value_JSON`. -/
def valueIn (root : Json) (key : CStr) : Option Json :=
  (root.getObjectItem key).bind fun payload => payload.getObjectItem "value".toList

/-- A string that is short enough to be written is too short to be cut. -/
theorem settingPayloadValue_string {nvs : Nvs.Store Blob} {e : SettingEntry} {v : Json}
    {value : Nvs.Value Blob} (htype : e.typeT = .string) (hvalue : settingValue e v = .ok value)
    (hnvs : nvs sNamespace e.key = some value) :
    ∃ read size, settingPayloadValue nvs e = .ok (read, size) ∧ ReadsAs v read := by
  unfold settingValue at hvalue
  rw [htype] at hvalue
  dsimp only at hvalue
  split at hvalue
  · cases hvalue
  · next s hs =>
      split at hvalue
      · cases hvalue
      · next hfits =>
          cases hvalue
          have hread : Nvs.readString nvs sNamespace e.key = .ok s := by
            unfold Nvs.readString
            rw [hnvs]
          refine ⟨.string s, s.length + 1, ?_, .inl ⟨s, Json.eq_string hs, rfl⟩⟩
          have hcut : (if 0 < e.maxStrSize ∧ s.length ≥ e.maxStrSize
              then s.take (e.maxStrSize - 1) else s) = s := if_neg hfits
          unfold settingPayloadValue
          rw [htype]
          dsimp only
          rw [hread]
          show Except.ok (Json.string (if _ then _ else _), List.length (if _ then _ else _) + 1) = _
          rw [hcut]

/-- A number that a read of its width finds. -/
theorem settingPayloadValue_number {nvs : Nvs.Store Blob} {e : SettingEntry} {w : Width}
    {n : Nat} (htype : e.typeT = w.settingsType)
    (hnvs : nvs sNamespace e.key = some (w.value n)) :
    settingPayloadValue nvs e = .ok (.number n, settingTypeDefaultSize e.typeT e) := by
  unfold settingPayloadValue
  rw [htype]
  cases w with
  | w16 =>
      dsimp only [Width.settingsType]
      rw [Nvs.readUint16, hnvs]
      rfl
  | w32 =>
      dsimp only [Width.settingsType]
      rw [Nvs.readUint32, hnvs]
      rfl

/-- What was accepted and stored is read back. -/
theorem settingPayloadValue_of_stored {nvs : Nvs.Store Blob} {e : SettingEntry}
    (hmem : e ∈ sSettings) {v : Json} {value : Nvs.Value Blob} {out : SettingUpdateMsg}
    (hrun : (runHandler e v out).1 = .ok) (hvalue : settingValue e v = .ok value)
    (hnvs : nvs sNamespace e.key = some value) :
    ∃ read size, settingPayloadValue nvs e = .ok (read, size) ∧ ReadsAs v read := by
  by_cases htype : e.typeT = .string
  · exact settingPayloadValue_string htype hvalue hnvs
  · obtain ⟨r, hr, hkey⟩ := exists_numericSetting hmem htype
    obtain ⟨e', hchecks⟩ := exists_checks hr
    -- the entry with this key is the one whose handler checks the range
    have he : e' = e := by
      have hfind := findSetting_of_mem hchecks.mem
      rw [hchecks.key_eq, ← hkey, findSetting_of_mem hmem] at hfind
      exact (Option.some.inj hfind).symm
    subst he
    obtain ⟨x, n, rfl, hn, -, rfl⟩ := hchecks.stored hr hrun hvalue
    refine ⟨_, _, settingPayloadValue_number hchecks.typeT hnvs, .inr ⟨x, rfl, ?_⟩⟩
    rw [← hn, Rat.intCast_natCast]

/-- An answer to a read of a setting whose value is found. -/
theorem getSettingValueJSON_valueIn {o : ReadOutcomes} {nvs : Nvs.Store Blob} {e : SettingEntry}
    (hmem : e ∈ sSettings) (hpayload : o.payloadOk e.key = true) (hroot : o.rootOk = true)
    {value : Json} {size : Nat} (hvalue : settingPayloadValue nvs e = .ok (value, size)) :
    ∃ root, getSettingValueJSON o nvs e.key = .ok root ∧ valueIn root e.key = some value := by
  unfold getSettingValueJSON buildSettingPayloadJson
  rw [findSetting_of_mem hmem]
  dsimp only
  rw [hpayload, hvalue, hroot]
  refine ⟨_, rfl, ?_⟩
  unfold valueIn
  rw [Json.getObjectItem_head]
  rfl

/-! ### The Outcome of `apply_setting` -/

/-- **A setting is applied whole or not at all**: a failure leaves NVS as it was; a
    success has changed the record of the key only, which is that of a setting, and a
    read of the key that finds memory returns the value. -/
theorem applySetting_atomic (writeOk : Bool) (nvs : Nvs.Store Blob) (key : Option CStr)
    (val : Option Json) (out : SettingUpdateMsg) :
    let r := applySetting writeOk nvs key val out
    (r.1 ≠ .ok → r.2.2 = nvs) ∧
    (r.1 = .ok → ∃ k v, key = some k ∧ val = some v ∧
      (∃ e ∈ sSettings, e.key = k) ∧ ¬ Protected k ∧
      (∀ ns k', ¬ (ns = sNamespace ∧ k' = k) → r.2.2 ns k' = nvs ns k') ∧
      ∀ o : ReadOutcomes, o.payloadOk k = true → o.rootOk = true →
        ∃ root value, getSettingValueJSON o r.2.2 k = .ok root ∧
          valueIn root k = some value ∧ ReadsAs v value) := by
  intro r
  constructor
  · exact applySetting_of_ne_ok
  · intro hok
    obtain ⟨k, v, rfl, rfl⟩ := applySetting_ok_some hok
    obtain ⟨e, value, he, ⟨out₁, hrun⟩, hvalue, hset⟩ :=
      applySetting_eq_ok (show applySetting writeOk nvs (some k) (some v) out =
        (.ok, r.2.1, r.2.2) by rw [← hok])
    obtain ⟨hmem, rfl⟩ := findSetting_eq_some he
    refine ⟨e.key, v, rfl, rfl, ⟨e, hmem, rfl⟩, not_protected hmem, ?_, ?_⟩
    · intro ns k' hne
      rw [hset]
      exact if_neg hne
    · intro o hpayload hroot
      have hstored : r.2.2 sNamespace e.key = some value := by
        rw [hset]
        exact Nvs.set_self _ _ _ _
      obtain ⟨read, size, hread, hreads⟩ := settingPayloadValue_of_stored hmem hrun hvalue hstored
      obtain ⟨root, hroot, hin⟩ := getSettingValueJSON_valueIn hmem hpayload hroot hread
      exact ⟨root, read, hroot, hin, hreads⟩

end Web
