import RelayBoard.Boot.Gaps
import RelayBoard.Boot.Provisioning
import RelayBoard.Settings.Required

/-! # What Booting Keeps

  `settings_init` on any content of NVS with values of the right types: when it
  succeeds, every required setting can be read, nothing that was stored has changed,
  and it finds nothing to do a second time.
-/

open CString Relay Settings

namespace Boot

variable {env : Env} {b b' : Board}

/-! ### Scanning Leaves NVS -/

theorem isGpioPinInUse_nvs {pin : Int} {used : Bool}
    (h : isGpioPinInUse env b pin = some (used, b')) : b'.nvs = b.nvs := by
  unfold isGpioPinInUse at h
  split at h
  · cases h
  · next hunits =>
      have hnvs := getAllRelayUnits_nvs hunits
      split at h
      · cases h
        exact hnvs
      · cases h
        exact hnvs

theorem findFreePin_nvs {pool : List Int} {pin : Int}
    (h : findFreePin env pool b = some (pin, b')) : b'.nvs = b.nvs := by
  induction pool generalizing b with
  | nil =>
      cases h
      rfl
  | cons p pool ih =>
      unfold findFreePin at h
      split at h
      · cases h
      · next hused => exact (ih h).trans (isGpioPinInUse_nvs hused)
      · next hfree =>
          cases h
          exact isGpioPinInUse_nvs hfree

/-- A level that is not saved leaves NVS. -/
theorem setLevelAndPersist_nvs {relay relay' : RelayUnit} {state : RelayState} {made : Bool}
    {err : EspErr}
    (h : setLevelAndPersist env b relay state made false = some (err, relay', b')) :
    b'.nvs = b.nvs := by
  have hlevel := gpioSetLevel_onlyGpio env b relay.gpioPin (xor state.toBool relay.inverted)
  unfold setLevelAndPersist at h
  split at h
  · next heq =>
      rw [heq] at hlevel
      dsimp only at h
      split at h
      · cases h
      · next hpublish =>
          cases h
          exact (publishUpdate_nvs hpublish).trans hlevel.nvs
  · next heq =>
      rw [heq] at hlevel
      cases h
      exact hlevel.nvs

/-- A state that is not saved leaves NVS. -/
theorem setBootState_nvs {relay : RelayUnit} {err : EspErr}
    (h : setBootState env b relay = some (err, b')) : err = .ok ∧ b'.nvs = b.nvs := by
  unfold setBootState at h
  split at h
  · cases h
  · next hstate =>
      cases h
      refine ⟨rfl, ?_⟩
      unfold relaySetState at hstate
      split at hstate
      · cases hstate
        rfl
      · have hinit := relayGpioInit_onlyGpio env b relay
        split at hstate
        · exact setLevelAndPersist_nvs hstate
        · split at hstate
          -- the pin is set up first, which leaves NVS too
          · next heq =>
              rw [heq] at hinit
              exact (setLevelAndPersist_nvs hstate).trans hinit.nvs
          · next heq =>
              rw [heq] at hinit
              cases hstate
              exact hinit.nvs

/-! ### One Turn -/

/-- What a turn of a provisioning loop does: it finds a record, creates one, or fails. -/
inductive Turn (type : RelayType) (i : Nat) (b b' : Board) : EspErr → Prop where
  | found (hrecord : unitRecord b.nvs type i ≠ none) (hnvs : b'.nvs = b.nvs) :
      Turn type i b b' .ok
  | created (hrecord : unitRecord b.nvs type i = none) (relay : RelayUnit)
      (hnvs : b'.nvs = Nvs.set b.nvs sNamespace (unitKey type i) (.blob relay)) :
      Turn type i b b' .ok
  | failed (hrecord : unitRecord b.nvs type i = none) (hnvs : b'.nvs = b.nvs) :
      Turn type i b b' .fail

theorem initActuator_turn {i : Nat} {err : EspErr} (hi : i < channelLimit .actuator)
    (h : initActuator env b i = some (err, b')) : Turn .actuator i b b' err := by
  unfold initActuator at h
  rw [getRelayNvsKey_of_lt hi] at h
  dsimp only at h
  cases hrecord : unitRecord b.nvs .actuator i with
  | some relay =>
      rw [loadRelayActuatorFromNvs, nvsReadRelay_of_some hrecord] at h
      obtain ⟨rfl, hnvs⟩ := setBootState_nvs h
      exact .found (by rw [hrecord]; simp) hnvs
  | none =>
      obtain ⟨err, herr⟩ := nvsReadRelay_of_none hrecord
      rw [loadRelayActuatorFromNvs, herr] at h
      dsimp only at h
      split at h
      · cases h
      · next gpioPin b₁ hpin =>
          have hscan : b₁.nvs = b.nvs := findFreePin_nvs hpin
          split at h
          · cases h
            exact .failed hrecord hscan
          · split at h
            · next b₂ hsave =>
                obtain ⟨rfl, hstate⟩ := setBootState_nvs h
                rcases saveRelayToNvs_cases hsave with ⟨_, _, rfl⟩ | ⟨_, hfail, _⟩
                · exact .created hrecord _ (by rw [hstate, hscan])
                · cases hfail
            · next hne hsave =>
                cases h
                rcases saveRelayToNvs_cases hsave with ⟨_, hok, _⟩ | ⟨_, _, rfl⟩
                · exact absurd hok hne
                · exact .failed hrecord hscan

theorem initSensor_turn {i : Nat} {err : EspErr} (hi : i < channelLimit .sensor)
    (h : initSensor env b i = some (err, b')) : Turn .sensor i b b' err := by
  unfold initSensor at h
  rw [getContactSensorNvsKey_of_lt hi] at h
  dsimp only at h
  cases hrecord : unitRecord b.nvs .sensor i with
  | some relay =>
      have hinit := relayGpioInit_onlyGpio env b relay
      rw [loadRelaySensorFromNvs, nvsReadRelay_of_some hrecord] at h
      cases h
      exact .found (by rw [hrecord]; simp) hinit.nvs
  | none =>
      obtain ⟨err, herr⟩ := nvsReadRelay_of_none hrecord
      rw [loadRelaySensorFromNvs, herr] at h
      dsimp only at h
      split at h
      · cases h
      · next gpioPin b₁ hpin =>
          have hscan : b₁.nvs = b.nvs := findFreePin_nvs hpin
          split at h
          · cases h
            exact .failed hrecord hscan
          · have hinit : (getSensorRelay env b₁ i gpioPin).2.nvs = b.nvs :=
              (relayGpioInit_onlyGpio env b₁ _).nvs.trans hscan
            split at h
            · next b₂ hsave =>
                cases h
                rcases saveRelayToNvs_cases hsave with ⟨_, _, rfl⟩ | ⟨_, hfail, _⟩
                · exact .created hrecord _ (by rw [hinit])
                · cases hfail
            · next hne hsave =>
                cases h
                rcases saveRelayToNvs_cases hsave with ⟨_, hok, _⟩ | ⟨_, _, rfl⟩
                · exact absurd hok hne
                · exact .failed hrecord hinit

/-! ### Types -/

/-- Under the key of a unit there is a record, or nothing. -/
def UnitsTyped (nvs : Nvs.Store RelayUnit) : Prop :=
  ∀ type i, i < channelLimit type → ∀ value, nvs sNamespace (unitKey type i) = some value →
    ∃ relay, value = .blob relay

/-- What is stored has the type that its reader expects. -/
structure WellTyped (nvs : Nvs.Store RelayUnit) : Prop where
  settings : ∀ s ∈ requiredSettings, ∀ value, nvs sNamespace s.1 = some value →
    settingsTypeOf value = some s.2
  units : UnitsTyped nvs

/-- A channel without a record has a free key. -/
theorem UnitsTyped.free {nvs : Nvs.Store RelayUnit} (h : UnitsTyped nvs) {type : RelayType}
    {i : Nat} (hi : i < channelLimit type) (hrecord : unitRecord nvs type i = none) :
    nvs sNamespace (unitKey type i) = none := by
  cases hget : nvs sNamespace (unitKey type i) with
  | none => rfl
  | some value =>
      obtain ⟨relay, rfl⟩ := h type i hi value hget
      rw [unitRecord, hget] at hrecord
      cases hrecord

theorem unitRecord_of_extends {nvs nvs' : Nvs.Store RelayUnit} (h : Nvs.Extends nvs nvs')
    {type : RelayType} {i : Nat} (hrecord : unitRecord nvs type i ≠ none) :
    unitRecord nvs' type i ≠ none := by
  intro hnone
  apply hrecord
  unfold unitRecord at hnone ⊢
  cases hget : nvs sNamespace (unitKey type i) with
  | none => rfl
  | some value =>
      rw [h _ _ _ hget] at hnone
      exact hnone

section turn
variable {type : RelayType} {i : Nat} {err : EspErr} (h : Turn type i b b' err)
include h

theorem Turn.extends (htyped : UnitsTyped b.nvs) (hi : i < channelLimit type) :
    Nvs.Extends b.nvs b'.nvs := by
  cases h with
  | found _ hnvs => exact hnvs ▸ Nvs.Extends.refl _
  | created hrecord relay hnvs => exact hnvs ▸ Nvs.extends_set (htyped.free hi hrecord) _
  | failed _ hnvs => exact hnvs ▸ Nvs.Extends.refl _

theorem Turn.typed (htyped : UnitsTyped b.nvs) : UnitsTyped b'.nvs := by
  cases h with
  | found _ hnvs => exact hnvs ▸ htyped
  | created _ relay hnvs =>
      rw [hnvs]
      intro type' j hj value hget
      rw [Nvs.set_apply] at hget
      split at hget
      · exact ⟨relay, (Option.some.inj hget).symm⟩
      · exact htyped type' j hj value hget
  | failed _ hnvs => exact hnvs ▸ htyped

/-- A turn that ends well leaves a record. -/
theorem Turn.record (herr : err = .ok) : unitRecord b'.nvs type i ≠ none := by
  cases h with
  | found hrecord hnvs =>
      rw [hnvs]
      exact hrecord
  | created _ relay hnvs =>
      rw [hnvs, unitRecord, Nvs.set_self]
      simp
  | failed _ _ => cases herr

/-- A turn that finds a record leaves NVS. -/
theorem Turn.of_record (hrecord : unitRecord b.nvs type i ≠ none) :
    err = .ok ∧ b'.nvs = b.nvs := by
  cases h with
  | found _ hnvs => exact ⟨rfl, hnvs⟩
  | created hnone _ _ => exact absurd hnone hrecord
  | failed hnone _ => exact absurd hnone hrecord

end turn

/-! ### One Loop -/

/-- The body of a loop over the channels of a type. -/
def TurnBody (type : RelayType) (body : Board → Nat → Option (EspErr × Board)) : Prop :=
  ∀ {b b' : Board} {i : Nat} {err : EspErr}, i < channelLimit type →
    body b i = some (err, b') → Turn type i b b' err

section loop
variable {type : RelayType} {body : Board → Nat → Option (EspErr × Board)}
  (hbody : TurnBody type body) {channels : List Nat}
  (hlim : ∀ i ∈ channels, i < channelLimit type)
include hbody hlim

/-- A loop that ends well keeps what is stored, and leaves a record for every channel. -/
theorem forChannels_extends (htyped : UnitsTyped b.nvs)
    (h : forChannels body channels b = some (.ok, b')) :
    Nvs.Extends b.nvs b'.nvs ∧ UnitsTyped b'.nvs ∧
      ∀ i ∈ channels, unitRecord b'.nvs type i ≠ none := by
  induction channels generalizing b with
  | nil =>
      cases h
      exact ⟨Nvs.Extends.refl _, htyped, fun i hi => absurd hi List.not_mem_nil⟩
  | cons channel channels ih =>
      have hi := hlim channel List.mem_cons_self
      unfold forChannels at h
      split at h
      · cases h
      · next b₁ hturn =>
          have hone := hbody hi hturn
          obtain ⟨hext, htyped', hrecords⟩ :=
            ih (fun i hi => hlim i (List.mem_cons_of_mem _ hi)) (hone.typed htyped) h
          refine ⟨(hone.extends htyped hi).trans hext, htyped', ?_⟩
          intro i hi
          rcases List.mem_cons.mp hi with rfl | hi
          · exact unitRecord_of_extends hext (hone.record rfl)
          · exact hrecords i hi
      · next hne _ =>
          cases h
          exact absurd rfl hne

/-- A loop that finds a record for every channel leaves NVS. -/
theorem forChannels_of_records (hrecords : ∀ i ∈ channels, unitRecord b.nvs type i ≠ none)
    {err : EspErr} (h : forChannels body channels b = some (err, b')) :
    err = .ok ∧ b'.nvs = b.nvs := by
  induction channels generalizing b with
  | nil =>
      cases h
      exact ⟨rfl, rfl⟩
  | cons channel channels ih =>
      have hi := hlim channel List.mem_cons_self
      have hrecord := hrecords channel List.mem_cons_self
      unfold forChannels at h
      split at h
      · cases h
      · next b₁ hturn =>
          obtain ⟨_, hnvs⟩ := (hbody hi hturn).of_record hrecord
          obtain ⟨herr, hnvs'⟩ := ih (fun i hi => hlim i (List.mem_cons_of_mem _ hi))
            (fun i hi => by
              rw [hnvs]
              exact hrecords i (List.mem_cons_of_mem _ hi)) h
          exact ⟨herr, hnvs'.trans hnvs⟩
      · next hne hturn =>
          cases h
          exact absurd ((hbody hi hturn).of_record hrecord).1 hne

end loop

/-! ### A Second Time -/

/-- Whatever the writes and the driver would answer, a board with this content of NVS has
    nothing to write: what returns is a success on the same content, and it does return
    while MQTT is not ready. -/
def NothingToDo (nvs : Nvs.Store RelayUnit) : Prop :=
  ∀ (env : Env) (newDeviceId newDeviceSerial : CStr) (b : Board), b.nvs = nvs →
    (∀ err b', settingsInit env newDeviceId newDeviceSerial b = some (err, b') →
      err = .ok ∧ b'.nvs = nvs) ∧
    (b.isMqttReady = false → settingsInit env newDeviceId newDeviceSerial b ≠ none)

/-- Every required setting can be read, and every configured channel has a record. -/
structure Settled (nvs : Nvs.Store RelayUnit) : Prop where
  settings : ∀ s ∈ requiredSettings, readSucceeds nvs s.1 s.2 = true
  counts : ∀ type, countsOf nvs type ≤ channelLimit type
  records : ∀ type, ∀ i < countsOf nvs type, unitRecord nvs type i ≠ none

/-- The keys of the blocks with the types of their defaults. -/
def parameterTypes (parameters : List (CStr × Nvs.Value RelayUnit)) :
    List (CStr × Option SettingsType) :=
  parameters.map fun p => (p.1, settingsTypeOf p.2)

/-- The blocks of both functions fill in the required settings, and no others. -/
theorem mem_parameterTypes_iff (newDeviceId newDeviceSerial : CStr)
    (t : CStr × Option SettingsType) :
    t ∈ parameterTypes (baseParameters newDeviceId newDeviceSerial) ++
        parameterTypes deviceParameters ↔
      t ∈ requiredSettings.map fun s => (s.1, some s.2) := by
  have htypes : parameterTypes (baseParameters newDeviceId newDeviceSerial) =
      parameterTypes (baseParameters [] []) := rfl
  have hperm : (parameterTypes (baseParameters [] []) ++ parameterTypes deviceParameters).Perm
      (requiredSettings.map fun s => (s.1, some s.2)) := by
    decide +kernel
  rw [htypes]
  exact hperm.mem_iff

/-- A block of either function has the key and the type of a required setting. -/
theorem exists_requiredSetting {newDeviceId newDeviceSerial : CStr}
    {p : CStr × Nvs.Value RelayUnit}
    (hp : p ∈ baseParameters newDeviceId newDeviceSerial ∨ p ∈ deviceParameters) :
    ∃ s ∈ requiredSettings, s.1 = p.1 ∧ settingsTypeOf p.2 = some s.2 := by
  have hmem : (p.1, settingsTypeOf p.2) ∈ requiredSettings.map fun s => (s.1, some s.2) := by
    apply (mem_parameterTypes_iff newDeviceId newDeviceSerial _).mp
    rcases hp with hp | hp
    · exact List.mem_append_left _ (List.mem_map_of_mem hp)
    · exact List.mem_append_right _ (List.mem_map_of_mem hp)
  obtain ⟨s, hs, heq⟩ := List.mem_map.mp hmem
  obtain ⟨hkey, htype⟩ := Prod.mk.inj heq
  exact ⟨s, hs, hkey, htype.symm⟩

/-- A required setting has a block in one of the functions. -/
theorem exists_parameter (newDeviceId newDeviceSerial : CStr) {s : CStr × SettingsType}
    (hs : s ∈ requiredSettings) :
    ∃ p, (p ∈ baseParameters newDeviceId newDeviceSerial ∨ p ∈ deviceParameters) ∧
      p.1 = s.1 ∧ settingsTypeOf p.2 = some s.2 := by
  have hmem := (mem_parameterTypes_iff newDeviceId newDeviceSerial (s.1, some s.2)).mpr
    (List.mem_map_of_mem hs)
  rcases List.mem_append.mp hmem with hmem | hmem
  · obtain ⟨p, hp, heq⟩ := List.mem_map.mp hmem
    exact ⟨p, .inl hp, (Prod.mk.inj heq).1, (Prod.mk.inj heq).2⟩
  · obtain ⟨p, hp, heq⟩ := List.mem_map.mp hmem
    exact ⟨p, .inr hp, (Prod.mk.inj heq).1, (Prod.mk.inj heq).2⟩

/-- With all settings in place no block of either function does anything. -/
theorem Settled.initParameters {nvs : Nvs.Store RelayUnit} (h : Settled nvs)
    (newDeviceId newDeviceSerial : CStr) {parameters : List (CStr × Nvs.Value RelayUnit)}
    (hparameters : ∀ p ∈ parameters,
      p ∈ baseParameters newDeviceId newDeviceSerial ∨ p ∈ deviceParameters)
    (nvsWrite : CStr → Bool) : initParameters nvsWrite parameters nvs = (.ok, nvs) := by
  apply initParameters_of_all_present
  intro p hp
  obtain ⟨s, hs, hkey, htype⟩ := exists_requiredSetting (hparameters p hp)
  rw [isPresent_eq_readSucceeds htype, ← hkey]
  exact h.settings s hs

/-- The loops run over channels that have a key. -/
theorem Settled.channel_lt {nvs : Nvs.Store RelayUnit} (h : Settled nvs) (type : RelayType) :
    ∀ i ∈ List.range (countsOf nvs type), i < channelLimit type :=
  fun _ hi => Nat.lt_of_lt_of_le (List.mem_range.mp hi) (h.counts type)

/-- On a settled store a run that returns has done nothing. -/
theorem Settled.deviceSettingsInit_quiet (h : Settled b.nvs) {err : EspErr}
    (hrun : deviceSettingsInit env b = some (err, b')) : err = .ok ∧ b'.nvs = b.nvs := by
  unfold deviceSettingsInit at hrun
  rw [h.initParameters [] [] fun p hp => .inr hp] at hrun
  dsimp only at hrun
  split at hrun
  · cases hrun
  · next b₁ hloop =>
      have hfirst := (forChannels_of_records initActuator_turn (h.channel_lt .actuator)
        (fun i hi => h.records .actuator i (List.mem_range.mp hi)) hloop).2
      obtain ⟨herr, hsecond⟩ := forChannels_of_records initSensor_turn (h.channel_lt .sensor)
        (fun i hi => by
          rw [hfirst]
          exact h.records .sensor i (List.mem_range.mp hi)) hrun
      exact ⟨herr, hsecond.trans hfirst⟩
  · next hne hloop =>
      cases hrun
      exact absurd (forChannels_of_records initActuator_turn (h.channel_lt .actuator)
        (fun i hi => h.records .actuator i (List.mem_range.mp hi)) hloop).1 hne

/-- A body that finds its record returns, as long as nothing is published. -/
def FindBody (type : RelayType) (body : Board → Nat → Option (EspErr × Board)) : Prop :=
  ∀ {b : Board} {i mode : Nat}, i < channelLimit type → unitRecord b.nvs type i ≠ none →
    Nvs.readUint16 b.nvs sNamespace sKeyMqttConnect = .ok mode → b.isMqttReady = false →
    ∃ b', body b i = some (.ok, b') ∧ OnlyGpio b b'

theorem setBootState_found (env : Env) {mode : Nat} (relay : RelayUnit)
    (hmode : Nvs.readUint16 b.nvs sNamespace sKeyMqttConnect = .ok mode)
    (hready : b.isMqttReady = false) :
    ∃ b', setBootState env b relay = some (.ok, b') ∧ OnlyGpio b b' := by
  obtain ⟨err, relay', b', hset, honly⟩ :=
    relaySetState_onlyPins env hmode hready relay relay.state
  refine ⟨b', ?_, honly.onlyGpio⟩
  unfold setBootState
  rw [hset]

theorem initActuator_found (env : Env) : FindBody .actuator (initActuator env) := by
  intro b i mode hi hrecord hmode hready
  obtain ⟨relay, hrelay⟩ := Option.ne_none_iff_exists'.mp hrecord
  unfold initActuator
  rw [getRelayNvsKey_of_lt hi]
  dsimp only
  rw [loadRelayActuatorFromNvs, nvsReadRelay_of_some hrelay]
  exact setBootState_found env _ hmode hready

theorem initSensor_found (env : Env) : FindBody .sensor (initSensor env) := by
  intro b i mode hi hrecord _ _
  obtain ⟨relay, hrelay⟩ := Option.ne_none_iff_exists'.mp hrecord
  unfold initSensor
  rw [getContactSensorNvsKey_of_lt hi]
  dsimp only
  rw [loadRelaySensorFromNvs, nvsReadRelay_of_some hrelay]
  exact ⟨_, rfl, relayGpioInit_onlyGpio env b relay⟩

theorem forChannels_found {type : RelayType} {body : Board → Nat → Option (EspErr × Board)}
    (hbody : FindBody type body) {channels : List Nat}
    (hlim : ∀ i ∈ channels, i < channelLimit type) {mode : Nat}
    (hrecords : ∀ i ∈ channels, unitRecord b.nvs type i ≠ none)
    (hmode : Nvs.readUint16 b.nvs sNamespace sKeyMqttConnect = .ok mode)
    (hready : b.isMqttReady = false) :
    ∃ b', forChannels body channels b = some (.ok, b') ∧ OnlyGpio b b' := by
  induction channels generalizing b with
  | nil => exact ⟨b, rfl, OnlyGpio.refl b⟩
  | cons channel channels ih =>
      obtain ⟨b₁, hturn, honly⟩ := hbody (hlim channel List.mem_cons_self)
        (hrecords channel List.mem_cons_self) hmode hready
      obtain ⟨b₂, hloop, honly'⟩ := ih (fun i hi => hlim i (List.mem_cons_of_mem _ hi))
        (fun i hi => by
          rw [honly.nvs]
          exact hrecords i (List.mem_cons_of_mem _ hi))
        (by rw [honly.nvs, hmode]) (by rw [honly.isMqttReady, hready])
      refine ⟨b₂, ?_, honly.trans honly'⟩
      unfold forChannels
      rw [hturn]
      exact hloop

/-- The connection mode is one of the settings. -/
theorem Settled.mode {nvs : Nvs.Store RelayUnit} (h : Settled nvs) :
    ∃ mode, Nvs.readUint16 nvs sNamespace sKeyMqttConnect = .ok mode := by
  have hmem : (sKeyMqttConnect, SettingsType.uint16) ∈ requiredSettings := by
    decide +kernel
  have hread := h.settings _ hmem
  unfold readSucceeds at hread
  cases hmode : Nvs.readUint16 nvs sNamespace sKeyMqttConnect with
  | ok mode => exact ⟨mode, rfl⟩
  | error err =>
      rw [hmode] at hread
      cases hread

theorem Settled.deviceSettingsInit_returns (h : Settled b.nvs) (hready : b.isMqttReady = false) :
    deviceSettingsInit env b ≠ none := by
  obtain ⟨mode, hmode⟩ := h.mode
  obtain ⟨b₁, hfirst, honly⟩ := forChannels_found (initActuator_found env)
    (h.channel_lt .actuator) (fun i hi => h.records .actuator i (List.mem_range.mp hi)) hmode hready
  obtain ⟨b₂, hsecond, _⟩ := forChannels_found (initSensor_found env) (b := b₁)
    (h.channel_lt .sensor) (fun i hi => by
      rw [honly.nvs]
      exact h.records .sensor i (List.mem_range.mp hi))
    (by rw [honly.nvs, hmode]) (by rw [honly.isMqttReady, hready])
  unfold deviceSettingsInit
  rw [h.initParameters [] [] fun p hp => .inr hp]
  dsimp only
  have hfirst' : forChannels (initActuator env)
      (List.range (uint16OrDefault b.nvs sKeyChannelCount sDefaultChannelCount)) b =
        some (.ok, b₁) := hfirst
  rw [hfirst']
  dsimp only
  have hsecond' : forChannels (initSensor env)
      (List.range (uint16OrDefault b.nvs sKeyContactSensorsCount
        sDefaultContactSensorsCount)) b₁ = some (.ok, b₂) := hsecond
  rw [hsecond']
  exact Option.some_ne_none _

theorem Settled.nothingToDo {nvs : Nvs.Store RelayUnit} (h : Settled nvs) :
    NothingToDo nvs := by
  intro env newDeviceId newDeviceSerial b hb
  subst hb
  have hbase := h.initParameters newDeviceId newDeviceSerial (fun p hp => .inl hp) env.nvsWrite
  constructor
  · intro err b' hrun
    unfold settingsInit baseSettingsInit at hrun
    rw [hbase] at hrun
    dsimp only at hrun
    split at hrun
    · cases hrun
    · next hdevice =>
        cases hrun
        exact ⟨rfl, (h.deviceSettingsInit_quiet hdevice).2⟩
    · next hne hdevice =>
        cases hrun
        exact absurd (h.deviceSettingsInit_quiet hdevice).1 hne
  · intro hready hrun
    unfold settingsInit baseSettingsInit at hrun
    rw [hbase] at hrun
    dsimp only at hrun
    split at hrun
    · next hdevice => exact h.deviceSettingsInit_returns hready hdevice
    · cases hrun
    · cases hrun

/-! ### The First Time -/

/-- What a successful initialisation leaves: every required setting can be read, what was
    stored is stored, and there is nothing to do again. -/
structure Initialised (nvs nvs' : Nvs.Store RelayUnit) : Prop where
  readable : ∀ s ∈ requiredSettings, readSucceeds nvs' s.1 s.2 = true
  kept : Nvs.Extends nvs nvs'
  again : NothingToDo nvs'

/-- The two functions fill in different settings. -/
theorem deviceParameters_fresh (newDeviceId newDeviceSerial : CStr) :
    ∀ key ∈ deviceParameters.map Prod.fst,
      key ∉ (baseParameters newDeviceId newDeviceSerial :
        List (CStr × Nvs.Value RelayUnit)).map Prod.fst := by
  unfold deviceParameters baseParameters
  simp only [List.map_cons, List.map_nil]
  decide

theorem WellTyped.typedFor {nvs : Nvs.Store RelayUnit} (h : WellTyped nvs)
    (newDeviceId newDeviceSerial : CStr) {parameters : List (CStr × Nvs.Value RelayUnit)}
    (hparameters : ∀ p ∈ parameters,
      p ∈ baseParameters newDeviceId newDeviceSerial ∨ p ∈ deviceParameters) :
    TypedFor parameters nvs := by
  intro p hp value hget
  obtain ⟨s, hs, hkey, htype⟩ := exists_requiredSetting (hparameters p hp)
  rw [sameType_iff htype]
  exact h.settings s hs value (hkey ▸ hget)

/-- Blocks for settings leave the unit records. -/
theorem UnitsTyped.initParameters {nvs : Nvs.Store RelayUnit} (h : UnitsTyped nvs)
    (nvsWrite : CStr → Bool) {parameters : List (CStr × Nvs.Value RelayUnit)}
    (hkeys : ∀ key ∈ parameters.map Prod.fst, key ∈ settingKeys) :
    UnitsTyped (Settings.initParameters nvsWrite parameters nvs).2 := by
  intro type i hi value hget
  have hother : ∀ p ∈ parameters, p.1 ≠ unitKey type i :=
    fun p hp => settingKey_ne (hkeys p.1 (List.mem_map_of_mem hp)) type i
  rw [initParameters_of_not_mem nvsWrite nvs hother] at hget
  exact h type i hi value hget

/-- Every channel that has a key is below the limit. -/
theorem KeysExist.counts_le {nvs : Nvs.Store RelayUnit} (h : KeysExist nvs)
    (type : RelayType) : countsOf nvs type ≤ channelLimit type := by
  by_contra hgt
  have hlt : channelLimit type < countsOf nvs type := Nat.lt_of_not_le hgt
  cases type with
  | actuator =>
      apply h.actuators _ hlt
      rw [getRelayNvsKey_natCast]
      rfl
  | sensor =>
      apply h.sensors _ hlt
      rw [getContactSensorNvsKey_natCast]
      rfl

/-- A parameter that can be read keeps its value as the store grows. -/
theorem uint16OrDefault_of_extends {nvs nvs' : Nvs.Store RelayUnit}
    (h : Nvs.Extends nvs nvs') {key : CStr} {n default : Nat}
    (hread : Nvs.readUint16 nvs sNamespace key = .ok n) :
    uint16OrDefault nvs' key default = n := by
  have hread' := Nvs.readUint16_eq_ok_iff.mpr (h _ _ _ (Nvs.readUint16_eq_ok_iff.mp hread))
  unfold uint16OrDefault
  rw [hread']

section first
variable {nvs₁ nvs₂ : Nvs.Store RelayUnit}

/-- The counts that the loops used are the ones a later read finds. -/
theorem countsOf_of_extends
    (hinit : Settings.initParameters env.nvsWrite deviceParameters nvs₁ = (.ok, nvs₂))
    {nvs' : Nvs.Store RelayUnit} (hext : Nvs.Extends nvs₂ nvs') :
    countsOf nvs' = countsOf nvs₁ := by
  funext type
  cases type with
  | actuator =>
      exact uint16OrDefault_of_extends hext (readUint16_initParameters
        deviceParameters_keys_nodup (by simp [deviceParameters]) hinit)
  | sensor =>
      exact uint16OrDefault_of_extends hext (readUint16_initParameters
        deviceParameters_keys_nodup (by simp [deviceParameters]) hinit)

/-- A `device_settings_init` that succeeds has filled in its settings, and gives every
    channel a record and keeps the rest. -/
theorem deviceSettingsInit_records (htyped : UnitsTyped b.nvs)
    (h : deviceSettingsInit env b = some (.ok, b')) :
    ∃ nvs₂, Settings.initParameters env.nvsWrite deviceParameters b.nvs = (.ok, nvs₂) ∧
      Nvs.Extends nvs₂ b'.nvs ∧
      ∀ type, ∀ i < countsOf b.nvs type, unitRecord b'.nvs type i ≠ none := by
  have hcounts := (keysExist_of_deviceSettingsInit h).counts_le
  have htyped₂ := htyped.initParameters env.nvsWrite deviceParameters_keys
  unfold deviceSettingsInit at h
  split at h
  · next nvs₂ hinit =>
      rw [hinit] at htyped₂
      dsimp only at h
      split at h
      · cases h
      · next b₁ hloop =>
          obtain ⟨hfirst, htyped₁, hactuators⟩ := forChannels_extends initActuator_turn
            (fun i hi => Nat.lt_of_lt_of_le (List.mem_range.mp hi) (hcounts .actuator))
            htyped₂ hloop
          obtain ⟨hsecond, _, hsensors⟩ := forChannels_extends initSensor_turn
            (fun i hi => Nat.lt_of_lt_of_le (List.mem_range.mp hi) (hcounts .sensor)) htyped₁ h
          refine ⟨nvs₂, hinit, hfirst.trans hsecond, ?_⟩
          intro type i hi
          cases type with
          | actuator =>
              exact unitRecord_of_extends hsecond (hactuators i (List.mem_range.mpr hi))
          | sensor => exact hsensors i (List.mem_range.mpr hi)
      · next hne _ =>
          cases h
          exact absurd rfl hne
  · next hne _ =>
      cases h
      exact absurd rfl hne

end first

/-- Initialisation completes and preserves: after it has succeeded every required setting
    can be read, everything that was stored has its value, and running it again writes
    nothing. -/
theorem settingsInit_initialised {newDeviceId newDeviceSerial : CStr}
    (htyped : WellTyped b.nvs)
    (h : settingsInit env newDeviceId newDeviceSerial b = some (.ok, b')) :
    Initialised b.nvs b'.nvs := by
  unfold settingsInit baseSettingsInit at h
  split at h
  · next nvs₁ hbase =>
      split at h
      · cases h
      · next b₂ hdevice =>
          cases h
          have hnodup : ((baseParameters newDeviceId newDeviceSerial :
              List (CStr × Nvs.Value RelayUnit)).map Prod.fst).Nodup :=
            baseParameters_keys_nodup newDeviceId newDeviceSerial
          -- the first function
          have hext₁ := initParameters_extends env.nvsWrite hnodup
            (htyped.typedFor newDeviceId newDeviceSerial fun p hp => .inl hp)
          have hunits := htyped.units.initParameters env.nvsWrite
            (baseParameters_keys newDeviceId newDeviceSerial)
          rw [hbase] at hext₁ hunits
          -- it leaves the keys of the second
          have htyped₁ : TypedFor deviceParameters nvs₁ := by
            intro p hp value hget
            have hother : ∀ q ∈ baseParameters newDeviceId newDeviceSerial, q.1 ≠ p.1 :=
              fun q hq heq => deviceParameters_fresh newDeviceId newDeviceSerial p.1
                (List.mem_map_of_mem hp) (heq ▸ List.mem_map_of_mem hq)
            have hframe := initParameters_of_not_mem env.nvsWrite b.nvs hother
            rw [hbase] at hframe
            exact htyped.typedFor newDeviceId newDeviceSerial (fun p hp => .inr hp) p hp value
              (hframe.symm.trans hget)
          obtain ⟨nvs₂, hinit, hext₃, hrecords⟩ := deviceSettingsInit_records hunits hdevice
          have hext₂ := initParameters_extends env.nvsWrite deviceParameters_keys_nodup htyped₁
          rw [hinit] at hext₂
          have hreadable : ∀ s ∈ requiredSettings, readSucceeds b'.nvs s.1 s.2 = true := by
            intro s hs
            obtain ⟨p, hp, hkey, htype⟩ := exists_parameter newDeviceId newDeviceSerial hs
            rw [← hkey, ← isPresent_eq_readSucceeds htype]
            rcases hp with hp | hp
            · exact isPresent_of_extends (hext₂.trans hext₃)
                (initParameters_present hnodup hbase p hp)
            · exact isPresent_of_extends hext₃
                (initParameters_present deviceParameters_keys_nodup hinit p hp)
          have hcounts := countsOf_of_extends hinit hext₃
          have hsettled : Settled b'.nvs := by
            refine ⟨hreadable, ?_, ?_⟩
            · rw [hcounts]
              exact (keysExist_of_deviceSettingsInit hdevice).counts_le
            · rw [hcounts]
              exact hrecords
          exact ⟨hreadable, hext₁.trans (hext₂.trans hext₃), hsettled.nothingToDo⟩
      · cases h
  · cases h

/-- NVS with one setting and one count. -/
def partlySet : Nvs.Store RelayUnit :=
  Nvs.set (Nvs.set Nvs.empty sNamespace sKeyMqttPrefix (.str "home".toList)) sNamespace
    sKeyChannelCount (.u16 1)

theorem partlySet_wellTyped : WellTyped partlySet := by
  have hsettings : ∀ s ∈ requiredSettings,
      (partlySet sNamespace s.1).all fun value => settingsTypeOf value == some s.2 := by
    decide +kernel
  constructor
  · intro s hs value hget
    have htype := hsettings s hs
    rw [hget] at htype
    exact beq_iff_eq.mp htype
  · intro type i _ value hget
    have hprefix : sKeyMqttPrefix ≠ unitKey type i := settingKey_ne (by decide) type i
    have hcount : sKeyChannelCount ≠ unitKey type i := settingKey_ne (by decide) type i
    rw [partlySet, Nvs.set_apply, if_neg fun h => hcount h.symm, Nvs.set_apply,
      if_neg fun h => hprefix h.symm] at hget
    cases hget

theorem settingsInit_initialised_partlySet : ∃ b',
    settingsInit Env.ok "A1B2".toList "serial".toList
      (Board.reset partlySet Gpio.State.initial) = some (.ok, b') ∧
    Initialised partlySet b'.nvs := by
  have hok : (settingsInit Env.ok "A1B2".toList "serial".toList
      (Board.reset partlySet Gpio.State.initial)).map Prod.fst = some .ok := by
    decide +kernel
  obtain ⟨⟨err, b'⟩, hrun, herr⟩ := Option.map_eq_some_iff.mp hok
  dsimp only at herr
  subst herr
  exact ⟨b', hrun, settingsInit_initialised partlySet_wellTyped hrun⟩

end Boot
