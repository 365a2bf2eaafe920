import Mathlib.Data.List.Nodup
import RelayBoard.Platform.Nvs
import RelayBoard.Settings.Keys

/-! # Filling In Missing Settings

  `base_settings_init` of `main/settings.c`: block by block, a parameter that
  can be read is kept and any other is created with its default. The blocks
  of `device_settings_init` before its loops have the same shape.
-/

open CString

namespace Settings

variable {Blob : Type}

/-! ### One Parameter -/

/-- Does the read that goes with the type of the default succeed? -/
def isPresent (nvs : Nvs.Store Blob) (key : CStr) : Nvs.Value Blob → Bool
  | .u16 _ => (Nvs.readUint16 nvs sNamespace key).isOk
  | .u32 _ => (Nvs.readUint32 nvs sNamespace key).isOk
  | .str _ => (Nvs.readString nvs sNamespace key).isOk
  | .blob _ => (Nvs.readBlob nvs sNamespace key).isOk

/-- One block: `nvsWrite` is the outcome of the write under each key. -/
def initParameter (nvsWrite : CStr → Bool) (nvs : Nvs.Store Blob) (key : CStr)
    (default : Nvs.Value Blob) : EspErr × Nvs.Store Blob :=
  if isPresent nvs key default then (.ok, nvs)
  else if nvsWrite key then (.ok, Nvs.set nvs sNamespace key default)
  else (.fail, nvs)

/-- A sequence of blocks; the first failure ends it. -/
def initParameters (nvsWrite : CStr → Bool) :
    List (CStr × Nvs.Value Blob) → Nvs.Store Blob → EspErr × Nvs.Store Blob
  | [], nvs => (.ok, nvs)
  | (key, default) :: parameters, nvs =>
      match initParameter nvsWrite nvs key default with
      | (.ok, nvs) => initParameters nvsWrite parameters nvs
      | (err, nvs) => (err, nvs)

/-- The blocks of `base_settings_init`, in order. The device id is the MAC
    address in hexadecimal, the serial comes from the random generator. -/
def baseParameters (newDeviceId newDeviceSerial : CStr) : List (CStr × Nvs.Value Blob) :=
  [(sKeyMqttConnect, .u16 sDefaultMqttConnect),
    (sKeyMqttServer, .str sDefaultMqttServer),
    (sKeyMqttPort, .u16 sDefaultMqttPort),
    (sKeyMqttProtocol, .str sDefaultMqttProtocol),
    (sKeyMqttUser, .str sDefaultMqttUser),
    (sKeyMqttPassword, .str sDefaultMqttPassword),
    (sKeyMqttPrefix, .str sDefaultMqttPrefix),
    (sKeyHaPrefix, .str sDefaultHaPrefix),
    (sKeyDeviceId, .str newDeviceId),
    (sKeyDeviceSerial, .str newDeviceSerial),
    (sKeyHaUpdateInterval, .u32 sDefaultHaUpdateInterval),
    (sKeyOtaUpdateUrl, .str sDefaultOtaUpdateUrl),
    (sKeyOtaUpdateResetConfig, .u16 sDefaultOtaUpdateResetConfig),
    (sKeyNetLoggingType, .u16 sDefaultNetLoggingType),
    (sKeyNetLoggingHost, .str sDefaultNetLoggingHost),
    (sKeyNetLoggingPort, .u16 sDefaultNetLoggingPort),
    (sKeyNetLoggingKeepStdout, .u16 sDefaultNetLoggingKeepStdout),
    (sKeyStatusMemguardMode, .u16 sDefaultStatusMemguardMode),
    (sKeyStatusMemguardThreshold, .u32 sDefaultStatusMemguardThreshold)]

/-- `base_settings_init`. -/
def baseSettingsInit (nvsWrite : CStr → Bool) (newDeviceId newDeviceSerial : CStr)
    (nvs : Nvs.Store Blob) : EspErr × Nvs.Store Blob :=
  initParameters nvsWrite (baseParameters newDeviceId newDeviceSerial) nvs

/-- A number as its block leaves it in the local variable. -/
def uint16OrDefault (nvs : Nvs.Store Blob) (key : CStr) (default : Nat) : Nat :=
  match Nvs.readUint16 nvs sNamespace key with
  | .ok n => n
  | .error _ => default

/-! ### What a Block Does -/

/-- The values that the read of the default's type returns. -/
def SameType : Nvs.Value Blob → Nvs.Value Blob → Prop
  | .u16 _, .u16 _ => True
  | .u32 _, .u32 _ => True
  | .str _, .str _ => True
  | .blob _, .blob _ => True
  | _, _ => False

theorem isPresent_iff {nvs : Nvs.Store Blob} {key : CStr} {default : Nvs.Value Blob} :
    isPresent nvs key default = true ↔
      ∃ value, nvs sNamespace key = some value ∧ SameType value default := by
  cases default <;> cases hget : nvs sNamespace key with
    | none =>
        simp [isPresent, Nvs.readUint16, Nvs.readUint32, Nvs.readString, Nvs.readBlob, hget,
          Except.isOk, Except.toBool]
    | some value =>
        cases value <;>
          simp [isPresent, Nvs.readUint16, Nvs.readUint32, Nvs.readString, Nvs.readBlob, hget,
            Except.isOk, Except.toBool, SameType]

/-- A block writes under its own key only. -/
theorem initParameter_of_ne (nvsWrite : CStr → Bool) (nvs : Nvs.Store Blob)
    {key key' : CStr} (default : Nvs.Value Blob) (hne : key' ≠ key) :
    (initParameter nvsWrite nvs key default).2 sNamespace key' = nvs sNamespace key' := by
  unfold initParameter
  split
  · rfl
  · split
    · exact Nvs.set_ne nvs sNamespace key key' default hne
    · rfl

/-- A block keeps a value that it can read. -/
theorem initParameter_of_present {nvsWrite : CStr → Bool} {nvs : Nvs.Store Blob} {key : CStr}
    {default value : Nvs.Value Blob} (hget : nvs sNamespace key = some value)
    (htype : SameType value default) : initParameter nvsWrite nvs key default = (.ok, nvs) := by
  unfold initParameter
  rw [if_pos (isPresent_iff.mpr ⟨value, hget, htype⟩)]

/-- A block that succeeds leaves what it could read, or else the default. -/
theorem initParameter_get {nvsWrite : CStr → Bool} {nvs nvs' : Nvs.Store Blob} {key : CStr}
    {default : Nvs.Value Blob} (h : initParameter nvsWrite nvs key default = (.ok, nvs')) :
    nvs' sNamespace key =
      if isPresent nvs key default then nvs sNamespace key else some default := by
  unfold initParameter at h
  by_cases hpres : isPresent nvs key default = true
  · rw [if_pos hpres] at h ⊢
    cases h
    rfl
  · rw [if_neg hpres] at h ⊢
    split at h
    · cases h
      exact Nvs.set_self ..
    · cases h

theorem initParameter_ok {nvsWrite : CStr → Bool} (nvs : Nvs.Store Blob) {key : CStr}
    (default : Nvs.Value Blob) (hwrite : nvsWrite key = true) :
    ∃ nvs', initParameter nvsWrite nvs key default = (.ok, nvs') := by
  unfold initParameter
  rw [hwrite]
  by_cases hpres : isPresent nvs key default = true
  · exact ⟨nvs, by rw [if_pos hpres]⟩
  · exact ⟨_, by rw [if_neg hpres]; rfl⟩

/-- What a block can read depends on the value under its key. -/
theorem isPresent_congr {nvs nvs' : Nvs.Store Blob} {key : CStr}
    (h : nvs' sNamespace key = nvs sNamespace key) (default : Nvs.Value Blob) :
    isPresent nvs' key default = isPresent nvs key default := by
  rw [Bool.eq_iff_iff, isPresent_iff, isPresent_iff, h]

/-! ### What a Sequence of Blocks Does -/

/-- A key without a block is left alone. -/
theorem initParameters_of_not_mem (nvsWrite : CStr → Bool) {key : CStr}
    {parameters : List (CStr × Nvs.Value Blob)} (nvs : Nvs.Store Blob)
    (h : ∀ p ∈ parameters, p.1 ≠ key) :
    (initParameters nvsWrite parameters nvs).2 sNamespace key = nvs sNamespace key := by
  induction parameters generalizing nvs with
  | nil => rfl
  | cons p parameters ih =>
      have hstep := initParameter_of_ne nvsWrite nvs p.2 (h p List.mem_cons_self).symm
      unfold initParameters
      split
      · next nvs' hinit =>
          rw [hinit] at hstep
          rw [ih nvs' fun q hq => h q (List.mem_cons_of_mem _ hq)]
          exact hstep
      · next hinit =>
          rw [hinit] at hstep
          exact hstep

/-- A value of the type its block expects is kept. -/
theorem initParameters_of_present {nvsWrite : CStr → Bool} {key : CStr}
    {value : Nvs.Value Blob} {parameters : List (CStr × Nvs.Value Blob)}
    {nvs : Nvs.Store Blob} (hget : nvs sNamespace key = some value)
    (h : ∀ p ∈ parameters, p.1 = key → SameType value p.2) :
    (initParameters nvsWrite parameters nvs).2 sNamespace key = some value := by
  induction parameters generalizing nvs with
  | nil => exact hget
  | cons p parameters ih =>
      have hstep : (initParameter nvsWrite nvs p.1 p.2).2 sNamespace key = some value := by
        by_cases heq : p.1 = key
        · have htype := h p List.mem_cons_self heq
          rw [initParameter_of_present (heq ▸ hget) htype]
          exact hget
        · rw [initParameter_of_ne nvsWrite nvs p.2 (Ne.symm heq)]
          exact hget
      unfold initParameters
      split
      · next nvs' hinit =>
          rw [hinit] at hstep
          exact ih hstep fun q hq => h q (List.mem_cons_of_mem _ hq)
      · next hinit =>
          rw [hinit] at hstep
          exact hstep

/-- With distinct keys, a value of the type of its own default is kept. -/
theorem initParameters_keeps {nvsWrite : CStr → Bool} {key : CStr}
    {value default : Nvs.Value Blob} {parameters : List (CStr × Nvs.Value Blob)}
    {nvs : Nvs.Store Blob} (hnodup : (parameters.map Prod.fst).Nodup)
    (hmem : (key, default) ∈ parameters) (htype : SameType value default)
    (hget : nvs sNamespace key = some value) :
    (initParameters nvsWrite parameters nvs).2 sNamespace key = some value := by
  apply initParameters_of_present hget
  intro p hp heq
  have hpair : p = (key, default) := List.inj_on_of_nodup_map hnodup hp hmem heq
  rw [hpair]
  exact htype

/-- When all blocks succeed, each parameter is what its block could read, or else
    its default. -/
theorem initParameters_get {nvsWrite : CStr → Bool} {key : CStr}
    {default : Nvs.Value Blob} {parameters : List (CStr × Nvs.Value Blob)}
    {nvs nvs' : Nvs.Store Blob} (hnodup : (parameters.map Prod.fst).Nodup)
    (hmem : (key, default) ∈ parameters)
    (h : initParameters nvsWrite parameters nvs = (.ok, nvs')) :
    nvs' sNamespace key =
      if isPresent nvs key default then nvs sNamespace key else some default := by
  induction parameters generalizing nvs with
  | nil => exact absurd hmem List.not_mem_nil
  | cons p parameters ih =>
      rw [List.map_cons, List.nodup_cons] at hnodup
      unfold initParameters at h
      split at h
      · next nvs₁ hinit =>
          rcases List.mem_cons.mp hmem with rfl | hmem
          · -- the later blocks have other keys
            have hrest : nvs' sNamespace key = nvs₁ sNamespace key := by
              have hother : ∀ q ∈ parameters, q.1 ≠ key := by
                rintro q hq rfl
                exact hnodup.1 (List.mem_map.mpr ⟨q, hq, rfl⟩)
              have hframe := initParameters_of_not_mem nvsWrite nvs₁ hother
              rw [h] at hframe
              exact hframe
            rw [hrest]
            exact initParameter_get hinit
          · have hne : key ≠ p.1 := by
              intro heq
              rw [← heq] at hnodup
              exact hnodup.1 (List.mem_map.mpr ⟨(key, default), hmem, rfl⟩)
            have hframe := initParameter_of_ne nvsWrite nvs p.2 hne
            rw [hinit] at hframe
            rw [ih hnodup.2 hmem h, isPresent_congr hframe]
            dsimp only at hframe
            rw [hframe]
      · next hne _ =>
          cases h
          exact absurd rfl hne

/-- A 16-bit parameter can be read afterwards. -/
theorem readUint16_initParameters {nvsWrite : CStr → Bool} {key : CStr} {default : Nat}
    {parameters : List (CStr × Nvs.Value Blob)} {nvs nvs' : Nvs.Store Blob}
    (hnodup : (parameters.map Prod.fst).Nodup) (hmem : (key, .u16 default) ∈ parameters)
    (h : initParameters nvsWrite parameters nvs = (.ok, nvs')) :
    Nvs.readUint16 nvs' sNamespace key = .ok (uint16OrDefault nvs key default) := by
  have hget := initParameters_get hnodup hmem h
  apply Nvs.readUint16_eq_ok_iff.mpr
  rw [hget]
  unfold uint16OrDefault isPresent
  cases hread : Nvs.readUint16 nvs sNamespace key with
  | ok n => exact Nvs.readUint16_eq_ok_iff.mp hread
  | error err => rfl

/-- When every write succeeds all blocks succeed. -/
theorem initParameters_ok {nvsWrite : CStr → Bool} (hwrite : ∀ key, nvsWrite key = true)
    (parameters : List (CStr × Nvs.Value Blob)) (nvs : Nvs.Store Blob) :
    ∃ nvs', initParameters nvsWrite parameters nvs = (.ok, nvs') := by
  induction parameters generalizing nvs with
  | nil => exact ⟨nvs, rfl⟩
  | cons p parameters ih =>
      obtain ⟨nvs₁, hinit⟩ := initParameter_ok nvs p.2 (hwrite p.1)
      obtain ⟨nvs', hrest⟩ := ih nvs₁
      refine ⟨nvs', ?_⟩
      unfold initParameters
      rw [hinit]
      exact hrest

theorem baseParameters_keys_nodup (newDeviceId newDeviceSerial : CStr) :
    ((baseParameters newDeviceId newDeviceSerial :
      List (CStr × Nvs.Value Blob)).map Prod.fst).Nodup := by
  simp only [baseParameters, List.map_cons, List.map_nil]
  decide

end Settings
