import RelayBoard.Settings.Apply
import RelayBoard.Settings.Base

/-! # Required Settings

  The settings that the firmware reads without looking at the result: those of
  `s_settings`, and the device identity. The file says when such a read succeeds, and
  what a sequence of blocks that fills in settings keeps.
-/

open CString

namespace Nvs

variable {Blob : Type}

/-! ### Stores That Only Grow -/

/-- What is stored in `nvs` is stored in `nvs'`. -/
def Extends (nvs nvs' : Store Blob) : Prop :=
  ∀ ns key value, nvs ns key = some value → nvs' ns key = some value

theorem Extends.refl (nvs : Store Blob) : Extends nvs nvs := fun _ _ _ h => h

theorem Extends.trans {nvs nvs' nvs'' : Store Blob} (h : Extends nvs nvs')
    (h' : Extends nvs' nvs'') : Extends nvs nvs'' :=
  fun ns key value hget => h' ns key value (h ns key value hget)

/-- A write under a free key keeps everything else. -/
theorem extends_set {nvs : Store Blob} {ns key : CStr} (hfree : nvs ns key = none)
    (value : Value Blob) : Extends nvs (set nvs ns key value) := by
  intro ns' key' value' hget
  have hne : ¬ (ns' = ns ∧ key' = key) := by
    intro ⟨hns, hkey⟩
    rw [hns, hkey, hfree] at hget
    cases hget
  unfold set
  rw [if_neg hne]
  exact hget

end Nvs

namespace Settings

variable {Blob : Type}

/-! ### Reads -/

/-- The type of a setting with this value. -/
def settingsTypeOf : Nvs.Value Blob → Option SettingsType
  | .u16 _ => some .uint16
  | .u32 _ => some .uint32
  | .str _ => some .string
  | .blob _ => none

/-- The keys of `s_settings` and of the identity, with their types. -/
def requiredSettings : List (CStr × SettingsType) :=
  (sKeyDeviceId, .string) :: (sKeyDeviceSerial, .string) ::
    sSettings.map fun e => (e.key, e.typeT)

/-- Does the read of a setting of this type succeed? -/
def readSucceeds (nvs : Nvs.Store Blob) (key : CStr) : SettingsType → Bool
  | .uint16 => (Nvs.readUint16 nvs sNamespace key).isOk
  | .uint32 => (Nvs.readUint32 nvs sNamespace key).isOk
  | .string => (Nvs.readString nvs sNamespace key).isOk

/-- A block looks for its parameter by the read of its type. -/
theorem isPresent_eq_readSucceeds {nvs : Nvs.Store Blob} {key : CStr}
    {default : Nvs.Value Blob} {type : SettingsType} (h : settingsTypeOf default = some type) :
    isPresent nvs key default = readSucceeds nvs key type := by
  cases default with
  | blob _ => cases h
  | _ =>
      cases h
      rfl

theorem sameType_iff {value default : Nvs.Value Blob} {type : SettingsType}
    (h : settingsTypeOf default = some type) :
    SameType value default ↔ settingsTypeOf value = some type := by
  cases default with
  | blob _ => cases h
  | _ =>
      cases h
      cases value <;> simp [SameType, settingsTypeOf]

/-! ### Blocks That Keep What Is There -/

/-- What is stored under the keys of the blocks has the type of their defaults. -/
def TypedFor (parameters : List (CStr × Nvs.Value Blob)) (nvs : Nvs.Store Blob) : Prop :=
  ∀ p ∈ parameters, ∀ value, nvs sNamespace p.1 = some value → SameType value p.2

theorem initParameter_extends (nvsWrite : CStr → Bool) {nvs : Nvs.Store Blob} {key : CStr}
    {default : Nvs.Value Blob}
    (htyped : ∀ value, nvs sNamespace key = some value → SameType value default) :
    Nvs.Extends nvs (initParameter nvsWrite nvs key default).2 := by
  unfold initParameter
  split
  · exact Nvs.Extends.refl nvs
  · next hpresent =>
      split
      · -- a value that is there could have been read
        apply Nvs.extends_set
        cases hget : nvs sNamespace key with
        | none => rfl
        | some value =>
            exact absurd (isPresent_iff.mpr ⟨value, hget, htyped value hget⟩) hpresent
      · exact Nvs.Extends.refl nvs

/-- Blocks with distinct keys keep what is there. -/
theorem initParameters_extends (nvsWrite : CStr → Bool)
    {parameters : List (CStr × Nvs.Value Blob)} {nvs : Nvs.Store Blob}
    (hnodup : (parameters.map Prod.fst).Nodup) (htyped : TypedFor parameters nvs) :
    Nvs.Extends nvs (initParameters nvsWrite parameters nvs).2 := by
  induction parameters generalizing nvs with
  | nil => exact Nvs.Extends.refl nvs
  | cons p parameters ih =>
      rw [List.map_cons, List.nodup_cons] at hnodup
      have hhead := initParameter_extends nvsWrite (htyped p List.mem_cons_self)
      unfold initParameters
      split
      · next nvs₁ hinit =>
          rw [hinit] at hhead
          apply hhead.trans
          apply ih hnodup.2
          intro q hq value hget
          have hne : q.1 ≠ p.1 := fun heq => hnodup.1 (heq ▸ List.mem_map_of_mem hq)
          have hsame := initParameter_of_ne nvsWrite nvs p.2 hne
          rw [hinit] at hsame
          exact htyped q (List.mem_cons_of_mem _ hq) value (hsame ▸ hget)
      · next hinit =>
          rw [hinit] at hhead
          exact hhead

/-- Blocks that find their parameters do nothing, whatever a write would do. -/
theorem initParameters_of_all_present (nvsWrite : CStr → Bool)
    {parameters : List (CStr × Nvs.Value Blob)} {nvs : Nvs.Store Blob}
    (h : ∀ p ∈ parameters, isPresent nvs p.1 p.2 = true) :
    initParameters nvsWrite parameters nvs = (.ok, nvs) := by
  induction parameters with
  | nil => rfl
  | cons p parameters ih =>
      have hhead : initParameter nvsWrite nvs p.1 p.2 = (.ok, nvs) := by
        unfold initParameter
        rw [if_pos (h p List.mem_cons_self)]
      unfold initParameters
      rw [hhead]
      exact ih fun q hq => h q (List.mem_cons_of_mem _ hq)

/-- Blocks that succeed leave every parameter to be read. -/
theorem initParameters_present {nvsWrite : CStr → Bool}
    {parameters : List (CStr × Nvs.Value Blob)} {nvs nvs' : Nvs.Store Blob}
    (hnodup : (parameters.map Prod.fst).Nodup)
    (h : initParameters nvsWrite parameters nvs = (.ok, nvs')) :
    ∀ p ∈ parameters, isPresent nvs' p.1 p.2 = true := by
  intro p hp
  have hget : nvs' sNamespace p.1 =
      if isPresent nvs p.1 p.2 then nvs sNamespace p.1 else some p.2 :=
    initParameters_get hnodup hp h
  apply isPresent_iff.mpr
  by_cases hpresent : isPresent nvs p.1 p.2 = true
  · rw [if_pos hpresent] at hget
    obtain ⟨value, hvalue, htype⟩ := isPresent_iff.mp hpresent
    exact ⟨value, hget.trans hvalue, htype⟩
  · rw [if_neg hpresent] at hget
    refine ⟨p.2, hget, ?_⟩
    cases p.2 <;> trivial

/-- What can be read stays so as the store grows. -/
theorem isPresent_of_extends {nvs nvs' : Nvs.Store Blob} (h : Nvs.Extends nvs nvs')
    {key : CStr} {default : Nvs.Value Blob} (hpresent : isPresent nvs key default = true) :
    isPresent nvs' key default = true := by
  obtain ⟨value, hget, htype⟩ := isPresent_iff.mp hpresent
  exact isPresent_iff.mpr ⟨value, h _ _ _ hget, htype⟩

end Settings
