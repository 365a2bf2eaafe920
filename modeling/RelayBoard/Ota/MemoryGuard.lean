import RelayBoard.Framework.Transition
import RelayBoard.Settings.Base
import RelayBoard.Settings.Ranges

/-! # The Memory-Guard Mode During an Update

  `ota_update_task` of `main/settings.c` reads the memory-guard mode, writes
  the disabled mode, downloads, and writes back what it read. Every POST to
  `/ota-update` starts such a task, whether or not one is running. The model
  interleaves any number of them with `apply_setting` and with restarts at
  any point; the branch that resets the configuration is left out.
-/

open CString LTS Settings

namespace OtaMemoryGuard

variable {Blob : Type}

/-! ### State -/

/-- FreeRTOS tasks. -/
abbrev Task : Type := Nat

/-- Where an `ota_update_task` stands. From its read on it holds
    `current_memguard_mode`. -/
inductive Pc where
  /-- Not running. -/
  | idle
  /-- Created, about to read the mode. -/
  | started
  /-- About to write `MEMGRD_MODE_DISABLED`. -/
  | saved (currentMemguardMode : Nat)
  /-- In `perform_ota_update`. -/
  | downloading (currentMemguardMode : Nat)
  /-- Done with the download, about to write the mode back. -/
  | restoring (currentMemguardMode : Nat)
  deriving DecidableEq, Repr

/-- NVS and the tasks, with what happened to the mode so far. -/
structure State (Blob : Type) where
  nvs : Nvs.Store Blob
  /-- History: the mode the user set last, or the default. -/
  userMode : Nat
  /-- History: the last write of the mode was a task's disabling one. -/
  guardOff : Bool
  /-- Position of each task. -/
  pc : Task → Pc

/-- The mode a task holds. -/
def Pc.held : Pc → Option Nat
  | .saved m => some m
  | .downloading m => some m
  | .restoring m => some m
  | _ => none

/-- Move task `t` to `p`. -/
def setPc (s : State Blob) (t : Task) (p : Pc) : State Blob :=
  { s with pc := fun t' => if t' = t then p else s.pc t' }

/-- `nvs_write_uint16` of the memory-guard mode. -/
def writeMode (s : State Blob) (mode : Nat) : State Blob :=
  { s with nvs := Nvs.set s.nvs sNamespace sKeyStatusMemguardMode (.u16 mode) }

/-- The disabling write of a task. -/
def disableGuard (s : State Blob) : State Blob :=
  { writeMode s memgrdModeDisabled.toNat with guardOff := true }

/-- The restoring write of a task. -/
def restoreMode (s : State Blob) (mode : Nat) : State Blob :=
  { writeMode s mode with guardOff := false }

/-- A change of the mode by the user. -/
def setUserMode (s : State Blob) (mode : Nat) : State Blob :=
  { writeMode s mode with userMode := mode, guardOff := false }

/-- The read at the start of `ota_update_task`; the default stays when it fails. -/
def currentMemguardMode (s : State Blob) : Nat :=
  match Nvs.readUint16 s.nvs sNamespace sKeyStatusMemguardMode with
  | .ok mode => mode
  | .error _ => sDefaultStatusMemguardMode

/-! ### Steps -/

/-- An access of one task to NVS, or an event around the tasks. -/
inductive Label where
  /-- `ota_post_handler` creates a task. -/
  | otaPost (t : Task)
  /-- "Store current memory guard mode". -/
  | save (t : Task)
  /-- "Disable memory guard for OTA update task". -/
  | disable (t : Task)
  /-- `perform_ota_update` returns, and after a success the storage update. -/
  | download (t : Task) (ok : Bool)
  /-- "Restore previous memory guard mode", in either branch. -/
  | restore (t : Task)
  /-- `apply_setting`, with the outcome of its write. -/
  | applySetting (writeOk : Bool) (key : Option CStr) (val : Option Json)
      (out : SettingUpdateMsg)
  /-- A power loss, a crash, a failed `ESP_ERROR_CHECK` or `system_reboot`,
      followed by `base_settings_init`. -/
  | restart (nvsWrite : CStr → Bool) (newDeviceId newDeviceSerial : CStr)

/-- The state after `apply_setting`: an accepted change of the mode is the user's. -/
def afterApply (s : State Blob) (writeOk : Bool) (key : Option CStr) (val : Option Json)
    (out : SettingUpdateMsg) : State Blob :=
  let (err, _, nvs) := applySetting writeOk s.nvs key val out
  match err, key, val with
  | .ok, some key, some val =>
      if key = sKeyStatusMemguardMode then
        { s with nvs := nvs, userMode := val.uint16OfDouble, guardOff := false }
      else { s with nvs := nvs }
  | _, _, _ => { s with nvs := nvs }

/-- The state after a restart. -/
def afterRestart (s : State Blob) (nvsWrite : CStr → Bool)
    (newDeviceId newDeviceSerial : CStr) : State Blob :=
  { s with
    nvs := (baseSettingsInit nvsWrite newDeviceId newDeviceSerial s.nvs).2
    pc := fun _ => .idle }

/-- The steps of all tasks. -/
def step (s : State Blob) (l : Label) (s' : State Blob) : Prop :=
  match l with
  | .otaPost t => s.pc t = .idle ∧ s' = setPc s t .started
  | .save t => s.pc t = .started ∧ s' = setPc s t (.saved (currentMemguardMode s))
  | .disable t => ∃ mode, s.pc t = .saved mode ∧
      s' = setPc (disableGuard s) t (.downloading mode)
  | .download t _ => ∃ mode, s.pc t = .downloading mode ∧ s' = setPc s t (.restoring mode)
  | .restore t => ∃ mode, s.pc t = .restoring mode ∧
      s' = setPc (restoreMode s mode) t .idle
  | .applySetting writeOk key val out => s' = afterApply s writeOk key val out
  | .restart nvsWrite newDeviceId newDeviceSerial =>
      s' = afterRestart s nvsWrite newDeviceId newDeviceSerial

/-- A booted device on which the mode was never set: `base_settings_init` has
    written the default, and no task runs. -/
def Initial (s : State Blob) : Prop :=
  s.nvs sNamespace sKeyStatusMemguardMode = some (.u16 sDefaultStatusMemguardMode) ∧
    s.userMode = sDefaultStatusMemguardMode ∧ s.guardOff = false ∧ ∀ t, s.pc t = .idle

/-- The tasks around the memory-guard mode. -/
def otaSystem (Blob : Type) : System (State Blob) Label where
  init := Initial
  step := step

/-! ### The Property -/

/-- While no OTA task runs, NVS holds the user's mode. -/
def ModeKept (s : State Blob) : Prop :=
  (∀ t, s.pc t = .idle) →
    Nvs.readUint16 s.nvs sNamespace sKeyStatusMemguardMode = .ok s.userMode

/-- The side condition. No task saves the mode, and the chip does not restart,
    while the mode stands disabled by a task, unless the user's mode is the
    disabled one anyway. The user does not change the mode while a task holds
    a saved one. -/
def Undisturbed (s : State Blob) : Label → Prop
  | .save _ => s.guardOff = false ∨ s.userMode = memgrdModeDisabled.toNat
  | .restart _ _ _ => s.guardOff = false ∨ s.userMode = memgrdModeDisabled.toNat
  | .applySetting writeOk (some key) (some val) out =>
      key = sKeyStatusMemguardMode →
      (applySetting writeOk s.nvs (some key) (some val) out).1 = .ok →
        val.uint16OfDouble = s.userMode ∨ ∀ t, (s.pc t).held = none
  | _ => True

/-! ### Field Lemmas -/

@[simp] theorem setPc_self (s : State Blob) (t : Task) (p : Pc) :
    (setPc s t p).pc t = p := by
  simp [setPc]

theorem setPc_ne (s : State Blob) {t t' : Task} (p : Pc) (h : t' ≠ t) :
    (setPc s t p).pc t' = s.pc t' := by
  simp [setPc, h]

@[simp] theorem writeMode_stored (s : State Blob) (mode : Nat) :
    (writeMode s mode).nvs sNamespace sKeyStatusMemguardMode = some (.u16 mode) := by
  simp [writeMode]

@[simp] theorem disableGuard_pc (s : State Blob) : (disableGuard s).pc = s.pc := rfl

@[simp] theorem restoreMode_pc (s : State Blob) (mode : Nat) :
    (restoreMode s mode).pc = s.pc := rfl

@[simp] theorem setUserMode_pc (s : State Blob) (mode : Nat) :
    (setUserMode s mode).pc = s.pc := rfl

/-- `base_settings_init` keeps a mode that is stored. -/
theorem afterRestart_stored {s : State Blob} {mode : Nat}
    (h : s.nvs sNamespace sKeyStatusMemguardMode = some (.u16 mode))
    (nvsWrite : CStr → Bool) (newDeviceId newDeviceSerial : CStr) :
    (afterRestart s nvsWrite newDeviceId newDeviceSerial).nvs sNamespace
      sKeyStatusMemguardMode = some (.u16 mode) := by
  have hmem : (sKeyStatusMemguardMode, Nvs.Value.u16 sDefaultStatusMemguardMode) ∈
      (baseParameters newDeviceId newDeviceSerial : List (CStr × Nvs.Value Blob)) := by
    unfold baseParameters
    simp only [List.mem_cons, true_or, or_true]
  exact initParameters_keeps (baseParameters_keys_nodup _ _) hmem trivial h

theorem memgrdMode_mem_sSettings :
    (⟨sKeyStatusMemguardMode, some handleSettingMemgrdMode, 0, .uint16⟩ : SettingEntry) ∈
      sSettings := by
  unfold sSettings
  simp only [List.mem_cons, true_or, or_true]

/-- `apply_setting` either sets the mode to what the user asked for or leaves
    the record of the mode alone. -/
theorem afterApply_cases (s : State Blob) (writeOk : Bool) (key : Option CStr)
    (val : Option Json) (out : SettingUpdateMsg) :
    (∃ v, key = some sKeyStatusMemguardMode ∧ val = some v ∧
      (applySetting writeOk s.nvs key val out).1 = .ok ∧
      afterApply s writeOk key val out = setUserMode s v.uint16OfDouble) ∨
    (∃ nvs, nvs sNamespace sKeyStatusMemguardMode = s.nvs sNamespace sKeyStatusMemguardMode ∧
      (key = some sKeyStatusMemguardMode → (applySetting writeOk s.nvs key val out).1 ≠ .ok) ∧
      afterApply s writeOk key val out = { s with nvs := nvs }) := by
  by_cases hok : (applySetting writeOk s.nvs key val out).1 = .ok
  · cases key with
    | none => exact absurd hok (by unfold applySetting; simp)
    | some key =>
        cases val with
        | none => exact absurd hok (by unfold applySetting; simp)
        | some v =>
            obtain ⟨out', nvs', hres⟩ : ∃ out' nvs',
                applySetting writeOk s.nvs (some key) (some v) out = (.ok, out', nvs') :=
              ⟨_, _, Prod.ext hok rfl⟩
            obtain ⟨e, value, he, _, hvalue, rfl⟩ := applySetting_eq_ok hres
            -- only the entry of the mode itself writes the mode
            by_cases hkey : key = sKeyStatusMemguardMode
            · subst hkey
              left
              rw [findSetting_of_mem memgrdMode_mem_sSettings] at he
              cases he
              have hstored : value = .u16 v.uint16OfDouble := by
                unfold settingValue at hvalue
                dsimp only at hvalue
                split at hvalue <;> cases hvalue
                rfl
              refine ⟨v, rfl, rfl, hok, ?_⟩
              unfold afterApply
              rw [hres, hstored]
              exact if_pos rfl
            · right
              refine ⟨_, Nvs.set_ne s.nvs sNamespace key _ value (Ne.symm hkey),
                fun h => absurd (Option.some.inj h) hkey, ?_⟩
              unfold afterApply
              rw [hres]
              exact if_neg hkey
  · -- nothing was written
    right
    refine ⟨s.nvs, rfl, fun _ => hok, ?_⟩
    have hnvs := applySetting_of_ne_ok hok
    unfold afterApply
    generalize hres : applySetting writeOk s.nvs key val out = res at hok hnvs
    obtain ⟨err, out', nvs'⟩ := res
    dsimp only at hok hnvs ⊢
    subst hnvs
    split
    · exact absurd rfl hok
    · rfl

/-! ### Inductive Invariant -/

/-- What every undisturbed run keeps. -/
structure SafetyInv (s : State Blob) : Prop where
  /-- NVS holds the user's mode, unless a task has disabled the guard. -/
  stored : s.nvs sNamespace sKeyStatusMemguardMode =
    some (.u16 (if s.guardOff then memgrdModeDisabled.toNat else s.userMode))
  /-- A disabled guard is the user's choice or has a task that will restore it. -/
  guardOff_running : s.guardOff = true →
    s.userMode = memgrdModeDisabled.toNat ∨ ∃ t, s.pc t ≠ .idle
  /-- A task that holds a mode holds the user's. -/
  held_eq : ∀ t mode, (s.pc t).held = some mode → mode = s.userMode

/-- Unless a task has disabled a guard that the user wants, the stored mode is
    the user's. -/
theorem SafetyInv.stored_userMode {s : State Blob} (hinv : SafetyInv s)
    (h : s.guardOff = false ∨ s.userMode = memgrdModeDisabled.toNat) :
    s.nvs sNamespace sKeyStatusMemguardMode = some (.u16 s.userMode) := by
  rw [hinv.stored]
  rcases h with h | h
  · rw [h]
    rfl
  · rw [h, ite_self]

theorem SafetyInv.currentMemguardMode_eq {s : State Blob} (hinv : SafetyInv s)
    (h : s.guardOff = false ∨ s.userMode = memgrdModeDisabled.toNat) :
    currentMemguardMode s = s.userMode := by
  unfold currentMemguardMode
  rw [Nvs.readUint16_eq_ok_iff.mpr (hinv.stored_userMode h)]

theorem safetyInv_initial {s : State Blob} (h : Initial s) : SafetyInv s := by
  obtain ⟨hstored, huser, hoff, hidle⟩ := h
  refine ⟨?_, ?_, ?_⟩
  · rw [hstored, hoff, huser]
    rfl
  · intro hon
    rw [hoff] at hon
    cases hon
  · intro t mode hheld
    rw [hidle t] at hheld
    cases hheld

/-- A task may move to a point where it is still running and holds the user's
    mode if it holds one. -/
theorem SafetyInv.setPc {s : State Blob} (hinv : SafetyInv s) (t : Task) {p : Pc}
    (hrun : p ≠ .idle) (hheld : ∀ mode, p.held = some mode → mode = s.userMode) :
    SafetyInv (setPc s t p) := by
  refine ⟨hinv.stored, ?_, ?_⟩
  · intro _
    refine Or.inr ⟨t, ?_⟩
    rw [setPc_self]
    exact hrun
  · intro t' mode h
    by_cases heq : t' = t
    · rw [heq, setPc_self] at h
      exact hheld mode h
    · rw [setPc_ne s p heq] at h
      exact hinv.held_eq t' mode h

/-- The disabling write of a running task. -/
theorem SafetyInv.disable {s : State Blob} (hinv : SafetyInv s) {t : Task} {mode : Nat}
    (hpc : s.pc t = .saved mode) :
    SafetyInv (OtaMemoryGuard.setPc (disableGuard s) t (.downloading mode)) := by
  have hmode : mode = s.userMode := hinv.held_eq t mode (by rw [hpc]; rfl)
  have hwritten : SafetyInv (disableGuard s) := by
    refine ⟨writeMode_stored s _, ?_, hinv.held_eq⟩
    intro _
    refine Or.inr ⟨t, ?_⟩
    show s.pc t ≠ .idle
    rw [hpc]
    simp
  apply hwritten.setPc t (by simp)
  intro mode' h
  cases h
  exact hmode

/-- The restoring write of a task that holds the user's mode. -/
theorem SafetyInv.restore {s : State Blob} (hinv : SafetyInv s) {t : Task} {mode : Nat}
    (hpc : s.pc t = .restoring mode) :
    SafetyInv (OtaMemoryGuard.setPc (restoreMode s mode) t .idle) := by
  have hmode : mode = s.userMode := hinv.held_eq t mode (by rw [hpc]; rfl)
  subst hmode
  refine ⟨writeMode_stored s _, ?_, ?_⟩
  · intro hon
    cases hon
  · intro t' mode h
    by_cases heq : t' = t
    · rw [heq, setPc_self] at h
      cases h
    · rw [setPc_ne _ _ heq] at h
      exact hinv.held_eq t' mode h

/-- A change of the mode by the user while no task holds another one. -/
theorem SafetyInv.userChange {s : State Blob} (hinv : SafetyInv s) {mode : Nat}
    (h : mode = s.userMode ∨ ∀ t, (s.pc t).held = none) :
    SafetyInv (setUserMode s mode) := by
  refine ⟨writeMode_stored s mode, ?_, ?_⟩
  · intro hon
    cases hon
  · intro t mode' hheld
    rcases h with h | h
    · rw [h]
      exact hinv.held_eq t mode' hheld
    · have hnone : (s.pc t).held = some mode' := hheld
      rw [h t] at hnone
      cases hnone

/-- A restart while the stored mode is the user's. -/
theorem SafetyInv.restart {s : State Blob} (hinv : SafetyInv s)
    (h : s.guardOff = false ∨ s.userMode = memgrdModeDisabled.toNat)
    (nvsWrite : CStr → Bool) (newDeviceId newDeviceSerial : CStr) :
    SafetyInv (afterRestart s nvsWrite newDeviceId newDeviceSerial) := by
  refine ⟨afterRestart_stored hinv.stored _ _ _, ?_, ?_⟩
  · intro hon
    rcases h with h | h
    · have hon' : s.guardOff = true := hon
      rw [h] at hon'
      cases hon'
    · exact Or.inl h
  · intro t mode hheld
    cases hheld

/-- Every undisturbed step keeps the invariant. -/
theorem safetyInv_step {s s' : State Blob} {l : Label} (hinv : SafetyInv s)
    (hcond : Undisturbed s l) (hstep : step s l s') : SafetyInv s' := by
  cases l with
  | otaPost t =>
      obtain ⟨_, rfl⟩ := hstep
      exact hinv.setPc t (by simp) (by simp [Pc.held])
  | save t =>
      obtain ⟨_, rfl⟩ := hstep
      -- what is saved is what the user chose, as the guard is not off
      apply hinv.setPc t (by simp)
      intro mode h
      cases h
      exact hinv.currentMemguardMode_eq hcond
  | disable t =>
      obtain ⟨mode, hpc, rfl⟩ := hstep
      exact hinv.disable hpc
  | download t ok =>
      obtain ⟨mode, hpc, rfl⟩ := hstep
      -- the update carries the saved mode along
      apply hinv.setPc t (by simp)
      intro mode' h
      cases h
      exact hinv.held_eq t mode (by rw [hpc]; rfl)
  | restore t =>
      obtain ⟨mode, hpc, rfl⟩ := hstep
      exact hinv.restore hpc
  | applySetting writeOk key val out =>
      have hs' : s' = afterApply s writeOk key val out := hstep
      subst hs'
      rcases afterApply_cases s writeOk key val out with
        ⟨v, rfl, rfl, hok, heq⟩ | ⟨nvs, hnvs, _, heq⟩
      · rw [heq]
        exact hinv.userChange (hcond rfl hok)
      · rw [heq]
        exact ⟨hnvs.trans hinv.stored, hinv.guardOff_running, hinv.held_eq⟩
  | restart nvsWrite newDeviceId newDeviceSerial =>
      have hs' : s' = afterRestart s nvsWrite newDeviceId newDeviceSerial := hstep
      subst hs'
      exact hinv.restart hcond nvsWrite newDeviceId newDeviceSerial

theorem safetyInv_of_undisturbed {s : State Blob}
    (hreach : ReachableWhen (otaSystem Blob) Undisturbed s) : SafetyInv s :=
  hreach.invariant (fun _ hs => safetyInv_initial hs)
    (fun _ _ _ hi hc hst => safetyInv_step hi hc hst)

theorem SafetyInv.modeKept {s : State Blob} (hinv : SafetyInv s) : ModeKept s := by
  intro hidle
  apply Nvs.readUint16_eq_ok_iff.mpr
  apply hinv.stored_userMode
  cases hoff : s.guardOff with
  | false => exact Or.inl rfl
  | true =>
      rcases hinv.guardOff_running hoff with h | ⟨t, ht⟩
      · exact Or.inr h
      · exact absurd (hidle t) ht

/-! ### Disturbances -/

/-- A restart loses the mode when another one is stored. -/
theorem lost_of_restart {s : State Blob} {mode : Nat}
    (hstored : s.nvs sNamespace sKeyStatusMemguardMode = some (.u16 mode))
    (hne : mode ≠ s.userMode) :
    ∃ s', Steps (otaSystem Blob) s s' ∧ ¬ ModeKept s' := by
  refine ⟨afterRestart s (fun _ => true) [] [],
    (Steps.refl s).step (l := Label.restart (fun _ => true) [] []) rfl, ?_⟩
  intro hkept
  have hread := hkept fun _ => rfl
  rw [Nvs.readUint16_eq_ok_iff.mpr (afterRestart_stored hstored _ _ _)] at hread
  exact hne (Except.ok.inj hread)

/-- A task that is about to write back another mode may lose the user's. -/
theorem lost_of_restoring {s : State Blob} {t : Task} {mode : Nat}
    (hpc : s.pc t = .restoring mode) (hne : mode ≠ s.userMode) :
    ∃ s', Steps (otaSystem Blob) s s' ∧ ¬ ModeKept s' := by
  have hstep : (otaSystem Blob).step s (.restore t)
      (setPc (restoreMode s mode) t .idle) := ⟨mode, hpc, rfl⟩
  obtain ⟨s', hrun, hlost⟩ := lost_of_restart
    (s := setPc (restoreMode s mode) t .idle)
    (writeMode_stored s mode) hne
  exact ⟨s', hrun.head ⟨_, hstep⟩, hlost⟩

theorem lost_of_downloading {s : State Blob} {t : Task} {mode : Nat}
    (hpc : s.pc t = .downloading mode) (hne : mode ≠ s.userMode) :
    ∃ s', Steps (otaSystem Blob) s s' ∧ ¬ ModeKept s' := by
  have hstep : (otaSystem Blob).step s (.download t false) (setPc s t (.restoring mode)) :=
    ⟨mode, hpc, rfl⟩
  obtain ⟨s', hrun, hlost⟩ := lost_of_restoring (setPc_self s t (.restoring mode)) hne
  exact ⟨s', hrun.head ⟨_, hstep⟩, hlost⟩

/-- A task that holds another mode than the user's may lose it, wherever it stands. -/
theorem lost_of_held {s : State Blob} {t : Task} {mode : Nat}
    (hheld : (s.pc t).held = some mode) (hne : mode ≠ s.userMode) :
    ∃ s', Steps (otaSystem Blob) s s' ∧ ¬ ModeKept s' := by
  cases hpc : s.pc t with
  | idle => rw [hpc] at hheld; cases hheld
  | started => rw [hpc] at hheld; cases hheld
  | saved m =>
      rw [hpc] at hheld
      cases hheld
      have hstep : (otaSystem Blob).step s (.disable t) _ := ⟨mode, hpc, rfl⟩
      obtain ⟨s', hrun, hlost⟩ := lost_of_downloading
        (setPc_self (disableGuard s) t (.downloading mode)) hne
      exact ⟨s', hrun.head ⟨_, hstep⟩, hlost⟩
  | downloading m =>
      rw [hpc] at hheld
      cases hheld
      exact lost_of_downloading hpc hne
  | restoring m =>
      rw [hpc] at hheld
      cases hheld
      exact lost_of_restoring hpc hne

/-- The guard stands disabled against the user's choice. -/
theorem SafetyInv.disabled_of_guardOff {s : State Blob} (hinv : SafetyInv s)
    (h : ¬ (s.guardOff = false ∨ s.userMode = memgrdModeDisabled.toNat)) :
    s.nvs sNamespace sKeyStatusMemguardMode = some (.u16 memgrdModeDisabled.toNat) ∧
      memgrdModeDisabled.toNat ≠ s.userMode := by
  have hon : s.guardOff = true := by
    cases hg : s.guardOff with
    | false => exact absurd (Or.inl hg) h
    | true => rfl
  have hstored := hinv.stored
  rw [hon] at hstored
  exact ⟨hstored, fun heq => h (Or.inr heq.symm)⟩

/-- An update that starts while the guard is disabled saves the disabled mode. -/
theorem lost_of_save {s : State Blob} (t : Task)
    (hstored : s.nvs sNamespace sKeyStatusMemguardMode = some (.u16 memgrdModeDisabled.toNat))
    (hne : memgrdModeDisabled.toNat ≠ s.userMode) :
    ∃ s', Steps (otaSystem Blob) (setPc s t (.saved (currentMemguardMode s))) s' ∧
      ¬ ModeKept s' := by
  have hread : currentMemguardMode s = memgrdModeDisabled.toNat := by
    unfold currentMemguardMode
    rw [Nvs.readUint16_eq_ok_iff.mpr hstored]
  have hheld : ((setPc s t (.saved (currentMemguardMode s))).pc t).held =
      some memgrdModeDisabled.toNat := by
    rw [setPc_self, hread]
    rfl
  exact lost_of_held hheld hne

/-- The user changes the mode under a task that holds the old one. -/
theorem lost_of_userChange {s : State Blob} (hinv : SafetyInv s) {mode : Nat}
    (hchange : ¬ (mode = s.userMode ∨ ∀ t, (s.pc t).held = none)) :
    ∃ s', Steps (otaSystem Blob) (setUserMode s mode) s' ∧ ¬ ModeKept s' := by
  obtain ⟨hne, hholds⟩ := not_or.mp hchange
  obtain ⟨t, ht⟩ := not_forall.mp hholds
  obtain ⟨held, hheld⟩ := Option.ne_none_iff_exists'.mp ht
  have hold : held = s.userMode := hinv.held_eq t held hheld
  have hheld' : ((setUserMode s mode).pc t).held = some held := hheld
  have hne' : held ≠ (setUserMode s mode).userMode := fun h => hne (h.symm.trans hold)
  exact lost_of_held hheld' hne'

/-- Every disturbance of an undisturbed run can lose the user's mode. -/
theorem lost_of_disturbed {s s' : State Blob} {l : Label} (hinv : SafetyInv s)
    (hstep : step s l s') (hcond : ¬ Undisturbed s l) :
    ∃ s'', Steps (otaSystem Blob) s' s'' ∧ ¬ ModeKept s'' := by
  cases l with
  | otaPost t => exact absurd trivial hcond
  | disable t => exact absurd trivial hcond
  | download t ok => exact absurd trivial hcond
  | restore t => exact absurd trivial hcond
  | save t =>
      obtain ⟨_, rfl⟩ := hstep
      obtain ⟨hstored, hne⟩ := hinv.disabled_of_guardOff hcond
      exact lost_of_save t hstored hne
  | applySetting writeOk key val out =>
      have hs' : s' = afterApply s writeOk key val out := hstep
      subst hs'
      rcases afterApply_cases s writeOk key val out with
        ⟨v, rfl, rfl, hok, heq⟩ | ⟨_, _, hrejected, _⟩
      · rw [heq]
        exact lost_of_userChange hinv fun h => hcond fun _ _ => h
      · -- a step that does not change the mode is no disturbance
        exfalso
        apply hcond
        cases key with
        | none => trivial
        | some key =>
            cases val with
            | none => trivial
            | some v =>
                intro hkey hok
                exact absurd hok (hrejected (congrArg some hkey))
  | restart nvsWrite newDeviceId newDeviceSerial =>
      have hs' : s' = afterRestart s nvsWrite newDeviceId newDeviceSerial := hstep
      subst hs'
      obtain ⟨hstored, hne⟩ := hinv.disabled_of_guardOff hcond
      exact lost_of_restart (afterRestart_stored hstored _ _ _) hne

/-! ### A Mode Set by the User -/

/-- The user sets one of the three modes. -/
theorem afterApply_number (s : State Blob) {mode : Nat} (hmode : mode ≤ 2)
    (out : SettingUpdateMsg) :
    afterApply s true (some sKeyStatusMemguardMode) (some (.number (mode : Rat))) out =
      setUserMode s mode := by
  have hmem : (⟨sKeyStatusMemguardMode, .w16, memgrdModeDisabled, memgrdModeRestart⟩ :
      NumericSetting) ∈ numericSettings := List.mem_of_getElem? (i := 9) rfl
  have hbounds : memgrdModeDisabled ≤ (mode : Int) ∧ (mode : Int) ≤ memgrdModeRestart := by
    unfold memgrdModeDisabled memgrdModeRestart
    omega
  obtain ⟨e, hchecks⟩ := exists_checks hmem
  obtain ⟨out', hres⟩ := hchecks.applySetting_ok hmem s.nvs hbounds out
  rcases afterApply_cases s true (some sKeyStatusMemguardMode) (some (.number (mode : Rat)))
    out with ⟨v, _, hv, _, heq⟩ | ⟨_, _, hrejected, _⟩
  · cases hv
    rw [heq, Json.uint16OfDouble_natCast (by omega)]
  · exact absurd (congrArg Prod.fst hres) (hrejected rfl)

/-- The message structure a request starts from. -/
def emptyMsg : SettingUpdateMsg := ⟨[], .ok, false, []⟩

/-- A device right after its first boot. -/
def bootedState (Blob : Type) : State Blob where
  nvs := Nvs.set Nvs.empty sNamespace sKeyStatusMemguardMode (.u16 sDefaultStatusMemguardMode)
  userMode := sDefaultStatusMemguardMode
  guardOff := false
  pc := fun _ => .idle

theorem initial_bootedState (Blob : Type) : Initial (bootedState Blob) := by
  refine ⟨?_, rfl, rfl, fun _ => rfl⟩
  show Nvs.set Nvs.empty sNamespace sKeyStatusMemguardMode _ sNamespace
    sKeyStatusMemguardMode = _
  rw [Nvs.set_self]

/-- The request that sets the mode to 2. -/
def setRestart : Label :=
  .applySetting true (some sKeyStatusMemguardMode) (some (.number ((2 : Nat) : Rat))) emptyMsg

theorem step_setRestart (s : State Blob) :
    (otaSystem Blob).step s setRestart (setUserMode s 2) :=
  (afterApply_number s (by decide) emptyMsg).symm

/-! ### Main Theorem -/

/-- In an undisturbed run NVS holds the user's mode whenever no OTA task runs,
    and each step that would disturb the run can lose it. -/
theorem modeKept_of_undisturbed (s : State Blob)
    (hreach : ReachableWhen (otaSystem Blob) Undisturbed s) :
    ModeKept s ∧ ∀ l s', step s l s' → ¬ Undisturbed s l →
      ∃ s'', Steps (otaSystem Blob) s' s'' ∧ ¬ ModeKept s'' := by
  have hinv := safetyInv_of_undisturbed hreach
  exact ⟨hinv.modeKept, fun l s' hstep hcond => lost_of_disturbed hinv hstep hcond⟩

/-- One undisturbed update after the user has set the mode to 2. -/
theorem modeKept_of_undisturbed_update :
    ∃ s : State Unit, ReachableWhen (otaSystem Unit) Undisturbed s ∧ s.userMode = 2 ∧
      Nvs.readUint16 s.nvs sNamespace sKeyStatusMemguardMode = .ok 2 := by
  have hboot : ReachableWhen (otaSystem Unit) Undisturbed (bootedState Unit) :=
    .init (initial_bootedState Unit)
  have hset := hboot.step (l := setRestart) (fun _ _ => Or.inr fun _ => rfl) (step_setRestart _)
  have hpost := hset.step (l := Label.otaPost 0) trivial ⟨rfl, rfl⟩
  have hsave := hpost.step (l := Label.save 0) (Or.inl rfl) ⟨rfl, rfl⟩
  have hdisable := hsave.step (l := Label.disable 0) trivial ⟨_, rfl, rfl⟩
  have hdownload := hdisable.step (l := Label.download 0 false) trivial ⟨_, rfl, rfl⟩
  have hrestore := hdownload.step (l := Label.restore 0) trivial ⟨_, rfl, rfl⟩
  refine ⟨_, hrestore, rfl, (modeKept_of_undisturbed _ hrestore).1 ?_⟩
  intro t
  by_cases ht : t = 0
  · subst ht
    rfl
  · -- the other tasks were never started
    simp only [setPc_ne _ _ ht, disableGuard_pc, restoreMode_pc, setUserMode_pc]
    rfl

/-! ### The Unconstrained System -/

/-- The user sets mode 2; an update disables the guard, and the chip loses power. -/
theorem not_modeKept :
    ¬ ∀ (Blob : Type) (s : State Blob), Reachable (otaSystem Blob) s → ModeKept s := by
  intro hall
  have hboot : Reachable (otaSystem Unit) (bootedState Unit) :=
    .init (initial_bootedState Unit)
  have hset := hboot.step (step_setRestart _)
  have hpost := hset.step (l := Label.otaPost 0) ⟨rfl, rfl⟩
  have hsave := hpost.step (l := Label.save 0) ⟨rfl, rfl⟩
  have hdisable := hsave.step (l := Label.disable 0) ⟨_, rfl, rfl⟩
  obtain ⟨s, hreach, hstored, huser⟩ : ∃ s : State Unit, Reachable (otaSystem Unit) s ∧
      s.nvs sNamespace sKeyStatusMemguardMode = some (.u16 memgrdModeDisabled.toNat) ∧
      s.userMode = 2 := ⟨_, hdisable, by simp [setPc, disableGuard], rfl⟩
  have hpower := hreach.step (l := Label.restart (fun _ => true) [] []) rfl
  have hread := hall Unit _ hpower fun _ => rfl
  rw [Nvs.readUint16_eq_ok_iff.mpr (afterRestart_stored hstored _ _ _)] at hread
  have hmode : memgrdModeDisabled.toNat = s.userMode := Except.ok.inj hread
  rw [huser] at hmode
  exact absurd hmode (by decide)

end OtaMemoryGuard
