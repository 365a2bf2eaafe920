import RelayBoard.Lifetime.Tasks
import RelayBoard.Web.SubmitConfig

/-! # Recovery

  A device over its whole life: boots that are interrupted anywhere, tasks in any
  interleaving, settings and forms that are stored, resets that are cut short, and power
  losses at any time. Whatever has happened, the next boot brings up all configured units,
  unless a number of units has been stored for which there are not enough keys. Such a
  number is never taken back.
-/

open Boot CString LTS Publication Relay Settings SubmitConfig Web

namespace Lifetime

/-! ### System -/

/-- A device that has not finished its boot, or one whose tasks are running. -/
inductive Device where
  | off (nvs : Nvs.Store RelayUnit)
  | on (s : Publication.State)

def Device.nvs : Device → Nvs.Store RelayUnit
  | .off nvs => nvs
  | .on s => s.board.nvs

/-- The tasks over another content of NVS. -/
def withNvs (s : Publication.State) (nvs : Nvs.Store RelayUnit) : Publication.State :=
  { s with board := { s.board with nvs := nvs } }

/-- `app_main` up to the start of the tasks. The writes of `relay_all_sensors_register_isr`
    have outcomes of their own; a write that fails may be one that power was lost at. -/
def boot (env envSensors : Env) (newDeviceId newDeviceSerial : CStr)
    (nvs : Nvs.Store RelayUnit) (gpio : Gpio.State) : Option Device :=
  match settingsInit env newDeviceId newDeviceSerial (Board.reset nvs gpio) with
  | none => none
  | some (.ok, b) =>
      match initRelayUnitsInMemory env b with
      | none => some (.off b.nvs)
      | some (.ok, b) => some (.on (start (relayAllSensorsRegisterIsr envSensors b)))
      | some (_, b) => some (.off b.nvs)
  | some (_, b) => some (.off b.nvs)

/-- A key of a setting or of a unit. -/
def OwnKey (key : CStr) : Prop := key ∈ settingKeys ∨ ∃ type i, key = unitKey type i

inductive Label where
  /-- The chip starts. -/
  | boot (env envSensors : Env) (newDeviceId newDeviceSerial : CStr) (gpio : Gpio.State)
  /-- The chip starts, and `nvs_init` erases a partition that it cannot use. -/
  | eraseFlash
  /-- A task takes a step. -/
  | task (l : Publication.Label)
  /-- `apply_setting` on a member of a settings request. -/
  | setting (writeOk : Bool) (key : Option CStr) (val : Option Json) (out : SettingUpdateMsg)
  /-- A write of `submit_config_handler` for a form with this text. -/
  | submit (text : CStr) (write : CStr × Nvs.Value RelayUnit)
  /-- An update stores the mode of the memory guard. -/
  | memguard (mode : Nat)
  /-- A reset erases entries; it may fail half way. -/
  | erase (left : Nvs.Store RelayUnit)
  /-- Certificates and the credentials of the Wi-Fi are stored or removed. -/
  | others (nvs : Nvs.Store RelayUnit)
  /-- Power is lost, or the chip restarts. -/
  | powerLoss

/-- A device from an empty flash on. -/
def lifetime (print : Print) : System Device Label where
  init := fun d => d = .off Nvs.empty
  step := fun d l d' =>
    match l with
    | .boot env envSensors newDeviceId newDeviceSerial gpio =>
        ∃ nvs, d = .off nvs ∧
          Lifetime.boot env envSensors newDeviceId newDeviceSerial nvs gpio = some d'
    | .eraseFlash => ∃ nvs, d = .off nvs ∧ d' = .off Nvs.empty
    | .task l => ∃ s s', d = .on s ∧ Publication.step print s l s' ∧ d' = .on s'
    | .setting writeOk key val out =>
        ∃ s err out' nvs, d = .on s ∧
          applySetting writeOk s.board.nvs key val out = (err, out', nvs) ∧
          d' = .on (withNvs s nvs)
    | .submit text write =>
        ∃ s, d = .on s ∧ write ∈ submitParams text ∧
          d' = .on (withNvs s (Nvs.set s.board.nvs sNamespace write.1 write.2))
    | .memguard mode =>
        ∃ s, d = .on s ∧
          d' = .on (withNvs s (Nvs.set s.board.nvs sNamespace sKeyStatusMemguardMode (.u16 mode)))
    | .erase left =>
        ∃ s, d = .on s ∧
          (∀ ns key value, left ns key = some value → s.board.nvs ns key = some value) ∧
          d' = .on (withNvs s left)
    | .others nvs =>
        ∃ s, d = .on s ∧
          (∀ key, OwnKey key → nvs sNamespace key = s.board.nvs sNamespace key) ∧
          d' = .on (withNvs s nvs)
    | .powerLoss => d' = .off d.nvs

/-! ### Properties -/

/-- Every boot during which the settings and the units can be written ends with all
    configured units at work. -/
def Recovers (nvs : Nvs.Store RelayUnit) : Prop :=
  ∀ env envSensors newDeviceId newDeviceSerial gpio, WritesSucceed env →
    ∃ s, boot env envSensors newDeviceId newDeviceSerial nvs gpio = some (.on s) ∧
      Serving (countsOf nvs) s.board

/-- A form stores no number of units without keys for all of them. -/
def StoresFit : Device → Label → Prop
  | _, .submit _ write =>
      ∀ type n, write = (countKey type, .u16 n) → n ≤ channelLimit type
  | _, _ => True

/-- The flash is not erased as a whole. -/
def KeepsFlash : Device → Label → Prop
  | _, .eraseFlash => False
  | _, _ => True

variable {env envSensors : Env} {nvs nvs' : Nvs.Store RelayUnit} {gpio : Gpio.State}
  {print : Print} {d d' : Device} {l : Label}

/-! ### Boots -/

/-- A boot always gets to an end. -/
theorem boot_returns (env envSensors : Env) (newDeviceId newDeviceSerial : CStr)
    (nvs : Nvs.Store RelayUnit) (gpio : Gpio.State) :
    ∃ d, boot env envSensors newDeviceId newDeviceSerial nvs gpio = some d := by
  obtain ⟨err, b, hrun, _⟩ := settingsInit_restart (b := Board.reset nvs gpio) env newDeviceId
    newDeviceSerial rfl rfl
  unfold boot
  rw [hrun]
  cases err with
  | ok =>
      dsimp only
      split
      · exact ⟨_, rfl⟩
      · exact ⟨_, rfl⟩
      · exact ⟨_, rfl⟩
  | _ => exact ⟨_, rfl⟩

/-- How a boot ends: interrupted, or with the units at work. -/
theorem boot_cases {newDeviceId newDeviceSerial : CStr}
    (h : boot env envSensors newDeviceId newDeviceSerial nvs gpio = some d) :
    (∃ nvs', d = .off nvs' ∧ (WellFormed nvs → WellFormed nvs') ∧
        countsOf nvs' = countsOf nvs) ∨
      ∃ s, d = .on s ∧ CountsFit nvs ∧
        (WellFormed nvs → Serving (countsOf nvs) s.board ∧
          countsOf s.board.nvs = countsOf nvs) := by
  obtain ⟨err, b, hrun, hinit⟩ := settingsInit_restart (b := Board.reset nvs gpio) env newDeviceId
    newDeviceSerial rfl rfl
  have hoff : ∀ {b' : Board}, b'.nvs = b.nvs → d = .off b'.nvs → ∃ nvs', d = .off nvs' ∧
      (WellFormed nvs → WellFormed nvs') ∧ countsOf nvs' = countsOf nvs := by
    intro b' hsame hd
    exact ⟨b'.nvs, hd, hsame ▸ hinit.wellFormed, hsame ▸ hinit.counts⟩
  unfold boot at h
  rw [hrun] at h
  by_cases herr : err = .ok
  · subst herr
    have hfit : CountsFit nvs := countsFit_of_settingsInit hrun
    dsimp only at h
    split at h
    · cases h
      exact .inl (hoff rfl rfl)
    · next b₁ htable =>
        cases h
        refine .inr ⟨_, rfl, hfit, fun hwell => ?_⟩
        obtain ⟨b₂, htable', hnvs, hserving⟩ := initRelayUnitsInMemory_serving env
          (hinit.done rfl) (hinit.wellFormed hwell) hfit (records_of_settingsInit hwell hrun)
        rw [htable] at htable'
        cases htable'
        have hkeeps := hserving.registerSensors envSensors b₁.sSensorsCount b₁.sRelaysCount
        exact ⟨hkeeps.serving,
          hkeeps.countsOf_eq.trans ((congrArg countsOf hnvs).trans hinit.counts)⟩
    · next hne htable =>
        unfold initRelayUnitsInMemory at htable
        split at htable
        · cases htable
        · cases htable
          exact absurd rfl hne
  · have hd : d = .off b.nvs := by
      cases err <;> first | exact absurd rfl herr | (cases h; rfl)
    exact .inl (hoff rfl hd)

/-- A device recovers exactly if its numbers of units fit. -/
theorem recovers_iff_of_wellFormed (hwell : WellFormed nvs) : Recovers nvs ↔ CountsFit nvs := by
  constructor
  · intro h
    obtain ⟨s, hboot, _⟩ := h Env.ok Env.ok [] [] Gpio.State.initial fun _ => rfl
    rcases boot_cases hboot with ⟨_, hoff, _⟩ | ⟨_, _, hfit, _⟩
    · cases hoff
    · exact hfit
  · intro hfit env envSensors newDeviceId newDeviceSerial gpio hwrite
    obtain ⟨err, b, hrun, hinit⟩ := settingsInit_restart (b := Board.reset nvs gpio) env
      newDeviceId newDeviceSerial rfl rfl
    have herr := hinit.succeeds hwrite hfit
    subst herr
    obtain ⟨b₁, htable, _, hserving⟩ := initRelayUnitsInMemory_serving env (hinit.done rfl)
      (hinit.wellFormed hwell) hfit (records_of_settingsInit hwell hrun)
    refine ⟨start (relayAllSensorsRegisterIsr envSensors b₁), ?_,
      (hserving.registerSensors envSensors b₁.sSensorsCount b₁.sRelaysCount).serving⟩
    unfold boot
    rw [hrun]
    dsimp only
    rw [htable]

/-! ### Invariant -/

/-- NVS can be booted from, or the device is at work. -/
def Sound : Device → Prop
  | .off nvs => WellFormed nvs
  | .on s => ∃ counts, Serving counts s.board

theorem Sound.wellFormed (h : Sound d) : WellFormed d.nvs := by
  cases d with
  | off nvs => exact h
  | on s =>
      obtain ⟨counts, hserving⟩ := h
      exact hserving.wellFormed

/-- The units in memory do not depend on NVS. -/
theorem sound_withNvs {s : Publication.State} (h : Sound (.on s)) (hwell : WellFormed nvs) :
    Sound (.on (withNvs s nvs)) := by
  obtain ⟨counts, hserving⟩ := h
  exact ⟨counts, hserving.fit, hserving.table.of_places rfl rfl rfl rfl, hserving.pins, hwell⟩

theorem submitParams_keys (text : CStr) : ∀ w ∈ submitParams text, w.1 ∈ settingKeys := by
  have hkeys : ∀ key ∈ (submitParams text).map Prod.fst, key ∈ settingKeys := by
    simp only [submitParams, List.map_cons, List.map_nil]
    decide
  exact fun w hw => hkeys w.1 (List.mem_map_of_mem hw)

/-- `apply_setting` leaves NVS, or stores a value under the key of a setting. -/
theorem applySetting_cases {writeOk : Bool} {key : Option CStr} {val : Option Json}
    {out out' : SettingUpdateMsg} {err : EspErr}
    (h : applySetting writeOk nvs key val out = (err, out', nvs')) :
    nvs' = nvs ∨ ∃ k v, k ∈ settingKeys ∧ nvs' = Nvs.set nvs sNamespace k v ∧
      ∀ type, k = countKey type → ∃ n, n < channelLimit type ∧ v = .u16 n := by
  by_cases herr : err = .ok
  · subst herr
    obtain ⟨k, j, rfl, rfl⟩ := applySetting_ok_some (congrArg Prod.fst h)
    obtain ⟨e, v, he, _, _, rfl⟩ := applySetting_eq_ok h
    obtain ⟨hmem, hkey⟩ := findSetting_eq_some he
    refine .inr ⟨k, v, hkey ▸ sSettings_key_mem e hmem, rfl, ?_⟩
    rintro type rfl
    obtain ⟨n, hn, hset⟩ := applySetting_countKey h
    have hvalue := congrFun (congrFun hset sNamespace) (countKey type)
    rw [Nvs.set_self, Nvs.set_self] at hvalue
    exact ⟨n, hn, Option.some.inj hvalue⟩
  · have hne : (applySetting writeOk nvs key val out).1 ≠ .ok := by
      rw [h]
      exact herr
    have hsame := applySetting_of_ne_ok hne
    rw [h] at hsame
    exact .inl hsame

/-- Every step leaves a device that can be booted. -/
theorem sound_step (h : Sound d) (hstep : (lifetime print).step d l d') : Sound d' := by
  cases l with
  | boot env envSensors newDeviceId newDeviceSerial gpio =>
      obtain ⟨nvs, rfl, hboot⟩ := hstep
      rcases boot_cases hboot with ⟨nvs', rfl, hwell, _⟩ | ⟨s, rfl, _, hserving⟩
      · exact hwell h
      · exact ⟨_, (hserving h).1⟩
  | eraseFlash =>
      obtain ⟨nvs, rfl, rfl⟩ := hstep
      exact wellFormed_empty
  | task l =>
      obtain ⟨s, s', rfl, htask, rfl⟩ := hstep
      obtain ⟨counts, hserving⟩ := h
      exact ⟨counts, (keeps_step hserving htask).serving⟩
  | setting writeOk key val out =>
      obtain ⟨s, err, out', nvs, rfl, happly, rfl⟩ := hstep
      rcases applySetting_cases happly with rfl | ⟨k, v, hk, rfl, _⟩
      · exact h
      · exact sound_withNvs h (h.wellFormed.setSetting hk v)
  | submit text write =>
      obtain ⟨s, rfl, hwrite, rfl⟩ := hstep
      exact sound_withNvs h (h.wellFormed.setSetting (submitParams_keys text write hwrite) _)
  | memguard mode =>
      obtain ⟨s, rfl, rfl⟩ := hstep
      exact sound_withNvs h (h.wellFormed.setSetting (by decide) _)
  | erase left =>
      obtain ⟨s, rfl, hless, rfl⟩ := hstep
      exact sound_withNvs h (h.wellFormed.mono fun type i value => hless _ _ value)
  | others nvs =>
      obtain ⟨s, rfl, hsame, rfl⟩ := hstep
      refine sound_withNvs h (h.wellFormed.mono fun type i value hget => ?_)
      rw [hsame _ (.inr ⟨type, i, rfl⟩)] at hget
      exact hget
  | powerLoss =>
      obtain rfl := hstep
      exact h.wellFormed

theorem countDefault_le (type : RelayType) : countDefault type ≤ channelLimit type := by
  cases type <;> decide

/-- Counts fit if each of them is one that fit, or one with enough keys, or is missing. -/
theorem countsFit_of_entries (hfit : CountsFit nvs)
    (h : ∀ type, nvs' sNamespace (countKey type) = nvs sNamespace (countKey type) ∨
      ∀ n, nvs' sNamespace (countKey type) = some (.u16 n) → n ≤ channelLimit type) :
    CountsFit nvs' := by
  intro type
  rw [countsOf_eq]
  rcases h type with hsame | hvalue
  · have hle := hfit type
    rw [countsOf_eq] at hle
    rw [uint16OrDefault_congr hsame]
    exact hle
  · unfold uint16OrDefault
    split
    · next n hread => exact hvalue n (Nvs.readUint16_eq_ok_iff.mp hread)
    · exact countDefault_le type

/-- A write under one key. -/
theorem countsFit_set (hfit : CountsFit nvs) {key : CStr} {value : Nvs.Value RelayUnit}
    (h : ∀ type n, (key, value) = (countKey type, .u16 n) → n ≤ channelLimit type) :
    CountsFit (Nvs.set nvs sNamespace key value) := by
  refine countsFit_of_entries hfit fun type => ?_
  rw [Nvs.set_apply]
  split
  · next hkey =>
      refine .inr fun n hvalue => h type n ?_
      rw [hkey, Option.some.inj hvalue]
  · exact .inl rfl

/-- The numbers of units fit as long as no form stores one that does not. -/
theorem countsFit_step (hsound : Sound d) (hfit : CountsFit d.nvs) (hok : StoresFit d l)
    (hstep : (lifetime print).step d l d') : CountsFit d'.nvs := by
  have hsame : ∀ {nvs : Nvs.Store RelayUnit}, countsOf nvs = countsOf d.nvs → CountsFit nvs := by
    intro nvs hcounts type
    rw [hcounts]
    exact hfit type
  cases l with
  | boot env envSensors newDeviceId newDeviceSerial gpio =>
      obtain ⟨nvs, rfl, hboot⟩ := hstep
      rcases boot_cases hboot with ⟨nvs', rfl, _, hcounts⟩ | ⟨s, rfl, _, hserving⟩
      · exact hsame hcounts
      · exact hsame (hserving hsound).2
  | eraseFlash =>
      obtain ⟨nvs, rfl, rfl⟩ := hstep
      exact countDefault_le
  | task l =>
      obtain ⟨s, s', rfl, htask, rfl⟩ := hstep
      obtain ⟨counts, hserving⟩ := hsound
      exact hsame (keeps_step hserving htask).countsOf_eq
  | setting writeOk key val out =>
      obtain ⟨s, err, out', nvs, rfl, happly, rfl⟩ := hstep
      rcases applySetting_cases happly with rfl | ⟨k, v, _, rfl, hcount⟩
      · exact hfit
      · refine countsFit_set hfit ?_
        rintro type n hpair
        obtain ⟨rfl, rfl⟩ := Prod.mk.inj hpair
        obtain ⟨m, hm, hvalue⟩ := hcount type rfl
        cases hvalue
        exact Nat.le_of_lt hm
  | submit text write =>
      obtain ⟨s, rfl, _, rfl⟩ := hstep
      exact countsFit_set hfit fun type n hpair => hok type n hpair
  | memguard mode =>
      obtain ⟨s, rfl, rfl⟩ := hstep
      refine countsFit_set hfit ?_
      rintro type n hpair
      have hkey : sKeyStatusMemguardMode ≠ countKey type := by cases type <;> decide
      exact absurd (Prod.mk.inj hpair).1 hkey
  | erase left =>
      obtain ⟨s, rfl, hless, rfl⟩ := hstep
      refine countsFit_of_entries hfit fun type => ?_
      cases hget : left sNamespace (countKey type) with
      | none => exact .inr fun n hn => absurd (hget.symm.trans hn) (by simp)
      | some value => exact .inl (hget.trans (hless _ _ _ hget).symm)
  | others nvs =>
      obtain ⟨s, rfl, hother, rfl⟩ := hstep
      exact countsFit_of_entries hfit fun type => .inl (hother _ (.inl (countKey_mem type)))
  | powerLoss =>
      obtain rfl := hstep
      exact hfit

/-- A device that can be booted, with numbers of units that fit. -/
def Fits (d : Device) : Prop := Sound d ∧ CountsFit d.nvs

theorem fits_of_reachableWhen (h : ReachableWhen (lifetime print) StoresFit d) : Fits d :=
  h.invariant (fun _ hinit => hinit ▸ ⟨wellFormed_empty, countDefault_le⟩)
    (fun _ _ _ hinv hok hstep =>
      ⟨sound_step hinv.1 hstep, countsFit_step hinv.1 hinv.2 hok hstep⟩)

/-- **Always recovering**: as long as every number of units that a form stores has keys for
    all of them, the next boot brings up all units at any time. -/
theorem recovers_of_storesFit (d : Device) (h : ReachableWhen (lifetime print) StoresFit d) :
    Recovers d.nvs := by
  obtain ⟨hsound, hfit⟩ := fits_of_reachableWhen h
  exact (recovers_iff_of_wellFormed hsound.wellFormed).mpr hfit

/-- A new device boots, and then loses its power. -/
theorem recovers_of_storesFit_powerLoss :
    ∃ nvs, nvs sNamespace (unitKey .actuator 0) ≠ none ∧ Recovers nvs := by
  have hrun : (boot Env.ok Env.ok "DC".toList "S".toList Nvs.empty Gpio.State.initial).any
      (fun d => decide (d.nvs sNamespace (unitKey .actuator 0) ≠ none)) = true := by
    decide +kernel
  obtain ⟨d, hboot, hstored⟩ := (Option.any_eq_true _ _).mp hrun
  have hinit : (lifetime fun _ => none).init (.off Nvs.empty) := rfl
  have hbooted : ReachableWhen (lifetime fun _ => none) StoresFit d :=
    (ReachableWhen.init hinit).step (l := Label.boot Env.ok Env.ok "DC".toList "S".toList
      Gpio.State.initial) trivial ⟨_, rfl, hboot⟩
  have hreach : ReachableWhen (lifetime fun _ => none) StoresFit (.off d.nvs) :=
    hbooted.step (l := Label.powerLoss) trivial rfl
  exact ⟨d.nvs, of_decide_eq_true hstored, recovers_of_storesFit (.off d.nvs) hreach⟩

/-- **Never again**: a device that has stored more units than there are keys and loses power
    does not get to its tasks any more, unless the whole flash is erased. -/
theorem off_of_not_countsFit (nvs : Nvs.Store RelayUnit) (hfit : ¬ CountsFit nvs) (d : Device)
    (h : StepsWhen (lifetime print) KeepsFlash (.off nvs) d) :
    ∃ nvs', d = .off nvs' ∧ ¬ CountsFit nvs' := by
  induction h with
  | refl => exact ⟨nvs, rfl, hfit⟩
  | tail _ hnext ih =>
      obtain ⟨nvs₁, rfl, hunfit⟩ := ih
      obtain ⟨l, hkeeps, hstep⟩ := hnext
      cases l with
      | boot env envSensors newDeviceId newDeviceSerial gpio =>
          obtain ⟨nvs₂, heq, hboot⟩ := hstep
          cases heq
          rcases boot_cases hboot with ⟨nvs', rfl, _, hcounts⟩ | ⟨_, _, hfits, _⟩
          · refine ⟨nvs', rfl, fun hfit' => hunfit fun type => ?_⟩
            rw [← hcounts]
            exact hfit' type
          · exact absurd hfits hunfit
      | eraseFlash => exact absurd hkeeps id
      | powerLoss =>
          obtain rfl := hstep
          exact ⟨nvs₁, rfl, hunfit⟩
      -- everything else takes a device that is running
      | task l =>
          obtain ⟨_, _, heq, _⟩ := hstep
          cases heq
      | setting writeOk key val out =>
          obtain ⟨_, _, _, _, heq, _⟩ := hstep
          cases heq
      | submit text write =>
          obtain ⟨_, heq, _⟩ := hstep
          cases heq
      | memguard mode =>
          obtain ⟨_, heq, _⟩ := hstep
          cases heq
      | erase left =>
          obtain ⟨_, heq, _⟩ := hstep
          cases heq
      | others nvs =>
          obtain ⟨_, heq, _⟩ := hstep
          cases heq

/-- A form asks for 99 actuators; the power is lost, and the next boot fails. -/
theorem off_of_not_countsFit_ninetyNine :
    ∃ nvs d, Reachable (lifetime fun _ => none) (.off nvs) ∧
      (lifetime fun _ => none).step (.off nvs)
        (.boot Env.ok Env.ok "DC".toList "S".toList Gpio.State.initial) d ∧
      ∃ nvs', d = .off nvs' ∧ ¬ CountsFit nvs' := by
  have hrecovers := (recovers_iff_of_wellFormed wellFormed_empty).mpr countDefault_le
  obtain ⟨s, hboot, _⟩ := hrecovers Env.ok Env.ok "DC".toList "S".toList Gpio.State.initial
    fun _ => rfl
  -- the form is accepted as it comes
  have hwrite : (sKeyChannelCount, Nvs.Value.u16 99) ∈
      submitParams "relay_ch_count=99".toList := by
    have hnumber : numberParam "relay_ch_count=99".toList "relay_ch_count=".toList 10 .w16 =
        .u16 99 := by
      decide +kernel
    rw [← hnumber]
    simp [submitParams]
  have hinit : (lifetime fun _ => none).init (.off Nvs.empty) := rfl
  have hbooted : Reachable (lifetime fun _ => none) (.on s) :=
    (Reachable.init hinit).step (l := Label.boot Env.ok Env.ok "DC".toList "S".toList
      Gpio.State.initial) ⟨_, rfl, hboot⟩
  have hstored : Reachable (lifetime fun _ => none)
      (.on (withNvs s (Nvs.set s.board.nvs sNamespace sKeyChannelCount (.u16 99)))) :=
    hbooted.step (l := Label.submit "relay_ch_count=99".toList (sKeyChannelCount, .u16 99))
      ⟨s, rfl, hwrite, rfl⟩
  have hreach : Reachable (lifetime fun _ => none)
      (.off (Nvs.set s.board.nvs sNamespace sKeyChannelCount (.u16 99))) :=
    hstored.step (l := Label.powerLoss) rfl
  have hunfit : ¬ CountsFit (Nvs.set s.board.nvs sNamespace sKeyChannelCount (.u16 99)) := by
    intro hfit
    have hle := hfit .actuator
    rw [countsOf, uint16OrDefault, Nvs.readUint16, Nvs.set_self] at hle
    exact absurd hle (by decide)
  obtain ⟨d, hnext⟩ := boot_returns Env.ok Env.ok "DC".toList "S".toList
    (Nvs.set s.board.nvs sNamespace sKeyChannelCount (.u16 99)) Gpio.State.initial
  have hstep : (lifetime fun _ => none).step
      (.off (Nvs.set s.board.nvs sNamespace sKeyChannelCount (.u16 99)))
      (.boot Env.ok Env.ok "DC".toList "S".toList Gpio.State.initial) d := ⟨_, rfl, hnext⟩
  exact ⟨_, d, hreach, hstep, off_of_not_countsFit _ hunfit d
    ((StepsWhen.refl _).step (l := Label.boot Env.ok Env.ok "DC".toList "S".toList
      Gpio.State.initial) trivial hstep)⟩

end Lifetime
