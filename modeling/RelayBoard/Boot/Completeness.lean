import RelayBoard.Boot.Table
import RelayBoard.Framework.Transition

/-! # Provisioning Is Complete

  Over any history of boots, accepted settings and successful unit updates
  the records of each type stay without gaps. A boot then stores a
  unit for every channel below the counts and leaves the stored ones alone.
-/

open Boot CString LTS Relay Settings Web

namespace Completeness

/-! ### System -/

/-- What happens to a device. -/
inductive Label where
  /-- The chip restarts; outside levels, driver outcomes and the identity it would
      generate are arbitrary. -/
  | boot (env : Env) (newDeviceId newDeviceSerial : CStr) (gpio : Gpio.State)
  /-- `apply_setting` accepts a value, be it a number of units or any other. -/
  | setting (key : CStr) (writeOk : Bool) (val : Json) (out : SettingUpdateMsg)
  /-- `update_relay_post_handler` answers a request with `ESP_OK`. -/
  | update (env : Env) (serializes : Bool) (req : Request) (response : Response)
  /-- The MQTT client connects or disconnects. -/
  | mqtt (connected ready : Bool)

/-- A device from empty NVS on. The writes of a boot succeed. -/
def deviceSystem : System Board Label where
  init := fun b => ∃ gpio, b = Board.reset Nvs.empty gpio
  step := fun b l b' =>
    match l with
    | .boot env newDeviceId newDeviceSerial gpio =>
        (∀ key, env.nvsWrite key = true) ∧
        appMain env newDeviceId newDeviceSerial b.nvs gpio = some b'
    | .setting key writeOk val out =>
        ∃ out' nvs,
          applySetting writeOk b.nvs (some key) (some val) out = (.ok, out', nvs) ∧
          b' = { b with nvs := nvs }
    | .update env serializes req response =>
        updateRelayPostHandler env serializes b req = some (.ok, response, b')
    | .mqtt connected ready =>
        b' = { b with mqttConnected := connected, mqttReady := ready }

/-! ### Properties -/

/-- The stored channels of each type are those below some number. -/
def DownwardClosed (nvs : Nvs.Store RelayUnit) : Prop :=
  ∀ type, ∃ k, ∀ i, (∃ relay, Stored nvs type i relay) ↔ i < k

/-- What provisioning has made of NVS. Nothing stored is changed, so what holds of a
    new record's pin at the end held when it was chosen. -/
structure Provisioned (nvs nvs' : Nvs.Store RelayUnit) : Prop where
  counts : countsOf nvs' = countsOf nvs
  complete : ∀ type i, i < countsOf nvs' type →
    ∃ relay, Stored nvs' type i relay ∧ relay.type = type ∧ relay.channel = i
  kept : ∀ type i value, nvs sNamespace (unitKey type i) = some value →
    nvs' sNamespace (unitKey type i) = some value
  created : ∀ type i relay, Stored nvs' type i relay →
    nvs sNamespace (unitKey type i) = none →
    i < countsOf nvs' type ∧ relay.gpioPin ∈ safeGpioPins ∧
      ∀ type' j other, Stored nvs' type' j other → j < countsOf nvs' type' →
        (type', j) ≠ (type, i) → other.gpioPin ≠ relay.gpioPin

/-- Each boot from here provisions the device, whatever the driver answers. -/
def Provisions (nvs : Nvs.Store RelayUnit) : Prop :=
  ∀ (env : Env) (newDeviceId newDeviceSerial : CStr) (gpio : Gpio.State),
    (∀ key, env.nvsWrite key = true) →
    ∃ nvs₁ b', baseSettingsInit env.nvsWrite newDeviceId newDeviceSerial nvs = (.ok, nvs₁) ∧
      deviceSettingsInit env { Board.reset nvs gpio with nvs := nvs₁ } = some (.ok, b') ∧
      Provisioned nvs b'.nvs

/-! ### Books -/

/-- A book has no gaps. -/
theorem downwardClosed_of_holds {nvs : Nvs.Store RelayUnit} {book : Book}
    (h : Holds nvs book) : DownwardClosed nvs := by
  intro type
  refine ⟨(book type).records.length, ?_⟩
  intro i
  constructor
  · rintro ⟨relay, hget⟩
    exact (List.getElem?_eq_some_iff.mp ((stored_iff h).mp hget)).1
  · intro hi
    exact ⟨_, (stored_iff h).mpr (List.getElem?_eq_getElem hi)⟩

/-- A book that has grown up to the counts is provisioned. -/
theorem provisioned_of_grows {nvs nvs' : Nvs.Store RelayUnit} {book book' : Book}
    (h : Holds nvs book) (h' : Holds nvs' book') (hcounts : countsOf nvs' = countsOf nvs)
    (hgrows : book.Grows (countsOf nvs) book')
    (hcomplete : ∀ type, countsOf nvs type ≤ (book' type).records.length) :
    Provisioned nvs nvs' := by
  refine ⟨hcounts, ?_, ?_, ?_⟩
  · -- the loops got as far as the counts
    intro type i hi
    rw [hcounts] at hi
    have hlt := Nat.lt_of_lt_of_le hi (hcomplete type)
    have hget := List.getElem?_eq_getElem hlt
    have hrec := (book' type).isRecord i _ hget
    exact ⟨_, (stored_iff h').mpr hget, hrec.type_eq, hrec.channel_eq⟩
  · -- an old record is in front of the added ones
    intro type i value hvalue
    rw [h type i] at hvalue
    have hlt : i < (book type).records.length := by
      by_contra hge
      rw [List.getElem?_eq_none (by omega)] at hvalue
      cases hvalue
    rw [h' type i, hgrows.getElem? hlt]
    exact hvalue
  · -- a record without an old one has been added
    intro type i relay hstored hnone
    rw [h type i, Option.map_eq_none_iff, List.getElem?_eq_none_iff] at hnone
    rw [hcounts]
    obtain ⟨hi, hsafe, hother⟩ := hgrows.added type i relay ((stored_iff h').mp hstored) hnone
    refine ⟨hi, hsafe, ?_⟩
    intro type' j other hget hj hne
    exact hother type' j other ((stored_iff h').mp hget) hj hne

/-- Well-stored NVS is provisioned by any boot. -/
theorem provisions_of_wellStored {nvs : Nvs.Store RelayUnit} {book : Book}
    (h : WellStored nvs book) : Provisions nvs := by
  intro env newDeviceId newDeviceSerial gpio hwrite
  obtain ⟨nvs₁, hbase⟩ :=
    initParameters_ok hwrite (baseParameters newDeviceId newDeviceSerial) nvs
  obtain ⟨hmode, hstored₁, hcounts₁⟩ := baseSettingsInit_spec h hbase
  obtain ⟨err, b', hinit, hok, hload⟩ := deviceSettingsInit_spec
    (b := { Board.reset nvs gpio with nvs := nvs₁ }) env rfl rfl hmode hstored₁
  have herr := hok hwrite
  subst herr
  refine ⟨nvs₁, b', hbase, hinit, ?_⟩
  have hloaded := hload rfl
  dsimp only at hloaded
  rw [hcounts₁] at hloaded
  obtain ⟨hgrows, hcomplete⟩ := book.grows_provision h.counts_lt
  exact provisioned_of_grows h.holds hloaded.1.holds hloaded.1.wellStored.2 hgrows hcomplete

/-! ### Invariant -/

/-- NVS holds a book of units on safe pins, and so does the table while there is one.
    The counts of the table are those of the last boot. -/
def Inv (b : Board) : Prop :=
  ∃ book, WellStored b.nvs book ∧ book.Safe ∧
    (b.unitsInMemory = true → ∃ counts, Booted b counts book)

theorem wellStored_empty : WellStored Nvs.empty Book.empty :=
  ⟨Or.inl rfl, Or.inl rfl, holds_empty fun _ _ => rfl⟩

theorem inv_init {b : Board} (h : deviceSystem.init b) : Inv b := by
  obtain ⟨gpio, rfl⟩ := h
  exact ⟨Book.empty, wellStored_empty, Book.safe_empty, fun hmem => by cases hmem⟩

/-- A successful update finds its unit in memory. -/
theorem unitsInMemory_of_updated {b b' : Board} {req : Request} {u : UnitUpdate} {i : Nat}
    {relay relay' : RelayUnit} (h : Updated b req b' u i relay relay') :
    b.unitsInMemory = true := by
  have hlookup := (resolveUpdate_eq_ok h.resolved).2.1
  unfold getRelayFromMemoryByKey at hlookup
  split at hlookup
  · exact (getRelayActuatorFromMemoryByKey_eq_ok hlookup).1
  · exact (getRelaySensorFromMemoryByKey_eq_ok hlookup).1

theorem inv_step {b b' : Board} {l : Label} (hinv : Inv b)
    (hstep : deviceSystem.step b l b') : Inv b' := by
  obtain ⟨book, hstored, hsafe, htable⟩ := hinv
  match l with
  | .boot env newDeviceId newDeviceSerial gpio =>
      obtain ⟨hwrite, hboot⟩ := hstep
      obtain ⟨b₁, book', heq, hrefreshed, hloaded⟩ :=
        appMain_loaded env hwrite newDeviceId newDeviceSerial gpio hstored
      rw [hboot] at heq
      cases heq
      -- provisioning adds safe pins, refreshing keeps all pins
      have hgrows := (book.grows_provision hstored.counts_lt).1
      exact ⟨book', hloaded.stored, hrefreshed.safe (hgrows.safe hsafe),
        fun _ => ⟨_, hloaded.booted⟩⟩
  | .setting key writeOk val out =>
      obtain ⟨out', nvs, happly, rfl⟩ := hstep
      have hstored' := hstored.applySetting happly
      refine ⟨book, hstored', hsafe, ?_⟩
      intro hmem
      -- the table still has the counts of its boot
      obtain ⟨counts, hbooted⟩ := htable hmem
      exact ⟨counts, hbooted.withNvs hstored'.holds⟩
  | .update env serializes req response =>
      obtain ⟨u, i, relay, relay', hupdated⟩ := updateRelayPostHandler_ok hstep
      -- the handler finds its unit in the table only
      obtain ⟨counts, hbooted⟩ := htable (unitsInMemory_of_updated hupdated)
      have hpin := hupdated.gpioPin_mem (hbooted.safe hsafe hupdated.replaced.found)
      obtain ⟨book', hbooted', hstored', hsafe', _⟩ :=
        hbooted.replaced_wellStored hstored hsafe hupdated.replaced hpin
      exact ⟨book', hstored', hsafe', fun _ => ⟨counts, hbooted'⟩⟩
  | .mqtt connected ready =>
      cases hstep
      refine ⟨book, hstored, hsafe, ?_⟩
      intro hmem
      obtain ⟨counts, hbooted⟩ := htable hmem
      exact ⟨counts, hmem, hbooted.holds, hbooted.counts_lt, hbooted.complete, hbooted.units,
        hbooted.relays_count, hbooted.sensors_count⟩

theorem inv_of_reachable {b : Board} (h : Reachable deviceSystem b) : Inv b :=
  h.invariant (fun _ hinit => inv_init hinit) (fun _ _ _ hinv hstep => inv_step hinv hstep)

/-! ### Main Theorem -/

/-- Whatever the history, the stored channels have no gaps, and a boot provisions
    every unit below the counts without touching a stored one. -/
theorem provisions_of_reachable (b : Board) (h : Reachable deviceSystem b) :
    DownwardClosed b.nvs ∧ Provisions b.nvs := by
  obtain ⟨book, hstored, _, _⟩ := inv_of_reachable h
  exact ⟨downwardClosed_of_holds hstored.holds, provisions_of_wellStored hstored⟩

/-- A device after its first boot. -/
theorem provisions_of_reachable_firstBoot :
    ∃ b, Reachable deviceSystem b ∧ b.unitsInMemory = true ∧ DownwardClosed b.nvs ∧
      Provisions b.nvs := by
  obtain ⟨b, book, hboot, _, hloaded⟩ := appMain_loaded Env.ok (fun _ => rfl) "DC".toList
    "S".toList Gpio.State.initial wellStored_empty
  have hinit : deviceSystem.init (Board.reset Nvs.empty Gpio.State.initial) :=
    ⟨Gpio.State.initial, rfl⟩
  have hreach : Reachable deviceSystem b :=
    (Reachable.init hinit).step
      (l := Label.boot Env.ok "DC".toList "S".toList Gpio.State.initial)
      ⟨fun _ => rfl, hboot⟩
  exact ⟨b, hreach, hloaded.booted.in_memory, provisions_of_reachable b hreach⟩

end Completeness
