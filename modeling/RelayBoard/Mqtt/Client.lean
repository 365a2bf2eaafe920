import RelayBoard.Framework.Transition

/-! # The MQTT Client Handle

  `main/mqtt.c` keeps one esp-mqtt client behind the global `mqtt_client`
  and two event bits. Four kinds of task touch them: the client tasks run
  `mqtt_event_handler`, the publishing tasks and `app_main` run
  `mqtt_init`, the Wi-Fi event task clears the bits, and the reboot task
  runs `mqtt_stop`. The model interleaves any number of tasks, each of
  which is at one point of `mqtt_init` or of `cleanup_mqtt`.

  The connection mode is 2 (auto-connect) throughout: the mode tests of
  `mqtt_init` and of the publish functions always pass.
-/

open LTS

namespace MqttClient

/-! ### State -/

/-- Clients are numbered in the order `esp_mqtt_client_init` creates them. -/
abbrev Handle : Type := Nat

/-- FreeRTOS tasks. -/
abbrev Task : Type := Nat

/-- Where a task stands between two accesses to the shared state. -/
inductive Pc where
  /-- Outside `mqtt_init` and `cleanup_mqtt`. -/
  | idle
  /-- `mqtt_init`, waiting for `BIT_WIFI_CONNECTED`. -/
  | initWaitWifi
  /-- `mqtt_init`, about to call `esp_mqtt_client_init`. -/
  | initCreate
  /-- `mqtt_init`, waiting for the broker. -/
  | initWaitBroker
  /-- `cleanup_mqtt`, past `if (mqtt_client)`. -/
  | cleanupClearBits
  /-- `cleanup_mqtt`, about to call `esp_mqtt_client_stop(mqtt_client)`. -/
  | cleanupStop
  /-- `cleanup_mqtt`, about to call `esp_mqtt_client_destroy(mqtt_client)`. -/
  | cleanupDestroy
  /-- `cleanup_mqtt`, about to assign `mqtt_client = NULL`. -/
  | cleanupSetNull
  deriving DecidableEq, Repr

/-- The shared state and the position of every task. -/
structure State where
  /-- `BIT_WIFI_CONNECTED`. -/
  wifiConnected : Bool
  /-- `BIT_MQTT_CONNECTED`. -/
  mqttConnected : Bool
  /-- `BIT_MQTT_READY`. -/
  mqttReady : Bool
  /-- The global `mqtt_client`; `none` is `NULL`. -/
  mqttClient : Option Handle
  /-- Number of clients created so far, hence the next handle. -/
  created : Nat
  /-- Clients on which `esp_mqtt_client_stop` succeeded. -/
  stopped : Handle → Bool
  /-- Clients on which `esp_mqtt_client_destroy` succeeded. -/
  destroyed : Handle → Bool
  /-- Position of each task. -/
  pc : Task → Pc

/-- `IS_MQTT_READY()`. -/
def isMqttReady (s : State) : Bool := s.mqttConnected && s.mqttReady

/-- A client lives from its creation until both stop and destroy have
    succeeded on it. -/
def Live (s : State) (h : Handle) : Prop :=
  h < s.created ∧ ¬ (s.stopped h = true ∧ s.destroyed h = true)

/-- A task is inside `cleanup_mqtt`, past its `NULL` check. -/
def InCleanup (p : Pc) : Prop :=
  p = .cleanupClearBits ∨ p = .cleanupStop ∨ p = .cleanupDestroy ∨ p = .cleanupSetNull

instance (p : Pc) : Decidable (InCleanup p) := by
  unfold InCleanup; infer_instance

/-- Move task `t` to `p`. -/
def setPc (s : State) (t : Task) (p : Pc) : State :=
  { s with pc := fun t' => if t' = t then p else s.pc t' }

@[simp] theorem setPc_self (s : State) (t : Task) (p : Pc) : (setPc s t p).pc t = p := by
  simp [setPc]

@[simp] theorem setPc_ne (s : State) (t t' : Task) (p : Pc) (h : t' ≠ t) :
    (setPc s t p).pc t' = s.pc t' := by
  simp [setPc, h]

/-- Clear `BIT_MQTT_CONNECTED | BIT_MQTT_READY`. -/
def clearMqttBits (s : State) : State :=
  { s with mqttConnected := false, mqttReady := false }

/-- Entry of `cleanup_mqtt`: nothing happens when `mqtt_client` is `NULL`. -/
def enterCleanup (s : State) (t : Task) : State :=
  match s.mqttClient with
  | none => s
  | some _ => setPc s t .cleanupClearBits

/-! ### Steps -/

/-- One access to the shared state by one task, or an event of the network. -/
inductive Label where
  /-- `IP_EVENT_STA_GOT_IP`. -/
  | wifiConnected
  /-- `WIFI_EVENT_STA_DISCONNECTED` in `wifi_provisioning_event_handler`. -/
  | wifiDisconnected
  /-- `MQTT_EVENT_CONNECTED`, up to `relay_publish_all_to_mqtt`. -/
  | eventConnected (t : Task)
  /-- `MQTT_EVENT_DISCONNECTED`, up to the `NULL` check of `cleanup_mqtt`. -/
  | eventDisconnected (t : Task)
  /-- `MQTT_EVENT_ERROR`. -/
  | eventError (t : Task)
  /-- `app_main` calls `mqtt_init`. -/
  | appMainInit (t : Task)
  /-- The client check of `mqtt_publish_relay_data` or `mqtt_publish_system_info`. -/
  | publish (t : Task)
  /-- The client check of `mqtt_relay_subscribe`. -/
  | subscribe (t : Task)
  /-- `mqtt_init`: the Wi-Fi wait ends with the bit set. -/
  | initWifiReady (t : Task)
  /-- `mqtt_init`: returns `ESP_FAIL` before creating a client. -/
  | initGiveUp (t : Task)
  /-- `mqtt_init`: `esp_mqtt_client_init`, register, `esp_mqtt_client_start`. -/
  | initCreate (t : Task)
  /-- `mqtt_init`: the broker wait ends, connected or timed out. -/
  | initReturn (t : Task)
  /-- `mqtt_stop`, up to the `NULL` check of `cleanup_mqtt`. -/
  | mqttStop (t : Task)
  /-- `cleanup_mqtt` clears the bits. -/
  | cleanupClearBits (t : Task)
  /-- `cleanup_mqtt`: `esp_mqtt_client_stop`, with its outcome. -/
  | cleanupStop (t : Task) (ok : Bool)
  /-- `cleanup_mqtt`: `esp_mqtt_client_destroy`, with its outcome. -/
  | cleanupDestroy (t : Task) (ok : Bool)
  /-- `cleanup_mqtt` assigns `mqtt_client = NULL`. -/
  | cleanupSetNull (t : Task)

/-- The state after `t` has created a client in `mqtt_init`. -/
def createClient (s : State) (t : Task) : State :=
  setPc { s with mqttClient := some s.created, created := s.created + 1 } t .initWaitBroker

/-- `esp_mqtt_client_stop` has succeeded on `h`. -/
def markStopped (s : State) (h : Handle) : State :=
  { s with stopped := fun h' => if h' = h then true else s.stopped h' }

/-- `esp_mqtt_client_destroy` has succeeded on `h`. -/
def markDestroyed (s : State) (h : Handle) : State :=
  { s with destroyed := fun h' => if h' = h then true else s.destroyed h' }

/-- `esp_mqtt_client_stop(mqtt_client)`; on failure `cleanup_mqtt` returns.
    On a `NULL` handle esp-mqtt reports an error. -/
def stopClient (s : State) (t : Task) (ok : Bool) : State :=
  match s.mqttClient, ok with
  | some h, true => setPc (markStopped s h) t .cleanupDestroy
  | _, _ => setPc s t .idle

/-- `esp_mqtt_client_destroy(mqtt_client)`; on failure `cleanup_mqtt` returns. -/
def destroyClient (s : State) (t : Task) (ok : Bool) : State :=
  match s.mqttClient, ok with
  | some h, true => setPc (markDestroyed s h) t .cleanupSetNull
  | _, _ => setPc s t .idle

/-- The steps of all tasks. -/
def step (s : State) (l : Label) (s' : State) : Prop :=
  match l with
  | .wifiConnected => s' = { s with wifiConnected := true }
  | .wifiDisconnected => s' = clearMqttBits { s with wifiConnected := false }
  | .eventConnected t =>
      s.pc t = .idle ∧ s' = { s with mqttConnected := true, mqttReady := true }
  | .eventDisconnected t => s.pc t = .idle ∧ s' = enterCleanup (clearMqttBits s) t
  | .eventError t => s.pc t = .idle ∧ s' = clearMqttBits s
  | .appMainInit t => s.pc t = .idle ∧ s' = setPc s t .initWaitWifi
  | .publish t =>
      s.pc t = .idle ∧
      s' = if s.mqttClient = none ∨ s.mqttConnected = false
        then setPc s t .initWaitWifi else s
  | .subscribe t =>
      s.pc t = .idle ∧
      s' = if s.mqttClient = none then s
        else if isMqttReady s then s else setPc s t .initWaitWifi
  | .initWifiReady t =>
      s.pc t = .initWaitWifi ∧ s.wifiConnected = true ∧ s' = setPc s t .initCreate
  | .initGiveUp t =>
      (s.pc t = .initWaitWifi ∨ s.pc t = .initCreate) ∧ s' = setPc s t .idle
  | .initCreate t => s.pc t = .initCreate ∧ s' = createClient s t
  | .initReturn t => s.pc t = .initWaitBroker ∧ s' = setPc s t .idle
  | .mqttStop t => s.pc t = .idle ∧ s' = enterCleanup s t
  | .cleanupClearBits t =>
      s.pc t = .cleanupClearBits ∧ s' = setPc (clearMqttBits s) t .cleanupStop
  | .cleanupStop t ok => s.pc t = .cleanupStop ∧ s' = stopClient s t ok
  | .cleanupDestroy t ok => s.pc t = .cleanupDestroy ∧ s' = destroyClient s t ok
  | .cleanupSetNull t =>
      s.pc t = .cleanupSetNull ∧ s' = setPc { s with mqttClient := none } t .idle

/-- The side condition: a client is created only over a `NULL` handle, and
    no task passes the `NULL` check of `cleanup_mqtt` while another is
    still inside it. -/
def Guarded (s : State) : Label → Prop
  | .initCreate _ => s.mqttClient = none
  | .eventDisconnected _ => s.mqttClient = none ∨ ∀ t, ¬ InCleanup (s.pc t)
  | .mqttStop _ => s.mqttClient = none ∨ ∀ t, ¬ InCleanup (s.pc t)
  | _ => True

/-! ### Inductive Invariant -/

/-- What every guarded run keeps. -/
structure SafetyInv (s : State) : Prop where
  /-- Only the client behind the global pointer lives. -/
  live_eq : ∀ h, Live s h → s.mqttClient = some h
  /-- At most one task is inside `cleanup_mqtt`. -/
  one_cleanup : ∀ t t', InCleanup (s.pc t) → InCleanup (s.pc t') → t = t'
  /-- The pointer is not `NULL` while a task is inside `cleanup_mqtt`. -/
  cleanup_client : ∀ t, InCleanup (s.pc t) → s.mqttClient ≠ none
  /-- A task about to destroy the client has stopped it. -/
  destroy_stopped : ∀ t h, s.pc t = .cleanupDestroy → s.mqttClient = some h →
    s.stopped h = true
  /-- A task about to clear the pointer has stopped and destroyed the client. -/
  setNull_dead : ∀ t h, s.pc t = .cleanupSetNull → s.mqttClient = some h →
    s.stopped h = true ∧ s.destroyed h = true

/-- The event bits play no role in the invariant. -/
theorem SafetyInv.setBits {s : State} (hinv : SafetyInv s) (w c r : Bool) :
    SafetyInv { s with wifiConnected := w, mqttConnected := c, mqttReady := r } :=
  ⟨hinv.live_eq, hinv.one_cleanup, hinv.cleanup_client, hinv.destroy_stopped,
    hinv.setNull_dead⟩

theorem SafetyInv.clearMqttBits {s : State} (hinv : SafetyInv s) :
    SafetyInv (clearMqttBits s) :=
  hinv.setBits s.wifiConnected false false

/-- A task inside `cleanup_mqtt` after `setPc` was inside it before, or is the
    task that moved. -/
theorem inCleanup_setPc {s : State} {t t' : Task} {p : Pc}
    (h : InCleanup ((setPc s t p).pc t')) : t' = t ∨ InCleanup (s.pc t') := by
  by_cases heq : t' = t
  · exact Or.inl heq
  · rw [setPc_ne s t t' p heq] at h
    exact Or.inr h

/-- A task may move to a point outside `cleanup_mqtt` at any time. -/
theorem SafetyInv.setPc_outside {s : State} (hinv : SafetyInv s) (t : Task) {p : Pc}
    (hp : ¬ InCleanup p) : SafetyInv (setPc s t p) := by
  have hpc : ∀ t', InCleanup ((setPc s t p).pc t') → t' ≠ t ∧ InCleanup (s.pc t') := by
    intro t' h'
    have hne : t' ≠ t := by
      rintro rfl
      rw [setPc_self] at h'
      exact hp h'
    rw [setPc_ne s t t' p hne] at h'
    exact ⟨hne, h'⟩
  refine ⟨hinv.live_eq, ?_, ?_, ?_, ?_⟩
  · intro t₁ t₂ h₁ h₂
    exact hinv.one_cleanup t₁ t₂ (hpc t₁ h₁).2 (hpc t₂ h₂).2
  · intro t' h'
    exact hinv.cleanup_client t' (hpc t' h').2
  · intro t' h heq hc
    have hne := (hpc t' (by simp [InCleanup, heq])).1
    rw [setPc_ne s t t' p hne] at heq
    exact hinv.destroy_stopped t' h heq hc
  · intro t' h heq hc
    have hne := (hpc t' (by simp [InCleanup, heq])).1
    rw [setPc_ne s t t' p hne] at heq
    exact hinv.setNull_dead t' h heq hc

/-- A task that alone is inside `cleanup_mqtt`, or enters it while nobody is,
    may move within it as long as what its new point promises is true. -/
theorem SafetyInv.setPc_inside {s : State} (hinv : SafetyInv s) (t : Task) {p : Pc}
    (halone : ∀ t', InCleanup (s.pc t') → t' = t) (hclient : s.mqttClient ≠ none)
    (hdestroy : p = .cleanupDestroy → ∀ h, s.mqttClient = some h → s.stopped h = true)
    (hnull : p = .cleanupSetNull → ∀ h, s.mqttClient = some h →
      s.stopped h = true ∧ s.destroyed h = true) :
    SafetyInv (setPc s t p) := by
  have hpc : ∀ t', InCleanup ((setPc s t p).pc t') → t' = t := by
    intro t' h'
    exact (inCleanup_setPc h').elim id (halone t')
  refine ⟨hinv.live_eq, ?_, ?_, ?_, ?_⟩
  · intro t₁ t₂ h₁ h₂
    rw [hpc t₁ h₁, hpc t₂ h₂]
  · intro _ _
    exact hclient
  · intro t' h heq hc
    have ht := hpc t' (by simp [InCleanup, heq])
    rw [ht, setPc_self] at heq
    exact hdestroy heq h hc
  · intro t' h heq hc
    have ht := hpc t' (by simp [InCleanup, heq])
    rw [ht, setPc_self] at heq
    exact hnull heq h hc

/-! ### One Lemma per Shared-State Change -/

theorem SafetyInv.enterCleanup {s : State} (hinv : SafetyInv s) (t : Task)
    (hg : s.mqttClient = none ∨ ∀ t', ¬ InCleanup (s.pc t')) :
    SafetyInv (enterCleanup s t) := by
  cases hc : s.mqttClient with
  | none => simpa [MqttClient.enterCleanup, hc] using hinv
  | some h =>
      have hnone : ∀ t', ¬ InCleanup (s.pc t') := by
        rcases hg with hg | hg
        · rw [hc] at hg
          exact absurd hg (by simp)
        · exact hg
      have : SafetyInv (setPc s t .cleanupClearBits) :=
        hinv.setPc_inside t (fun t' h' => absurd h' (hnone t')) (by simp [hc])
          (by simp) (by simp)
      simpa [MqttClient.enterCleanup, hc] using this

/-- A task inside `cleanup_mqtt` is alone there. -/
theorem SafetyInv.alone {s : State} (hinv : SafetyInv s) {t : Task}
    (ht : InCleanup (s.pc t)) : ∀ t', InCleanup (s.pc t') → t' = t :=
  fun t' h' => hinv.one_cleanup t' t h' ht

theorem SafetyInv.createClient {s : State} (hinv : SafetyInv s) (t : Task)
    (hg : s.mqttClient = none) : SafetyInv (createClient s t) := by
  have hout : ∀ t', ¬ InCleanup (s.pc t') :=
    fun t' h' => hinv.cleanup_client t' h' hg
  -- nobody is inside `cleanup_mqtt`, so only the new client needs an argument
  have hnew : SafetyInv { s with mqttClient := some s.created, created := s.created + 1 } := by
    refine ⟨?_, ?_, ?_, ?_, ?_⟩
    · intro h hl
      by_cases heq : h = s.created
      · simp [heq]
      · have hlt : h < s.created + 1 := hl.1
        have hold : Live s h := ⟨Nat.lt_of_le_of_ne (Nat.le_of_lt_succ hlt) heq, hl.2⟩
        have := hinv.live_eq h hold
        rw [hg] at this
        exact absurd this (by simp)
    · intro t₁ _ h₁ _
      exact absurd h₁ (hout t₁)
    · intro t' h'
      exact absurd h' (hout t')
    · intro t' _ heq _
      exact absurd (by simp_all [InCleanup]) (hout t')
    · intro t' _ heq _
      exact absurd (by simp_all [InCleanup]) (hout t')
  exact hnew.setPc_outside t (by simp [InCleanup])

theorem SafetyInv.markStopped {s : State} (hinv : SafetyInv s) (h : Handle) :
    SafetyInv (markStopped s h) := by
  refine ⟨?_, hinv.one_cleanup, hinv.cleanup_client, ?_, ?_⟩
  · intro h' hl
    refine hinv.live_eq h' ⟨hl.1, fun hd => hl.2 ⟨?_, hd.2⟩⟩
    show (if h' = h then true else s.stopped h') = true
    simp [hd.1]
  · intro t h' heq hc
    show (if h' = h then true else s.stopped h') = true
    simp [hinv.destroy_stopped t h' heq hc]
  · intro t h' heq hc
    have hd := hinv.setNull_dead t h' heq hc
    exact ⟨by simp [MqttClient.markStopped, hd.1], hd.2⟩

theorem SafetyInv.markDestroyed {s : State} (hinv : SafetyInv s) (h : Handle) :
    SafetyInv (markDestroyed s h) := by
  refine ⟨?_, hinv.one_cleanup, hinv.cleanup_client, hinv.destroy_stopped, ?_⟩
  · intro h' hl
    refine hinv.live_eq h' ⟨hl.1, fun hd => hl.2 ⟨hd.1, ?_⟩⟩
    show (if h' = h then true else s.destroyed h') = true
    simp [hd.2]
  · intro t h' heq hc
    have hd := hinv.setNull_dead t h' heq hc
    exact ⟨hd.1, by simp [MqttClient.markDestroyed, hd.2]⟩

theorem SafetyInv.stopClient {s : State} (hinv : SafetyInv s) (t : Task) (ok : Bool)
    (ht : s.pc t = .cleanupStop) : SafetyInv (stopClient s t ok) := by
  have halone := hinv.alone (t := t) (by simp [InCleanup, ht])
  cases hc : s.mqttClient with
  | none => simpa [MqttClient.stopClient, hc] using hinv.setPc_outside t (by simp [InCleanup])
  | some h =>
      cases ok with
      | false =>
          simpa [MqttClient.stopClient, hc] using hinv.setPc_outside t (by simp [InCleanup])
      | true =>
          simp only [MqttClient.stopClient, hc]
          have hclient : s.mqttClient ≠ none := by simp [hc]
          refine (hinv.markStopped h).setPc_inside t halone hclient ?_ ?_
          · intro _ h' hc'
            have heq : h' = h := Option.some.inj (hc'.symm.trans hc)
            simp [MqttClient.markStopped, heq]
          · intro hp
            exact absurd hp (by simp)

theorem SafetyInv.destroyClient {s : State} (hinv : SafetyInv s) (t : Task) (ok : Bool)
    (ht : s.pc t = .cleanupDestroy) : SafetyInv (destroyClient s t ok) := by
  have halone := hinv.alone (t := t) (by simp [InCleanup, ht])
  cases hc : s.mqttClient with
  | none =>
      simpa [MqttClient.destroyClient, hc] using hinv.setPc_outside t (by simp [InCleanup])
  | some h =>
      cases ok with
      | false =>
          simpa [MqttClient.destroyClient, hc] using
            hinv.setPc_outside t (by simp [InCleanup])
      | true =>
          simp only [MqttClient.destroyClient, hc]
          have hclient : s.mqttClient ≠ none := by simp [hc]
          refine (hinv.markDestroyed h).setPc_inside t halone hclient ?_ ?_
          · intro hp
            exact absurd hp (by simp)
          · intro _ h' hc'
            have heq : h' = h := Option.some.inj (hc'.symm.trans hc)
            exact ⟨hinv.destroy_stopped t h' ht hc', by simp [MqttClient.markDestroyed, heq]⟩

theorem SafetyInv.setNull {s : State} (hinv : SafetyInv s) (t : Task)
    (ht : s.pc t = .cleanupSetNull) :
    SafetyInv (setPc { s with mqttClient := none } t .idle) := by
  have halone := hinv.alone (t := t) (by simp [InCleanup, ht])
  have hout : ∀ t', ¬ InCleanup ((setPc s t .idle).pc t') := by
    intro t' h'
    have heq : t' = t := (inCleanup_setPc h').elim id (halone t')
    rw [heq, setPc_self] at h'
    simp [InCleanup] at h'
  refine ⟨?_, ?_, ?_, ?_, ?_⟩
  · intro h hl
    have hc := hinv.live_eq h hl
    exact absurd (hinv.setNull_dead t h ht hc) hl.2
  · intro t₁ _ h₁ _
    exact absurd h₁ (hout t₁)
  · intro t' h'
    exact absurd h' (hout t')
  · intro t' h _ hc
    exact absurd hc (by simp [setPc])
  · intro t' h _ hc
    exact absurd hc (by simp [setPc])

/-- Every guarded step keeps the invariant. -/
theorem safetyInv_step {s s' : State} {l : Label} (hinv : SafetyInv s)
    (hg : Guarded s l) (hstep : step s l s') : SafetyInv s' := by
  cases l with
  | wifiConnected =>
      subst hstep
      exact hinv.setBits true s.mqttConnected s.mqttReady
  | wifiDisconnected =>
      subst hstep
      exact hinv.setBits false false false
  | eventConnected t =>
      obtain ⟨_, rfl⟩ := hstep
      exact hinv.setBits s.wifiConnected true true
  | eventDisconnected t =>
      -- the guard is about `cleanup_mqtt`, which clearing the bits does not touch
      obtain ⟨_, rfl⟩ := hstep
      exact hinv.clearMqttBits.enterCleanup t hg
  | eventError t =>
      obtain ⟨_, rfl⟩ := hstep
      exact hinv.clearMqttBits
  | appMainInit t =>
      obtain ⟨_, rfl⟩ := hstep
      exact hinv.setPc_outside t (by simp [InCleanup])
  | publish t =>
      obtain ⟨_, rfl⟩ := hstep
      split
      · exact hinv.setPc_outside t (by simp [InCleanup])
      · exact hinv
  | subscribe t =>
      obtain ⟨_, rfl⟩ := hstep
      split
      · exact hinv
      · split
        · exact hinv
        · exact hinv.setPc_outside t (by simp [InCleanup])
  | initWifiReady t =>
      obtain ⟨_, _, rfl⟩ := hstep
      exact hinv.setPc_outside t (by simp [InCleanup])
  | initGiveUp t =>
      obtain ⟨_, rfl⟩ := hstep
      exact hinv.setPc_outside t (by simp [InCleanup])
  | initCreate t =>
      obtain ⟨_, rfl⟩ := hstep
      exact hinv.createClient t hg
  | initReturn t =>
      obtain ⟨_, rfl⟩ := hstep
      exact hinv.setPc_outside t (by simp [InCleanup])
  | mqttStop t =>
      obtain ⟨_, rfl⟩ := hstep
      exact hinv.enterCleanup t hg
  | cleanupClearBits t =>
      obtain ⟨ht, rfl⟩ := hstep
      -- the task moves on inside `cleanup_mqtt`, where it is alone
      have hin : InCleanup (s.pc t) := by simp [InCleanup, ht]
      exact hinv.clearMqttBits.setPc_inside t (hinv.alone hin)
        (hinv.cleanup_client t hin) (by simp) (by simp)
  | cleanupStop t ok =>
      obtain ⟨ht, rfl⟩ := hstep
      exact hinv.stopClient t ok ht
  | cleanupDestroy t ok =>
      obtain ⟨ht, rfl⟩ := hstep
      exact hinv.destroyClient t ok ht
  | cleanupSetNull t =>
      obtain ⟨ht, rfl⟩ := hstep
      exact hinv.setNull t ht

/-! ### Main Theorem -/

end MqttClient
