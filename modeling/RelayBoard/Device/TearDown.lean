import RelayBoard.Framework.Transition
import RelayBoard.Web.SettingUpdate
import RelayBoard.Web.UpdateRelay

/-! # Tear-Down Before a Reboot

  `system_reboot` of `main/settings.c` creates a task that stops the MQTT client and
  the HTTP server and restarts the device. Every trigger creates a task of its own,
  and all tasks share the two global handles. The file determines in which runs the
  server and the client are stopped once.
-/

open CString LTS Web

namespace TearDown

/-! ### Triggers -/

/-- What asks for a reboot, with what its handler decides on. -/
inductive Trigger where
  | reboot
  | reset (action : Int) (resetOk : Bool)
  | control (jsonRequest : Json)
  | settingUpdate (jsonRequest : Json) (failureCount : Nat)

/-- The calls of `system_reboot` in `reboot_handler`. -/
def rebootHandlerCalls : Nat := 1

/-- The calls of `system_reboot` in the `switch` of `reset_post_handler` and in the
    `reboot_handler` after it. Action 9 succeeds with the call of its own. -/
def resetCalls (action : Int) (resetOk : Bool) : Nat :=
  if action = 0 ∨ action = 1 ∨ action = 2 then if resetOk then rebootHandlerCalls else 0
  else if action = 9 then 1 + rebootHandlerCalls
  else 0

/-- The mode of a control request for a restart. -/
def controlMode (jsonRequest : Json) : Option Int :=
  if numberItem jsonRequest "action".toList = some 1 then
    (jsonRequest.getObjectItem "params".toList).bind fun params =>
      numberItem params "mode".toList
  else none

/-- The calls of `system_reboot` in `api_control_handler` and in the `reboot_handler`
    after it. -/
def controlCalls (jsonRequest : Json) : Nat :=
  if controlMode jsonRequest = some 0 then 1 + rebootHandlerCalls else 0

/-- The calls of `system_reboot` in the handler of an accepted request. -/
def Trigger.calls : Trigger → Nat
  | .reboot => rebootHandlerCalls
  | .reset action resetOk => resetCalls action resetOk
  | .control jsonRequest => controlCalls jsonRequest
  | .settingUpdate jsonRequest failureCount =>
      if rebootRequired jsonRequest failureCount then 1 else 0

/-- Modes 1 and 2 of a control request restart the device at once. -/
def Trigger.restarts : Trigger → Bool
  | .control jsonRequest =>
      controlMode jsonRequest = some 1 ∨ controlMode jsonRequest = some 2
  | _ => false

/-! ### The Reboot Tasks -/

/-- Where a `system_reboot_task` stands: the call or the test it comes to next. -/
inductive Pc where
  | mqttStop
  | cleanupMqtt
  | clientStop
  | clientDestroy
  | clearClient
  | httpStop
  | httpStopping
  | restart
  deriving DecidableEq, Repr

/-- The handles with the state of what they stand for, the calls that the handler in
    progress has still to make, the tasks created, and the calls made so far. -/
structure RebootState where
  server : Bool
  serverRunning : Bool
  mqttClient : Bool
  clientStarted : Bool
  pendingCalls : Nat
  tasks : Nat
  pc : Nat → Pc
  httpdStops : Nat
  clientStops : Nat
  clientDestroys : Nat
  failedStops : Nat
  restarted : Bool

/-- Task `t` comes to `pc`. -/
def RebootState.goto (s : RebootState) (t : Nat) (pc : Pc) : RebootState :=
  { s with pc := fun t' => if t' = t then pc else s.pc t' }

/-- `system_reboot`: is the task created? Its result is not looked at. -/
def systemReboot (s : RebootState) (created : Bool) : RebootState :=
  if created then { s with tasks := s.tasks + 1 } else s

/-- One step of `system_reboot_task`. `esp_mqtt_client_stop` succeeds on a client that
    was started, and `httpd_stop` on a server that no one has begun to stop; it waits for
    the handler in progress. `stop_http_server` clears its parameter, not the handle. -/
def taskStep (s : RebootState) (t : Nat) : Option RebootState :=
  match s.pc t with
  | .mqttStop => some (s.goto t (if s.mqttClient then .cleanupMqtt else .httpStop))
  | .cleanupMqtt => some (s.goto t (if s.mqttClient then .clientStop else .httpStop))
  | .clientStop =>
      if s.mqttClient ∧ s.clientStarted then
        some ({ s with clientStarted := false, clientStops := s.clientStops + 1 }.goto t
          .clientDestroy)
      else
        some ({ s with
          clientStops := s.clientStops + 1, failedStops := s.failedStops + 1 }.goto t .httpStop)
  | .clientDestroy =>
      if s.mqttClient then
        some ({ s with clientDestroys := s.clientDestroys + 1 }.goto t .clearClient)
      else some (s.goto t .httpStop)
  | .clearClient => some ({ s with mqttClient := false }.goto t .httpStop)
  | .httpStop =>
      if s.server then
        if s.serverRunning ∧ s.httpdStops = 0 then
          some ({ s with httpdStops := 1 }.goto t .httpStopping)
        else
          some ({ s with
            httpdStops := s.httpdStops + 1, failedStops := s.failedStops + 1 }.goto t .restart)
      else some (s.goto t .restart)
  | .httpStopping =>
      if s.pendingCalls = 0 then some ({ s with serverRunning := false }.goto t .restart)
      else none
  | .restart => some { s with restarted := true }

/-- A request is accepted, its handler calls `system_reboot`, a task of the firmware
    (the memory guard, an update over the air) does, or a reboot task makes a step. -/
inductive Action where
  | accept (trigger : Trigger)
  | handlerCall (created : Bool)
  | taskCall (created : Bool)
  | run (t : Nat)

/-- One step before the restart. Requests are handled one at a time. -/
def next (s : RebootState) (a : Action) : Option RebootState :=
  if s.restarted then none
  else
    match a with
    | .accept trigger =>
        if s.serverRunning ∧ s.pendingCalls = 0 then
          some { s with pendingCalls := trigger.calls, restarted := trigger.restarts }
        else none
    | .handlerCall created =>
        if 0 < s.pendingCalls then
          some (systemReboot { s with pendingCalls := s.pendingCalls - 1 } created)
        else none
    | .taskCall created => some (systemReboot s created)
    | .run t => if t < s.tasks then taskStep s t else none

/-- The state before the first trigger. -/
def initial (server mqttClient clientStarted : Bool) : RebootState where
  server := server
  serverRunning := server
  mqttClient := mqttClient
  clientStarted := clientStarted
  pendingCalls := 0
  tasks := 0
  pc := fun _ => .mqttStop
  httpdStops := 0
  clientStops := 0
  clientDestroys := 0
  failedStops := 0
  restarted := false

/-- Reboot triggers and the tasks they create, with or without a server and a client. -/
def rebootSystem : System RebootState Action :=
  .ofNext (fun s => ∃ server mqttClient clientStarted,
    s = initial server mqttClient clientStarted) next

/-- Nothing was stopped or destroyed twice, and every stop succeeded. -/
structure TearDownOnce (s : RebootState) : Prop where
  httpd : s.httpdStops ≤ 1
  stop : s.clientStops ≤ 1
  destroy : s.clientDestroys ≤ 1
  succeeds : s.failedStops = 0

/-- A call creates a task only as the first one, or when neither handle is set; and the
    client to be stopped was started. -/
def Sole (s : RebootState) : Action → Prop
  | .handlerCall true | .taskCall true =>
      s.tasks = 0 ∨ s.server = false ∧ s.mqttClient = false
  | .run t => s.pc t = .clientStop → s.clientStarted = true
  | _ => True

/-! ### The First Task -/

/-- What the first task has done when it comes to `pc`. -/
def Phase (s : RebootState) : Pc → Prop
  | .mqttStop | .cleanupMqtt =>
      s.httpdStops = 0 ∧ s.clientStops = 0 ∧ s.clientDestroys = 0
  | .clientStop =>
      s.httpdStops = 0 ∧ s.clientStops = 0 ∧ s.clientDestroys = 0 ∧ s.mqttClient = true
  | .clientDestroy =>
      s.httpdStops = 0 ∧ s.clientStops = 1 ∧ s.clientDestroys = 0 ∧ s.mqttClient = true
  | .clearClient => s.httpdStops = 0 ∧ s.clientStops = 1 ∧ s.clientDestroys = 1
  | .httpStop =>
      s.httpdStops = 0 ∧ s.clientStops ≤ 1 ∧ s.clientDestroys ≤ 1 ∧ s.mqttClient = false
  | .httpStopping =>
      s.httpdStops = 1 ∧ s.clientStops ≤ 1 ∧ s.clientDestroys ≤ 1 ∧ s.mqttClient = false
  | .restart =>
      s.httpdStops = s.server.toNat ∧ s.clientStops ≤ 1 ∧ s.clientDestroys ≤ 1 ∧
        s.mqttClient = false

/-- The first task is in its phase. The others find neither handle set. -/
structure Inv (s : RebootState) : Prop where
  phase : Phase s (s.pc 0)
  running : s.server = true → s.httpdStops = 0 → s.serverRunning = true
  stopping : s.pc 0 = .httpStopping → s.server = true
  failed : s.failedStops = 0
  uncreated : ∀ t, s.tasks ≤ t → s.pc t = .mqttStop
  later : ∀ t, t ≠ 0 → s.pc t = .mqttStop ∨ s.pc t = .httpStop ∨ s.pc t = .restart
  unset : ∀ t, t ≠ 0 → t < s.tasks → s.server = false ∧ s.mqttClient = false

@[simp] theorem goto_pc_self (s : RebootState) (t : Nat) (pc : Pc) : (s.goto t pc).pc t = pc :=
  if_pos rfl

@[simp] theorem goto_pc_ne (s : RebootState) (pc : Pc) {t t' : Nat} (h : t' ≠ t) :
    (s.goto t pc).pc t' = s.pc t' :=
  if_neg h

theorem Inv.once {s : RebootState} (h : Inv s) : TearDownOnce s := by
  have hphase := h.phase
  cases hpc : s.pc 0 with
  | restart =>
      rw [hpc] at hphase
      have hle : s.server.toNat ≤ 1 := Bool.toNat_le s.server
      exact ⟨hphase.1 ▸ hle, hphase.2.1, hphase.2.2.1, h.failed⟩
  | _ =>
      rw [hpc] at hphase
      exact ⟨by have := hphase.1; omega, by have := hphase.2.1; omega,
        by have := hphase.2.2; omega, h.failed⟩

theorem inv_initial (server mqttClient clientStarted : Bool) :
    Inv (initial server mqttClient clientStarted) where
  phase := ⟨rfl, rfl, rfl⟩
  running := fun h _ => h
  stopping := nofun
  failed := rfl
  uncreated := fun _ _ => rfl
  later := fun _ _ => .inl rfl
  unset := fun _ _ h => absurd h (Nat.not_lt_zero _)

/-- A call keeps the invariant if a task is created only alone. -/
theorem inv_systemReboot {s : RebootState} (h : Inv s) {created : Bool}
    (hsole : created = true → s.tasks = 0 ∨ s.server = false ∧ s.mqttClient = false) :
    Inv (systemReboot s created) := by
  cases created with
  | false => exact h
  | true =>
      refine ⟨h.phase, h.running, h.stopping, h.failed,
        fun t ht => h.uncreated t (Nat.le_of_succ_le ht), h.later, ?_⟩
      intro t ht hlt
      rcases hsole rfl with h0 | hunset
      · -- the task is the first one
        have hlt' : t < s.tasks + 1 := hlt
        omega
      · exact hunset

@[simp] theorem phase_goto (s : RebootState) (t : Nat) (pc pc' : Pc) :
    Phase (s.goto t pc) pc' ↔ Phase s pc' := by
  cases pc' <;> exact Iff.rfl

/-- The first task comes to `pc` in a state `s₁` that differs from `s` by its call. -/
theorem Inv.goto_first {s : RebootState} (s₁ : RebootState) (pc : Pc) (h : Inv s)
    (hlt : 0 < s.tasks)
    (hpcs : s₁.pc = s.pc) (htasks : s₁.tasks = s.tasks) (hserver : s₁.server = s.server)
    (hclient : s.mqttClient = false → s₁.mqttClient = false) (hfailed : s₁.failedStops = 0)
    (hrunning : s₁.server = true → s₁.httpdStops = 0 → s₁.serverRunning = true)
    (hphase : Phase s₁ pc) (hstopping : pc = .httpStopping → s₁.server = true) :
    Inv (s₁.goto 0 pc) := by
  refine ⟨?_, hrunning, ?_, hfailed, ?_, ?_, ?_⟩
  · rw [goto_pc_self, phase_goto]
    exact hphase
  · rw [goto_pc_self]
    exact hstopping
  · intro t ht
    have ht' : s.tasks ≤ t := htasks ▸ ht
    rw [goto_pc_ne s₁ pc (show t ≠ 0 by omega), hpcs]
    exact h.uncreated t ht'
  · intro t ht
    rw [goto_pc_ne s₁ pc ht, hpcs]
    exact h.later t ht
  · intro t ht hlt'
    obtain ⟨hs, hc⟩ := h.unset t ht (htasks ▸ hlt')
    exact ⟨hserver.trans hs, hclient hc⟩

section first
variable {s s' : RebootState} (h : Inv s) (hlt : 0 < s.tasks)
include h hlt

/-- Without a call, the first task has to be in the phase it comes to. -/
theorem Inv.advance {pc : Pc} (hphase : Phase s pc) (hpc : pc ≠ .httpStopping) :
    Inv (s.goto 0 pc) :=
  h.goto_first s pc hlt rfl rfl rfl id h.failed h.running hphase fun heq => absurd heq hpc

/-- The tests of the client's handle before anything is called. -/
theorem Inv.testClient
    (hidle : s.httpdStops = 0 ∧ s.clientStops = 0 ∧ s.clientDestroys = 0) {pc : Pc}
    (hpc : pc = .cleanupMqtt ∨ pc = .clientStop) :
    Inv (s.goto 0 (if s.mqttClient then pc else .httpStop)) := by
  obtain ⟨hhttpd, hstops, hdestroys⟩ := hidle
  cases hc : s.mqttClient with
  | false =>
      show Inv (s.goto 0 .httpStop)
      exact h.advance hlt ⟨hhttpd, by omega, by omega, hc⟩ (by decide)
  | true =>
      show Inv (s.goto 0 pc)
      rcases hpc with rfl | rfl
      · exact h.advance hlt ⟨hhttpd, hstops, hdestroys⟩ (by decide)
      · exact h.advance hlt ⟨hhttpd, hstops, hdestroys, hc⟩ (by decide)

theorem Inv.stopClient (hpc : s.pc 0 = .clientStop) (hstarted : s.clientStarted = true)
    (hstep : taskStep s 0 = some s') : Inv s' := by
  have hphase := h.phase
  simp only [taskStep, hpc] at hstep hphase
  obtain ⟨hhttpd, hstops, hdestroys, hclient⟩ := hphase
  rw [if_pos ⟨hclient, hstarted⟩] at hstep
  cases hstep
  exact h.goto_first
    { s with clientStarted := false, clientStops := s.clientStops + 1 } .clientDestroy hlt
    rfl rfl rfl id h.failed h.running
    ⟨hhttpd, congrArg (· + 1) hstops, hdestroys, hclient⟩ nofun

theorem Inv.destroyClient (hpc : s.pc 0 = .clientDestroy) (hstep : taskStep s 0 = some s') :
    Inv s' := by
  have hphase := h.phase
  simp only [taskStep, hpc] at hstep hphase
  obtain ⟨hhttpd, hstops, hdestroys, hclient⟩ := hphase
  rw [if_pos hclient] at hstep
  cases hstep
  exact h.goto_first { s with clientDestroys := s.clientDestroys + 1 } .clearClient hlt
    rfl rfl rfl id h.failed h.running ⟨hhttpd, hstops, congrArg (· + 1) hdestroys⟩ nofun

theorem Inv.clearClient (hpc : s.pc 0 = .clearClient) (hstep : taskStep s 0 = some s') :
    Inv s' := by
  have hphase := h.phase
  simp only [taskStep, hpc] at hstep hphase
  obtain ⟨hhttpd, hstops, hdestroys⟩ := hphase
  cases hstep
  exact h.goto_first { s with mqttClient := false } .httpStop hlt
    rfl rfl rfl (fun _ => rfl) h.failed h.running
    ⟨hhttpd, le_of_eq hstops, le_of_eq hdestroys, rfl⟩ nofun

theorem Inv.stopHttpd (hpc : s.pc 0 = .httpStop) (hstep : taskStep s 0 = some s') : Inv s' := by
  have hphase := h.phase
  simp only [taskStep, hpc] at hstep hphase
  obtain ⟨hhttpd, hrest⟩ := hphase
  cases hs : s.server with
  | true =>
      rw [if_pos hs, if_pos ⟨h.running hs hhttpd, hhttpd⟩] at hstep
      cases hstep
      refine h.goto_first { s with httpdStops := 1 } .httpStopping hlt
        rfl rfl rfl id h.failed ?_ ⟨rfl, hrest⟩ (fun _ => hs)
      intro _ h0
      exact absurd h0 Nat.one_ne_zero
  | false =>
      rw [if_neg (by rw [hs]; exact Bool.false_ne_true)] at hstep
      cases hstep
      exact h.advance hlt ⟨by rw [hs]; exact hhttpd, hrest⟩ (by decide)

/-- The server has waited for the handler in progress. -/
theorem Inv.httpdStopped (hpc : s.pc 0 = .httpStopping) (hstep : taskStep s 0 = some s') :
    Inv s' := by
  have hphase := h.phase
  simp only [taskStep, hpc] at hstep hphase
  obtain ⟨hhttpd, hrest⟩ := hphase
  obtain ⟨_, hs'⟩ := Option.ite_none_right_eq_some.mp hstep
  cases hs'
  refine h.goto_first { s with serverRunning := false } .restart hlt rfl rfl rfl id
    h.failed ?_ ⟨by rw [h.stopping hpc]; exact hhttpd, hrest⟩ nofun
  intro _ h0
  exact absurd (hhttpd.symm.trans h0) Nat.one_ne_zero

/-- A step of the first task leads to its next phase. -/
theorem inv_taskStep_first (hsole : Sole s (.run 0)) (hstep : taskStep s 0 = some s') :
    Inv s' := by
  have hphase := h.phase
  cases hpc : s.pc 0 with
  | mqttStop =>
      simp only [taskStep, hpc] at hstep hphase
      cases hstep
      exact h.testClient hlt hphase (.inl rfl)
  | cleanupMqtt =>
      simp only [taskStep, hpc] at hstep hphase
      cases hstep
      exact h.testClient hlt hphase (.inr rfl)
  | clientStop => exact h.stopClient hlt hpc (hsole hpc) hstep
  | clientDestroy => exact h.destroyClient hlt hpc hstep
  | clearClient => exact h.clearClient hlt hpc hstep
  | httpStop => exact h.stopHttpd hlt hpc hstep
  | httpStopping => exact h.httpdStopped hlt hpc hstep
  | restart =>
      simp only [taskStep, hpc] at hstep
      cases hstep
      exact ⟨h.phase, h.running, h.stopping, h.failed, h.uncreated, h.later, h.unset⟩

end first

/-- A step of a later task calls nothing. -/
theorem inv_taskStep_later {s s' : RebootState} (h : Inv s) {t : Nat} (ht : t ≠ 0)
    (hlt : t < s.tasks) (hstep : taskStep s t = some s') : Inv s' := by
  obtain ⟨hs, hc⟩ := h.unset t ht hlt
  have hgoto : ∀ pc, pc = .httpStop ∨ pc = .restart → Inv (s.goto t pc) := by
    intro pc hpc
    refine ⟨?_, h.running, ?_, h.failed, ?_, ?_, h.unset⟩
    · rw [goto_pc_ne s pc ht.symm, phase_goto]
      exact h.phase
    · rw [goto_pc_ne s pc ht.symm]
      exact h.stopping
    · intro t' ht'
      have hle : s.tasks ≤ t' := ht'
      rw [goto_pc_ne s pc (show t' ≠ t by omega)]
      exact h.uncreated t' hle
    · intro t' ht'
      by_cases heq : t' = t
      · rw [heq, goto_pc_self]
        exact .inr hpc
      · rw [goto_pc_ne s pc heq]
        exact h.later t' ht'
  unfold taskStep at hstep
  rcases h.later t ht with hpc | hpc | hpc
  · simp only [hpc, hc, Bool.false_eq_true, if_false] at hstep
    cases hstep
    exact hgoto .httpStop (.inl rfl)
  · simp only [hpc, hs, Bool.false_eq_true, if_false] at hstep
    cases hstep
    exact hgoto .restart (.inr rfl)
  · simp only [hpc] at hstep
    cases hstep
    exact ⟨h.phase, h.running, h.stopping, h.failed, h.uncreated, h.later, h.unset⟩

/-- The step lemma. -/
theorem inv_next {s s' : RebootState} {a : Action} (h : Inv s) (hsole : Sole s a)
    (hstep : next s a = some s') : Inv s' := by
  unfold next at hstep
  split at hstep
  · cases hstep
  cases a with
  | accept trigger =>
      obtain ⟨_, hs'⟩ := Option.ite_none_right_eq_some.mp hstep
      cases hs'
      exact ⟨h.phase, h.running, h.stopping, h.failed, h.uncreated, h.later, h.unset⟩
  | handlerCall created =>
      obtain ⟨_, hs'⟩ := Option.ite_none_right_eq_some.mp hstep
      cases hs'
      have hinv : Inv { s with pendingCalls := s.pendingCalls - 1 } :=
        ⟨h.phase, h.running, h.stopping, h.failed, h.uncreated, h.later, h.unset⟩
      refine inv_systemReboot hinv ?_
      intro hcreated
      subst hcreated
      exact hsole
  | taskCall created =>
      cases hstep
      refine inv_systemReboot h ?_
      intro hcreated
      subst hcreated
      exact hsole
  | run t =>
      obtain ⟨hlt, hs'⟩ := Option.ite_none_right_eq_some.mp hstep
      by_cases ht : t = 0
      · subst ht
        exact inv_taskStep_first h hlt hsole hs'
      · exact inv_taskStep_later h ht hlt hs'

theorem inv_of_reachableWhen {s : RebootState} (h : ReachableWhen rebootSystem Sole s) :
    Inv s := by
  refine h.invariant ?_ ?_
  · rintro s ⟨server, mqttClient, clientStarted, rfl⟩
    exact inv_initial server mqttClient clientStarted
  · intro s a s' hinv hsole hstep
    exact inv_next hinv hsole hstep

/-! ### Two Tasks -/

/-- Steps of task `t` alone: the other tasks stay where they are. -/
structure Alone (t : Nat) (s s' : RebootState) : Prop where
  steps : Steps rebootSystem s s'
  restarted : s'.restarted = s.restarted
  tasks : s'.tasks = s.tasks
  server : s'.server = s.server
  httpdStops : s.httpdStops ≤ s'.httpdStops
  others : ∀ t', t' ≠ t → s'.pc t' = s.pc t'

theorem Alone.trans {t : Nat} {s s' s'' : RebootState} (h : Alone t s s')
    (h' : Alone t s' s'') : Alone t s s'' where
  steps := h.steps.trans h'.steps
  restarted := h'.restarted.trans h.restarted
  tasks := h'.tasks.trans h.tasks
  server := h'.server.trans h.server
  httpdStops := h.httpdStops.trans h'.httpdStops
  others := fun t' ht' => (h'.others t' ht').trans (h.others t' ht')

/-- A created task can make its step at any time before the restart. -/
theorem Steps.run {s s' : RebootState} {t : Nat} (hrestarted : s.restarted = false)
    (hlt : t < s.tasks) (hstep : taskStep s t = some s') : Steps rebootSystem s s' := by
  refine (Steps.refl s).step (l := .run t) ?_
  show next s (.run t) = some s'
  simp only [next, hrestarted, hlt, if_true, Bool.false_eq_true, if_false, hstep]

/-- One step of task `t` to `pc`, over a state `s₁` that differs from `s` by its call. -/
theorem Alone.goto {s : RebootState} {t : Nat} (s₁ : RebootState) (pc : Pc)
    (hrestarted : s.restarted = false) (hlt : t < s.tasks)
    (hstep : taskStep s t = some (s₁.goto t pc)) (hpcs : s₁.pc = s.pc)
    (hrestarted₁ : s₁.restarted = s.restarted) (htasks : s₁.tasks = s.tasks)
    (hserver : s₁.server = s.server) (hhttpd : s.httpdStops ≤ s₁.httpdStops) :
    Alone t s (s₁.goto t pc) where
  steps := Steps.run hrestarted hlt hstep
  restarted := hrestarted₁
  tasks := htasks
  server := hserver
  httpdStops := hhttpd
  others := fun t' ht' => by rw [goto_pc_ne s₁ pc ht', hpcs]

/-- Task `t` can come to its call of `httpd_stop`. -/
def CanStopHttpd (t : Nat) (s : RebootState) : Prop :=
  ∃ s', Alone t s s' ∧ s.httpdStops < s'.httpdStops

theorem CanStopHttpd.of_alone {t : Nat} {s s' : RebootState} (h : Alone t s s')
    (h' : CanStopHttpd t s') : CanStopHttpd t s := by
  obtain ⟨s'', hs'', hlt⟩ := h'
  exact ⟨s'', h.trans hs'', lt_of_le_of_lt h.httpdStops hlt⟩

section calls
variable {s : RebootState} {t : Nat} (hrestarted : s.restarted = false) (hlt : t < s.tasks)
  (hserver : s.server = true)
include hrestarted hlt hserver

theorem canStopHttpd_httpStop (hpc : s.pc t = .httpStop) : CanStopHttpd t s := by
  by_cases hrunning : s.serverRunning ∧ s.httpdStops = 0
  · have hstep : taskStep s t = some ({ s with httpdStops := 1 }.goto t .httpStopping) := by
      simp only [taskStep, hpc]
      rw [if_pos hserver, if_pos hrunning]
    refine ⟨_, Alone.goto { s with httpdStops := 1 } .httpStopping hrestarted hlt hstep
      rfl rfl rfl rfl ?_, ?_⟩
    · show s.httpdStops ≤ 1
      omega
    · show s.httpdStops < 1
      omega
  · have hstep : taskStep s t = some ({ s with
        httpdStops := s.httpdStops + 1, failedStops := s.failedStops + 1 }.goto t .restart) := by
      simp only [taskStep, hpc]
      rw [if_pos hserver, if_neg hrunning]
    exact ⟨_, Alone.goto _ .restart hrestarted hlt hstep rfl rfl rfl rfl (Nat.le_succ _),
      Nat.lt_succ_self _⟩

/-- A step to a point from which the call can be reached. -/
theorem canStopHttpd_goto (s₁ : RebootState) (pc : Pc)
    (hstep : taskStep s t = some (s₁.goto t pc)) (hpcs : s₁.pc = s.pc)
    (hrestarted₁ : s₁.restarted = s.restarted) (htasks : s₁.tasks = s.tasks)
    (hserver₁ : s₁.server = s.server) (hhttpd : s₁.httpdStops = s.httpdStops)
    (hreach : ∀ s' : RebootState, s'.restarted = false → t < s'.tasks → s'.server = true →
      s'.pc t = pc → CanStopHttpd t s') : CanStopHttpd t s := by
  have halone := Alone.goto s₁ pc hrestarted hlt hstep hpcs hrestarted₁ htasks hserver₁
    (le_of_eq hhttpd.symm)
  exact .of_alone halone (hreach _ (halone.restarted.trans hrestarted)
    (halone.tasks ▸ hlt) (halone.server.trans hserver) (goto_pc_self s₁ t pc))

theorem canStopHttpd_clearClient (hpc : s.pc t = .clearClient) : CanStopHttpd t s := by
  refine canStopHttpd_goto hrestarted hlt hserver { s with mqttClient := false } .httpStop ?_
    rfl rfl rfl rfl rfl fun _ => canStopHttpd_httpStop
  simp only [taskStep, hpc]

theorem canStopHttpd_clientDestroy (hpc : s.pc t = .clientDestroy) : CanStopHttpd t s := by
  by_cases hclient : s.mqttClient = true
  · refine canStopHttpd_goto hrestarted hlt hserver
      { s with clientDestroys := s.clientDestroys + 1 } .clearClient ?_
      rfl rfl rfl rfl rfl fun _ => canStopHttpd_clearClient
    simp only [taskStep, hpc]
    exact if_pos hclient
  · refine canStopHttpd_goto hrestarted hlt hserver s .httpStop ?_
      rfl rfl rfl rfl rfl fun _ => canStopHttpd_httpStop
    simp only [taskStep, hpc]
    exact if_neg hclient

theorem canStopHttpd_clientStop (hpc : s.pc t = .clientStop) : CanStopHttpd t s := by
  by_cases hstop : s.mqttClient ∧ s.clientStarted
  · refine canStopHttpd_goto hrestarted hlt hserver
      { s with clientStarted := false, clientStops := s.clientStops + 1 } .clientDestroy ?_
      rfl rfl rfl rfl rfl fun _ => canStopHttpd_clientDestroy
    simp only [taskStep, hpc]
    exact if_pos hstop
  · refine canStopHttpd_goto hrestarted hlt hserver
      { s with clientStops := s.clientStops + 1, failedStops := s.failedStops + 1 } .httpStop ?_
      rfl rfl rfl rfl rfl fun _ => canStopHttpd_httpStop
    simp only [taskStep, hpc]
    exact if_neg hstop

/-- A test of the client's handle leads on to the stop of the client or of the server. -/
theorem canStopHttpd_test {pc : Pc}
    (hstep : taskStep s t = some (s.goto t (if s.mqttClient then pc else .httpStop)))
    (hreach : ∀ s' : RebootState, s'.restarted = false → t < s'.tasks → s'.server = true →
      s'.pc t = pc → CanStopHttpd t s') : CanStopHttpd t s := by
  by_cases hclient : s.mqttClient = true
  · refine canStopHttpd_goto hrestarted hlt hserver s pc ?_ rfl rfl rfl rfl rfl hreach
    rw [hstep, if_pos hclient]
  · refine canStopHttpd_goto hrestarted hlt hserver s .httpStop ?_
      rfl rfl rfl rfl rfl fun _ => canStopHttpd_httpStop
    rw [hstep, if_neg hclient]

theorem canStopHttpd_cleanupMqtt (hpc : s.pc t = .cleanupMqtt) : CanStopHttpd t s := by
  refine canStopHttpd_test hrestarted hlt hserver ?_ fun _ => canStopHttpd_clientStop
  simp only [taskStep, hpc]

theorem canStopHttpd_mqttStop (hpc : s.pc t = .mqttStop) : CanStopHttpd t s := by
  refine canStopHttpd_test hrestarted hlt hserver ?_ fun _ => canStopHttpd_cleanupMqtt
  simp only [taskStep, hpc]

/-- Every task that has not called `httpd_stop` yet can. -/
theorem canStopHttpd (hpc : s.pc t ≠ .httpStopping ∧ s.pc t ≠ .restart) :
    CanStopHttpd t s := by
  cases h : s.pc t with
  | mqttStop => exact canStopHttpd_mqttStop hrestarted hlt hserver h
  | cleanupMqtt => exact canStopHttpd_cleanupMqtt hrestarted hlt hserver h
  | clientStop => exact canStopHttpd_clientStop hrestarted hlt hserver h
  | clientDestroy => exact canStopHttpd_clientDestroy hrestarted hlt hserver h
  | clearClient => exact canStopHttpd_clearClient hrestarted hlt hserver h
  | httpStop => exact canStopHttpd_httpStop hrestarted hlt hserver h
  | httpStopping => exact absurd h hpc.1
  | restart => exact absurd h hpc.2

end calls

/-- With the server's handle set, two tasks can both call `httpd_stop`. -/
theorem two_httpdStops {s : RebootState} (h : Inv s) (hrestarted : s.restarted = false)
    (hserver : s.server = true) {s' : RebootState} (hrestarted' : s'.restarted = s.restarted)
    (htasks : s'.tasks = s.tasks + 1) (hserver' : s'.server = s.server) (hpcs : s'.pc = s.pc)
    (hhttpd : s'.httpdStops = s.httpdStops) (hlt : 0 < s.tasks) :
    ∃ s'', Steps rebootSystem s' s'' ∧ ¬ TearDownOnce s'' := by
  have hnew : s'.pc s.tasks = .mqttStop := by rw [hpcs, h.uncreated s.tasks le_rfl]
  have hne : s.tasks ≠ 0 := Nat.ne_of_gt hlt
  obtain ⟨s₁, h₁, hlt₁⟩ := canStopHttpd (t := s.tasks) (hrestarted'.trans hrestarted)
    (by rw [htasks]; exact Nat.lt_succ_self _) (hserver'.trans hserver)
    ⟨by rw [hnew]; nofun, by rw [hnew]; nofun⟩
  have hphase := h.phase
  by_cases hpc : s.pc 0 ≠ .httpStopping ∧ s.pc 0 ≠ .restart
  · -- the first task has not called yet: it calls after the new one
    have hpc₁ : s₁.pc 0 = s.pc 0 := by rw [h₁.others 0 hne.symm, hpcs]
    obtain ⟨s₂, h₂, hlt₂⟩ := canStopHttpd (t := 0)
      (h₁.restarted.trans (hrestarted'.trans hrestarted))
      (by rw [h₁.tasks, htasks]; exact Nat.succ_pos _)
      (h₁.server.trans (hserver'.trans hserver)) (by rw [hpc₁]; exact hpc)
    refine ⟨s₂, h₁.steps.trans h₂.steps, fun honce => ?_⟩
    have := honce.httpd
    omega
  · have hone : s.httpdStops = 1 := by
      rcases Decidable.not_and_iff_not_or_not.mp hpc with hpc | hpc
      · rw [Decidable.not_not.mp hpc] at hphase
        exact hphase.1
      · rw [Decidable.not_not.mp hpc] at hphase
        exact hphase.1.trans (by rw [hserver]; rfl)
    refine ⟨s₁, h₁.steps, fun honce => ?_⟩
    have := honce.httpd
    omega

@[simp] theorem goto_goto (s : RebootState) (t : Nat) (pc pc' : Pc) :
    (s.goto t pc).goto t pc' = s.goto t pc' := by
  have hpcs : ((s.goto t pc).goto t pc').pc = (s.goto t pc').pc := by
    funext t'
    by_cases ht : t' = t
    · rw [ht, goto_pc_self, goto_pc_self]
    · rw [goto_pc_ne _ _ ht, goto_pc_ne _ _ ht, goto_pc_ne _ _ ht]
  exact congrArg (fun pcs => { s with pc := pcs }) hpcs

theorem goto_self (s : RebootState) {t : Nat} {pc : Pc} (h : s.pc t = pc) :
    s.goto t pc = s := by
  have hpcs : (s.goto t pc).pc = s.pc := by
    funext t'
    by_cases ht : t' = t
    · rw [ht, goto_pc_self, h]
    · rw [goto_pc_ne _ _ ht]
  exact congrArg (fun pcs => { s with pc := pcs }) hpcs

/-- While the client's handle is set, a task before the stop of the client comes to it. -/
theorem steps_clientStop {s : RebootState} {t : Nat} (hrestarted : s.restarted = false)
    (hlt : t < s.tasks) (hclient : s.mqttClient = true)
    (hpc : s.pc t = .mqttStop ∨ s.pc t = .cleanupMqtt ∨ s.pc t = .clientStop) :
    Steps rebootSystem s (s.goto t .clientStop) := by
  have hcleanup : ∀ s : RebootState, s.restarted = false → t < s.tasks →
      s.mqttClient = true → s.pc t = .cleanupMqtt →
      Steps rebootSystem s (s.goto t .clientStop) := by
    intro s hrestarted hlt hclient hpc
    refine Steps.run hrestarted hlt ?_
    simp only [taskStep, hpc, hclient, if_true]
  rcases hpc with hpc | hpc | hpc
  · have hstep : Steps rebootSystem s (s.goto t .cleanupMqtt) := by
      refine Steps.run hrestarted hlt ?_
      simp only [taskStep, hpc, hclient, if_true]
    have hnext := hcleanup (s.goto t .cleanupMqtt) hrestarted hlt hclient (goto_pc_self _ _ _)
    rw [goto_goto] at hnext
    exact hstep.trans hnext
  · exact hcleanup s hrestarted hlt hclient hpc
  · rw [goto_self s hpc]
    exact Steps.refl s

/-- The call of `esp_mqtt_client_stop`, whatever its result. -/
theorem taskStep_clientStop {s : RebootState} {t : Nat} (hpc : s.pc t = .clientStop) :
    ∃ s', taskStep s t = some s' ∧ s'.clientStops = s.clientStops + 1 ∧
      s'.restarted = s.restarted ∧ s'.tasks = s.tasks ∧
      ∀ t', t' ≠ t → s'.pc t' = s.pc t' := by
  simp only [taskStep, hpc]
  split
  · exact ⟨_, rfl, rfl, rfl, rfl, fun t' ht' => goto_pc_ne _ _ ht'⟩
  · exact ⟨_, rfl, rfl, rfl, rfl, fun t' ht' => goto_pc_ne _ _ ht'⟩

/-- As long as the client's handle is set, the first task has stopped it or will. -/
theorem Inv.clientStops_cases {s : RebootState} (h : Inv s) (hclient : s.mqttClient = true) :
    (s.pc 0 = .mqttStop ∨ s.pc 0 = .cleanupMqtt ∨ s.pc 0 = .clientStop) ∨
      s.clientStops = 1 := by
  have hphase := h.phase
  cases hpc : s.pc 0 with
  | mqttStop => exact .inl (.inl rfl)
  | cleanupMqtt => exact .inl (.inr (.inl rfl))
  | clientStop => exact .inl (.inr (.inr rfl))
  | clientDestroy =>
      rw [hpc] at hphase
      exact .inr hphase.2.1
  | clearClient =>
      rw [hpc] at hphase
      exact .inr hphase.2.1
  | httpStop | httpStopping | restart =>
      rw [hpc] at hphase
      exact absurd (hclient.symm.trans hphase.2.2.2) nofun

/-- With the client's handle set, two tasks can both stop the client. -/
theorem two_clientStops {s : RebootState} (h : Inv s) (hrestarted : s.restarted = false)
    (hclient : s.mqttClient = true) {s' : RebootState} (hrestarted' : s'.restarted = s.restarted)
    (htasks : s'.tasks = s.tasks + 1) (hclient' : s'.mqttClient = s.mqttClient)
    (hpcs : s'.pc = s.pc) (hstops : s'.clientStops = s.clientStops) (hlt : 0 < s.tasks) :
    ∃ s'', Steps rebootSystem s' s'' ∧ ¬ TearDownOnce s'' := by
  have hnew : s'.pc s.tasks = .mqttStop := by rw [hpcs, h.uncreated s.tasks le_rfl]
  have hne : s.tasks ≠ 0 := Nat.ne_of_gt hlt
  have hready : Steps rebootSystem s' (s'.goto s.tasks .clientStop) :=
    steps_clientStop (hrestarted'.trans hrestarted) (by rw [htasks]; exact Nat.lt_succ_self _)
      (hclient'.trans hclient) (.inl hnew)
  rcases h.clientStops_cases hclient with hfirst | hone
  · -- both tasks come to the stop before either makes it
    have hready₀ : Steps rebootSystem (s'.goto s.tasks .clientStop)
        ((s'.goto s.tasks .clientStop).goto 0 .clientStop) := by
      refine steps_clientStop (hrestarted'.trans hrestarted) ?_ (hclient'.trans hclient) ?_
      · show 0 < s'.tasks
        rw [htasks]
        exact Nat.succ_pos _
      · rw [goto_pc_ne _ _ hne.symm, hpcs]
        exact hfirst
    obtain ⟨s₁, hs₁, hstops₁, hrestarted₁, htasks₁, hothers₁⟩ :=
      taskStep_clientStop (goto_pc_self (s'.goto s.tasks .clientStop) 0 .clientStop)
    have hpc₁ : s₁.pc s.tasks = .clientStop := by
      rw [hothers₁ _ hne, goto_pc_ne _ _ hne, goto_pc_self]
    obtain ⟨s₂, hs₂, hstops₂, -, -, -⟩ := taskStep_clientStop hpc₁
    have hstep₁ := Steps.run (s := (s'.goto s.tasks .clientStop).goto 0 .clientStop)
      (hrestarted'.trans hrestarted) (show 0 < s'.tasks by rw [htasks]; exact Nat.succ_pos _) hs₁
    have hstep₂ := Steps.run (hrestarted₁.trans (hrestarted'.trans hrestarted))
      (show s.tasks < s₁.tasks from htasks₁ ▸ (htasks ▸ Nat.lt_succ_self s.tasks)) hs₂
    refine ⟨s₂, hready.trans (hready₀.trans (hstep₁.trans hstep₂)), fun honce => ?_⟩
    have hle := honce.stop
    have hstops₁' : s₁.clientStops = s'.clientStops + 1 := hstops₁
    omega
  · obtain ⟨s₁, hs₁, hstops₁, -, -, -⟩ :=
      taskStep_clientStop (goto_pc_self s' s.tasks .clientStop)
    have hstep₁ := Steps.run (s := s'.goto s.tasks .clientStop) (hrestarted'.trans hrestarted)
      (show s.tasks < s'.tasks by rw [htasks]; exact Nat.lt_succ_self _) hs₁
    refine ⟨s₁, hready.trans hstep₁, fun honce => ?_⟩
    have hle := honce.stop
    have hstops₁' : s₁.clientStops = s'.clientStops + 1 := hstops₁
    omega

/-- A call whose task is not sole leads to a second tear-down. -/
theorem systemReboot_not_sole {s : RebootState} (h : Inv s) (hrestarted : s.restarted = false)
    (hsole : ¬ (s.tasks = 0 ∨ s.server = false ∧ s.mqttClient = false)) (pendingCalls : Nat) :
    ∃ s'', Steps rebootSystem (systemReboot { s with pendingCalls := pendingCalls } true) s'' ∧
      ¬ TearDownOnce s'' := by
  obtain ⟨htasks, hset⟩ := not_or.mp hsole
  have hpos : 0 < s.tasks := Nat.pos_of_ne_zero htasks
  by_cases hserver : s.server = true
  · exact two_httpdStops h hrestarted hserver rfl rfl rfl rfl rfl hpos
  · have hclient : s.mqttClient = true := by
      by_contra hclient
      exact hset ⟨Bool.eq_false_of_not_eq_true hserver, Bool.eq_false_of_not_eq_true hclient⟩
    exact two_clientStops h hrestarted hclient rfl rfl rfl rfl rfl hpos

/-- The step that first fails the condition leads to a second or a failed stop. -/
theorem next_not_sole {s s' : RebootState} {a : Action} (h : Inv s) (hstep : next s a = some s')
    (hsole : ¬ Sole s a) : ∃ s'', Steps rebootSystem s' s'' ∧ ¬ TearDownOnce s'' := by
  unfold next at hstep
  split at hstep
  · cases hstep
  next hrestarted =>
  have hrestarted' : s.restarted = false := Bool.not_eq_true _ ▸ hrestarted
  cases a with
  | accept trigger => exact absurd trivial hsole
  | handlerCall created =>
      cases created with
      | false => exact absurd trivial hsole
      | true =>
          obtain ⟨_, hs'⟩ := Option.ite_none_right_eq_some.mp hstep
          cases hs'
          exact systemReboot_not_sole h hrestarted' hsole _
  | taskCall created =>
      cases created with
      | false => exact absurd trivial hsole
      | true =>
          cases hstep
          exact systemReboot_not_sole h hrestarted' hsole s.pendingCalls
  | run t =>
      obtain ⟨hpc, hstarted⟩ := Classical.not_imp.mp hsole
      obtain ⟨_, hs'⟩ := Option.ite_none_right_eq_some.mp hstep
      have hstop : ¬ (s.mqttClient ∧ s.clientStarted) := fun hboth => hstarted hboth.2
      simp only [taskStep, hpc] at hs'
      rw [if_neg hstop] at hs'
      cases hs'
      exact ⟨_, Steps.refl _, fun honce => absurd honce.succeeds (Nat.succ_ne_zero _)⟩

/-! ### Results -/

instance (s : RebootState) : (a : Action) → Decidable (Sole s a)
  | .accept _ | .handlerCall false | .taskCall false => .isTrue trivial
  | .handlerCall true | .taskCall true =>
      inferInstanceAs (Decidable (s.tasks = 0 ∨ s.server = false ∧ s.mqttClient = false))
  | .run t => inferInstanceAs (Decidable (s.pc t = .clientStop → s.clientStarted = true))

/-- **The tear-down before a reboot**: in a run whose steps are all sole, nothing is torn
    down twice and every stop succeeds; from a step that is not, a run leads to a second
    or a failed stop. -/
theorem tearDown_once {s : RebootState} (h : ReachableWhen rebootSystem Sole s) :
    TearDownOnce s ∧
      ∀ a s', rebootSystem.step s a s' → ¬ Sole s a →
        ∃ s'', Steps rebootSystem s' s'' ∧ ¬ TearDownOnce s'' := by
  have hinv := inv_of_reachableWhen h
  refine ⟨hinv.once, ?_⟩
  intro a s' hstep hsole
  exact next_not_sole hinv hstep hsole

/-- One task tears everything down. -/
def soleRun : List Action :=
  [.accept .reboot, .handlerCall true, .run 0, .run 0, .run 0, .run 0, .run 0, .run 0, .run 0,
    .run 0]

/-- A single request for a reboot is torn down once. -/
theorem tearDown_once_reboot :
    ∃ s, ReachableWhen rebootSystem Sole s ∧ s.restarted = true ∧ s.httpdStops = 1 ∧
      s.clientDestroys = 1 ∧ TearDownOnce s := by
  have hrun : (soleRun.foldlM (fun s a => if Sole s a then next s a else none)
      (initial true true true)).any (fun s =>
        s.restarted ∧ s.httpdStops = 1 ∧ s.clientDestroys = 1) = true := by decide +kernel
  obtain ⟨s, hs, hend⟩ := (Option.any_eq_true _ _).mp hrun
  have hreach : ReachableWhen rebootSystem Sole s :=
    .foldlM (.init ⟨true, true, true, rfl⟩) hs
  obtain ⟨hrestarted, hhttpd, hdestroys⟩ := of_decide_eq_true hend
  exact ⟨s, hreach, hrestarted, hhttpd, hdestroys, (tearDown_once hreach).1⟩

/-- The handler of `POST /reset` with action 9 creates two tasks. -/
def resetRun : List Action :=
  [.accept (.reset 9 true), .handlerCall true, .handlerCall true, .run 0, .run 0, .run 0,
    .run 0, .run 0, .run 0, .run 1, .run 1]

/-- The second task calls `httpd_stop` on the server the first one stops. -/
theorem tearDown_reset :
    ¬ ∀ s, Reachable rebootSystem s → TearDownOnce s := by
  have hrun : (resetRun.foldlM next (initial true true true)).any
      (fun s => s.httpdStops = 2) = true := by decide +kernel
  obtain ⟨s, hs, hend⟩ := (Option.any_eq_true _ _).mp hrun
  intro honce
  have hle := (honce s (.foldlM (.init ⟨true, true, true, rfl⟩) hs)).httpd
  have htwo := of_decide_eq_true hend
  omega

end TearDown
