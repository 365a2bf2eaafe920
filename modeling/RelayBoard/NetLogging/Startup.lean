import RelayBoard.NetLogging.Delivery

/-! # The Start of the Network Task

  The wait for the notification of the task lasts a second. The task has no such bound: it
  opens its socket for as long as it takes, and then receives from a buffer that may have
  been deleted.
-/

open CString LTS Settings BoundedQueue

namespace NetLogging

variable {cfg : Config} {ls : List Label} {s s' : State}

/-- No line has come to the task. -/
structure Quiet (cfg : Config) (ls : List Label) (s : State) : Prop where
  empty : ∀ mb, s.log.messageBuffer cfg.transport.sink = some mb → mb.items = []
  notSending : hand s.client = []
  notReopening : s.client ≠ .opening false
  notified : .notify ∈ ls ↔ s.client = .receive ∨ s.client = .waiting

/-- What holds whether or not the wait times out. -/
structure Waited (cfg : Config) (ls : List Label) (s : State) : Prop where
  started : s.init = .start → s.client = .absent
  installed : s.installed = true ↔ s.init = .done
  timedOut : .timeout ∈ ls ↔ s.init = .delete ∨ s.freed = true
  freed : s.freed = true → s.init = .clear ∨
    (s.init = .install ∨ s.init = .done) ∧ s.log.messageBuffer cfg.transport.sink = none
  faulted : s.fault ≠ none → s.init = .start ∨ s.client = .receive ∨ s.client = .waiting
  quiet : s.installed = false ∨ s.freed = true → Quiet cfg ls s

/-- A buffer that is not there, or that nothing is sent to. -/
theorem Waited.closed (h : Waited cfg ls s) (hquiet : s.installed = false ∨ s.freed = true) :
    s.installed = false ∨ s.log.messageBuffer cfg.transport.sink = none := by
  rcases hquiet with hvprintf | hfreed
  · exact .inl hvprintf
  · obtain hclear | ⟨-, hnone⟩ := h.freed hfreed
    · left
      have hnot : s.init ≠ .done := by simp [hclear]
      simpa using mt h.installed.mp hnot
    · exact .inr hnone

/-- A step of the task, or of one that logs. -/
theorem Waited.next (h : Waited cfg ls s) {l : Label} (hl : l ≠ .timeout)
    (hstarted : s.client = .absent → s'.client = .absent)
    (hinit : s'.init = s.init) (hfreed : s'.freed = s.freed)
    (hinstalled : s'.installed = s.installed)
    (hfault : s'.fault ≠ none → s'.client = .receive ∨ s'.client = .waiting)
    (hlog : s.installed = false ∨ s.log.messageBuffer cfg.transport.sink = none →
      s'.log.messageBuffer cfg.transport.sink = s.log.messageBuffer cfg.transport.sink)
    (hclient : Quiet cfg ls s → hand s'.client = [] ∧ s'.client ≠ .opening false ∧
      (.notify ∈ ls ++ [l] ↔ s'.client = .receive ∨ s'.client = .waiting)) :
    Waited cfg (ls ++ [l]) s' where
  started := fun hstart => hstarted (h.started (hinit ▸ hstart))
  installed := by rw [hinstalled, hinit, h.installed]
  timedOut := by
    rw [hinit, hfreed, ← h.timedOut, List.mem_append, List.mem_singleton]
    exact ⟨fun hmem => hmem.resolve_right hl.symm, .inl⟩
  freed := fun hfreed' => by
    rw [hfreed] at hfreed'
    rw [hinit]
    obtain hclear | ⟨hpc, hnone⟩ := h.freed hfreed'
    · exact .inl hclear
    · exact .inr ⟨hpc, (hlog (.inr hnone)).trans hnone⟩
  faulted := fun hne => .inr (hfault hne)
  quiet := fun hquiet => by
    rw [hinstalled, hfreed] at hquiet
    have hq := h.quiet hquiet
    obtain ⟨hhand, hopening, hnotified⟩ := hclient hq
    refine ⟨fun mb hmb => hq.empty mb ?_, hhand, hopening, hnotified⟩
    rwa [hlog (h.closed hquiet)] at hmb

/-- Another step than the notification. -/
theorem Quiet.notified_append (h : Quiet cfg ls s) {l : Label} (hl : l ≠ .notify) :
    .notify ∈ ls ++ [l] ↔ s.client = .receive ∨ s.client = .waiting := by
  rw [List.mem_append, List.mem_singleton, ← h.notified]
  exact ⟨fun hmem => hmem.resolve_right hl.symm, .inl⟩

theorem Waited.mem_timeout_append (h : Waited cfg ls s) {l : Label} (hl : l ≠ .timeout) :
    .timeout ∈ ls ++ [l] ↔ s.init = .delete ∨ s.freed = true := by
  rw [List.mem_append, List.mem_singleton, ← h.timedOut]
  exact ⟨fun hmem => hmem.resolve_right hl.symm, .inl⟩

/-- Until it is done, the initialisation has not installed `logging_vprintf`. -/
theorem Waited.notInstalled (h : Waited cfg ls s) (hpc : s.init ≠ .done) :
    s.installed = false := by
  simpa using mt h.installed.mp hpc

/-- Behind the deletion the initialisation no longer waits. -/
theorem Waited.notFreed (h : Waited cfg ls s)
    (hpc : s.init ≠ .clear ∧ s.init ≠ .install ∧ s.init ≠ .done) : s.freed = false := by
  by_contra hne
  obtain hclear | ⟨hinstall | hdone, -⟩ := h.freed (by simpa using hne)
  · exact hpc.1 hclear
  · exact hpc.2.1 hinstall
  · exact hpc.2.2 hdone

/-- The start, whether or not it comes to the wait. -/
theorem Waited.begin (h : Waited cfg ls s) (hfault : s.fault = none) (hstart : s.init = .start)
    (allocated created : Bool) :
    Waited cfg (ls ++ [.begin allocated created])
      (if allocated = false then { s with fault := some .assert }
        else if ipv4Size ≤ cfg.ipaddr.length then { s with fault := some .overrun }
        else { s with
          log := s.log.setBuffer cfg.transport.sink (some .empty)
          init := .wait
          client := if created then .resolve else .absent }) := by
  have hvprintf := h.notInstalled (by simp [hstart])
  have hfreed := h.notFreed (by simp [hstart])
  have htimedOut := h.mem_timeout_append (l := .begin allocated created) nofun
  have hquiet := h.quiet (.inl hvprintf)
  have hnotified := hquiet.notified_append (l := .begin allocated created) nofun
  have habsent := h.started hstart
  -- a start that fails leaves all as it was
  by_cases hallocated : allocated = false
  · rw [if_pos hallocated]
    exact ⟨fun _ => habsent, h.installed, htimedOut, h.freed, fun _ => .inl hstart,
      fun _ => ⟨hquiet.empty, hquiet.notSending, hquiet.notReopening, hnotified⟩⟩
  by_cases hlong : ipv4Size ≤ cfg.ipaddr.length
  · rw [if_neg hallocated, if_pos hlong]
    exact ⟨fun _ => habsent, h.installed, htimedOut, h.freed, fun _ => .inl hstart,
      fun _ => ⟨hquiet.empty, hquiet.notSending, hquiet.notReopening, hnotified⟩⟩
  rw [if_neg hallocated, if_neg hlong]
  rw [hstart] at htimedOut
  rw [habsent] at hnotified
  refine ⟨nofun, by simp [hvprintf], by simpa using htimedOut, by simp [hfreed],
    absurd hfault, fun _ => ⟨fun mb hmb => ?_, ?_, ?_, ?_⟩⟩
  · have hempty : (s.log.setBuffer cfg.transport.sink (some .empty)).messageBuffer
      cfg.transport.sink = some .empty := if_pos rfl
    cases hempty.symm.trans hmb
    rfl
  · cases created <;> rfl
  · cases created <;> simp
  · rw [hnotified]
    cases created <;> simp

end NetLogging
