import RelayBoard.NetLogging.Delivery

/-! # Emptying the Buffer

  While the server answers, the network task sends what waits, whatever has gone wrong before.
  If nothing has been cut off or refused, the server then has all that was logged.
-/

open CString LTS BoundedQueue

namespace NetLogging

variable {cfg : Config} {ls : List Label} {s s' : State}

/-! ### One Step Further -/

/-- A call adds one line at most. -/
theorem length_loggingVprintf_le {k : Sink} {log : Logger} {mb : MessageBuffer}
    (h : log.messageBuffer k = some mb) (formatted : Option CStr) :
    ∃ mb', (loggingVprintf log formatted).messageBuffer k = some mb' ∧
      mb'.items.length ≤ mb.items.length + 1 := by
  -- the console is none of the buffer's business
  have hconsole : ∀ (log : Logger), (if log.writeToStdout then vprintf log formatted else
      log).messageBuffer = log.messageBuffer := by
    intro log
    split <;> rfl
  unfold loggingVprintf
  rw [hconsole]
  cases lineOf formatted with
  | none => exact ⟨mb, h, Nat.le_succ _⟩
  | some line =>
      dsimp only
      rw [h]
      cases hsend : mb.send line with
      | none => exact ⟨mb, by simp only [sendToMb, hsend], Nat.le_succ _⟩
      | some mb' =>
          refine ⟨mb', by simp only [sendToMb, hsend], ?_⟩
          rw [Queue.items_of_send hsend, List.length_append]
          rfl

/-- The task runs, and its buffer is there. -/
structure Working (cfg : Config) (closed : List (List CStr)) (s : State) : Prop where
  fault : s.fault = none
  live : s.freed = false
  buffer : ∃ mb, s.log.messageBuffer cfg.transport.sink = some mb
  client : s.client ≠ .absent ∧ s.client ≠ .deleted
  off : ∀ line off, s.client = .sending line off →
    off < line.text.length ∧ (cfg.transport = .udp → off = 0)
  closed : s.closed = closed

/-- How far the task is from its next call, with a line for the log on its way there. -/
def rank : ClientPc → Nat
  | .resolve => 10
  | .opening _ => 6
  | .notify => 2
  | .sending _ _ => 2
  | .receive => 1
  | _ => 0

/-- How far the task is from an empty buffer. -/
def distance (cfg : Config) (s : State) : Nat :=
  3 * (queued cfg.transport s).length + rank s.client

/-- The task waits for a line. -/
def Drained (cfg : Config) (s : State) : Prop :=
  s.client = .waiting ∧ queued cfg.transport s = []

theorem queued_eq {t : Transport} {mb : MessageBuffer} (h : s.log.messageBuffer t.sink = some mb) :
    queued t s = mb.items := by
  unfold queued
  rw [h]

theorem distance_lt {mb mb' : MessageBuffer}
    (h : s.log.messageBuffer cfg.transport.sink = some mb)
    (h' : s'.log.messageBuffer cfg.transport.sink = some mb')
    (hlt : 3 * mb'.items.length + rank s'.client < 3 * mb.items.length + rank s.client) :
    distance cfg s' < distance cfg s := by
  unfold distance
  rwa [queued_eq h, queued_eq h']

theorem length_espLog_le {t : Transport} {mb : MessageBuffer}
    (h : s.log.messageBuffer t.sink = some mb) (text : Option CStr) :
    ∃ mb', (espLog s text).log.messageBuffer t.sink = some mb' ∧
      mb'.items.length ≤ mb.items.length + 1 := by
  unfold espLog
  dsimp only
  split
  · exact length_loggingVprintf_le h text
  · exact ⟨mb, h, Nat.le_succ _⟩

/-- With a server that answers, the task comes closer. -/
theorem exists_closer {closed : List (List CStr)} (text : Option CStr)
    (h : Working cfg closed s) (hnot : ¬ Drained cfg s) :
    ∃ l s', (netLogging cfg).step s l s' ∧ l ≠ .timeout ∧ Working cfg closed s' ∧
      distance cfg s' < distance cfg s := by
  obtain ⟨mb, hmb⟩ := h.buffer
  cases hclient : s.client with
  | absent => exact absurd hclient h.client.1
  | deleted => exact absurd hclient h.client.2
  | resolve =>
      -- the message of the start may take a place in the buffer
      obtain ⟨mb', hmb', hle⟩ := length_espLog_le hmb text
      refine ⟨.resolve true [text], { espLog s text with client := .opening true },
        ⟨h.fault, hclient, rfl, rfl⟩, nofun,
        ⟨h.fault, h.live, ⟨mb', hmb'⟩, ⟨nofun, nofun⟩, nofun, h.closed⟩, distance_lt hmb hmb' ?_⟩
      rw [hclient]
      simp only [rank]
      omega
  | opening first =>
      -- so may that of the connection
      obtain ⟨mb', hmb', hle⟩ : ∃ mb' : MessageBuffer, (espLogs s (List.replicate
          (openTexts cfg.transport true) text)).log.messageBuffer cfg.transport.sink = some mb' ∧
          mb'.items.length ≤ mb.items.length + 1 := by
        unfold openTexts
        split
        · exact ⟨mb, hmb, Nat.le_succ _⟩
        · exact length_espLog_le hmb text
      refine ⟨.opened true (List.replicate (openTexts cfg.transport true) text), { espLogs s
          (List.replicate (openTexts cfg.transport true) text) with
          client := if first then .notify else .receive },
        ⟨h.fault, first, hclient, List.length_replicate, rfl⟩, nofun, ?_,
        distance_lt hmb (by rw [espLogs_eq] at hmb' ⊢; exact hmb') ?_⟩
      · rw [espLogs_eq]
        exact ⟨h.fault, h.live, ⟨mb', hmb'⟩, by cases first <;> exact ⟨nofun, nofun⟩,
          by cases first <;> exact nofun, h.closed⟩
      · rw [hclient]
        cases first <;> simp only [rank] <;> simp <;> omega
  | notify =>
      refine ⟨.notify, { s with client := .receive, notified := true },
        ⟨h.fault, hclient, rfl⟩, nofun,
        ⟨h.fault, h.live, ⟨mb, hmb⟩, ⟨nofun, nofun⟩, nofun, h.closed⟩, distance_lt hmb hmb ?_⟩
      rw [hclient]
      simp only [rank]
      omega
  | receive =>
      refine ⟨.call, { s with client := .waiting }, ⟨h.fault, hclient, ?_⟩, nofun,
        ⟨h.fault, h.live, ⟨mb, hmb⟩, ⟨nofun, nofun⟩, nofun, h.closed⟩, distance_lt hmb hmb ?_⟩
      · rw [if_neg (by simp [hmb]), if_neg (by simp [h.live])]
      · rw [hclient]
        simp only [rank]
        omega
  | waiting =>
      cases hitems : mb.items with
      | nil => exact absurd ⟨hclient, (queued_eq hmb).trans hitems⟩ hnot
      | cons line items =>
          obtain ⟨mb', hreceive, hrest⟩ := Queue.exists_receive hitems
          have hmb' : (s.log.setBuffer cfg.transport.sink (some mb')).messageBuffer
            cfg.transport.sink = some mb' := if_pos rfl
          refine ⟨.receive, { s with
              log := s.log.setBuffer cfg.transport.sink (some mb')
              client := .sending line 0 }, ⟨h.fault, hclient, ?_⟩, nofun,
            ⟨h.fault, h.live, ⟨mb', hmb'⟩, ⟨nofun, nofun⟩, ?_, h.closed⟩, distance_lt hmb hmb' ?_⟩
          · rw [if_neg (by simp [h.live])]
            exact ⟨mb, line, mb', hmb, hreceive, rfl⟩
          · intro line' off hsending
            cases hsending
            exact ⟨List.length_pos_iff.mpr line.nonempty, fun _ => rfl⟩
          · rw [hclient, hitems, hrest]
            simp only [List.length_cons, rank]
            omega
  | sending line off =>
      obtain ⟨hlt, hoff⟩ := h.off line off hclient
      -- one call sends the rest
      have hend : off + (line.text.length - off) = line.text.length := by omega
      have hreceive : (sentBytes s line off (line.text.length - off)).client = .receive :=
        if_pos hend
      refine ⟨.send (line.text.length - off), sentBytes s line off (line.text.length - off),
        ⟨h.fault, line, off, hclient, by omega, by omega, fun _ => hend, rfl⟩, nofun,
        ⟨h.fault, h.live, ⟨mb, hmb⟩, ?_, ?_, h.closed⟩, distance_lt hmb hmb ?_⟩
      · rw [hreceive]
        exact ⟨nofun, nofun⟩
      · rw [hreceive]
        exact nofun
      · rw [hclient, hreceive]
        simp only [rank]
        omega

/-- A task that exists works, as long as the wait has not timed out. -/
theorem Kept.working (h : Kept cfg ls s)
    (hclient : s.client ≠ .absent ∧ s.client ≠ .deleted) : Working cfg s.closed s := by
  obtain ⟨hfault, -, ⟨mb, hmb, -⟩, -, -, -, -, -, -, hoff⟩ := h.running (h.begun hclient.1)
  exact ⟨hfault, h.live, ⟨mb, hmb⟩, hclient, hoff, rfl⟩

/-- **Nothing is stuck**: from every point of a run in which the task was in time, it can send
    all that waits. If no line has been cut off and none refused, the server then has all that
    was logged. -/
theorem drained_of_run {s₀ : State} (hinit : (netLogging cfg).init s₀)
    (h : Run (netLogging cfg) s₀ ls s) (hwait : .timeout ∉ ls)
    (hclient : s.client ≠ .absent ∧ s.client ≠ .deleted) :
    ∃ ls' s', Run (netLogging cfg) s₀ (ls ++ ls') s' ∧ s'.client = .waiting ∧
      queued cfg.transport s' = [] ∧ s'.closed = s.closed ∧
      (s.closed = [] → s'.log.drop cfg.transport.sink = 0 →
        (produced (ls ++ ls')).length < 2 ^ 32 →
        Carries cfg.transport s'.current (produced (ls ++ ls')) []) := by
  have hworking := (kept_run hinit h hwait).working hclient
  obtain ⟨ls', s', hrun, hgood, hworking', hwaiting, hempty⟩ :=
    Run.exists_final (distance cfg) (fun _ => exists_closer none) h hworking
  refine ⟨ls', s', hrun, hwaiting, hempty, hworking'.closed, fun hclosed hdrop hlt => ?_⟩
  have hwait' : .timeout ∉ ls ++ ls' := fun hmem => by
    rcases List.mem_append.mp hmem with hmem | hmem
    · exact hwait hmem
    · exact hgood _ hmem rfl
  have hkept := kept_run hinit hrun hwait'
  obtain ⟨-, a, ⟨mb, hmb, hitems, hrefused⟩, hoffered, past, lines, htaken, hpast, hlines, -⟩ :=
    hkept.running (hkept.begun hworking'.client.1)
  -- the counter has not wrapped around
  have hzero : a.refused = 0 := by
    have hcount := a.counted
    rw [hoffered] at hcount
    have hnat := congrArg UInt32.toNat (hrefused.symm.trans hdrop)
    rw [UInt32.toNat_ofNat', UInt32.toNat_zero, Nat.mod_eq_of_lt (by omega)] at hnat
    exact hnat
  have hnothing : past = [] := by
    rw [hworking'.closed, hclosed] at hpast
    cases hpast
    rfl
  have hall := a.complete_iff.mpr hzero
  rw [hoffered, htaken, hitems, ← queued_eq hmb, hempty, hnothing, hwaiting] at hall
  rw [hwaiting] at hlines
  rw [← hall]
  simpa [hand, part] using hlines

theorem drained_of_run_logged : ∃ ls' s', Run (netLogging tcpConfig) (.initial firstLogger)
    (startUp ++ [.log (some ['a'])] ++ ls') s' ∧ queued .tcp s' = [] ∧ s'.closed = [] := by
  have hinit : (netLogging tcpConfig).init (.initial firstLogger) :=
    ⟨firstLogger, fun _ => ⟨rfl, rfl⟩, rfl⟩
  have hstep : (netLogging tcpConfig).step readyState (.log (some ['a']))
      (espLog readyState (some ['a'])) := ⟨rfl, rfl⟩
  obtain ⟨ls', s', hrun, -, hempty, hclosed, -⟩ :=
    drained_of_run hinit (run_startUp.snoc hstep) (by decide) ⟨nofun, nofun⟩
  exact ⟨ls', s', hrun, hempty, hclosed⟩

end NetLogging
