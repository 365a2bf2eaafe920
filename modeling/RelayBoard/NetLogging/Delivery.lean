import RelayBoard.NetLogging.Client

/-! # What Reaches the Server

  Every socket carries whole lines and then at most a part of one more, in the order they
  were logged in; the drop counter counts the lines that found no room. All this is for
  runs in which the notification comes in time.
-/

open CString LTS BoundedQueue

namespace NetLogging

/-! ### Lines of a Run -/

/-- The lines of a step. -/
def Label.lines (l : Label) : List LogLine := l.texts.filterMap lineOf

/-- The lines that `logging_vprintf` has made, from its installation on. -/
def produced (ls : List Label) : List LogLine :=
  (ls.dropWhile (· ≠ .install)).flatMap Label.lines

theorem produced_of_not_mem {ls : List Label} (h : .install ∉ ls) : produced ls = [] := by
  have hdrop : ls.dropWhile (· ≠ .install) = [] := by
    rw [List.dropWhile_eq_nil_iff]
    intro l hl
    exact decide_eq_true fun heq => h (heq ▸ hl)
  rw [produced, hdrop]
  rfl

theorem produced_append (ls : List Label) (l : Label) :
    produced (ls ++ [l]) = produced ls ++ if .install ∈ ls then l.lines else [] := by
  by_cases hmem : .install ∈ ls
  · have hne : ls.dropWhile (· ≠ .install) ≠ [] := by
      intro hnil
      simpa using List.dropWhile_eq_nil_iff.mp hnil _ hmem
    rw [if_pos hmem]
    unfold produced
    rw [List.dropWhile_append, if_neg (by simpa using hne), List.flatMap_append]
    simp
  · rw [if_neg hmem, produced_of_not_mem hmem]
    by_cases hl : l = .install
    · -- the installation logs nothing
      have hdrop : ls.dropWhile (· ≠ .install) = [] := by
        rw [List.dropWhile_eq_nil_iff]
        intro l hl
        exact decide_eq_true fun heq => hmem (heq ▸ hl)
      unfold produced
      rw [List.dropWhile_append, if_pos (by rw [hdrop]; rfl), hl]
      rfl
    · exact produced_of_not_mem fun h => by
        rcases List.mem_append.mp h with h | h
        · exact hmem h
        · exact hl (List.mem_singleton.mp h).symm

/-! ### What a Socket Has Carried -/

/-- A socket that is closed: its last line was cut off. -/
structure Session where
  lines : List LogLine
  cut : LogLine
  sent : Nat
  sent_lt : sent < cut.text.length

/-- What was received for a socket that is closed. -/
def Session.taken (p : Session) : List LogLine := p.lines ++ [p.cut]

/-- The calls have carried `lines` and then `rest`. A stream is what the calls make together,
    a datagram is what one of them makes. -/
def Carries (t : Transport) (chunks : List CStr) (lines : List LogLine) (rest : CStr) : Prop :=
  match t with
  | .tcp => chunks.flatten = lines.flatMap LogLine.text ++ rest
  | .udp => chunks = lines.map LogLine.text ++ if rest = [] then [] else [rest]

/-- The line the task is sending. -/
def hand : ClientPc → List LogLine
  | .sending line _ => [line]
  | _ => []

/-- What has been sent of it. -/
def part : ClientPc → CStr
  | .sending line off => line.text.take off
  | _ => []

variable {t : Transport} {chunks : List CStr} {lines : List LogLine} {line : LogLine}

theorem Carries.nil : Carries t [] [] [] := by
  cases t <;> rfl

/-- A call carries `n` bytes more, or nothing. -/
theorem Carries.call {off : Nat} (h : Carries t chunks lines (line.text.take off))
    (hoff : t = .udp → off = 0) (n : Nat) :
    Carries t (chunks ++ if 0 < n then [chunk line off n] else []) lines
      (line.text.take (off + n)) := by
  cases t with
  | tcp =>
      have hcall : (if 0 < n then [chunk line off n] else []).flatten = chunk line off n := by
        split
        · simp
        · have hn : n = 0 := by omega
          simp [chunk, hn]
      show (chunks ++ _).flatten = _
      rw [List.flatten_append, hcall, show chunks.flatten = _ from h, List.take_add,
        List.append_assoc]
      rfl
  | udp =>
      cases hoff rfl
      have hchunks : chunks = lines.map LogLine.text ++ [] := h
      show chunks ++ _ = _
      rw [hchunks, List.append_nil, Nat.zero_add]
      by_cases hn : 0 < n
      · have hne : line.text.take n ≠ [] := by
          simp [line.nonempty, Nat.pos_iff_ne_zero.mp hn]
        rw [if_pos hn, if_neg hne]
        rfl
      · have hn0 : n = 0 := by omega
        simp [hn0]

/-- A line that has been sent to its end is one of the lines. -/
theorem Carries.whole (h : Carries t chunks lines line.text) :
    Carries t chunks (lines ++ [line]) [] := by
  cases t with
  | tcp =>
      show chunks.flatten = _
      rw [show chunks.flatten = _ from h]
      simp
  | udp =>
      show chunks = _
      rw [show chunks = _ from h, if_neg line.nonempty]
      simp

/-- What the task has received is in the sockets, in order, and in its hand. -/
def Delivers (t : Transport) (taken : List LogLine) (s : State) : Prop :=
  ∃ (past : List Session) (lines : List LogLine),
    taken = past.flatMap Session.taken ++ lines ++ hand s.client ∧
    List.Forall₂ (fun chunks p => Carries t chunks p.lines (p.cut.text.take p.sent))
      s.closed past ∧
    Carries t s.current lines (part s.client) ∧
    ∀ line off, s.client = .sending line off → off < line.text.length ∧ (t = .udp → off = 0)

variable {taken : List LogLine} {s s' : State}

/-- A step that leaves the sockets alone, with nothing in hand before it or behind it. -/
theorem Delivers.idle (h : Delivers t taken s) (hhand : hand s.client = [])
    (hhand' : hand s'.client = []) (hclosed : s'.closed = s.closed)
    (hcurrent : s'.current = s.current) : Delivers t taken s' := by
  obtain ⟨past, lines, htaken, hpast, hlines, -⟩ := h
  have hpart : ∀ {c : ClientPc}, hand c = [] → part c = [] := by
    intro c hc
    cases c <;> first | rfl | cases hc
  refine ⟨past, lines, ?_, hclosed ▸ hpast, ?_, ?_⟩
  · rw [htaken, hhand, hhand']
  · rw [hcurrent, hpart hhand']
    rwa [hpart hhand] at hlines
  · intro line off hsending
    rw [hsending] at hhand'
    cases hhand'

/-- A line is received. -/
theorem Delivers.receive (h : Delivers t taken s) (hwaiting : s.client = .waiting)
    (hclient : s'.client = .sending line 0) (hclosed : s'.closed = s.closed)
    (hcurrent : s'.current = s.current) : Delivers t (taken ++ [line]) s' := by
  obtain ⟨past, lines, htaken, hpast, hlines, -⟩ := h
  refine ⟨past, lines, ?_, hclosed ▸ hpast, ?_, ?_⟩
  · rw [htaken, hwaiting, hclient]
    simp [hand]
  · rw [hcurrent, hclient]
    rwa [hwaiting] at hlines
  · intro line' off hsending
    rw [hclient] at hsending
    cases hsending
    exact ⟨List.length_pos_iff.mpr line.nonempty, fun _ => rfl⟩

/-- Part of the line goes out, or what is left of it. -/
theorem Delivers.send {off n : Nat} (h : Delivers t taken s)
    (hsending : s.client = .sending line off) (hpos : 0 < n)
    (hle : off + n ≤ line.text.length) (hudp : t = .udp → off + n = line.text.length) :
    Delivers t taken (sentBytes s line off n) := by
  obtain ⟨past, lines, htaken, hpast, hlines, hoff⟩ := h
  have hcall := Carries.call (hsending ▸ hlines) (hoff line off hsending).2 n
  rw [if_pos hpos] at hcall
  -- either the line ends here, or the task goes on with it
  by_cases hend : off + n = line.text.length
  · have hclient : (sentBytes s line off n).client = .receive := if_pos hend
    rw [hend, List.take_length] at hcall
    refine ⟨past, lines ++ [line], ?_, hpast, hclient ▸ hcall.whole, ?_⟩
    · rw [htaken, hsending, hclient]
      simp [hand]
    · rw [hclient]
      exact nofun
  · have hclient : (sentBytes s line off n).client = .sending line (off + n) := if_neg hend
    refine ⟨past, lines, ?_, hpast, hclient ▸ hcall, ?_⟩
    · rw [htaken, hsending, hclient]
      rfl
    · intro line' off' hsending'
      rw [hclient] at hsending'
      cases hsending'
      exact ⟨by omega, fun ht => absurd (hudp ht) hend⟩

/-- The send fails and the socket is closed. -/
theorem Delivers.sendFail {off n : Nat} (h : Delivers t taken s)
    (hsending : s.client = .sending line off) (hlt : off + n < line.text.length) :
    Delivers t taken (sendFailed s line off n) := by
  obtain ⟨past, lines, htaken, hpast, hlines, hoff⟩ := h
  have hcall := Carries.call (hsending ▸ hlines) (hoff line off hsending).2 n
  -- the line is cut off, and the next socket starts with the next line
  refine ⟨past ++ [⟨lines, line, off + n, hlt⟩], [], ?_, ?_, Carries.nil, nofun⟩
  · rw [htaken, hsending]
    simp [hand, sendFailed, Session.taken]
  · exact List.rel_append hpast (List.Forall₂.cons hcall .nil)

/-! ### Logging -/

/-- Logging changes what the logger holds and nothing else. -/
theorem espLogs_eq (s : State) (texts : List (Option CStr)) :
    espLogs s texts = { s with log := (espLogs s texts).log } := by
  induction texts generalizing s with
  | nil => rfl
  | cons text texts ih => exact ih (espLog s text)

/-- What is logged is offered, once `logging_vprintf` is installed. -/
theorem accounts_espLogs {k : Sink} {a : Account LogLine} (h : Accounts k s.log a)
    (texts : List (Option CStr)) :
    ∃ a', Accounts k (espLogs s texts).log a' ∧
      a'.offered = a.offered ++ (if s.installed then texts.filterMap lineOf else []) ∧
      a'.taken = a.taken := by
  induction texts generalizing s a with
  | nil => exact ⟨a, h, by simp, rfl⟩
  | cons text texts ih =>
      have hfirst : ∃ a', Accounts k (espLog s text).log a' ∧
          a'.offered = a.offered ++ (if s.installed then (lineOf text).toList else []) ∧
          a'.taken = a.taken := by
        unfold espLog
        by_cases hinstalled : s.installed
        · simpa [hinstalled] using accounts_loggingVprintf h text
        · refine ⟨a, ?_, by simp [hinstalled], rfl⟩
          dsimp only
          rw [if_neg hinstalled]
          exact h
      -- the rest is offered behind it
      obtain ⟨a₁, h₁, hoffered₁, htaken₁⟩ := hfirst
      obtain ⟨a₂, h₂, hoffered₂, htaken₂⟩ := ih h₁
      refine ⟨a₂, h₂, ?_, htaken₂.trans htaken₁⟩
      rw [hoffered₂, hoffered₁, List.append_assoc, show (espLog s text).installed = s.installed
        from rfl]
      by_cases hinstalled : s.installed
      · cases hline : lineOf text <;> simp [hinstalled, hline]
      · simp [hinstalled]

/-! ### The Invariant -/

variable {cfg : Config} {ls : List Label}

/-- What holds as long as the wait has not timed out. -/
structure Kept (cfg : Config) (ls : List Label) (s : State) : Prop where
  live : s.freed = false
  init : s.init ≠ .delete ∧ s.init ≠ .clear
  installed : s.installed = true ↔ .install ∈ ls
  /-- Before the buffer is created. -/
  fresh : s.init = .start → s.client = .absent ∧ s.closed = [] ∧ s.current = [] ∧
    s.installed = false ∧ ∀ k, s.log.messageBuffer k = none ∧ s.log.drop k = 0
  /-- From then on. -/
  running : s.init ≠ .start → s.fault = none ∧
    ∃ a, Accounts cfg.transport.sink s.log a ∧ a.offered = produced ls ∧
      Delivers cfg.transport a.taken s

theorem kept_initial {log : Logger}
    (hlog : ∀ k, log.messageBuffer k = none ∧ log.drop k = 0) : Kept cfg [] (.initial log) where
  live := rfl
  init := ⟨nofun, nofun⟩
  installed := by simp [State.initial]
  fresh := fun _ => ⟨rfl, rfl, rfl, rfl, hlog⟩
  running := fun h => absurd rfl h

/-- What a step logs is accounted for. -/
theorem Kept.account (h : Kept cfg ls s) (hinit : s.init ≠ .start) (l : Label) :
    ∃ a, Accounts cfg.transport.sink (espLogs s l.texts).log a ∧
      a.offered = produced (ls ++ [l]) ∧ Delivers cfg.transport a.taken s := by
  obtain ⟨-, a, haccounts, hoffered, hdelivers⟩ := h.running hinit
  obtain ⟨a', haccounts', hoffered', htaken'⟩ := accounts_espLogs haccounts l.texts
  refine ⟨a', haccounts', ?_, htaken' ▸ hdelivers⟩
  rw [hoffered', hoffered, produced_append]
  by_cases hmem : .install ∈ ls
  · rw [if_pos hmem, if_pos (h.installed.mpr hmem)]
    rfl
  · rw [if_neg hmem, if_neg fun hinstalled => hmem (h.installed.mp hinstalled)]

/-- A step after which the buffer is there. -/
theorem Kept.next (h : Kept cfg ls s) {l : Label} (hl : l ≠ .install)
    (hfreed : s'.freed = false) (hinit : s'.init = .wait ∨ s'.init = .install ∨ s'.init = .done)
    (hinstalled : s'.installed = s.installed) (hfault : s'.fault = none)
    (haccount : ∃ a, Accounts cfg.transport.sink s'.log a ∧ a.offered = produced (ls ++ [l]) ∧
      Delivers cfg.transport a.taken s') : Kept cfg (ls ++ [l]) s' where
  live := hfreed
  init := by rcases hinit with h | h | h <;> simp [h]
  installed := by
    rw [hinstalled, h.installed, List.mem_append, List.mem_singleton]
    exact ⟨.inl, fun hmem => hmem.resolve_right hl.symm⟩
  fresh := fun hstart => by rcases hinit with h | h | h <;> simp [h] at hstart
  running := fun _ => ⟨hfault, haccount⟩

/-- A step before the buffer is created. -/
theorem Kept.nextFresh (h : Kept cfg ls s) {l : Label} (hl : l ≠ .install)
    (hstart : s.init = .start) (hinit : s'.init = .start) (hfreed : s'.freed = s.freed)
    (hclient : s'.client = s.client) (hclosed : s'.closed = s.closed)
    (hcurrent : s'.current = s.current) (hinstalled : s'.installed = s.installed)
    (hbuffer : s'.log.messageBuffer = s.log.messageBuffer) (hdrop : s'.log.drop = s.log.drop) :
    Kept cfg (ls ++ [l]) s' where
  live := hfreed.trans h.live
  init := by simp [hinit]
  installed := by
    rw [hinstalled, h.installed, List.mem_append, List.mem_singleton]
    exact ⟨.inl, fun hmem => hmem.resolve_right hl.symm⟩
  fresh := fun _ => by
    obtain ⟨habsent, hnone, hnothing, hvprintf, hbuffers⟩ := h.fresh hstart
    exact ⟨hclient.trans habsent, hclosed.trans hnone, hcurrent.trans hnothing,
      hinstalled.trans hvprintf, fun k => by rw [hbuffer, hdrop]; exact hbuffers k⟩
  running := fun hne => absurd hinit hne

/-- The task exists only behind the creation of the buffer. -/
theorem Kept.begun (h : Kept cfg ls s) (hclient : s.client ≠ .absent) : s.init ≠ .start :=
  fun hstart => hclient (h.fresh hstart).1

/-- Behind the creation, the initialisation waits, installs or is done. -/
theorem Kept.pc (h : Kept cfg ls s) (hinit : s.init ≠ .start) :
    s.init = .wait ∨ s.init = .install ∨ s.init = .done := by
  obtain ⟨hdelete, hclear⟩ := h.init
  cases hpc : s.init <;> simp_all

/-- The start, whether or not it comes to the wait. -/
theorem Kept.begin (h : Kept cfg ls s) (hfault : s.fault = none) (hstart : s.init = .start)
    (allocated created : Bool) :
    Kept cfg (ls ++ [.begin allocated created])
      (if allocated = false then { s with fault := some .assert }
        else if ipv4Size ≤ cfg.ipaddr.length then { s with fault := some .overrun }
        else { s with
          log := s.log.setBuffer cfg.transport.sink (some .empty)
          init := .wait
          client := if created then .resolve else .absent }) := by
  obtain ⟨habsent, hclosed, hcurrent, hvprintf, hbuffers⟩ := h.fresh hstart
  -- a start that fails leaves all as it was
  by_cases hallocated : allocated = false
  · rw [if_pos hallocated]
    exact h.nextFresh nofun hstart hstart rfl rfl rfl rfl rfl rfl rfl
  by_cases hlong : ipv4Size ≤ cfg.ipaddr.length
  · rw [if_neg hallocated, if_pos hlong]
    exact h.nextFresh nofun hstart hstart rfl rfl rfl rfl rfl rfl rfl
  rw [if_neg hallocated, if_neg hlong]
  refine h.next nofun h.live (.inl rfl) rfl hfault ⟨.start, ?_, ?_, ?_⟩
  · exact ⟨.empty, if_pos rfl, rfl, (hbuffers _).2⟩
  · have hmem : .install ∉ ls := fun hmem => by
      rw [h.installed.mpr hmem] at hvprintf
      cases hvprintf
    rw [produced_append, if_neg hmem, produced_of_not_mem hmem]
    rfl
  · have hnil : Delivers cfg.transport [] s :=
      ⟨[], [], by rw [habsent]; rfl, hclosed ▸ .nil, by
        rw [hcurrent, habsent]; exact Carries.nil, by rw [habsent]; exact nofun⟩
    refine hnil.idle (by rw [habsent]; rfl) ?_ rfl rfl
    cases created <;> rfl

/-- Every step keeps the invariant, unless the wait times out. -/
theorem kept_step {l : Label} (h : Kept cfg ls s) (hstep : (netLogging cfg).step s l s')
    (hwait : l ≠ .timeout) : Kept cfg (ls ++ [l]) s' := by
  obtain ⟨hfault, hstep⟩ := hstep
  cases l with
  | begin allocated created =>
      obtain ⟨hstart, rfl⟩ := hstep
      exact h.begin hfault hstart allocated created
  | woken =>
      obtain ⟨hpc, -, rfl⟩ := hstep
      have hinit : s.init ≠ .start := by simp [hpc]
      exact h.next nofun h.live (.inr (.inl rfl)) rfl hfault (h.account hinit .woken)
  | timeout => exact absurd rfl hwait
  | delete => exact absurd hstep.1 h.init.1
  | clear => exact absurd hstep.1 h.init.2
  | install =>
      obtain ⟨hpc, rfl⟩ := hstep
      have hinit : s.init ≠ .start := by simp [hpc]
      exact {
        live := h.live
        init := ⟨nofun, nofun⟩
        installed := by simp
        fresh := nofun
        running := fun _ => ⟨hfault, h.account hinit .install⟩ }
  | log text =>
      obtain rfl := hstep
      by_cases hinit : s.init = .start
      · -- it still goes to the console
        have hvprintf := (h.fresh hinit).2.2.2.1
        have hlog : espLog s text = { s with log := vprintf s.log text } := by
          unfold espLog
          rw [if_neg (by simp [hvprintf])]
        rw [hlog]
        exact h.nextFresh nofun hinit hinit rfl rfl rfl rfl rfl rfl rfl
      · exact h.next nofun h.live (h.pc hinit) rfl hfault (h.account hinit (.log text))
  | resolve ok texts =>
      obtain ⟨hclient, -, rfl⟩ := hstep
      have hinit : s.init ≠ .start := h.begun (by simp [hclient])
      obtain ⟨a, haccounts, hoffered, hdelivers⟩ := h.account hinit (.resolve ok texts)
      rw [espLogs_eq]
      refine h.next nofun h.live (h.pc hinit) rfl hfault ⟨a, haccounts, hoffered, ?_⟩
      refine hdelivers.idle (by rw [hclient]; rfl) ?_ rfl rfl
      cases ok <;> rfl
  | opened ok texts =>
      obtain ⟨first, hclient, -, rfl⟩ := hstep
      have hinit : s.init ≠ .start := h.begun (by simp [hclient])
      obtain ⟨a, haccounts, hoffered, hdelivers⟩ := h.account hinit (.opened ok texts)
      rw [espLogs_eq]
      refine h.next nofun h.live (h.pc hinit) rfl hfault ⟨a, haccounts, hoffered, ?_⟩
      refine hdelivers.idle (by rw [hclient]; rfl) ?_ rfl rfl
      cases ok <;> cases first <;> rfl
  | notify =>
      obtain ⟨hclient, rfl⟩ := hstep
      have hinit : s.init ≠ .start := h.begun (by simp [hclient])
      obtain ⟨a, haccounts, hoffered, hdelivers⟩ := h.account hinit .notify
      exact h.next nofun h.live (h.pc hinit) rfl hfault
        ⟨a, haccounts, hoffered, hdelivers.idle (by rw [hclient]; rfl) rfl rfl rfl⟩
  | call =>
      obtain ⟨hclient, rfl⟩ := hstep
      have hinit : s.init ≠ .start := h.begun (by simp [hclient])
      obtain ⟨a, haccounts, hoffered, hdelivers⟩ := h.account hinit .call
      -- the buffer is there
      have hsome : s.log.messageBuffer cfg.transport.sink ≠ none := by
        obtain ⟨mb, hmb, -⟩ := haccounts
        rw [show (espLogs s Label.call.texts) = s from rfl] at hmb
        simp [hmb]
      rw [if_neg hsome, if_neg (by simp [h.live])]
      exact h.next nofun h.live (h.pc hinit) rfl hfault
        ⟨a, haccounts, hoffered, hdelivers.idle (by rw [hclient]; rfl) rfl rfl rfl⟩
  | receive =>
      obtain ⟨hclient, hstep⟩ := hstep
      rw [if_neg (by simp [h.live])] at hstep
      obtain ⟨mb, line, mb', hmb, hreceive, rfl⟩ := hstep
      have hinit : s.init ≠ .start := h.begun (by simp [hclient])
      obtain ⟨a, ⟨mb₁, hmb₁, hwaiting, hdrop⟩, hoffered, hdelivers⟩ := h.account hinit .receive
      obtain rfl : mb = mb₁ := Option.some.inj (hmb.symm.trans hmb₁)
      -- the first line that waits is the one that is taken
      have hitems : a.waiting = line :: mb'.items :=
        hwaiting.trans (Queue.items_of_receive hreceive)
      exact h.next nofun h.live (h.pc hinit) rfl hfault
        ⟨a.take line mb'.items hitems, ⟨mb', if_pos rfl, rfl, hdrop⟩, hoffered,
          hdelivers.receive hclient rfl rfl rfl⟩
  | send n =>
      obtain ⟨line, off, hclient, hpos, hle, hudp, rfl⟩ := hstep
      have hinit : s.init ≠ .start := h.begun (by simp [hclient])
      obtain ⟨a, haccounts, hoffered, hdelivers⟩ := h.account hinit (.send n)
      exact h.next nofun h.live (h.pc hinit) rfl hfault
        ⟨a, haccounts, hoffered, hdelivers.send hclient hpos hle hudp⟩
  | sendFail n texts =>
      obtain ⟨line, off, hclient, hlt, -, -, rfl⟩ := hstep
      have hinit : s.init ≠ .start := h.begun (by simp [hclient])
      obtain ⟨a, haccounts, hoffered, hdelivers⟩ := h.account hinit (.sendFail n texts)
      rw [espLogs_eq]
      exact h.next nofun h.live (h.pc hinit) rfl hfault
        ⟨a, haccounts, hoffered, Delivers.sendFail hdelivers hclient hlt⟩

theorem kept_run {s₀ : State} (hinit : (netLogging cfg).init s₀)
    (h : Run (netLogging cfg) s₀ ls s) (hwait : .timeout ∉ ls) : Kept cfg ls s := by
  induction h with
  | nil =>
      obtain ⟨log, hlog, rfl⟩ := hinit
      exact kept_initial hlog
  | snoc _ hstep ih =>
      refine kept_step (ih fun hmem => hwait (List.mem_append_left _ hmem)) hstep fun hl => ?_
      exact hwait (List.mem_append_right _ (by simp [hl]))

/-! ### What a Run Delivers -/

/-- What waits in the buffer. -/
def queued (t : Transport) (s : State) : List LogLine :=
  match s.log.messageBuffer t.sink with
  | none => []
  | some mb => mb.items

/-- **Delivery**: whichever tasks log, and however the sends and the connections fail, every
    socket has carried whole lines and part of one more, each line once and in the order of
    logging. What is missing was refused by the full buffer, and is counted. -/
theorem delivered_of_run {s₀ : State} (hinit : (netLogging cfg).init s₀)
    (h : Run (netLogging cfg) s₀ ls s) (hwait : .timeout ∉ ls) :
    ∃ (past : List Session) (lines : List LogLine) (refused : Nat),
      List.Forall₂ (fun chunks p => Carries cfg.transport chunks p.lines (p.cut.text.take p.sent))
        s.closed past ∧
      Carries cfg.transport s.current lines (part s.client) ∧
      (past.flatMap Session.taken ++ lines ++ hand s.client ++ queued cfg.transport s).Sublist
        (produced ls) ∧
      (produced ls).length = (past.flatMap Session.taken ++ lines ++ hand s.client ++
        queued cfg.transport s).length + refused ∧
      s.log.drop cfg.transport.sink = UInt32.ofNat refused := by
  have hkept := kept_run hinit h hwait
  by_cases hstart : s.init = .start
  · obtain ⟨habsent, hclosed, hcurrent, hvprintf, hbuffers⟩ := hkept.fresh hstart
    have hmem : .install ∉ ls := fun hmem => by
      rw [hkept.installed.mpr hmem] at hvprintf
      cases hvprintf
    have hqueued : queued cfg.transport s = [] := by
      unfold queued
      rw [(hbuffers _).1]
    rw [hclosed, hcurrent, habsent, hqueued, produced_of_not_mem hmem, (hbuffers _).2]
    exact ⟨[], [], 0, .nil, Carries.nil, List.Sublist.refl [], rfl, rfl⟩
  · obtain ⟨-, a, ⟨mb, hmb, hwaiting, hdrop⟩, hoffered, past, lines, htaken, hpast, hlines, -⟩ :=
      hkept.running hstart
    have hqueued : queued cfg.transport s = a.waiting := by
      unfold queued
      rw [hmb, hwaiting]
    refine ⟨past, lines, a.refused, hpast, hlines, ?_, ?_, hdrop⟩
    · rw [← htaken, hqueued, ← hoffered]
      exact a.ordered
    · rw [← htaken, hqueued, ← hoffered]
      exact a.counted

/-- A server on the network. -/
def tcpConfig : Config := ⟨.tcp, "10.0.0.2".toList, false⟩

/-- No buffer has been created. -/
def firstLogger : Logger := ⟨fun _ => none, fun _ => 0, false, []⟩

/-- The start of the task in time. -/
def startUp : List Label :=
  [.begin true true, .resolve true [none], .opened true [none], .notify, .woken, .install]

/-- The connection breaks in the middle of the first line. -/
def brokenRun : List Label :=
  startUp ++ [.log (some ['a']), .call, .receive, .send 1, .sendFail 0 [none]]

/-- The logger with an empty buffer. -/
def readyLogger : Logger := firstLogger.setBuffer .tcp (some .empty)

/-- The task is about to receive. -/
def readyState : State := ⟨readyLogger, true, .done, .receive, false, false, 0, [], [], none⟩

/-- The task has resolved the address. -/
theorem run_resolved : Run (netLogging tcpConfig) (.initial firstLogger) (startUp.take 2)
    ⟨readyLogger, false, .wait, .opening true, false, false, 0, [], [], none⟩ := by
  let sys := netLogging tcpConfig
  have h₁ : sys.step (.initial firstLogger) (.begin true true)
      ⟨readyLogger, false, .wait, .resolve, false, false, 0, [], [], none⟩ := ⟨rfl, rfl, rfl⟩
  have h₂ : sys.step ⟨readyLogger, false, .wait, .resolve, false, false, 0, [], [], none⟩
      (.resolve true [none])
      ⟨readyLogger, false, .wait, .opening true, false, false, 0, [], [], none⟩ :=
    ⟨rfl, rfl, rfl, rfl⟩
  exact .snoc (.snoc .nil h₁) h₂

theorem run_startUp : Run (netLogging tcpConfig) (.initial firstLogger) startUp readyState := by
  let sys := netLogging tcpConfig
  have h₁ : sys.step ⟨readyLogger, false, .wait, .opening true, false, false, 0, [], [], none⟩
      (.opened true [none])
      ⟨readyLogger, false, .wait, .notify, false, false, 0, [], [], none⟩ :=
    ⟨rfl, true, rfl, rfl, rfl⟩
  have h₂ : sys.step ⟨readyLogger, false, .wait, .notify, false, false, 0, [], [], none⟩ .notify
      ⟨readyLogger, false, .wait, .receive, true, false, 0, [], [], none⟩ := ⟨rfl, rfl, rfl⟩
  have h₃ : sys.step ⟨readyLogger, false, .wait, .receive, true, false, 0, [], [], none⟩ .woken
      ⟨readyLogger, false, .install, .receive, false, false, 0, [], [], none⟩ :=
    ⟨rfl, rfl, rfl, rfl⟩
  have h₄ : sys.step ⟨readyLogger, false, .install, .receive, false, false, 0, [], [], none⟩
      .install readyState := ⟨rfl, rfl, rfl⟩
  exact .snoc (.snoc (.snoc (.snoc run_resolved h₁) h₂) h₃) h₄

theorem exists_brokenRun : ∃ s, Run (netLogging tcpConfig) (.initial firstLogger) brokenRun s ∧
    s.closed = [[['a']]] := by
  let sys := netLogging tcpConfig
  let line : LogLine := .ofBuffer ['a'] (by decide)
  let log : Logger := loggingVprintf readyLogger (some ['a'])
  have h₁ : sys.step readyState (.log (some ['a']))
      ⟨log, true, .done, .receive, false, false, 0, [], [], none⟩ := ⟨rfl, rfl⟩
  have h₂ : sys.step ⟨log, true, .done, .receive, false, false, 0, [], [], none⟩ .call
      ⟨log, true, .done, .waiting, false, false, 0, [], [], none⟩ := ⟨rfl, rfl, rfl⟩
  have h₃ : sys.step ⟨log, true, .done, .waiting, false, false, 0, [], [], none⟩ .receive
      ⟨log.setBuffer .tcp (some .empty), true, .done, .sending line 0, false, false, 0, [], [],
        none⟩ := ⟨rfl, rfl, ⟨[line], by decide⟩, line, .empty, rfl, rfl, rfl⟩
  have h₄ : sys.step ⟨log.setBuffer .tcp (some .empty), true, .done, .sending line 0, false,
      false, 0, [], [], none⟩ (.send 1) ⟨log.setBuffer .tcp (some .empty), true, .done,
      .sending line 1, false, false, 0, [], [['a']], none⟩ :=
    ⟨rfl, line, 0, rfl, by decide, by decide, nofun, rfl⟩
  have h₅ : ∃ s, sys.step ⟨log.setBuffer .tcp (some .empty), true, .done, .sending line 1, false,
      false, 0, [], [['a']], none⟩ (.sendFail 0 [none]) s ∧ s.closed = [[['a']]] :=
    ⟨_, ⟨rfl, line, 1, rfl, by decide, fun _ => rfl, rfl, rfl⟩, rfl⟩
  obtain ⟨s, hstep, hclosed⟩ := h₅
  exact ⟨s, .snoc (.snoc (.snoc (.snoc (.snoc run_startUp h₁) h₂) h₃) h₄) hstep, hclosed⟩

theorem delivered_of_run_broken : ∃ s, s.closed = [[['a']]] ∧
    ∃ (past : List Session) (lines : List LogLine) (refused : Nat),
      List.Forall₂ (fun chunks p => Carries .tcp chunks p.lines (p.cut.text.take p.sent))
        s.closed past ∧
      Carries .tcp s.current lines (part s.client) ∧
      (past.flatMap Session.taken ++ lines ++ hand s.client ++ queued .tcp s).Sublist
        (produced brokenRun) ∧
      (produced brokenRun).length = (past.flatMap Session.taken ++ lines ++ hand s.client ++
        queued .tcp s).length + refused ∧
      s.log.drop .tcp = UInt32.ofNat refused := by
  obtain ⟨s, hrun, hclosed⟩ := exists_brokenRun
  have hinit : (netLogging tcpConfig).init (.initial firstLogger) :=
    ⟨firstLogger, fun _ => ⟨rfl, rfl⟩, rfl⟩
  exact ⟨s, hclosed, delivered_of_run hinit hrun (by decide)⟩

end NetLogging
