import RelayBoard.Framework.Transition
import RelayBoard.NetLogging.Logger
import RelayBoard.Settings.Base

/-! # Logging to a Server

  `tcp_logging_init` and `udp_logging_init` create a message buffer, start the task that
  sends what it receives from it, and wait for its notification. If that does not come in a
  second they delete the buffer; the task goes on. All tasks may log at any time, the
  network task among them.
-/

open CString LTS Settings BoundedQueue

namespace NetLogging

/-! ### The Choice -/

inductive Transport where
  | udp
  | tcp
  deriving DecidableEq, Repr

/-- The buffer the task of a transport receives from. -/
def Transport.sink : Transport → Sink
  | .udp => .udp
  | .tcp => .tcp

/-- What the initialisation is called with. -/
structure Config where
  transport : Transport
  ipaddr : CStr
  enableStdout : Bool
  deriving DecidableEq, Repr

/-- The size of `ipv4` in `PARAMETER_t`. -/
def ipv4Size : Nat := 20

/-- Where the initialisation stands. -/
inductive InitPc where
  | start
  /-- In `ulTaskNotifyTake`. -/
  | wait
  /-- `value == 0`: about to delete the buffer. -/
  | delete
  /-- The buffer is deleted, its handle is not yet null. -/
  | clear
  /-- About to call `esp_log_set_vprintf`. -/
  | install
  | done
  deriving DecidableEq, Repr

/-- Where `tcp_client` or `udp_client` stands. -/
inductive ClientPc where
  /-- The task does not exist. -/
  | absent
  /-- In `resolve_dest_addr`. -/
  | resolve
  /-- In the loop that opens a socket. Has the notification still to be given? -/
  | opening (first : Bool)
  /-- About to notify. -/
  | notify
  /-- About to call `xMessageBufferReceive`. -/
  | receive
  /-- In `xMessageBufferReceive`. -/
  | waiting
  /-- Has sent `off` bytes of a line. -/
  | sending (line : LogLine) (off : Nat)
  | deleted
  deriving DecidableEq

/-- What ends everything. -/
inductive Fault where
  /-- A failed `configASSERT`. -/
  | assert
  /-- A write behind the end of `param.ipv4`. -/
  | overrun
  /-- The use of a deleted buffer. -/
  | useAfterFree
  deriving DecidableEq, Repr

structure State where
  log : Logger
  /-- Is `logging_vprintf` the function of `ESP_LOGx`? -/
  installed : Bool
  init : InitPc
  client : ClientPc
  /-- Is there a notification for the task that initialises? -/
  notified : Bool
  /-- The memory of the buffer has been given back. -/
  freed : Bool
  /-- `send_fail_streak` of `udp_client`. -/
  sendFailStreak : Nat
  /-- What has gone out through the sockets that are closed, call by call. -/
  closed : List (List CStr)
  /-- What has gone out through the socket that is open. -/
  current : List CStr
  fault : Option Fault

/-- Before the initialisation. -/
def State.initial (log : Logger) : State :=
  ⟨log, false, .start, .absent, false, false, 0, [], [], none⟩

/-- `ESP_LOGx`. -/
def espLog (s : State) (formatted : Option CStr) : State :=
  { s with log := if s.installed then loggingVprintf s.log formatted else vprintf s.log formatted }

/-- One after the other. -/
def espLogs (s : State) (texts : List (Option CStr)) : State := texts.foldl espLog s

/-- The handle of a buffer after an assignment. -/
def Logger.setBuffer (log : Logger) (k : Sink) (mb : Option MessageBuffer) : Logger :=
  { log with messageBuffer := fun k' => if k' = k then mb else log.messageBuffer k' }

/-! ### Steps -/

/-- Steps that log carry what `vsnprintf` makes of it. -/
inductive Label where
  /-- The initialisation up to the wait. Do the allocation and `xTaskCreate` succeed? -/
  | begin (allocated created : Bool)
  /-- The wait ends with the notification. -/
  | woken
  /-- The wait ends without. -/
  | timeout
  /-- `vMessageBufferDelete`. -/
  | delete
  /-- The handle is set to null. -/
  | clear
  /-- `esp_log_set_vprintf`. -/
  | install
  /-- Any other task logs. -/
  | log (text : Option CStr)
  /-- `resolve_dest_addr` at the start of the task. -/
  | resolve (ok : Bool) (texts : List (Option CStr))
  /-- A socket is opened, or is not. -/
  | opened (ok : Bool) (texts : List (Option CStr))
  /-- `xTaskNotifyGive`. -/
  | notify
  /-- The task calls `xMessageBufferReceive`. -/
  | call
  /-- `xMessageBufferReceive` returns. -/
  | receive
  /-- `n` more bytes are sent. -/
  | send (n : Nat)
  /-- The send fails with `n` bytes gone out. -/
  | sendFail (n : Nat) (texts : List (Option CStr))
  deriving DecidableEq

/-- What a step logs. -/
def Label.texts : Label → List (Option CStr)
  | .log text => [text]
  | .resolve _ texts => texts
  | .opened _ texts => texts
  | .sendFail _ texts => texts
  | _ => []

/-- How often an attempt to open a socket logs. A UDP socket is opened without a word. -/
def openTexts (t : Transport) (ok : Bool) : Nat := if t = .udp ∧ ok then 0 else 1

/-- How often a failed send logs. Every tenth failure in a row resolves the host again. -/
def failTexts (t : Transport) (streak : Nat) : Nat :=
  if t = .udp ∧ (streak + 1) % 10 = 0 then 2 else 1

/-- What one call sends of a line. -/
def chunk (line : LogLine) (off n : Nat) : CStr := (line.text.drop off).take n

/-- `n` bytes more go out. -/
def sentBytes (s : State) (line : LogLine) (off n : Nat) : State :=
  { s with
    current := s.current ++ [chunk line off n]
    sendFailStreak := 0
    client := if off + n = line.text.length then .receive else .sending line (off + n) }

/-- The socket is closed. A datagram may have gone out short. -/
def sendFailed (s : State) (line : LogLine) (off n : Nat) : State :=
  { s with
    closed := s.closed ++ [s.current ++ if 0 < n then [chunk line off n] else []]
    current := []
    sendFailStreak := s.sendFailStreak + 1
    client := .opening false }

/-- The initialisation, the tasks that log and the task that sends. -/
def netLogging (cfg : Config) : System State Label where
  init := fun s => ∃ log : Logger, (∀ k, log.messageBuffer k = none ∧ log.drop k = 0) ∧
    s = .initial log
  step := fun s l s' => s.fault = none ∧
    match l with
    | .begin allocated created =>
        s.init = .start ∧
        -- `configASSERT` of the handle, and `strcpy` of the address without its length
        s' = if allocated = false then { s with fault := some .assert }
          else if ipv4Size ≤ cfg.ipaddr.length then { s with fault := some .overrun }
          else { s with
            log := s.log.setBuffer cfg.transport.sink (some .empty)
            init := .wait
            client := if created then .resolve else .absent }
    | .woken => s.init = .wait ∧ s.notified = true ∧
        s' = { s with init := .install, notified := false }
    | .timeout => s.init = .wait ∧ s.notified = false ∧ s' = { s with init := .delete }
    | .delete => s.init = .delete ∧ s' = { s with init := .clear, freed := true }
    | .clear => s.init = .clear ∧
        s' = { s with init := .install, log := s.log.setBuffer cfg.transport.sink none }
    | .install => s.init = .install ∧
        s' = { s with
          init := .done
          installed := true
          log := { s.log with writeToStdout := cfg.enableStdout } }
    | .log text => s' = espLog s text
    | .resolve ok texts => s.client = .resolve ∧ texts.length = (if ok then 1 else 2) ∧
        s' = { espLogs s texts with client := if ok then .opening true else .deleted }
    | .opened ok texts => ∃ first, s.client = .opening first ∧
        texts.length = openTexts cfg.transport ok ∧
        s' = { espLogs s texts with
          client := if ok then (if first then .notify else .receive) else .opening first }
    | .notify => s.client = .notify ∧ s' = { s with client := .receive, notified := true }
    | .call => s.client = .receive ∧
        s' = if s.log.messageBuffer cfg.transport.sink = none then
            { s with fault := some .assert }
          else if s.freed then { s with fault := some .useAfterFree }
          else { s with client := .waiting }
    | .receive => s.client = .waiting ∧
        -- it has held the handle since the call
        if s.freed then s' = { s with fault := some .useAfterFree }
        else ∃ mb line mb', s.log.messageBuffer cfg.transport.sink = some mb ∧
          mb.receive = some (line, mb') ∧
          s' = { s with
            log := s.log.setBuffer cfg.transport.sink (some mb')
            client := .sending line 0 }
    | .send n => ∃ line off, s.client = .sending line off ∧ 0 < n ∧
        off + n ≤ line.text.length ∧ (cfg.transport = .udp → off + n = line.text.length) ∧
        s' = sentBytes s line off n
    | .sendFail n texts => ∃ line off, s.client = .sending line off ∧
        off + n < line.text.length ∧ (cfg.transport = .tcp → n = 0) ∧
        texts.length = failTexts cfg.transport s.sendFailStreak ∧
        s' = sendFailed (espLogs s texts) line off n

end NetLogging
