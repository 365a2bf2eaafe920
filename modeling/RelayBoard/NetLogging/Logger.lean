import RelayBoard.Framework.BoundedQueue
import RelayBoard.Framework.CString
import Mathlib.Data.List.TakeWhile

/-! # Lines for the Network

  `logging_vprintf` of `net-logging` takes the place of `vprintf` behind `ESP_LOGx`. It
  formats into a buffer of its own and sends what it finds there to every message buffer
  that exists.
-/

open CString BoundedQueue

namespace NetLogging

/-- `xBufferSizeBytes`. -/
def xBufferSizeBytes : Nat := 8192

/-- `xItemSize`. -/
def xItemSize : Nat := 1024

/-- The bytes in front of a message in a message buffer, which hold its length. -/
def messageHeaderSize : Nat := 4

/-! ### Lines -/

/-- What `logging_vprintf` sends. -/
structure LogLine where
  text : CStr
  nonempty : text ≠ []
  short : text.length < xItemSize
  /-- A line without a newline fills the buffer. -/
  ends : text.getLast? = some '\n' ∨ text.length + 1 = xItemSize
  noNul : Char.ofNat 0 ∉ text
  deriving DecidableEq

/-- What `strnlen` counts in the buffer behind `vsnprintf`. -/
def bufText (text : CStr) : CStr :=
  (snprintf xItemSize text).takeWhile (· ≠ Char.ofNat 0)

/-- A newline at the end of the text, if there is none and it fits. -/
def ensureNewline (text : CStr) : CStr :=
  if text.getLast? = some '\n' then text
  else if text.length + 1 < xItemSize then text ++ ['\n']
  else text

theorem length_bufText_lt (text : CStr) : (bufText text).length < xItemSize := by
  have hlen : (bufText text).length ≤ (snprintf xItemSize text).length :=
    (List.takeWhile_sublist _).length_le
  have hcut : (snprintf xItemSize text).length ≤ xItemSize - 1 := List.length_take_le _ _
  have hpos : 0 < xItemSize := by decide
  omega

theorem nul_not_mem_bufText (text : CStr) : Char.ofNat 0 ∉ bufText text := by
  intro hmem
  simpa using List.mem_takeWhile_imp hmem

/-- The line of a formatted text that `strnlen` does not find empty. -/
def LogLine.ofBuffer (text : CStr) (h : bufText text ≠ []) : LogLine where
  text := ensureNewline (bufText text)
  nonempty := by
    unfold ensureNewline
    split_ifs <;> simp [h]
  short := by
    have := length_bufText_lt text
    unfold ensureNewline
    split_ifs
    · exact this
    · simpa using ‹_›
    · exact this
  ends := by
    have := length_bufText_lt text
    unfold ensureNewline
    split_ifs with hlast hroom
    · exact .inl hlast
    · exact .inl (by simp)
    · exact .inr (by omega)
  noNul := by
    have hnul := nul_not_mem_bufText text
    unfold ensureNewline
    split_ifs
    · exact hnul
    · simp [hnul]
    · exact hnul

/-- What `logging_vprintf` sends for what `vsnprintf` formats; `none` is an encoding error. -/
def lineOf : Option CStr → Option LogLine
  | none => none
  | some text => if h : bufText text = [] then none else some (.ofBuffer text h)

/-! ### Message Buffers -/

/-- A message buffer of `xBufferSizeBytes`. -/
abbrev MessageBuffer : Type :=
  Queue (fun line : LogLine => line.text.length + messageHeaderSize) xBufferSizeBytes

/-- The handles, by where their task sends what it receives. -/
inductive Sink where
  | udp
  | tcp
  | mqtt
  | http
  | sse
  deriving DecidableEq, Repr

/-- What `logging_vprintf` reads and writes. -/
structure Logger where
  /-- `xMessageBufferUDP` and its siblings; `none` is a null pointer. -/
  messageBuffer : Sink → Option MessageBuffer
  /-- `s_drop_udp` and its siblings. -/
  drop : Sink → UInt32
  writeToStdout : Bool
  /-- What has been handed on to `vprintf`. -/
  console : List CStr

/-- `send_to_mb` in a task: the buffer and its drop counter. -/
def sendToMb (mb : Option MessageBuffer) (line : LogLine) (drops : UInt32) :
    Option MessageBuffer × UInt32 :=
  match mb with
  | none => (none, drops)
  | some mb =>
      match mb.send line with
      | none => (some mb, drops + 1)
      | some mb' => (some mb', drops)

/-- `vprintf`. -/
def vprintf (log : Logger) (formatted : Option CStr) : Logger :=
  { log with console := log.console ++ formatted.toList }

/-- `logging_vprintf`. -/
def loggingVprintf (log : Logger) (formatted : Option CStr) : Logger :=
  let log :=
    match lineOf formatted with
    | none => log
    | some line => { log with
        messageBuffer := fun k => (sendToMb (log.messageBuffer k) line (log.drop k)).1
        drop := fun k => (sendToMb (log.messageBuffer k) line (log.drop k)).2 }
  if log.writeToStdout then vprintf log formatted else log

/-! ### What a Buffer Has Been Offered -/

/-- The buffer `k` holds what waits in the account, and its counter counts what was refused. -/
def Accounts (k : Sink) (log : Logger) (a : Account LogLine) : Prop :=
  ∃ mb, log.messageBuffer k = some mb ∧ a.waiting = mb.items ∧
    log.drop k = UInt32.ofNat a.refused

variable {k : Sink} {log : Logger} {a : Account LogLine}

/-- A call offers its line, if it has one. -/
theorem accounts_loggingVprintf (h : Accounts k log a) (formatted : Option CStr) :
    ∃ a', Accounts k (loggingVprintf log formatted) a' ∧
      a'.offered = a.offered ++ (lineOf formatted).toList ∧ a'.taken = a.taken := by
  obtain ⟨mb, hmb, hwaiting, hdrop⟩ := h
  -- the console is none of the buffer's business
  have hconsole : ∀ (log : Logger) a', Accounts k log a' →
      Accounts k (if log.writeToStdout then vprintf log formatted else log) a' := by
    intro log a' h'
    split
    · exact h'
    · exact h'
  unfold loggingVprintf
  cases lineOf formatted with
  | none => exact ⟨a, hconsole _ a ⟨mb, hmb, hwaiting, hdrop⟩, by simp, rfl⟩
  | some line =>
      -- each buffer is asked on its own
      cases hsend : mb.send line with
      | none =>
          refine ⟨a.refuse line, hconsole _ _ ⟨mb, ?_, hwaiting, ?_⟩, rfl, rfl⟩
          · simp only [hmb, sendToMb, hsend]
          · simp only [hmb, sendToMb, hsend, hdrop]
            exact (UInt32.ofNat_add a.refused 1).symm
      | some mb' =>
          refine ⟨a.accept line, hconsole _ _ ⟨mb', ?_, ?_, ?_⟩, rfl, rfl⟩
          · simp only [hmb, sendToMb, hsend]
          · rw [Queue.items_of_send hsend, ← hwaiting]
            rfl
          · simp only [hmb, sendToMb, hsend, hdrop]
            rfl

end NetLogging
