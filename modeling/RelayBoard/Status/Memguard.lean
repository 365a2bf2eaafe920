import RelayBoard.Framework.Streak
import RelayBoard.Settings.Keys

/-! # Memory Guard

  The check of `status_task` that restarts the device when its heap has been
  below a threshold several times in a row. The mode and the threshold are
  read from NVS at every check.
-/

open Settings Streak

namespace Memguard

/-! ### One Check -/

/-- `MEMGUARD_BOOT_PROTECTION_TIME_MINUTES`. -/
def memguardBootProtectionTimeMinutes : Int := 3

/-- `MEMGUARD_CONSECUTIVE_THRESHOLD_COUNT`. -/
def memguardConsecutiveThresholdCount : Nat := 3

/-- What a check reads: the two settings, `esp_get_free_heap_size`, and
    `esp_timer_get_time` in microseconds. -/
structure Check where
  memguardMode : Nat
  memguardThreshold : Nat
  currentFreeHeap : Nat
  time : Int
  deriving DecidableEq, Repr

/-- The memory guard in `status_task`: the new
    `consecutive_below_threshold_count`, and whether `MEMGUARD_REBOOT_FUNCTION`
    is called. -/
def memguardCheck (c : Check) (count : Nat) : Nat × Bool :=
  if (c.memguardMode : Int) = memgrdModeDisabled then (0, false)
  else if c.currentFreeHeap < c.memguardThreshold then
    let count := count + 1
    if (c.memguardMode : Int) = memgrdModeWarn then
      if count = memguardConsecutiveThresholdCount then (0, false) else (count, false)
    else if (c.memguardMode : Int) = memgrdModeRestart then
      if memguardConsecutiveThresholdCount ≤ count then
        -- boot protection: no restart, but a new count
        if c.time < memguardBootProtectionTimeMinutes * 60 * 1000000 then (0, false)
        else (0, true)
      else (count, false)
    else
      -- unknown mode
      if count = memguardConsecutiveThresholdCount then (0, false) else (count, false)
  else (0, false)

/-- The guard is not disabled and the heap is below the threshold. -/
def Check.Below (c : Check) : Prop :=
  (c.memguardMode : Int) ≠ memgrdModeDisabled ∧ c.currentFreeHeap < c.memguardThreshold

instance (c : Check) : Decidable c.Below := inferInstanceAs (Decidable (_ ∧ _))

/-- The mode is `MEMGRD_MODE_RESTART`, and the boot protection is over. -/
def Check.MayRestart (c : Check) : Prop :=
  (c.memguardMode : Int) = memgrdModeRestart ∧
    memguardBootProtectionTimeMinutes * 60 * 1000000 ≤ c.time

theorem memguardCheck_of_not_below {c : Check} (h : ¬ c.Below) (count : Nat) :
    memguardCheck c count = (0, false) := by
  by_cases hmode : (c.memguardMode : Int) = memgrdModeDisabled
  · simp [memguardCheck, hmode]
  · have hheap : ¬ c.currentFreeHeap < c.memguardThreshold := fun hlt => h ⟨hmode, hlt⟩
    simp [memguardCheck, hmode, hheap]

/-- The three modes count alike: up to three, and then from zero. -/
theorem memguardCheck_of_below {c : Check} (h : c.Below) {count : Nat}
    (hcount : count < memguardConsecutiveThresholdCount) :
    (memguardCheck c count).1 = (count + 1) % memguardConsecutiveThresholdCount ∧
      ((memguardCheck c count).2 = true ↔
        c.MayRestart ∧ (count + 1) % memguardConsecutiveThresholdCount = 0) := by
  obtain ⟨hmode, hheap⟩ := h
  have hthree : memguardConsecutiveThresholdCount = 3 := rfl
  rw [hthree] at hcount
  simp only [memguardCheck, if_neg hmode, if_pos hheap, Check.MayRestart, hthree]
  by_cases hlast : count + 1 = 3
  · by_cases hrestart : (c.memguardMode : Int) = memgrdModeRestart
    · have hwarn : ¬ (c.memguardMode : Int) = memgrdModeWarn := by rw [hrestart]; decide
      by_cases htime : c.time < memguardBootProtectionTimeMinutes * 60 * 1000000
      · simp [hlast, hrestart, htime, memgrdModeWarn, memgrdModeRestart]
      · simp [hlast, hrestart, htime, memgrdModeWarn, memgrdModeRestart, Int.not_lt.mp htime]
    · simp [hlast, hrestart]
  · have hmod : (count + 1) % 3 = count + 1 := Nat.mod_eq_of_lt (by omega)
    have hlt : ¬ 3 ≤ count + 1 := by omega
    simp [hlast, hmod, hlt]

/-! ### All Checks -/

/-- `consecutive_below_threshold_count` before check `n`, that is, after the `n`
    checks before it. -/
def countBefore (checks : Nat → Check) : Nat → Nat
  | 0 => 0
  | n + 1 => (memguardCheck (checks n) (countBefore checks n)).1

/-- Check `n` requests a restart. -/
def restarts (checks : Nat → Check) (n : Nat) : Bool :=
  (memguardCheck (checks n) (countBefore checks n)).2

variable (checks : Nat → Check)

/-- How many checks in a row, just before check `n`, have found the heap below. -/
def belowStreak (n : Nat) : Nat := streak (fun i => (checks i).Below) n

theorem belowStreak_mod_lt (n : Nat) :
    belowStreak checks n % memguardConsecutiveThresholdCount <
      memguardConsecutiveThresholdCount :=
  Nat.mod_lt _ (by decide)

/-- **Invariant**: over all changes of mode and threshold, the counter is the
    streak modulo three. -/
theorem countBefore_eq (n : Nat) :
    countBefore checks n = belowStreak checks n % memguardConsecutiveThresholdCount := by
  induction n with
  | zero => rfl
  | succ n ih =>
      show (memguardCheck (checks n) (countBefore checks n)).1 = _
      rw [ih]
      by_cases hbelow : (checks n).Below
      · rw [(memguardCheck_of_below hbelow (belowStreak_mod_lt checks n)).1, Nat.mod_add_mod]
        show _ = streak _ (n + 1) % _
        rw [streak_succ_of hbelow]
        rfl
      · rw [memguardCheck_of_not_below hbelow]
        show 0 = streak _ (n + 1) % _
        rw [streak_succ_of_not hbelow]
        rfl

/-- A restart is requested exactly at every third check of a streak at which the
    mode and the uptime allow one. -/
theorem restarts_iff (n : Nat) :
    restarts checks n = true ↔
      (checks n).Below ∧ (checks n).MayRestart ∧
        belowStreak checks (n + 1) % memguardConsecutiveThresholdCount = 0 := by
  show (memguardCheck (checks n) (countBefore checks n)).2 = true ↔ _
  rw [countBefore_eq]
  by_cases hbelow : (checks n).Below
  · have hstreak : belowStreak checks (n + 1) = belowStreak checks n + 1 :=
      streak_succ_of (p := fun i => (checks i).Below) hbelow
    rw [(memguardCheck_of_below hbelow (belowStreak_mod_lt checks n)).2, Nat.mod_add_mod, hstreak]
    simp [hbelow]
  · simp [memguardCheck_of_not_below hbelow, hbelow]

/-- **The memory guard restarts exactly when it should**: the counter stays below
    three, a restart follows three checks below the threshold with the boot
    protection over, and three such checks in a row with the mode set to
    restarting do not pass without one. -/
theorem memguard_restarts :
    (∀ n, countBefore checks (n + 1) ≤ 2) ∧
      (∀ n, restarts checks n = true →
        (checks n).MayRestart ∧ 2 ≤ n ∧ ∀ i ≤ 2, (checks (n - i)).Below) ∧
      ∀ n, (∀ i < 3, (checks (n + i)).Below ∧ (checks (n + i)).MayRestart) →
        ∃ i < 3, restarts checks (n + i) = true := by
  refine ⟨?_, ?_, ?_⟩
  · intro n
    rw [countBefore_eq]
    exact Nat.le_of_lt_succ (belowStreak_mod_lt checks (n + 1))
  · intro n hrestarts
    obtain ⟨hbelow, hmay, hmod⟩ := (restarts_iff checks n).mp hrestarts
    have hstreak : belowStreak checks (n + 1) = belowStreak checks n + 1 :=
      streak_succ_of (p := fun i => (checks i).Below) hbelow
    -- a positive multiple of three
    have hthree : 3 ≤ belowStreak checks (n + 1) := by
      have hcount : memguardConsecutiveThresholdCount = 3 := rfl
      rw [hcount] at hmod
      omega
    obtain ⟨hn, hall⟩ := le_streak_iff.mp hthree
    refine ⟨hmay, by omega, ?_⟩
    intro i hi
    exact hall i (by omega)
  · intro n h
    obtain ⟨i, hi, hmod⟩ := exists_streak_mod_eq_zero (p := fun i => (checks i).Below) (n := n)
      (show 0 < 3 by decide) (fun i hi => (h i hi).1)
    exact ⟨i, hi, (restarts_iff checks (n + i)).mpr ⟨(h i hi).1, (h i hi).2, hmod⟩⟩

end Memguard
