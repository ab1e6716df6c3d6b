import TensorQueue.Error
import TensorQueue.Watchdog.Countdown

/-!
# Configuration

What a driver is built from: the timeouts of its watchdog and their source,
whether it starts in real-time mode, and how long it waits for a register.
-/

set_option autoImplicit false

namespace TensorQueue

structure Config where
  levels : List Duration
  timer : Countdown.Backend
  realTime : Bool
  /-- For how many frames an executable may stay away before it stops counting. -/
  inactiveMultiple : UInt32
  pollTimeout : Duration
  deriving DecidableEq, Repr, Inhabited

namespace Config

def standard : Config where
  levels := [.ofMillis 500, .ofMillis 2000]
  timer := .condvar
  realTime := false
  inactiveMultiple := 2
  pollTimeout := .ofMillis 100

/-- A driver can be built from it. -/
structure Sound (c : Config) : Prop where
  levels_ne_nil : c.levels ≠ []
  level_ne_zero : ∀ level ∈ c.levels, level.isZero = false
  pollTimeout_ne_zero : c.pollTimeout.isZero = false
  multiple_ne_zero : c.inactiveMultiple ≠ 0

/-- The levels are looked at first, then the poll timeout, then the multiple. -/
def check (c : Config) : Except Error Unit :=
  if c.levels.isEmpty then .error .noWatchdogLevels
  else
    match c.levels.findIdx? Duration.isZero with
    | some level => .error (.zeroWatchdogLevel level)
    | none =>
      if c.pollTimeout.isZero then .error .zeroPollTimeout
      else if c.inactiveMultiple = 0 then .error .zeroInactiveMultiple
      else .ok ()

theorem check_eq_ok_iff {c : Config} : c.check = .ok () ↔ c.Sound := by
  unfold check
  constructor
  · intro h
    split at h
    · cases h
    · rename_i nonempty
      split at h
      · cases h
      · rename_i absent
        split at h
        · cases h
        · split at h
          · cases h
          · rename_i poll multiple
            refine ⟨by simpa using nonempty, ?_, by simpa using poll, multiple⟩
            intro level mem
            have := List.findIdx?_eq_none_iff.1 absent level mem
            simpa using this
  · intro sound
    have nonempty : c.levels.isEmpty = false := by
      simpa using sound.levels_ne_nil
    have absent : c.levels.findIdx? Duration.isZero = none :=
      List.findIdx?_eq_none_iff.2 fun level mem => by simp [sound.level_ne_zero level mem]
    simp [nonempty, absent, sound.pollTimeout_ne_zero, sound.multiple_ne_zero]

def record (c : Config) : String :=
  Text.record "DriverConfig"
    [⟨"watchdog", Text.record "WatchdogConfig"
        [⟨"levels", Text.sequence (c.levels.map Duration.text)⟩, ⟨"timer", c.timer.record⟩] true⟩,
      ⟨"real_time", Text.record "RealTimeConfig"
        [⟨"enabled", toString c.realTime⟩,
          ⟨"inactive_frame_multiple", toString c.inactiveMultiple⟩] true⟩,
      ⟨"register_poll_timeout", c.pollTimeout.text⟩] true

end Config

end TensorQueue
