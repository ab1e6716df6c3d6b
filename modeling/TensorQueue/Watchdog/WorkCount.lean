import TensorQueue.Watchdog.Basic

/-!
# Counted work

A watchdog for any number of units of work at once: armed by the first,
signalled by each that ends, disarmed by the last. If the watchdog expired
meanwhile, progress arms it again.
-/

set_option autoImplicit false

namespace TensorQueue

structure WorkCount (W : Type) where
  depth : UInt64
  watchdog : W
  deriving DecidableEq, Repr, Inhabited

namespace WorkCount

variable {W : Type}

def onWatchdog {α : Type} (act : Act W α) : Act (WorkCount W) α :=
  Act.within WorkCount.watchdog (fun s w => { s with watchdog := w }) act

/-- The count at which no further unit is taken. -/
def maximum : UInt64 := 0xffffffffffffffff

/-- One more unit. If the watchdog cannot be armed for the first, it is not counted. -/
def increment [Watchdog W] : Act (WorkCount W) Unit := do
  let s ← Act.read
  if s.depth = maximum then Act.refuse .watchCountOverflow
  else
    if s.depth = 0 then do let _ ← onWatchdog (Watchdog.activate (W := W))
    Act.modify fun s => { s with depth := s.depth + 1 }

/-- One unit less, whatever the watchdog then says. -/
def decrement [Watchdog W] : Act (WorkCount W) Unit := do
  let s ← Act.read
  if s.depth = 0 then Act.refuse .watchCountUnderflow
  else
    Act.write { s with depth := s.depth - 1 }
    if s.depth - 1 = 0 then onWatchdog Watchdog.deactivate
    else
      match ← Act.attempt (onWatchdog Watchdog.signal) with
      | .ok () => return ()
      | .error cause =>
        if cause.kind = .failedPrecondition then
          let _ ← onWatchdog (Watchdog.activate (W := W))
        else Act.refuse cause

def record (s : WorkCount W) : String :=
  Text.record "CountingWatch" [⟨"depth", toString s.depth⟩] false

end WorkCount

end TensorQueue
