import TensorQueue.Act

/-!
# Watchdogs

A watchdog is armed, refreshed and disarmed by the work it watches. Whoever
watches work depends on nothing but these calls. The trivial watchdog never
fires, and a scripted one answers as it was told to.
-/

set_option autoImplicit false

namespace TensorQueue

class Watchdog (W : Type) where
  /-- Arms the watchdog, and gives the number of the arm cycle. -/
  activate : Act W UInt64
  signal : Act W Unit
  deactivate : Act W Unit
  /-- The timeout counts from the next arm cycle on. -/
  setTimeout : Duration → Act W Unit

namespace Watchdog

inductive Call where
  | activate
  | signal
  | deactivate
  | setTimeout (timeout : Duration)
  deriving DecidableEq, Repr, Inhabited

/-- One call. Only an activation has a number for an answer. -/
def perform {W : Type} [Watchdog W] : Call → Act W (Option UInt64)
  | .activate => do return some (← Watchdog.activate)
  | .signal => do Watchdog.signal; return none
  | .deactivate => do Watchdog.deactivate; return none
  | .setTimeout timeout => do Watchdog.setTimeout timeout; return none

def checkTimeout (timeout : Duration) : Except Error Unit :=
  if timeout.isZero then .error .zeroTimeout else .ok ()

/-- The watchdog that never fires. -/
structure Idle where
  deriving DecidableEq, Repr, Inhabited

instance : Watchdog Idle where
  activate := pure 0
  signal := pure ()
  deactivate := pure ()
  setTimeout _ := pure ()

/-- A watchdog with its answers written down, call by call; past the end all is well.
Successful activations are numbered from one. -/
structure Scripted where
  activations : List Status
  signals : List Status
  deactivations : List Status
  count : UInt64
  deriving DecidableEq, Repr, Inhabited

def Scripted.answer : List Status → Except Error Unit
  | .failed cause :: _ => .error cause
  | _ => .ok ()

instance : Watchdog Scripted where
  activate := do
    let s ← Act.read
    Act.write { s with activations := s.activations.tail }
    Act.settle (Scripted.answer s.activations)
    Act.modify fun s => { s with count := s.count + 1 }
    return s.count + 1
  signal := do
    let s ← Act.read
    Act.write { s with signals := s.signals.tail }
    Act.settle (Scripted.answer s.signals)
  deactivate := do
    let s ← Act.read
    Act.write { s with deactivations := s.deactivations.tail }
    Act.settle (Scripted.answer s.deactivations)
  setTimeout _ := pure ()

/-- A call and how it was answered. -/
structure Consultation where
  call : Call
  answer : Except Error (Option UInt64)

/-- A watchdog with a record of the calls made on it, the latest first. -/
structure Watched (W : Type) where
  watchdog : W
  calls : List Consultation

namespace Watched

variable {W : Type}

def onWatchdog {α : Type} (act : Act W α) : Act (Watched W) α :=
  Act.within Watched.watchdog (fun s w => { s with watchdog := w }) act

/-- A call with its record. A call that was aborted leaves none. -/
def recorded [Watchdog W] (call : Call) : Act (Watched W) (Option UInt64) := do
  let answer ← Act.attempt (onWatchdog (perform call))
  Act.modify fun s => { s with calls := ⟨call, answer⟩ :: s.calls }
  Act.settle answer

instance [Watchdog W] : Watchdog (Watched W) where
  activate := do return (← recorded .activate).getD 0
  signal := do let _ ← recorded .signal
  deactivate := do let _ ← recorded .deactivate
  setTimeout timeout := onWatchdog (Watchdog.setTimeout timeout)

end Watched

end Watchdog

end TensorQueue
