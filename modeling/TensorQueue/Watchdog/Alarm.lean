import TensorQueue.Watchdog.Basic
import TensorQueue.Watchdog.Countdown

/-!
# Alarms

An alarm is a watchdog on one countdown. Each arm cycle has a number. When the
countdown runs out in an armed alarm, the alarm barks and a job is queued with
the number of the cycle; the job is the callback, and the alarm comes to rest
when the job ends, unless it was armed again meanwhile. Expiry, the start of a
job and its end are separate steps, since anything may happen between them.
-/

set_option autoImplicit false

namespace TensorQueue

namespace Alarm

inductive Phase where
  | inactive
  | active
  | barking
  deriving DecidableEq, Repr, Inhabited

def Phase.text : Phase → String
  | .inactive => "Inactive"
  | .active => "Active"
  | .barking => "Barking"

end Alarm

structure Alarm where
  phase : Alarm.Phase
  cycle : UInt64
  timeout : Duration
  countdown : Countdown
  running : Option UInt64
  /-- The cycles whose callbacks have not started yet. -/
  queued : List UInt64
  deriving DecidableEq, Repr, Inhabited

namespace Alarm

def new (timeout : Duration) (source : Countdown.Source) : Except Error Alarm := do
  Watchdog.checkTimeout timeout
  .ok ⟨.inactive, 0, timeout, .new source, none, []⟩

def onCountdown (act : Act Countdown Unit) : Act Alarm Unit :=
  Act.within Alarm.countdown (fun a c => { a with countdown := c }) act

/-- An armed alarm keeps its cycle. Another one starts the next, unless the countdown fails. -/
def activate : Act Alarm UInt64 := do
  let a ← Act.read
  if a.phase = .active then return a.cycle
  else
    onCountdown (Countdown.set a.timeout)
    Act.modify fun a => { a with cycle := a.cycle + 1, phase := .active }
    return a.cycle + 1

/-- Starts the countdown anew. While the alarm barks there is nothing to refresh. -/
def signal : Act Alarm Unit := do
  let a ← Act.read
  match a.phase with
  | .active => onCountdown (Countdown.set a.timeout)
  | .barking => return ()
  | .inactive => Act.refuse .signalWhileInactive

def deactivate : Act Alarm Unit := do
  let a ← Act.read
  if a.phase = .active then
    onCountdown (Countdown.set .zero)
    Act.modify fun a => { a with phase := .inactive }
  else return ()

def setTimeout (timeout : Duration) : Act Alarm Unit := do
  Act.settle (Watchdog.checkTimeout timeout)
  Act.modify fun a => { a with timeout := timeout }

instance : Watchdog Alarm where
  activate := activate
  signal := signal
  deactivate := deactivate
  setTimeout := setTimeout

/-- The countdown runs out this many times at once. Only an armed alarm takes it as an expiry. -/
def expire (count : UInt64) (a : Alarm) : Alarm :=
  if count = 0 then a
  else
    let stopped := { a with countdown := { a.countdown with armed := false } }
    if a.phase = .active then
      { stopped with phase := .barking, queued := a.queued ++ [a.cycle] }
    else stopped

def takesExpiry (count : UInt64) (a : Alarm) : Bool := a.phase = .active && count ≠ 0

/-- The next job starts, if none is running and one is queued. -/
def beginJob (a : Alarm) : Option (UInt64 × Alarm) :=
  match a.running, a.queued with
  | none, cycle :: rest => some (cycle, { a with running := some cycle, queued := rest })
  | _, _ => none

/-- The running job ends. The alarm comes to rest if it still barks for that job's cycle. -/
def finishJob (a : Alarm) : Alarm :=
  match a.running with
  | none => a
  | some cycle =>
    let ended := { a with running := none }
    if a.phase = .barking ∧ a.cycle = cycle then { ended with phase := .inactive } else ended

def record (a : Alarm) : String :=
  Text.record "TimerWatchdog"
    [⟨"state", a.phase.text⟩, ⟨"activation_id", toString a.cycle⟩,
      ⟨"timeout", a.timeout.text⟩] false

end Alarm

end TensorQueue
