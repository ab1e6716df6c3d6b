import TensorQueue.Watchdog.Escalation
import TensorQueue.Watchdog.WorkCount

/-!
# Watchdogs of the bench

Any of the watchdogs, on countdowns that are fired by hand. An expiry is
followed up to the point where a callback of the outside may start.
-/

set_option autoImplicit false

namespace TensorQueue.Bench

inductive Dog where
  | idle (w : Watchdog.Idle)
  | scripted (w : Watchdog.Scripted)
  | alarm (w : Alarm)
  | escalation (w : Escalation)
  deriving DecidableEq, Repr, Inhabited

namespace Dog

/-- What can be done with every watchdog. -/
def act {α : Type} (f : {W : Type} → [Watchdog W] → Act W α) : Act Dog α
  | .idle w => let (outcome, w) := f w; (outcome, .idle w)
  | .scripted w => let (outcome, w) := f w; (outcome, .scripted w)
  | .alarm w => let (outcome, w) := f w; (outcome, .alarm w)
  | .escalation w => let (outcome, w) := f w; (outcome, .escalation w)

instance : Watchdog Dog where
  activate := act Watchdog.activate
  signal := act Watchdog.signal
  deactivate := act Watchdog.deactivate
  setTimeout timeout := act (Watchdog.setTimeout timeout)

def takesExpiry (level : Nat) (count : UInt64) : Dog → Bool
  | .alarm w => w.takesExpiry count
  | .escalation w => w.activeLevel = some level && count ≠ 0
  | _ => false

/-- A countdown runs out, and the news of it is dealt with. -/
def expire (level : Nat) (count : UInt64) : Dog → Dog
  | .alarm w => .alarm (w.expire count)
  | .escalation w => .escalation (((w.expire level count).deliver level).endBark level)
  | w => w

def beginCallback : Dog → Option ((Nat × UInt64) × Dog)
  | .alarm w => w.beginJob.map fun (cycle, w) => ((0, cycle), .alarm w)
  | .escalation w => w.beginCallback.map fun (job, w) => (job, .escalation w)
  | _ => none

def finishCallback : Dog → Dog
  | .alarm w => .alarm w.finishJob
  | .escalation w => .escalation w.finishCallback
  | w => w

def waiting : Dog → Nat
  | .alarm w => w.queued.length
  | .escalation w => w.queued.length
  | _ => 0

/-- The settings asked of the countdowns since they were last taken, the oldest first. -/
def takeSettings : Dog → List (Nat × Countdown.Setting) × Dog
  | .alarm w =>
    (w.countdown.settings.reverse.map (0, ·),
      .alarm { w with countdown := { w.countdown with settings := [] } })
  | .escalation w => (w.settings.reverse, .escalation { w with settings := [] })
  | w => ([], w)

def refuseSettings (level count : Nat) : Dog → Dog
  | .alarm w =>
    if level = 0 then .alarm { w with countdown := w.countdown.refuseNext count } else .alarm w
  | .escalation w =>
    .escalation { w with alarms := w.alarms.modify level fun a =>
      { a with countdown := a.countdown.refuseNext count } }
  | w => w

/-- The setting by which a watchdog wakes whoever waits on its countdown. -/
def wake : Duration := ⟨1⟩

def dropAlarm : Act Alarm Unit := Alarm.onCountdown (Countdown.set wake)

/-- What is left of an escalation that ends: its armed level is disarmed, and then every level is
woken in order. -/
def dropEscalation (w : Escalation) : Escalation :=
  let disarmed := (Escalation.deactivate w).2
  (List.range w.levels).foldl (fun w level => (Escalation.onLevel level dropAlarm w).2) disarmed

/-- No coming setting of a countdown is refused any more. -/
def acceptSettings : Dog → Dog
  | .alarm w => .alarm { w with countdown := w.countdown.refuseNext 0 }
  | .escalation w =>
    .escalation { w with alarms := w.alarms.map fun a =>
      { a with countdown := a.countdown.refuseNext 0 } }
  | w => w

/-- The end of a watchdog. The settings that it takes are not refused. -/
def drop (dog : Dog) : Dog :=
  match dog.acceptSettings with
  | .alarm w => .alarm (dropAlarm w).2
  | .escalation w => .escalation (dropEscalation w)
  | w => w

end Dog

end TensorQueue.Bench
