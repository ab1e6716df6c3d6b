import TensorQueue.Watchdog.Alarm

/-!
# Escalations

An escalation is a chain of alarms. The first is armed when work makes
progress; an alarm that expires hands its callback on and arms the next, so
that silence climbs the chain. At most one level is armed, and the escalation
remembers which one, with the number of its arm cycle. News of an expiry may
come late; it counts only if both still fit.
-/

set_option autoImplicit false

namespace TensorQueue

structure Escalation where
  alarms : List Alarm
  activeLevel : Option Nat
  /-- The arm cycle of each level when it was last armed. -/
  cycles : List UInt64
  /-- The level and cycle whose callback is running. -/
  running : Option (Nat × UInt64)
  /-- Callbacks handed on and not started yet. -/
  queued : List (Nat × UInt64)
  /-- The settings asked of the countdowns, with their levels, the latest first. -/
  settings : List (Nat × Countdown.Setting)
  deriving DecidableEq, Repr, Inhabited

namespace Escalation

/-- A chain with one alarm for each timeout. All timeouts are checked before the first countdown
is made; `source` makes the countdown of a level. -/
def new (timeouts : List Duration) (source : Nat → Except Error Countdown.Source) :
    Except Error Escalation := do
  if timeouts.isEmpty then .error .cascadeWithoutLevels
  else
    timeouts.forM Watchdog.checkTimeout
    let alarms ← timeouts.zipIdx.mapM fun (timeout, level) => do
      Alarm.new timeout (← source level)
    .ok ⟨alarms, none, List.replicate alarms.length 0, none, [], []⟩

def levels (e : Escalation) : Nat := e.alarms.length

/-- The alarm of a level as it was left behind. Its settings join those of the whole chain. -/
def put (level : Nat) (alarm : Alarm) (e : Escalation) : Escalation :=
  { e with
    alarms := e.alarms.set level
      { alarm with countdown := { alarm.countdown with settings := [] } }
    settings := alarm.countdown.settings.map (level, ·) ++ e.settings }

def onLevel {α : Type} (level : Nat) (act : Act Alarm α) : Act Escalation α := fun e =>
  match e.alarms[level]? with
  | none => (.error (.abort (.levelOutOfRange level e.levels)), e)
  | some alarm =>
    match act alarm with
    | (outcome, alarm) => (outcome, put level alarm e)

/-- Level and cycle are remembered together. -/
def remember (level : Nat) (cycle : UInt64) (e : Escalation) : Escalation :=
  { e with activeLevel := some level, cycles := e.cycles.set level cycle }

/-- The armed level is forgotten first, and disarmed then. -/
def deactivate : Act Escalation Unit := do
  let e ← Act.read
  match e.activeLevel with
  | none => return ()
  | some level =>
    Act.write { e with activeLevel := none }
    onLevel level Alarm.deactivate

/-- Silence is counted anew from the first level. -/
def restart : Act Escalation UInt64 := do
  deactivate
  let cycle ← onLevel 0 Alarm.activate
  Act.modify (remember 0 cycle)
  return cycle

def setTimeoutAt (level : Nat) (timeout : Duration) : Act Escalation Unit :=
  onLevel level (Alarm.setTimeout timeout)

instance : Watchdog Escalation where
  activate := restart
  signal := do let _ ← restart
  deactivate := deactivate
  setTimeout := setTimeoutAt 0

/-- The countdown of a level runs out this many times at once. -/
def expire (level : Nat) (count : UInt64) (e : Escalation) : Escalation :=
  { e with alarms := e.alarms.modify level (Alarm.expire count) }

/-- Whether this is news of the level that is armed, in its present cycle. -/
def isCurrent (level : Nat) (cycle : UInt64) (e : Escalation) : Bool :=
  e.activeLevel = some level && e.cycles[level]? = some cycle

/-- Above the last level, and at a level whose countdown refuses to be set, the climb ends. If that
is aborted instead, the level below stays remembered. -/
def climb (level : Nat) (e : Escalation) : Escalation :=
  if level < e.levels then
    match onLevel level Alarm.activate e with
    | (.ok cycle, e) => remember level cycle e
    | (.error (.refusal _), e) => { e with activeLevel := none }
    | (.error (.abort _), e) => e
  else { e with activeLevel := none }

/-- News of an expiry. Old news is dropped; otherwise the callback of the level is handed on and
the next level is armed. -/
def escalate (level : Nat) (cycle : UInt64) (e : Escalation) : Escalation :=
  if e.isCurrent level cycle then
    climb (level + 1) { e with queued := e.queued ++ [(level, cycle)] }
  else e

/-- The oldest expiry of a level becomes known. The alarm barks on until the news has been dealt
with. -/
def deliver (level : Nat) (e : Escalation) : Escalation :=
  match e.alarms[level]?.bind Alarm.beginJob with
  | none => e
  | some (cycle, alarm) => escalate level cycle (put level alarm e)

def endBark (level : Nat) (e : Escalation) : Escalation :=
  { e with alarms := e.alarms.modify level Alarm.finishJob }

/-- The next callback starts, if none is running and one was handed on. -/
def beginCallback (e : Escalation) : Option ((Nat × UInt64) × Escalation) :=
  match e.running, e.queued with
  | none, job :: rest => some (job, { e with running := some job, queued := rest })
  | _, _ => none

def finishCallback (e : Escalation) : Escalation := { e with running := none }

def activeRecord (e : Escalation) : String := Text.optional (e.activeLevel.map toString)

def record (e : Escalation) : String :=
  Text.record "CascadeWatchdog"
    [⟨"levels", toString e.levels⟩, ⟨"active_level", e.activeRecord⟩] true

/-- One level by its timeout alone, as a list of levels is shown. -/
def levelRecord (timeout : Duration) : String :=
  Text.record "CascadeLevel" [⟨"timeout", timeout.text⟩] false

end Escalation

end TensorQueue
