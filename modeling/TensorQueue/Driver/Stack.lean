import TensorQueue.Admission.RealTime
import TensorQueue.Config.Basic
import TensorQueue.Driver.Basic
import TensorQueue.Queue.Scheduler
import TensorQueue.Watchdog.Escalation

/-!
# The stack

The driver as it is configured: a queue supervised by an escalation, behind a
desk for real-time admission. The stack is open from the start.
-/

set_option autoImplicit false

namespace TensorQueue

abbrev Stack := Driver (RealTime (Scheduler Escalation))

namespace Stack

/-- One level for each timeout, all on the configured countdown. The moments are those of the
settings of a level. -/
def watchdog (c : Config) (moments : Nat → List Duration) : Except Error Escalation :=
  Escalation.new c.levels fun level => .ok (.system c.timer (moments level))

def desk (c : Config) : Desk := { Desk.new c.inactiveMultiple with enabled := c.realTime }

/-- A queue that has been opened and holds nothing. -/
def queue : Queue := { Queue.new with isOpen := true }

def build (c : Config) (clock : Duration) (moments : Nat → List Duration) :
    Except Error Stack := do
  c.check
  let watchdog ← watchdog c moments
  .ok (Driver.new ⟨desk c, clock, ⟨queue, watchdog, []⟩⟩)

/-- The settings of an engine on the stack: its own poll timeout gives way to the stack's. -/
def engineConfig (c : Config) (e : Engine.Config) : Engine.Config :=
  { e with pollTimeout := c.pollTimeout }

def record (c : Config) (watchdog scheduler : String) : String :=
  Text.record "DriverStack"
    [⟨"config", c.record⟩, ⟨"watchdog", watchdog⟩, ⟨"scheduler", scheduler⟩] false

end Stack

end TensorQueue
