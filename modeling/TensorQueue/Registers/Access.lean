import TensorQueue.Clock
import TensorQueue.Registers.Map

/-!
# Register access

All that is needed of the device is to read and to write a register. Waiting
for a value is reading it again until it is there or time is up, with a pause
before each further reading. When time is up is for the clock of the system to
say.
-/

set_option autoImplicit false

namespace TensorQueue

class RegisterFile (σ : Type) where
  read : UInt64 → Act σ UInt64
  write : UInt64 → UInt64 → Act σ Unit

namespace Registers

variable {σ : Type} [RegisterFile σ]

/-- The low half of a register. -/
def read32 (offset : UInt64) : Act σ UInt32 := do
  return (← RegisterFile.read offset).toUInt32

/-- A value for the low half of a register; the high half becomes zero. -/
def write32 (offset : UInt64) (value : UInt32) : Act σ Unit :=
  RegisterFile.write offset value.toUInt64

/-- Reads until the value is there, at most this many times and once more. -/
def pollFor (offset expected : UInt64) (timeout : Duration) : Nat → Act σ Unit
  | 0 => do
    let value ← RegisterFile.read offset
    if value = expected then return ()
    else Act.refuse (.registerPollTimedOut offset value expected timeout)
  | more + 1 => do
    let value ← RegisterFile.read offset
    if value = expected then return () else pollFor offset expected timeout more

/-- Waits for a value for as long as the timeout. The moment at which it is over is computed
first. -/
def poll [SystemClock σ] (offset expected : UInt64) (timeout : Duration) : Act σ Unit := do
  let s ← Act.read
  if Clock.reaches (SystemClock.now s) timeout then
    pollFor offset expected timeout (SystemClock.looks timeout s)
  else Act.abort .instantOverflow

end Registers

/-- A system as it may be found: what its clock shows, how long a reading of a register takes until
the clock is looked at, and how late a sleeper is woken. -/
structure Tempo where
  now : Duration
  reading : Duration
  slack : Duration
  deriving DecidableEq, Repr, Inhabited

namespace Tempo

def pollInterval : Duration := .ofMicros 50

/-- The time from the end of one reading to the end of the next. -/
def period (t : Tempo) : Nat := pollInterval.ns + t.slack.ns + t.reading.ns

/-- How many pauses it takes until a reading ends after the timeout. -/
def pauses (timeout : Duration) (t : Tempo) : Nat :=
  (timeout.ns - t.reading.ns + (t.period - 1)) / t.period

end Tempo

end TensorQueue
