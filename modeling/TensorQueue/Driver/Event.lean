import TensorQueue.Request.Basic
import TensorQueue.Watchdog.Basic

/-!
# Events

What the outside is told, in the order in which it happens.
-/

set_option autoImplicit false

namespace TensorQueue

inductive Event where
  /-- A hardware request has completed, and says so. -/
  | hardwareDone (key : Nat) (id : UInt64) (status : Status) (stamps : Request.Stamps)
  /-- A request was submitted from inside such a report. -/
  | followUp (id : UInt64) (outcome : Except Error Unit)
  /-- The done callback of a request was fired. -/
  | requestDone (number : Nat) (id : UInt64) (status : Status)
  | consulted (consultation : Watchdog.Consultation)
  | registerWritten (offset value : UInt64) (cause : Option Error)

end TensorQueue
