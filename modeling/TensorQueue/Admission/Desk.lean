import TensorQueue.Act
import TensorQueue.Admission.Contract
import TensorQueue.Table

/-!
# Admission

The desk books hardware time. A submission is admitted if the time booked so
far and its own execution end before the next deadline of every other
executable with a contract that has come often enough of late. The arrival is
noted whether or not the submission is admitted.
-/

set_option autoImplicit false

namespace TensorQueue

structure Desk where
  enabled : Bool
  contracts : Table ExecutableId Contract
  /-- When each executable last came, with a contract or without. -/
  arrivals : Table ExecutableId Duration
  busyUntil : Duration
  /-- For how many of its frames an executable may stay away before it stops counting. -/
  multiple : UInt32
  deriving DecidableEq, Repr, Inhabited

namespace Desk

/-- A multiple of zero would forget everybody at once; it is taken as one. -/
def new (multiple : UInt32) : Desk := ⟨false, [], [], .zero, max multiple 1⟩

/-- A new contract needs a rate and an execution time; an old one is changed term by term. -/
def base (d : Desk) (executable : ExecutableId) (u : Contract.Update) : Except Error Contract :=
  match d.contracts.get? executable with
  | some c => .ok c
  | none =>
    if u.fps.isNone || u.execution.isNone then .error (.incompleteContract executable)
    else .ok .none

def setContract (executable : ExecutableId) (u : Contract.Update) (d : Desk) :
    Except Error Desk := do
  let c := (← d.base executable u).merge u
  c.check executable
  .ok { d with contracts := d.contracts.put executable c }

def contract (d : Desk) (executable : ExecutableId) : Except Error Contract :=
  match d.contracts.get? executable with
  | some c => .ok c
  | none => .error (.noContractStored executable)

def removeContract (executable : ExecutableId) (d : Desk) : Except Error Desk := do
  let _ ← d.contract executable
  .ok { d with contracts := d.contracts.erase executable }

def lastArrival (d : Desk) (executable : ExecutableId) : Except Error Duration :=
  match d.arrivals.get? executable with
  | some time => .ok time
  | none => .error (.noArrivalStored executable)

/-- A sum that must exist. -/
def sum (a b : Duration) : Except Abort Duration :=
  match a.add? b with
  | some c => .ok c
  | none => .error .durationOverflow

/-- The deadline that an executable which last came at `last` sets now: the end of its tolerance
after its next arrival, which is one frame more from the last one than have gone by. It sets none
if it has stayed away for too long. The frames are counted in a 32-bit word. -/
def deadline (multiple : UInt32) (frame tolerance last now : Duration) :
    Except Abort (Option Duration) := do
  let away := now.ns - last.ns
  let frames := away / frame.ns
  if frame.ns * multiple.toNat < away ∨ UInt32.size ≤ frames then .ok none
  else if UInt32.size ≤ frames + 1 then .error .addOverflow
  else
    let arrival ← sum last ⟨frame.ns * (frames + 1)⟩
    return some (← sum arrival tolerance)

/-- The deadline that one contract sets to a submission of another executable. -/
def constraint (d : Desk) (submitted : ExecutableId) (now : Duration)
    (row : ExecutableId × Contract) : Except Abort (Option Duration) :=
  match row.2.frame?, d.arrivals.get? row.1 with
  | some frame, some last =>
    if row.1 = submitted ∨ !row.2.isRealTime then .ok none
    else deadline d.multiple frame row.2.tolerance last now
  | _, _ => .ok none

/-- The earlier of two deadlines that may be missing. -/
def earlier : Option Duration → Option Duration → Option Duration
  | some a, some b => some (if b.ns < a.ns then b else a)
  | some a, none => some a
  | none, b => b

/-- The earliest of the deadlines that the others set. -/
def nearestDeadline (d : Desk) (submitted : ExecutableId) (now : Duration) :
    Except Abort (Option Duration) :=
  d.contracts.foldlM (fun nearest row => do
    return earlier nearest (← d.constraint submitted now row)) none

/-- When a submission that comes now would be finished, if that is in time. -/
def decide (id : UInt64) (executable : ExecutableId) (now : Duration) (d : Desk) :
    Except Fault Duration := do
  let c := (d.contracts.get? executable).getD .none
  if c.execution.isZero then
    if c.fps = 0 then .error (.refusal (.notRealTime executable))
    else .error (.refusal (.rateWithoutExecution executable c.fps))
  else
    let finish ← (sum (d.busyUntil.later now) c.execution).mapError .abort
    match ← (d.nearestDeadline executable now).mapError .abort with
    | none => .ok finish
    | some nearest =>
      if nearest.ns < finish.ns then
        .error (.refusal (.deadlineMissed id executable finish nearest))
      else .ok finish

def noteArrival (executable : ExecutableId) (now : Duration) (d : Desk) : Desk :=
  { d with arrivals := d.arrivals.put executable now }

end Desk

end TensorQueue
