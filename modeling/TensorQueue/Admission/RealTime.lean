import TensorQueue.Admission.Desk
import TensorQueue.Queue.Dispatcher

/-!
# Real-time mode

The desk in front of a dispatcher. It stands in the way of submissions alone,
and only in real-time mode; a booking is taken back if the dispatcher behind
it refuses the submission.
-/

set_option autoImplicit false

namespace TensorQueue

structure RealTime (S : Type) where
  desk : Desk
  clock : Duration
  backing : S
  deriving DecidableEq, Repr, Inhabited

namespace RealTime

open Dispatcher

variable {S : Type}

def onBacking {α : Type} (act : Act S α) : Act (RealTime S) α :=
  Act.within RealTime.backing (fun s b => { s with backing := b }) act

def onDesk (f : Desk → Desk) : Act (RealTime S) Unit :=
  Act.modify fun s => { s with desk := f s.desk }

/-- The time at which an admitted submission will be finished. -/
def reserve (ticket : Ticket) : Act (RealTime S) Duration := do
  let s ← Act.read
  onDesk (Desk.noteArrival ticket.executable s.clock)
  fun t => (t.desk.decide ticket.id ticket.executable t.clock, t)

def book (time : Duration) : Act (RealTime S) Unit := onDesk fun d => { d with busyUntil := time }

def submit [Dispatcher S] (offer : Offer) : Act (RealTime S) Unit := do
  let s ← Act.read
  if s.desk.enabled then
    let finish ← reserve offer.ticket
    book finish
    match ← Act.attempt (onBacking (Dispatcher.submit offer)) with
    | .ok () => return ()
    | .error cause =>
      book s.desk.busyUntil
      Act.refuse cause
  else onBacking (Dispatcher.submit offer)

instance [Dispatcher S] : Dispatcher (RealTime S) where
  openUp := onBacking Dispatcher.openUp
  close mode := onBacking (Dispatcher.close mode)
  finishClose := onBacking Dispatcher.finishClose
  submit := submit
  next := onBacking Dispatcher.next
  complete h := onBacking (Dispatcher.complete h)
  finishRequest := onBacking Dispatcher.finishRequest
  peek s := Dispatcher.peek s.backing
  remainingCycles s := Dispatcher.remainingCycles s.backing
  oldest s := Dispatcher.oldest s.backing
  isEmpty s := Dispatcher.isEmpty s.backing
  inFlight s := Dispatcher.inFlight s.backing
  effort s := Dispatcher.effort s.backing
  takeMarks s :=
    let (marks, backing) := Dispatcher.takeMarks s.backing
    (marks, { s with backing := backing })

/-- The record of the dispatcher behind the desk is given. -/
def record (backing : String) (desk : Desk) : String :=
  Text.record "RealTimeDmaScheduler"
    [⟨"backing", backing⟩, ⟨"enabled", toString desk.enabled⟩,
      ⟨"executables", toString desk.contracts.length⟩,
      ⟨"busy_until", desk.busyUntil.text⟩] false

end RealTime

end TensorQueue
