import TensorQueue.Capacity
import TensorQueue.Queue.Dispatcher

/-!
# The supervised queue

A scheduler is a queue under a watchdog. The watchdog is armed when tasks are
activated, signalled by progress and disarmed when nothing is in flight. What
it answers never changes what becomes of the queue. Whoever waits for the queue
is called only after the watchdog has answered.
-/

set_option autoImplicit false

namespace TensorQueue

structure Scheduler (W : Type) where
  queue : Queue
  watchdog : W
  marks : List Dispatcher.Mark

namespace Scheduler

open Dispatcher

variable {W : Type}

def new (watchdog : W) : Scheduler W := ⟨.new, watchdog, []⟩

/-- A call on the watchdog whose refusal is noted by nobody. -/
def consult {α : Type} (act : Act W α) : Act (Scheduler W) Bool := do
  let answer ← Act.attempt
    (Act.within Scheduler.watchdog (fun s w => { s with watchdog := w }) act)
  return answer.isOk

def putQueue (q : Queue) : Act (Scheduler W) Unit := Act.modify fun s => { s with queue := q }

def leave (marks : List Mark) : Act (Scheduler W) Unit :=
  Act.modify fun s => { s with marks := s.marks ++ marks }

def announce : Act (Scheduler W) Unit := leave [.announced]

/-- Progress: a signal while work is in flight, or a new arm cycle if the watchdog does not take
it; disarmed otherwise. -/
def kick [Watchdog W] : Act (Scheduler W) Unit := do
  let s ← Act.read
  if s.queue.inFlight then
    let taken ← consult (Watchdog.signal (W := W))
    if taken then return ()
    else
      let _ ← consult (Watchdog.activate (W := W))
  else
    let _ ← consult (Watchdog.deactivate (W := W))

def cancelAll [Watchdog W] : Act (Scheduler W) Closing := do
  let s ← Act.read
  let (cancelled, queue) := s.queue.drain
  putQueue queue
  let _ ← consult (Watchdog.deactivate (W := W))
  announce
  return .closed cancelled

def close [Watchdog W] (mode : CloseMode) : Act (Scheduler W) Closing := do
  let s ← Act.read
  let queue ← Act.settle s.queue.shut
  putQueue queue
  if mode = .graceful ∧ queue.hasActive = true then return .waiting
  else cancelAll

/-- A waiting close looks at the hardware alone, not at the queue being shut. -/
def finishClose [Watchdog W] : Act (Scheduler W) Closing := do
  let s ← Act.read
  if s.queue.hasActive then return .waiting else cancelAll

/-- An accepted request is told, and the number of its task is taken, before there is room for the
entries of the task. -/
def submit (offer : Offer) : Act (Scheduler W) Unit := do
  let descriptors ← Act.outcome offer.descriptors
  let s ← Act.read
  let queue ← Act.settle (s.queue.submit offer.ticket descriptors)
  leave [.submitted offer.ticket.key]
  putQueue { s.queue with nextTask := queue.nextTask }
  Capacity.reserve descriptors.length Entry.width
  putQueue queue

/-- The watchdog is armed between the activation of tasks and the handing out. -/
def next [Watchdog W] : Act (Scheduler W) (Option Handle × List Ticket) := do
  let s ← Act.read
  let step := s.queue.next
  unless step.activated.isEmpty do
    putQueue s.queue.promote.2
    leave (step.activated.map fun t => .activated t.key)
    let _ ← consult (Watchdog.activate (W := W))
  putQueue step.queue
  unless step.finished.isEmpty do
    kick
    announce
  return (step.handle, step.finished)

/-- A report of the hardware side that the queue takes is progress. -/
def progress [Watchdog W] (f : Queue → Except Error (List Ticket × Queue)) :
    Act (Scheduler W) (List Ticket) := do
  let s ← Act.read
  let (finished, queue) ← Act.settle (f s.queue)
  putQueue queue
  kick
  announce
  return finished

instance [Watchdog W] : Dispatcher (Scheduler W) where
  openUp := Act.change fun s => do
    let queue ← s.queue.openUp
    .ok { s with queue := queue }
  close := close
  finishClose := finishClose
  submit := submit
  next := next
  complete h := progress (Queue.complete h)
  finishRequest := progress Queue.finishRequest
  peek s := s.queue.peek
  remainingCycles s := s.queue.remainingCycles
  oldest s := s.queue.oldest
  isEmpty s := s.queue.isEmpty
  inFlight s := s.queue.inFlight
  effort s := s.queue.effort
  takeMarks s := (s.marks, { s with marks := [] })

def record (s : Scheduler W) : String := s.queue.record

end Scheduler

end TensorQueue
