import TensorQueue.Bench.Dog
import TensorQueue.Driver.Stack

/-!
# Dispatchers of the bench

What the requests of a bench go through: a queue under the watchdog of the
bench, with a desk in front or without, a stack as it is configured, or
answers that were written down beforehand.
-/

set_option autoImplicit false

namespace TensorQueue.Bench

open Dispatcher

/-- Answers call by call; past the end there is no descriptor and all is well. -/
structure Rehearsed where
  handles : List (Option Handle)
  peeks : List (Option Descriptor.Kind)
  completions : List Status
  requestCompletions : List Status
  deriving DecidableEq, Repr, Inhabited

namespace Rehearsed

def settle : List Status → Act Rehearsed (List Ticket)
  | .failed cause :: _ => Act.refuse cause
  | _ => return []

instance : Dispatcher Rehearsed where
  openUp := return ()
  close _ := return .closed []
  finishClose := return .closed []
  submit _ := return ()
  next := fun s => (.ok (s.handles.head?.join, []), { s with handles := s.handles.tail })
  complete _ := do
    let s ← Act.read
    Act.write { s with completions := s.completions.tail }
    settle s.completions
  finishRequest := do
    let s ← Act.read
    Act.write { s with requestCompletions := s.requestCompletions.tail }
    settle s.requestCompletions
  peek s := s.peeks.head?.join
  remainingCycles _ := 0
  oldest _ := none
  isEmpty _ := true
  inFlight _ := false
  effort s := s.handles.length + s.peeks.length
  takeMarks s := ([], s)

end Rehearsed

/-- A stack brings a watchdog of its own, and perhaps a clock of its own. -/
structure Assembly where
  queue : Queue
  desk : Desk
  watchdog : Escalation
  config : Config
  ownClock : Bool
  deriving DecidableEq, Repr, Inhabited

inductive Fitting where
  | bare
  | single (queue : Queue)
  | realTime (queue : Queue) (desk : Desk)
  | stack (assembly : Assembly)
  | rehearsed (feed : Rehearsed)
  deriving DecidableEq, Repr, Inhabited

/-- The watchdog and the clock of the bench are shared with whoever else uses them. A stack keeps
away from that watchdog. -/
structure Front where
  dog : Watchdog.Watched Dog
  clock : Duration
  fitting : Fitting
  marks : List Mark

namespace Front

/-- The calls on the watchdog of the bench are recorded; those on the one of a stack are not. -/
def noteCalls (f : Front) : Front :=
  { f with marks := f.marks ++ f.dog.calls.reverse.map Mark.consulted
           dog := { f.dog with calls := [] } }

def supervised (f : Front) (queue : Queue) : Scheduler (Watchdog.Watched Dog) :=
  ⟨queue, f.dog, f.marks⟩

/-- A stack on a clock of its own starts it at zero, and it is not seen to move. -/
def deskClock (f : Front) (ownClock : Bool) : Duration := if ownClock then .zero else f.clock

/-- What can be done with every dispatcher. Without one, nothing is open. -/
def act {α : Type} (act : {S : Type} → [Dispatcher S] → Act S α) : Act Front α := fun f =>
  match f.fitting with
  | .bare => (.error (.refusal .queueNotOpen), f)
  | .single queue =>
    let (outcome, s) := act (f.supervised queue)
    (outcome, { f with dog := s.watchdog, fitting := .single s.queue, marks := s.marks })
  | .realTime queue desk =>
    let (outcome, s) := act (⟨desk, f.clock, f.supervised queue⟩ : RealTime _)
    (outcome, { f with dog := s.backing.watchdog, fitting := .realTime s.backing.queue s.desk
                       marks := s.backing.marks })
  | .stack a =>
    let (outcome, s) := act
      (⟨a.desk, f.deskClock a.ownClock, ⟨a.queue, a.watchdog, f.marks⟩⟩ :
        RealTime (Scheduler Escalation))
    (outcome, { f with fitting := .stack { a with queue := s.backing.queue, desk := s.desk
                                                  watchdog := s.backing.watchdog }
                       marks := s.backing.marks })
  | .rehearsed feed =>
    let (outcome, feed) := act feed
    (outcome, { f with fitting := .rehearsed feed })

def queue? (f : Front) : Option Queue :=
  match f.fitting with
  | .single queue | .realTime queue _ => some queue
  | .stack a => some a.queue
  | _ => none

def desk? (f : Front) : Option Desk :=
  match f.fitting with
  | .realTime _ desk => some desk
  | .stack a => some a.desk
  | _ => none

def assembly? (f : Front) : Option Assembly :=
  match f.fitting with
  | .stack a => some a
  | _ => none

def putDesk (desk : Desk) (f : Front) : Front :=
  match f.fitting with
  | .realTime queue _ => { f with fitting := .realTime queue desk }
  | .stack a => { f with fitting := .stack { a with desk := desk } }
  | _ => f

instance : Dispatcher Front where
  openUp := act Dispatcher.openUp
  close mode := act (Dispatcher.close mode)
  finishClose := act Dispatcher.finishClose
  submit offer := act (Dispatcher.submit offer)
  next := act Dispatcher.next
  complete h := act (Dispatcher.complete h)
  finishRequest := act Dispatcher.finishRequest
  peek f :=
    match f.fitting with
    | .rehearsed feed => Dispatcher.peek feed
    | _ => f.queue?.bind Queue.peek
  remainingCycles f := (f.queue?.map Queue.remainingCycles).getD 0
  oldest f := f.queue?.bind Queue.oldest
  isEmpty f := (f.queue?.map Queue.isEmpty).getD true
  inFlight f := (f.queue?.map Queue.inFlight).getD false
  effort f :=
    match f.fitting with
    | .rehearsed feed => Dispatcher.effort feed
    | _ => (f.queue?.map Queue.effort).getD 0
  takeMarks f :=
    let f := f.noteCalls
    (f.marks, { f with marks := [] })

/-- What comes next, as the engine sees it. Each look takes one of the answers written down. -/
def lookAhead : Act Front (Option Descriptor.Kind) := fun f =>
  match f.fitting with
  | .rehearsed feed =>
    (.ok (Dispatcher.peek feed),
      { f with fitting := .rehearsed { feed with peeks := feed.peeks.tail } })
  | _ => (.ok (Dispatcher.peek f), f)

/-- The record of the dispatcher, if it is one with a queue. -/
def record (f : Front) : Option String :=
  f.queue?.map fun queue =>
    match f.desk? with
    | none => queue.record
    | some desk => RealTime.record queue.record desk

/-- The armed level of a stack's watchdog, and how many there are. -/
def level? (f : Front) : Option (Option Nat × Nat) :=
  f.assembly?.map fun a => (a.watchdog.activeLevel, a.watchdog.levels)

end Front

end TensorQueue.Bench
