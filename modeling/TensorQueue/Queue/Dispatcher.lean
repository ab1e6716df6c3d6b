import TensorQueue.Queue.Basic
import TensorQueue.Watchdog.Basic

/-!
# Dispatchers

A dispatcher feeds the hardware from submitted requests. It never calls a
request back: an operation answers with the tickets of the requests that it
finished or cancelled, and what else there is to tell is left as marks.
A graceful close waits for the hardware, so it ends in a step of its own.
-/

set_option autoImplicit false

namespace TensorQueue

namespace Dispatcher

/-- Whether a close cancels at once, or lets the hardware finish what it has been given. -/
inductive CloseMode where
  | asap
  | graceful
  deriving DecidableEq, Repr, Inhabited

/-- How far a close has come: everything cancelled, or waiting for the hardware. -/
inductive Closing where
  | closed (cancelled : List Ticket)
  | waiting
  deriving DecidableEq, Repr, Inhabited

/-- What happened to a request short of its end, or between the dispatcher and its watchdog. -/
inductive Mark where
  | submitted (key : Nat)
  | activated (key : Nat)
  | consulted (consultation : Watchdog.Consultation)
  /-- Whoever waits for the dispatcher is called to look at it again. -/
  | announced

/-- A request as it is offered: its ticket and its descriptors, or why it has none. -/
structure Offer where
  ticket : Ticket
  descriptors : Except Fault (List Descriptor)

end Dispatcher

open Dispatcher in
class Dispatcher (S : Type) where
  openUp : Act S Unit
  close : CloseMode → Act S Closing
  /-- Ends a close that was waiting, once the hardware holds nothing any more. -/
  finishClose : Act S Closing
  submit : Offer → Act S Unit
  /-- The next descriptor for the hardware, and the requests found finished on the way. -/
  next : Act S (Option Handle × List Ticket)
  complete : Handle → Act S (List Ticket)
  finishRequest : Act S (List Ticket)
  peek : S → Option Descriptor.Kind
  remainingCycles : S → UInt64
  oldest : S → Option Ticket
  isEmpty : S → Bool
  inFlight : S → Bool
  /-- A bound on how often the hardware side can still make progress. -/
  effort : S → Nat
  /-- The marks left since they were last taken, in order. -/
  takeMarks : S → List Mark × S

end TensorQueue
