import TensorQueue.Error
import TensorQueue.Descriptor

/-!
# Tasks

A task is a request that was accepted: its number in the queue, the ticket by
which its request is found again, and its descriptors with their progress.
-/

set_option autoImplicit false

namespace TensorQueue

/-- What the queue keeps of a request. The key says which request of the driver it is. -/
structure Ticket where
  key : Nat
  id : UInt64
  executable : ExecutableId
  cycles : UInt64
  deriving DecidableEq, Repr, Inhabited

/-- One descriptor of one task. -/
structure Place where
  task : UInt64
  index : Nat
  deriving DecidableEq, Repr, Inhabited

structure Task where
  number : UInt64
  ticket : Ticket
  entries : Array Entry
  deriving DecidableEq, Repr, Inhabited

namespace Task

def new (number : UInt64) (ticket : Ticket) (descriptors : List Descriptor) : Task :=
  ⟨number, ticket, (descriptors.map Entry.new).toArray⟩

def isDrained (t : Task) : Bool := t.entries.all Entry.isCompleted

def hasActive (t : Task) : Bool := t.entries.any Entry.isActive

/-- Whether the hardware has not been given all of it yet. -/
def hasPendingTransfers (t : Task) : Bool := t.entries.any fun e => !e.kind.isFence && e.isPending

def completedBefore (t : Task) (index : Nat) : Bool :=
  (t.entries.toList.take index).all Entry.isCompleted

/-- The places of all descriptors, in order. -/
def places (t : Task) : List Place := (List.range t.entries.size).map (⟨t.number, ·⟩)

def alterEntry (t : Task) (index : Nat) (f : Entry → Entry) : Task :=
  { t with entries := t.entries.modify index f }

/-- What was not handed to the hardware counts as done: only fences are left by then. -/
def completePending (t : Task) : Task :=
  { t with entries := t.entries.map fun e => if e.isPending then e.complete else e }

end Task

end TensorQueue
