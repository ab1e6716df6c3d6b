import TensorQueue.Queue.Task
import TensorQueue.Descriptor.Check

/-!
# The queue

All tasks share one ordered hardware queue. A task waits in `pending`, is
drained in `active`, and rests in `completed` once its completion as a whole
has been reported while some of its descriptors are still with the hardware.
`ready` lists what is still to be handed out of the task drained last. Tasks
move from back to front only, so requests end in the order of submission.
-/

set_option autoImplicit false

namespace TensorQueue

structure Queue where
  isOpen : Bool
  nextTask : UInt64
  pending : List Task
  ready : List Place
  active : List Task
  completed : List Task
  deriving DecidableEq, Repr, Inhabited

namespace Queue

def new : Queue := ⟨false, 0, [], [], [], []⟩

def inFlight (q : Queue) : Bool := !q.active.isEmpty || !q.completed.isEmpty

def flying (q : Queue) : List Task := q.completed ++ q.active

def hasActive (q : Queue) : Bool := q.flying.any Task.hasActive

def isEmpty (q : Queue) : Bool :=
  q.pending.isEmpty && q.ready.isEmpty && q.active.isEmpty && q.completed.isEmpty

def task? (q : Queue) (number : UInt64) : Option Task := q.flying.find? (·.number = number)

def entryAt? (q : Queue) (p : Place) : Option Entry :=
  (q.task? p.task).bind fun t => t.entries[p.index]?

/-- The queue with one descriptor in flight changed. -/
def alterEntry (q : Queue) (p : Place) (f : Entry → Entry) : Queue :=
  let change := fun t : Task => if t.number = p.task then t.alterEntry p.index f else t
  { q with completed := q.completed.map change, active := q.active.map change }

/-- A local fence is settled once everything before it in its task is completed. -/
def isSettledFence (q : Queue) (p : Place) : Bool :=
  match q.task? p.task with
  | none => false
  | some t =>
    (t.entries[p.index]?.map Entry.kind) = some .localFence && t.completedBefore p.index

/-- Takes settled fences off the front of these places, which are to become the ready ones. -/
def settleFrom : List Place → Queue → Queue
  | [], q => { q with ready := [] }
  | p :: rest, q =>
    if q.isSettledFence p then settleFrom rest (q.alterEntry p Entry.complete)
    else { q with ready := p :: rest }

def settleFences (q : Queue) : Queue := settleFrom q.ready q

/-- The drained task in front, if any, becomes the one to hand out. -/
def activate (t : Task) (q : Queue) : Queue :=
  { q with ready := q.ready ++ t.places, active := q.active ++ [t] }

/-- Activates from these tasks, which are to become the pending ones, until something is ready.
A task that only holds settled fences leaves nothing ready. The tickets of the activated tasks
come with the queue. -/
def promoteFrom : List Task → Queue → List Ticket × Queue
  | [], q => ([], { q with pending := [] })
  | t :: rest, q =>
    if q.ready.isEmpty then
      let (tickets, q) := promoteFrom rest (settleFences (activate t q))
      (t.ticket :: tickets, q)
    else ([], { q with pending := t :: rest })

def promote (q : Queue) : List Ticket × Queue := promoteFrom q.pending q

/-- Hands out the first of what is ready, unless it is a fence. -/
def dispatch (q : Queue) : Option Handle × Queue :=
  match q.ready with
  | [] => (none, q)
  | p :: rest =>
    match q.entryAt? p with
    | none => (none, q)
    | some e =>
      if e.kind.isFence then (none, q)
      else (some ⟨p.task, p.index, e.descriptor⟩,
        { q.alterEntry p Entry.activate with ready := rest })

/-- Nothing is left ready of the tasks of these numbers. -/
def withdraw (numbers : List UInt64) (q : Queue) : Queue :=
  if numbers.isEmpty then q
  else { q with ready := q.ready.filter fun p => !numbers.contains p.task }

/-- Takes the drained tasks off the front, the oldest first. As long as a completed task waits, no
active one may leave. -/
def takeFinished (q : Queue) : List Ticket × Queue :=
  let (gone, waiting) := q.completed.span Task.isDrained
  let q := { q with completed := waiting }
  if waiting.isEmpty then
    let (ended, active) := q.active.span Task.isDrained
    ((gone ++ ended).map Task.ticket, { withdraw (ended.map Task.number) q with active := active })
  else (gone.map Task.ticket, q)

def openUp (q : Queue) : Except Error Queue :=
  if q.isOpen then .error .queueAlreadyOpen else .ok { q with isOpen := true }

/-- Takes no further submissions. What is queued stays. -/
def shut (q : Queue) : Except Error Queue :=
  if q.isOpen then .ok { q with isOpen := false } else .error .queueNotOpen

/-- Removes every task, the oldest first. -/
def drain (q : Queue) : List Ticket × Queue :=
  ((q.flying ++ q.pending).map Task.ticket,
    { q with ready := [], completed := [], active := [], pending := [] })

/-- The descriptors of a submission are looked at before the queue is. -/
def checkDescriptors (id : UInt64) (descriptors : List Descriptor) : Except Error Unit :=
  if descriptors.isEmpty then .error (.noDescriptors id)
  else descriptors.forM fun d => d.kind.check

def submit (ticket : Ticket) (descriptors : List Descriptor) (q : Queue) : Except Error Queue := do
  checkDescriptors ticket.id descriptors
  if q.isOpen then
    .ok { q with nextTask := q.nextTask + 1
                 pending := q.pending ++ [Task.new q.nextTask ticket descriptors] }
  else .error .queueNotOpen

def peek (q : Queue) : Option Descriptor.Kind :=
  match q.ready, q.pending with
  | p :: _, _ => (q.entryAt? p).map Entry.kind
  | [], t :: _ => t.entries[0]?.map Entry.kind
  | [], [] => none

/-- What looking for the next descriptor comes to: the tasks activated for it, the descriptor
handed out, the tasks found finished, and the queue that is left. -/
structure Next where
  activated : List Ticket
  handle : Option Handle
  finished : List Ticket
  queue : Queue

def next (q : Queue) : Next :=
  if q.isOpen then
    let (activated, q) := q.promote
    let (handle, q) := q.dispatch
    let (finished, q) := q.takeFinished
    ⟨activated, handle, finished, q⟩
  else ⟨[], none, [], q⟩

/-- The hardware is done with a descriptor. It must have been handed out and not come back yet;
the copy in the handle does not matter. -/
def complete (h : Handle) (q : Queue) : Except Error (List Ticket × Queue) :=
  match q.task? h.task with
  | none => .error (.taskNotInFlight h.task)
  | some t =>
    match t.entries[h.index]? with
    | none => .error (.noSuchDescriptor h.task h.index)
    | some e =>
      if e.isActive then
        .ok (takeFinished (settleFences (q.alterEntry ⟨h.task, h.index⟩ Entry.complete)))
      else .error (.descriptorNotActive h.task h.index e.progress)

/-- The hardware is done with the oldest active task as a whole. Its fences are settled by that;
its descriptors may still be with the hardware. -/
def finishRequest (q : Queue) : Except Error (List Ticket × Queue) :=
  match q.active with
  | [] => .error .noActiveRequest
  | t :: rest =>
    if t.hasPendingTransfers then .error (.transfersPending t.number)
    else
      .ok (takeFinished
        { q with ready := q.ready.filter fun p => p.task ≠ t.number
                 active := rest
                 completed := q.completed ++ [t.completePending] })

/-- The sum, or the largest word if it does not fit. -/
def saturatingAdd (a b : UInt64) : UInt64 :=
  if a.toNat + b.toNat < UInt64.size then a + b else 0xffffffffffffffff

/-- The cycles of all tasks that are not completed as a whole. -/
def remainingCycles (q : Queue) : UInt64 :=
  (q.pending ++ q.active).foldl (fun sum t => saturatingAdd sum t.ticket.cycles) 0

def oldest (q : Queue) : Option Ticket := q.flying.head?.map Task.ticket

/-- A bound on how often the hardware side can still make progress. -/
def effort (q : Queue) : Nat :=
  (q.pending ++ q.active).foldr (fun t rest => t.entries.size + 1 + rest) 0

def record (q : Queue) : String :=
  Text.record "SingleQueueDmaScheduler"
    [⟨"open", toString q.isOpen⟩, ⟨"pending_tasks", toString q.pending.length⟩,
      ⟨"pending_dmas", toString q.ready.length⟩, ⟨"active_tasks", toString q.active.length⟩,
      ⟨"completed_tasks", toString q.completed.length⟩] true

end Queue

end TensorQueue
