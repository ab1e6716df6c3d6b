import TensorQueue.Driver.Event
import TensorQueue.Engine.Basic
import TensorQueue.Queue.Dispatcher

/-!
# The driver

The driver owns the requests and puts them through a dispatcher. It gives each
hardware request its stamps, completes it when the dispatcher says so and runs
what follows a completion: a report, a further submission, or the news to the
request that it was a part of. A request that is submitted as a whole is cut
into parts, and every part completes, whether or not it was accepted.
-/

set_option autoImplicit false

namespace TensorQueue

open Dispatcher

/-- What a part has told the request that it is a part of. -/
structure Driver.Report where
  request : Nat
  status : Status
  deriving DecidableEq, Repr, Inhabited

structure Driver (S : Type) where
  dispatcher : S
  /-- The hardware requests, by key. -/
  hardware : Array HardwareRequest
  /-- The requests, by number. -/
  requests : Array Request
  /-- What has happened, the latest first. -/
  log : List Event
  /-- What the parts of requests have told, the latest first. -/
  reports : List Driver.Report
  /-- The id of the next part that the driver makes. -/
  nextPart : UInt64
  /-- Whether those who wait for the dispatcher have been called since they last looked at it. -/
  called : Bool

/-- What the done callbacks of requests do once they are told: calls of their own on the driver,
for the request of this number, which ended with this status. -/
class DoneCallbacks (S : Type) where
  run : Nat → Status → Act (Driver S) Unit

namespace Driver

variable {S : Type}

/-- Unless anything else is said, the callbacks leave the driver alone. -/
instance (priority := low) silent : DoneCallbacks S := ⟨fun _ _ => return ()⟩

def new (dispatcher : S) : Driver S := ⟨dispatcher, #[], #[], [], [], 0, false⟩

def tell (event : Event) : Act (Driver S) Unit :=
  Act.modify fun d => { d with log := event :: d.log }

def alterHardware (key : Nat) (f : HardwareRequest → HardwareRequest) (d : Driver S) : Driver S :=
  { d with hardware := d.hardware.modify key f }

def putRequest (number : Nat) (r : Request) (d : Driver S) : Driver S :=
  { d with requests := d.requests.setIfInBounds number r }

def addHardware (r : HardwareRequest) : Act (Driver S) Nat := do
  let d ← Act.read
  Act.write { d with hardware := d.hardware.push r }
  return d.hardware.size

def addRequest (r : Request) : Act (Driver S) Nat := do
  let d ← Act.read
  Act.write { d with requests := d.requests.push r }
  return d.requests.size

def prepareBatch (number key : Nat) : Act (Driver S) Unit := fun d =>
  match d.requests[number]?, d.hardware[key]? with
  | some r, some part =>
    let (outcome, (r, part)) := Request.prepareBatch number (r, part)
    (outcome, alterHardware key (fun _ => part) (putRequest number r d))
  | _, _ => (.ok (), d)

def heed (mark : Mark) (d : Driver S) : Driver S :=
  match mark with
  | .submitted key => alterHardware key HardwareRequest.markSubmitted d
  | .activated key => alterHardware key HardwareRequest.markActive d
  | .consulted consultation => { d with log := .consulted consultation :: d.log }
  | .announced => { d with called := true }

def heedAll (marks : List Mark) (d : Driver S) : Driver S := marks.foldl (fun d m => heed m d) d

section Dispatching

variable [Dispatcher S]

def collect (d : Driver S) : Driver S :=
  let (marks, dispatcher) := Dispatcher.takeMarks d.dispatcher
  heedAll marks { d with dispatcher := dispatcher }

/-- An action of the dispatcher. Its marks are taken also if it fails. -/
def perform {α : Type} (act : Act S α) : Act (Driver S) α :=
  Act.closing (Act.within Driver.dispatcher (fun d s => { d with dispatcher := s }) act) collect

def ticket (key : Nat) (r : HardwareRequest) : Ticket :=
  ⟨key, r.id, r.executable.id, r.executable.cycles⟩

def submitHardware (key : Nat) : Act (Driver S) Unit := do
  let d ← Act.read
  match d.hardware[key]? with
  | none => return ()
  | some r => perform (Dispatcher.submit ⟨ticket key r, r.descriptors⟩)

/-- Submits the first of these plans; the others are left to its own completion. -/
def followUp (plans : List HardwareRequest.Plan) (executable : Executable) :
    Act (Driver S) Unit := do
  match plans with
  | [] => return ()
  | plan :: rest =>
    let key ← addHardware (.ofPlan plan rest executable)
    let outcome ← Act.attempt (submitHardware key)
    tell (.followUp plan.id outcome)

def noteReport (report : Report) : Act (Driver S) Unit :=
  Act.modify fun d => { d with reports := report :: d.reports }

variable [DoneCallbacks S]

/-- The request as it was left, and the done callback if it is to be fired. -/
def conclude (number : Nat) (outcome : Option Status × Request) : Act (Driver S) Unit := do
  Act.modify (putRequest number outcome.2)
  match outcome.1 with
  | none => return ()
  | some status =>
    tell (.requestDone number outcome.2.id status)
    DoneCallbacks.run number status

def onRequest (number : Nat) (f : Request → Option Status × Request) : Act (Driver S) Unit := do
  let d ← Act.read
  match d.requests[number]? with
  | none => return ()
  | some r => conclude number (f r)

def runCallback (key : Nat) (r : HardwareRequest) (status : Status) : Act (Driver S) Unit := do
  match r.callback with
  | none => return ()
  | some (.report plans) =>
    tell (.hardwareDone key r.id status r.complete.stamps)
    followUp plans r.executable
  | some (.part number) =>
    noteReport ⟨number, status⟩
    onRequest number fun whole => whole.partDone r.complete.stamps status

/-- Only the first completion of a hardware request has an effect. -/
def completeHardware (key : Nat) (status : Status) : Act (Driver S) Unit := do
  let d ← Act.read
  match d.hardware[key]? with
  | none => return ()
  | some r =>
    if r.completed then return ()
    else
      Act.write (alterHardware key HardwareRequest.complete d)
      runCallback key r status

def finishAll : List Ticket → Act (Driver S) Unit
  | [] => return ()
  | t :: rest => do
    completeHardware t.key .ok
    finishAll rest

def cancelHardware (key : Nat) (id : UInt64) : Act (Driver S) Unit :=
  completeHardware key (.failed (.hardwareRequestCancelled id))

def cancelAll : List Ticket → Act (Driver S) Unit
  | [] => return ()
  | t :: rest => do
    cancelHardware t.key t.id
    cancelAll rest

def openUp : Act (Driver S) Unit := perform Dispatcher.openUp

def endClosing (closing : Closing) : Act (Driver S) Bool := do
  match closing with
  | .waiting => return false
  | .closed cancelled =>
    cancelAll cancelled
    return true

def close (mode : CloseMode) : Act (Driver S) Bool := do
  endClosing (← perform (Dispatcher.close mode))

def finishClose : Act (Driver S) Bool := do
  endClosing (← perform Dispatcher.finishClose)

def next : Act (Driver S) (Option Handle) := do
  let (handle, finished) ← perform Dispatcher.next
  finishAll finished
  return handle

def complete (h : Handle) : Act (Driver S) Unit := do
  finishAll (← perform (Dispatcher.complete h))

def finishRequest : Act (Driver S) Unit := do
  finishAll (← perform Dispatcher.finishRequest)

/-- How much a planned request can still give the hardware to do. -/
def planEffort (executable : Executable) (plan : HardwareRequest.Plan) : Nat :=
  match (HardwareRequest.ofPlan plan [] executable).descriptors with
  | .ok descriptors => descriptors.length + 1
  | .error _ => 0

def callbackEffort (r : HardwareRequest) : Nat :=
  match r.callback with
  | some (.report plans) => plans.foldr (fun plan rest => planEffort r.executable plan + rest) 0
  | _ => 0

/-- The bound on the effort is for done callbacks that submit nothing. -/
instance : Feed (Driver S) where
  next := next
  peek := return Dispatcher.peek (← Act.read).dispatcher
  complete := complete
  finishRequest := finishRequest
  effort d :=
    d.hardware.foldl (fun sum r => sum + callbackEffort r) (Dispatcher.effort d.dispatcher)

/-- No submission follows a completion any more. -/
def forgetPlans (d : Driver S) : Driver S :=
  let forget := fun r : HardwareRequest =>
    match r.callback with
    | some (.report _) => { r with callback := some (.report []) }
    | _ => r
  { d with hardware := d.hardware.map forget }

def takeId : Act (Driver S) UInt64 := do
  let d ← Act.read
  Act.write { d with nextPart := d.nextPart + 1 }
  return d.nextPart

/-- The number of parts accepted, or the first refusal. -/
def verdict (accepted : Nat) (failure : Option Error) : Act (Driver S) Nat :=
  match failure with
  | none => return accepted
  | some cause => Act.refuse cause

/-- A prepared part is offered to the dispatcher, unless one before it was refused: then it only
completes, with the same error. What has been refused so far comes out of it. -/
def offerPart (key : Nat) (failure : Option Error) : Act (Driver S) (Option Error) := do
  match failure with
  | some cause =>
    completeHardware key (.failed cause)
    return failure
  | none =>
    match ← Act.attempt (submitHardware key) with
    | .ok () => return none
    | .error cause =>
      completeHardware key (.failed cause)
      return some cause

/-- Makes and prepares the parts of a request that are still missing, at most this many, and
offers each. -/
def submitParts (number accepted : Nat) (failure : Option Error) : Nat → Act (Driver S) Nat
  | 0 => verdict accepted failure
  | more + 1 => do
    let d ← Act.read
    match d.requests[number]? with
    | none => verdict accepted failure
    | some r =>
      if r.remaining = 0 then verdict accepted failure
      else
        let key ← addHardware (.new (← takeId) r.executable)
        match ← Act.attempt (prepareBatch number key) with
        | .error cause =>
          onRequest number fun whole => whole.failUnprepared cause
          Act.refuse (failure.getD cause)
        | .ok () =>
          let failure ← offerPart key failure
          submitParts number (if failure.isNone then accepted + 1 else accepted) failure more

/-- Submits all parts of a prepared request, and says how many. -/
def submitRequest (number : Nat) : Act (Driver S) Nat := do
  let d ← Act.read
  match d.requests[number]? with
  | none => return 0
  | some r =>
    if r.phase = .prepared then submitParts number 0 none r.remaining
    else Act.refuse (.requestNotPrepared r.id r.phase)

end Dispatching

/-- A call on a request that is made as a whole or refused as a whole. -/
def changeRequest (number : Nat) (f : Request → Except Error Request) : Act (Driver S) Unit :=
  Act.change fun d => do
    match d.requests[number]? with
    | none => .ok d
    | some r => .ok (putRequest number (← f r) d)

end Driver

end TensorQueue
