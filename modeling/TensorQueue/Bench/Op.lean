import TensorQueue.Bench.Front
import TensorQueue.Bench.Host
import TensorQueue.Clock
import TensorQueue.Registers.Faulty

/-!
# Operations of the bench

What a session on a bench may ask for, and how it is answered. Requests and
hardware requests go by names that the session chooses.
-/

set_option autoImplicit false

namespace TensorQueue.Bench

/-- A hardware request to be submitted, with those that follow it. -/
structure Submission where
  executable : Nat
  plan : HardwareRequest.Plan
  plans : List HardwareRequest.Plan

inductive Notice where
  | submission
  | active
  | cancel
  | complete (status : Status)

inductive Op where
  | openUp
  | submit (submission : Submission)
  | submitPart (part : String)
  | next
  | complete (nth : Nat)
  | completeAt (task : UInt64) (index : Nat)
  | finishRequest
  | close (mode : Dispatcher.CloseMode)
  | wait
  | dropDispatcher
  | setRealTime (on : Bool)
  | setContract (executable : ExecutableId) (update : Contract.Update)
  | getContract (executable : ExecutableId)
  | removeContract (executable : ExecutableId)
  | lastArrival (executable : ExecutableId)
  | moveClock (move : Clock.Move)
  | callDog (call : Watchdog.Call)
  | setTimeoutAt (level : Nat) (timeout : Duration)
  | expire (level : Nat) (count : UInt64)
  | failWait (level : Nat)
  | hold
  | release
  | refuseSettings (level count : Nat)
  | dropDog
  | increment
  | decrement
  | dropCount
  | read (offset : UInt64)
  | read32 (offset : UInt64)
  | write (offset value : UInt64)
  | write32 (offset : UInt64) (value : UInt32)
  | poll (offset value : UInt64) (timeout : Duration)
  | pollUnbounded (offset value : UInt64) (timeout : Duration)
  | engine (config : Engine.Config)
  | step
  | run
  | makeBuffer (name : String) (size : UInt64)
  | showBuffer (spec : BufferSpec)
  | newRequest (name : String) (id : UInt64) (executable : Nat)
  | addBuffers (request : String) (direction : Direction) (layer : String) (spec : BufferSpec)
      (times : Nat)
  | setPriority (request : String) (priority : Int)
  | setDone (request : String)
  | prepare (request : String)
  | failUnprepared (request : String) (cause : Error)
  | showRequest (request : String)
  | prepareBatch (request part : String)
  | submitRequest (request : String)
  | newPart (name : String) (id : UInt64) (executable : Nat)
  | setReport (part : String)
  | setBuffers (part : String) (direction : Direction) (layer : String) (specs : List BufferSpec)
  | setDescriptors (part : String) (descriptors : List Descriptor)
  | notify (part : String) (notice : Notice)
  | showPart (part : String)
  | showStack

/-- Why an operation makes no sense on this bench. Nothing is done then. -/
inductive Misuse where
  | noEngine
  | noDispatcher
  | noDesk
  | noStack
  | noDog
  | noCount
  | notACascade
  | watchdogInUse
  | closePending
  | closeWouldBlock
  | unknownName (name : String)
  | unknownExecutable (index : Nat)
  | noSuchData
  deriving DecidableEq, Repr, Inhabited

def Misuse.message : Misuse → String
  | .noEngine => "no engine"
  | .noDispatcher => "no scheduler"
  | .noDesk => "no real-time scheduler"
  | .noStack => "no stack"
  | .noDog => "no watchdog"
  | .noCount => "no counting watch"
  | .notACascade => "not a cascade"
  | .watchdogInUse => "watchdog in use"
  | .closePending => "graceful close already pending"
  | .closeWouldBlock => "graceful close would block"
  | .unknownName name => s!"unknown name {name}"
  | .unknownExecutable index => s!"no executable {index}"
  | .noSuchData => "no such data"

/-- How an operation ended: with an answer, a fault, or not at all. -/
inductive Verdict (α : Type) where
  | answered (answer : α)
  | faulted (fault : Fault)
  | misused (misuse : Misuse)

structure EngineReport (α : Type) where
  outcome : Except Error α
  stats : Engine.Stats

inductive Answer where
  | done
  | nothing
  | none
  | pending
  | barked
  | ignored
  | dead
  | number (n : UInt64)
  | address (a : UInt64)
  | time (t : Duration)
  | text (s : String)
  | handle (h : Handle)
  | completion (task : UInt64) (index : Nat) (outcome : Except Error Unit)
  | mode (before after isEmpty : Bool)
  | contract (c : Contract)
  | stepped (report : EngineReport Engine.Outcome)
  | ran (report : EngineReport Engine.Stats)
  | buffer (b : Buffer)
  | request (r : Request)
  | called (outcome : Except Error Unit) (r : Request)
  | counted (outcome : Except Error Nat) (r : Request)
  | part (r : HardwareRequest)
  | partCalled (outcome : Except Error Unit) (r : HardwareRequest)
  | bothCalled (outcome : Except Error Unit) (r : Request) (part : HardwareRequest)
  | texts (first second : String)

/-- A call that a callback makes, and the label under which it is reported. -/
structure LabelledCall where
  label : String
  call : Watchdog.Call
  deriving DecidableEq, Repr, Inhabited

/-- What ran on behalf of an expired watchdog. -/
inductive CallbackEvent where
  | expired (level : Nat) (cycle : UInt64)
  | called (label : String) (outcome : Except Fault (Option UInt64))

/-- The queue of the bench as it is shown. -/
structure QueueView where
  record : String
  peek : Option Descriptor.Kind
  cycles : UInt64
  oldest : Option UInt64
  isEmpty : Bool
  level : Option (Option Nat × Nat)

/-- The watchdog of the bench as it is shown. -/
inductive DogView where
  | alarm (phase : Alarm.Phase) (cycle : UInt64) (timeout : Duration) (record : String)
  | escalation (level : Option Nat) (levels : Nat) (record : String)

/-- Everything that one operation brought about. -/
structure Step where
  verdict : Verdict Answer
  closed : Option (Except Fault Unit)
  waited : Nat
  queue : Option QueueView
  depth : Option (UInt64 × String)
  dog : Option DogView
  settings : List (Nat × Countdown.Setting)
  callbacks : List CallbackEvent
  events : List Event

end TensorQueue.Bench
