import TensorQueue.Time.Text
import TensorQueue.Text.Quoted
import TensorQueue.Text.Unsigned
import TensorQueue.Descriptor
import TensorQueue.Request.Phase

/-!
# Errors

An error is the cause of a refusal. Its kind and its wording are functions of
the cause, so that no caller composes text. A collaborator outside the driver
may report an error of any kind in its own words.
-/

set_option autoImplicit false

namespace TensorQueue

namespace Error

inductive Kind where
  | invalidArgument
  | failedPrecondition
  | deadlineExceeded
  | internal
  | notFound
  | cancelled
  | unknown
  deriving DecidableEq, Repr, Inhabited

namespace Kind

def name : Kind → String
  | .invalidArgument => "InvalidArgument"
  | .failedPrecondition => "FailedPrecondition"
  | .deadlineExceeded => "DeadlineExceeded"
  | .internal => "Internal"
  | .notFound => "NotFound"
  | .cancelled => "Cancelled"
  | .unknown => "Unknown"

def title : Kind → String
  | .invalidArgument => "Invalid argument"
  | .failedPrecondition => "Failed precondition"
  | .deadlineExceeded => "Deadline exceeded"
  | .internal => "Internal error"
  | .notFound => "Not found"
  | .cancelled => "Cancelled"
  | .unknown => "Unknown error"

/-- The name of the one field of an error's record. -/
def fieldName : Kind → String
  | .notFound => "what"
  | _ => "reason"

end Kind

end Error

inductive Error where
  | reported (kind : Error.Kind) (reason : String)
  | coreInterruptOutOfRange (line : UInt8)
  | interruptLineMissing (line : UInt8)
  | zeroHardwareBatch (model : String)
  | duplicateLayer (model : String) (direction : Direction) (layer : String)
  | hardwareRequestCompleted (id : UInt64)
  | hardwareRequestClaimed (id : UInt64)
  | hardwareRequestCancelled (id : UInt64)
  | wrongPhase (id : UInt64) (call : Request.Call) (phase : Request.Phase)
  | unknownLayer (direction : Direction) (layer : String)
  | bufferSizeMismatch (layer : String) (actual padded size : UInt64)
  | negativePriority (id : UInt64) (priority : Int)
  | doneAlreadySet (id : UInt64)
  | preparedWithoutDone (id : UInt64)
  | unequalLayers (id : UInt64) (layer : String) (count : Nat) (first : String) (expected : Nat)
  | noBuffers (id : UInt64)
  | allBatchesPrepared (id : UInt64) (count : Nat)
  | requestNotPrepared (id : UInt64) (phase : Request.Phase)
  | queueAlreadyOpen
  | queueNotOpen
  | noDescriptors (id : UInt64)
  | taskNotInFlight (task : UInt64)
  | noSuchDescriptor (task : UInt64) (index : Nat)
  | descriptorNotActive (task : UInt64) (index : Nat) (progress : Progress)
  | noActiveRequest
  | transfersPending (task : UInt64)
  | executionWithoutRate (executable : ExecutableId)
  | rateWithoutExecution (executable : ExecutableId) (fps : UInt32)
  | executionExceedsFrame (executable : ExecutableId) (execution frame : Duration)
  | toleranceExceedsSlack (executable : ExecutableId) (tolerance slack : Duration)
  | incompleteContract (executable : ExecutableId)
  | noContractStored (executable : ExecutableId)
  | noArrivalStored (executable : ExecutableId)
  | notRealTime (executable : ExecutableId)
  | deadlineMissed (id : UInt64) (executable : ExecutableId) (finish deadline : Duration)
  | zeroTimeout
  | signalWhileInactive
  | cascadeWithoutLevels
  | watchCountOverflow
  | watchCountUnderflow
  | timerProgramming
  | timerRefused
  | noTimer (level : Nat)
  | misalignedRegister (offset : UInt64)
  | registerOutOfBounds (offset size : UInt64)
  | registerPollTimedOut (offset value expected : UInt64) (timeout : Duration)
  | noWatchdogLevels
  | zeroWatchdogLevel (level : Nat)
  | zeroPollTimeout
  | zeroInactiveMultiple
  | badNumber (key value : String) (cause : Text.NumberFault)
  | badFlag (key value : String)
  | badTimerName (key value : String)
  deriving DecidableEq, Repr, Inhabited

namespace Error

def kind : Error → Kind
  | .reported kind _ => kind
  | .coreInterruptOutOfRange _ | .interruptLineMissing _ => .invalidArgument
  | .zeroHardwareBatch _ | .duplicateLayer _ _ _ => .invalidArgument
  | .hardwareRequestCompleted _ => .failedPrecondition
  | .hardwareRequestClaimed _ => .invalidArgument
  | .hardwareRequestCancelled _ => .cancelled
  | .wrongPhase _ _ _ => .failedPrecondition
  | .unknownLayer _ _ => .notFound
  | .bufferSizeMismatch _ _ _ _ | .negativePriority _ _ => .invalidArgument
  | .doneAlreadySet _ | .preparedWithoutDone _ => .invalidArgument
  | .unequalLayers _ _ _ _ _ | .noBuffers _ => .invalidArgument
  | .allBatchesPrepared _ _ | .requestNotPrepared _ _ => .failedPrecondition
  | .queueAlreadyOpen | .queueNotOpen => .failedPrecondition
  | .noDescriptors _ => .invalidArgument
  | .taskNotInFlight _ | .noSuchDescriptor _ _ | .descriptorNotActive _ _ _ => .failedPrecondition
  | .noActiveRequest | .transfersPending _ => .failedPrecondition
  | .executionWithoutRate _ | .rateWithoutExecution _ _ => .invalidArgument
  | .executionExceedsFrame _ _ _ | .toleranceExceedsSlack _ _ _ => .invalidArgument
  | .incompleteContract _ => .invalidArgument
  | .noContractStored _ | .noArrivalStored _ => .notFound
  | .notRealTime _ | .deadlineMissed _ _ _ _ => .deadlineExceeded
  | .zeroTimeout => .invalidArgument
  | .signalWhileInactive => .failedPrecondition
  | .cascadeWithoutLevels => .invalidArgument
  | .watchCountOverflow => .internal
  | .watchCountUnderflow => .failedPrecondition
  | .timerProgramming | .timerRefused | .noTimer _ => .unknown
  | .misalignedRegister _ | .registerOutOfBounds _ _ => .invalidArgument
  | .registerPollTimedOut _ _ _ _ => .deadlineExceeded
  | .noWatchdogLevels | .zeroWatchdogLevel _ | .zeroPollTimeout => .invalidArgument
  | .zeroInactiveMultiple => .invalidArgument
  | .badNumber _ _ _ | .badFlag _ _ | .badTimerName _ _ => .invalidArgument

def reason : Error → String
  | .reported _ reason => reason
  | .coreInterruptOutOfRange line =>
    s!"scalar core interrupt {line} out of range (0..{Descriptor.coreInterruptLines})"
  | .interruptLineMissing line => s!"no scalar core interrupt line {line}"
  | .zeroHardwareBatch model => s!"{model}: hardware batch size must be at least 1"
  | .duplicateLayer model direction layer =>
    s!"{model}: duplicate {direction.text} layer '{layer}'"
  | .hardwareRequestCompleted id => s!"hardware request {id} already completed"
  | .hardwareRequestClaimed id => s!"hardware request {id} already has a done callback"
  | .hardwareRequestCancelled id => s!"request {id} cancelled"
  | .wrongPhase id call phase => s!"request {id}: {call.text} not allowed in state {phase.text}"
  | .unknownLayer direction layer => s!"{direction.text} layer '{layer}'"
  | .bufferSizeMismatch layer actual padded size =>
    s!"layer '{layer}' expects {actual} or {padded} bytes, got {size}"
  | .negativePriority id priority => s!"request {id}: negative priority {priority}"
  | .doneAlreadySet id => s!"request {id}: done callback already set"
  | .preparedWithoutDone id => s!"request {id}: prepare without a done callback"
  | .unequalLayers id layer count first expected =>
    s!"request {id}: layer '{layer}' has {count} buffers, '{first}' has {expected}"
  | .noBuffers id => s!"request {id}: no buffers supplied"
  | .allBatchesPrepared id count => s!"request {id}: all {count} sub-requests already prepared"
  | .requestNotPrepared id phase => s!"request {id} is {phase.text}, not prepared"
  | .queueAlreadyOpen => "scheduler already open"
  | .queueNotOpen => "scheduler is not open"
  | .noDescriptors id => s!"request {id} has no descriptors"
  | .taskNotInFlight task => s!"task {task} is not in flight"
  | .noSuchDescriptor task index => s!"task {task} has no descriptor {index}"
  | .descriptorNotActive task index progress =>
    s!"descriptor {index} of task {task} is {progress.text}, not active"
  | .noActiveRequest => "request completion with no active request"
  | .transfersPending task => s!"task {task} completed with transfers still pending"
  | .executionWithoutRate executable => s!"{executable.text}: execution time without a frame rate"
  | .rateWithoutExecution executable fps =>
    s!"{executable.text}: {fps} fps without an execution time"
  | .executionExceedsFrame executable execution frame =>
    s!"{executable.text}: execution time {execution.text} exceeds frame time {frame.text}"
  | .toleranceExceedsSlack executable tolerance slack =>
    s!"{executable.text}: tolerance {tolerance.text} exceeds slack {slack.text}"
  | .incompleteContract executable =>
    s!"{executable.text}: new timing needs fps and max execution time"
  | .noContractStored executable => s!"timing for {executable.text}"
  | .noArrivalStored executable => s!"arrival of {executable.text}"
  | .notRealTime executable =>
    s!"{executable.text} has no real-time contract; not admitted in real-time mode"
  | .deadlineMissed id executable finish deadline =>
    s!"request {id} of {executable.text} would finish at {finish.text}, " ++
      s!"next deadline {deadline.text}"
  | .zeroTimeout => "watchdog timeout must be greater than zero"
  | .signalWhileInactive => "cannot signal an inactive watchdog"
  | .cascadeWithoutLevels => "cascade watchdog needs at least one level"
  | .watchCountOverflow => "counting watch overflow"
  | .watchCountUnderflow => "counting watch decremented at zero"
  | .timerProgramming => "timerfd_settime failed: Invalid argument (os error 22)"
  | .timerRefused => "timer refused"
  | .noTimer level => s!"no timer for level {level}"
  | .misalignedRegister offset =>
    s!"register offset {Text.hex offset.toNat} is not 64-bit aligned"
  | .registerOutOfBounds offset size =>
    s!"register offset {Text.hex offset.toNat} out of bounds (size {Text.hex size.toNat})"
  | .registerPollTimedOut offset value expected timeout =>
    s!"register {Text.hex offset.toNat} reads {Text.hex value.toNat}, " ++
      s!"expected {Text.hex expected.toNat} after {timeout.text}"
  | .noWatchdogLevels => "no watchdog levels configured"
  | .zeroWatchdogLevel level => s!"watchdog level {level} has a zero timeout"
  | .zeroPollTimeout => "register poll timeout is zero"
  | .zeroInactiveMultiple => "inactive frame multiple must be at least 1"
  | .badNumber key value cause => s!"{key}={Text.quoted value}: {cause.text}"
  | .badFlag key value => s!"{key}={Text.quoted value}: expected a boolean"
  | .badTimerName key value =>
    s!"{key}={Text.quoted value}: expected condvar or timerfd"

def message (e : Error) : String := e.kind.title ++ ": " ++ e.reason

def record (e : Error) : String :=
  Text.record e.kind.name [⟨e.kind.fieldName, Text.quoted e.reason⟩] true

end Error

/-- How a piece of work ended. -/
inductive Status where
  | ok
  | failed (cause : Error)
  deriving DecidableEq, Repr, Inhabited

/-- A status accumulated over several pieces of work: the first failure stays. -/
def Status.merge : Status → Status → Status
  | .ok, next => next
  | .failed cause, _ => .failed cause

theorem Status.merge_eq_ok_iff {a b : Status} : a.merge b = .ok ↔ a = .ok ∧ b = .ok := by
  cases a <;> simp [Status.merge]

end TensorQueue
