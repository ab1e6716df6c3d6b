import TensorQueue.Capacity
import TensorQueue.Executable.Basic
import TensorQueue.Executable.Buffer
import TensorQueue.Request.Stamps

/-!
# Hardware requests

A hardware request is one hardware batch of an executable, as the queue takes
it: a list of descriptors, and what to do when it has completed. The list is
derived from the buffers unless it was given. A request completes once; later
completions have no effect.
-/

set_option autoImplicit false

namespace TensorQueue

namespace HardwareRequest

/-- Where the descriptors come from. A request may also fail to produce any. -/
inductive Source where
  | derived
  | explicit (descriptors : List Descriptor)
  | failing (cause : Error)
  deriving DecidableEq, Repr, Inhabited

/-- A hardware request that is to be made and submitted later. -/
structure Plan where
  id : UInt64
  source : Source
  deriving DecidableEq, Repr, Inhabited

/-- What follows a completion: a report, with the first of the plans submitted from inside it,
or the news to the request that this one is a part of. -/
inductive Callback where
  | report (plans : List Plan)
  | part (request : Nat)
  deriving DecidableEq, Repr, Inhabited

end HardwareRequest

structure HardwareRequest where
  id : UInt64
  executable : Executable
  inputs : LayerBuffers
  outputs : LayerBuffers
  source : HardwareRequest.Source
  callback : Option HardwareRequest.Callback
  stamps : Request.Stamps
  completed : Bool
  deriving DecidableEq, Repr, Inhabited

namespace HardwareRequest

def new (id : UInt64) (executable : Executable) : HardwareRequest :=
  ⟨id, executable, [], [], .derived, none, .none, false⟩

/-- A planned request, for the executable of the one before it. -/
def ofPlan (plan : Plan) (rest : List Plan) (executable : Executable) : HardwareRequest :=
  { new plan.id executable with source := plan.source, callback := some (.report rest) }

def setBuffers (r : HardwareRequest) (direction : Direction) (layer : String)
    (buffers : List Buffer) : HardwareRequest :=
  match direction with
  | .input => { r with inputs := r.inputs.replace layer buffers }
  | .output => { r with outputs := r.outputs.replace layer buffers }

def buffers (r : HardwareRequest) (direction : Direction) (layer : String) : List Buffer :=
  match direction with
  | .input => r.inputs.of layer
  | .output => r.outputs.of layer

/-- One transfer for each buffer, layer by layer. -/
def transfers (kind : Descriptor.Kind) (layers : LayerBuffers) : List Descriptor :=
  layers.all.map fun b => ⟨kind, b.address, b.size⟩

/-- The instructions, the inputs, a local fence, the outputs and a global fence. -/
def derived (r : HardwareRequest) : List Descriptor :=
  [⟨.instruction, 0, r.executable.instructionBytes⟩] ++ transfers .inputActivation r.inputs ++
    [Descriptor.marker .localFence] ++ transfers .outputActivation r.outputs ++
    [Descriptor.marker .globalFence]

def descriptors (r : HardwareRequest) : Except Fault (List Descriptor) :=
  match r.source with
  | .derived =>
    if Capacity.fits r.derived.length Descriptor.width then .ok r.derived
    else .error (.abort .capacityOverflow)
  | .explicit ds => .ok ds
  | .failing cause => .error (.refusal cause)

/-- A completed request takes no callback, and no request takes a second one. -/
def setCallback (r : HardwareRequest) (callback : Callback) : Except Error HardwareRequest :=
  if r.completed then .error (.hardwareRequestCompleted r.id)
  else if r.callback.isSome then .error (.hardwareRequestClaimed r.id)
  else .ok { r with callback := some callback }

def markSubmitted (r : HardwareRequest) : HardwareRequest :=
  { r with stamps := { r.stamps with submitted := true } }

def markActive (r : HardwareRequest) : HardwareRequest :=
  { r with stamps := { r.stamps with active := true } }

/-- The completed request; its callback is taken out of it. -/
def complete (r : HardwareRequest) : HardwareRequest :=
  { r with completed := true, callback := none, stamps := { r.stamps with completed := true } }

def record (r : HardwareRequest) : String :=
  Text.record "HardwareRequest"
    [⟨"id", toString r.id⟩, ⟨"executable", r.executable.id.record⟩,
      ⟨"completed", toString r.completed⟩] false

end HardwareRequest

end TensorQueue
