import TensorQueue.Capacity
import TensorQueue.Request.Hardware

/-!
# Requests

A request is one call of an application, with a whole batch of buffers. Once
prepared it is cut into hardware batches, and it is done when all of those
are. The done callback is fired once, with the first error of the parts.
-/

set_option autoImplicit false

namespace TensorQueue

structure Request where
  id : UInt64
  executable : Executable
  phase : Request.Phase
  inputs : LayerBuffers
  outputs : LayerBuffers
  priority : Int
  hasDone : Bool
  batch : Nat
  required : Nat
  prepared : Nat
  outstanding : Nat
  status : Status
  stamps : Request.Stamps
  deriving DecidableEq, Repr, Inhabited

namespace Request

def new (id : UInt64) (executable : Executable) : Request where
  id := id
  executable := executable
  phase := .initial
  inputs := []
  outputs := []
  priority := 0
  hasDone := false
  batch := 0
  required := 0
  prepared := 0
  outstanding := 0
  status := .ok
  stamps := .none

/-- A call that belongs to one phase is refused in the others. -/
def expect (r : Request) (phase : Phase) (call : Call) : Except Error Unit :=
  if r.phase = phase then .ok () else .error (.wrongPhase r.id call r.phase)

def buffers (r : Request) : Direction → LayerBuffers
  | .input => r.inputs
  | .output => r.outputs

def push (r : Request) (direction : Direction) (layer : String) (buffer : Buffer) : Request :=
  match direction with
  | .input => { r with inputs := r.inputs.push layer buffer }
  | .output => { r with outputs := r.outputs.push layer buffer }

/-- One more batch element of a layer. The layer is looked for first, then the phase is checked,
then the size. -/
def addBuffer (r : Request) (direction : Direction) (name : String) (buffer : Buffer) :
    Except Error Request :=
  match r.executable.layer? direction name with
  | none => .error (.unknownLayer direction name)
  | some layer => do
    r.expect .initial (.addBuffer direction)
    if layer.accepts buffer.size then .ok (r.push direction name buffer)
    else .error (.bufferSizeMismatch layer.name layer.actual layer.padded buffer.size)

/-- Zero is the highest priority, and the sign is looked at before the phase. -/
def setPriority (r : Request) (priority : Int) : Except Error Request :=
  if priority < 0 then .error (.negativePriority r.id priority)
  else do
    r.expect .initial .setPriority
    .ok { r with priority := priority }

def setDone (r : Request) : Except Error Request := do
  r.expect .initial .setDone
  if r.hasDone then .error (.doneAlreadySet r.id) else .ok { r with hasDone := true }

/-- How many buffers each declared layer has, inputs before outputs. -/
def counts (r : Request) : List (String × Nat) :=
  r.executable.inputs.map (fun l => (l.name, (r.inputs.of l.name).length)) ++
    r.executable.outputs.map fun l => (l.name, (r.outputs.of l.name).length)

/-- The batch size on which all layers agree. The first layer sets it; the first that differs is
named in the refusal. -/
def commonBatch (r : Request) : Except Error Nat :=
  match r.counts with
  | [] => .error (.noBuffers r.id)
  | (first, n) :: rest =>
    match rest.find? (·.2 ≠ n) with
    | some (layer, count) => .error (.unequalLayers r.id layer count first n)
    | none => if n = 0 then .error (.noBuffers r.id) else .ok n

/-- The batch size, and how many hardware batches it takes. A model without layers runs once. -/
def cut (r : Request) : Except Error (Nat × Nat) :=
  if r.executable.inputs.isEmpty && r.executable.outputs.isEmpty then .ok (1, 1)
  else do
    let batch ← r.commonBatch
    let hardware := r.executable.hardwareBatch
    .ok (batch, (batch + hardware - 1) / hardware)

def prepare (r : Request) : Except Error Request := do
  r.expect .initial .prepare
  if r.hasDone then
    let (batch, required) ← r.cut
    .ok { r with batch := batch, required := required, outstanding := required,
                 phase := .prepared }
  else .error (.preparedWithoutDone r.id)

def remaining (r : Request) : Nat := r.required - r.prepared

/-- One hardware batch of a layer, filled up with padding. -/
def slice (buffers : List Buffer) (layer : Layer) (start hardware : Nat) : List Buffer :=
  let taken := (buffers.drop start).take hardware
  taken ++ List.replicate (hardware - taken.length) (.padding layer.padded)

def fillLayers (r : Request) (direction : Direction) (part : HardwareRequest) : HardwareRequest :=
  let hardware := r.executable.hardwareBatch
  (r.executable.layers direction).foldl
    (fun part layer => part.setBuffers direction layer.name
      (slice ((r.buffers direction).of layer.name) layer (r.prepared * hardware) hardware))
    part

/-- Room for one hardware batch of each layer. All are equally long, so the first layer decides. -/
def reserveBatch {σ : Type} (r : Request) : Act σ Unit :=
  if r.executable.inputs.isEmpty && r.executable.outputs.isEmpty then return ()
  else Capacity.reserve r.executable.hardwareBatch Buffer.width

/-- Fills the next hardware batch of a request into a part. The part then reports to the request,
of which this is the number, also if there is no room for the batch. -/
def prepareBatch (number : Nat) : Act (Request × HardwareRequest) Unit := do
  let (r, part) ← Act.read
  Act.settle (r.expect .prepared .prepareBatch)
  if r.prepared = r.required then Act.refuse (.allBatchesPrepared r.id r.required)
  else
    let claimed ← Act.settle (part.setCallback (.part number))
    Act.write (r, claimed)
    r.reserveBatch
    Act.write
      ({ r with prepared := r.prepared + 1 }, r.fillLayers .output (r.fillLayers .input claimed))

/-- Ends a prepared request of which no part is outstanding. The status to report comes with it
if there is a callback to fire. -/
def takeDone (r : Request) : Option Status × Request :=
  if r.outstanding = 0 ∧ r.phase = .prepared then
    let ended := { r with phase := .done, hasDone := false,
                          stamps := { r.stamps with completed := true } }
    (if r.hasDone then some r.status else none, ended)
  else (none, r)

/-- Every part not yet prepared counts as finished with this error. Without such a part nothing
changes. -/
def failUnprepared (r : Request) (cause : Error) : Option Status × Request :=
  if r.phase = .prepared ∧ r.remaining ≠ 0 then
    takeDone { r with prepared := r.required, outstanding := r.outstanding - r.remaining,
                      status := r.status.merge (.failed cause) }
  else (none, r)

def partDone (r : Request) (stamps : Stamps) (status : Status) : Option Status × Request :=
  takeDone { r with status := r.status.merge status, stamps := r.stamps.absorb stamps,
                    outstanding := r.outstanding - 1 }

def record (r : Request) : String :=
  Text.record "Request"
    [⟨"id", toString r.id⟩, ⟨"executable", r.executable.id.record⟩,
      ⟨"state", r.phase.text⟩, ⟨"batch", toString r.batch⟩] false

end Request

end TensorQueue
