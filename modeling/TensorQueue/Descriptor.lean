import TensorQueue.Text.Record

/-!
# Descriptors

One descriptor is one entry of the hardware queue. Transfers and interrupts go
to the hardware; the two fences stay with the host. A local fence stands for
the completion of everything before it in its task, a global fence for the
completion of the task as a whole. An entry is a descriptor with its progress.
-/

set_option autoImplicit false

namespace TensorQueue

namespace Descriptor

inductive Kind where
  | instruction
  | inputActivation
  | parameter
  | outputActivation
  | localFence
  | globalFence
  | coreInterrupt (line : UInt8)
  deriving DecidableEq, Repr, Inhabited

def coreInterruptLines : UInt8 := 4

namespace Kind

/-- Fences never reach the hardware. -/
def isFence : Kind → Bool
  | .localFence | .globalFence => true
  | _ => false

/-- The tag that goes with a descriptor into the queue. -/
def tag : Kind → UInt64
  | .instruction => 0x01
  | .inputActivation => 0x02
  | .parameter => 0x03
  | .outputActivation => 0x04
  | .localFence => 0x10
  | .globalFence => 0x11
  | .coreInterrupt line => 0x20 + line.toUInt64

/-- Whether the hardware has the interrupt line that is asked for. -/
def isValid : Kind → Bool
  | .coreInterrupt line => line < coreInterruptLines
  | _ => true

def text : Kind → String
  | .instruction => "instruction"
  | .inputActivation => "input-activation"
  | .parameter => "parameter"
  | .outputActivation => "output-activation"
  | .localFence => "local-fence"
  | .globalFence => "global-fence"
  | .coreInterrupt line => s!"scalar-core-interrupt{line}"

def record : Kind → String
  | .instruction => "Instruction"
  | .inputActivation => "InputActivation"
  | .parameter => "Parameter"
  | .outputActivation => "OutputActivation"
  | .localFence => "LocalFence"
  | .globalFence => "GlobalFence"
  | .coreInterrupt line => s!"ScalarCoreInterrupt({line})"

end Kind

end Descriptor

structure Descriptor where
  kind : Descriptor.Kind
  address : UInt64
  size : UInt64
  deriving DecidableEq, Repr, Inhabited

namespace Descriptor

/-- The bytes that a descriptor takes in a list. -/
def width : Nat := 24

/-- A descriptor that moves nothing: a fence or an interrupt. -/
def marker (kind : Kind) : Descriptor := ⟨kind, 0, 0⟩

def record (d : Descriptor) : String :=
  Text.record "DmaDescriptor"
    [⟨"kind", d.kind.record⟩, ⟨"address", toString d.address⟩, ⟨"size_bytes", toString d.size⟩] true

end Descriptor

inductive Progress where
  | pending
  | active
  | completed
  deriving DecidableEq, Repr, Inhabited

def Progress.text : Progress → String
  | .pending => "Pending"
  | .active => "Active"
  | .completed => "Completed"

structure Entry where
  descriptor : Descriptor
  progress : Progress
  deriving DecidableEq, Repr, Inhabited

namespace Entry

def new (d : Descriptor) : Entry := ⟨d, .pending⟩

/-- The bytes that an entry takes in the list of a task. -/
def width : Nat := 32

def kind (e : Entry) : Descriptor.Kind := e.descriptor.kind

def isActive (e : Entry) : Bool := e.progress = .active

def isCompleted (e : Entry) : Bool := e.progress = .completed

def isPending (e : Entry) : Bool := e.progress = .pending

def activate (e : Entry) : Entry := { e with progress := .active }

def complete (e : Entry) : Entry := { e with progress := .completed }

def record (e : Entry) : String :=
  Text.record "DmaInfo"
    [⟨"descriptor", e.descriptor.record⟩, ⟨"state", e.progress.text⟩] true

end Entry

/-- What is handed to the hardware side for one descriptor: where it stands, and a copy of it. -/
structure Handle where
  task : UInt64
  index : Nat
  descriptor : Descriptor
  deriving DecidableEq, Repr, Inhabited

end TensorQueue
