/-!
# Executable identity

The number under which the hardware knows a model.
-/

set_option autoImplicit false

namespace TensorQueue

structure ExecutableId where
  number : UInt64
  deriving DecidableEq, Repr, Inhabited

namespace ExecutableId

def text (id : ExecutableId) : String := s!"exe#{id.number}"

def record (id : ExecutableId) : String := s!"ExecutableId({id.number})"

end ExecutableId

/-- Which end of a model a layer is on. -/
inductive Direction where
  | input
  | output
  deriving DecidableEq, Repr, Inhabited

def Direction.text : Direction → String
  | .input => "input"
  | .output => "output"

end TensorQueue
