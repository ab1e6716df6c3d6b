import TensorQueue.Executable.Id

/-!
# Request phases

A request takes buffers first, then is cut into hardware batches, then is
done. It never goes back.
-/

set_option autoImplicit false

namespace TensorQueue.Request

inductive Phase where
  | initial
  | prepared
  | done
  deriving DecidableEq, Repr, Inhabited

def Phase.text : Phase → String
  | .initial => "Initial"
  | .prepared => "Prepared"
  | .done => "Done"

/-- The calls that only one phase allows. -/
inductive Call where
  | addBuffer (direction : Direction)
  | setPriority
  | setDone
  | prepare
  | prepareBatch
  deriving DecidableEq, Repr, Inhabited

def Call.text : Call → String
  | .addBuffer .input => "add_input"
  | .addBuffer .output => "add_output"
  | .setPriority => "set_priority"
  | .setDone => "set_done"
  | .prepare => "prepare"
  | .prepareBatch => "prepare_tpu_request"

end TensorQueue.Request
