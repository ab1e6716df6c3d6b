import TensorQueue.Driver.Machine
import TensorQueue.Driver.Stack
import TensorQueue.Registers.Memory

/-!
# The simulated machine

A stack over registers in memory, on which the commands run, and how they may
fail. The clock of the system is not seen to move while they run.
-/

set_option autoImplicit false

namespace TensorQueue.Command

abbrev Plant := Machine (RealTime (Scheduler Escalation)) Registers.Memory

namespace Plant

def build (c : Config) (clock : Duration) (tempo : Tempo) : Except Error Plant := do
  return ⟨← Stack.build c clock fun _ => [tempo.now], .new none, tempo⟩

abbrev Running := Engine.Attached Plant

def start (c : Config) (e : Engine.Config) : Act Plant Engine :=
  Engine.start (Stack.engineConfig c e)

def watchdog (m : Plant) : Escalation := m.driver.dispatcher.backing.watchdog

end Plant

/-- Everything that a command may come to: what the driver refuses, an option that names no frame
rate, a submitter that has gone, and an abort of the command itself. -/
inductive Failure where
  | environment (cause : Error)
  | driver (cause : Error)
  | zeroRate
  | submitterGone
  | aborted (cause : Abort)
  deriving DecidableEq, Repr, Inhabited

namespace Failure

def message : Failure → String
  | .environment cause =>
    "Error: reading TPU_* environment\n\nCaused by:\n    " ++ cause.message ++ "\n"
  | .driver cause => "Error: " ++ cause.message ++ "\n"
  | .zeroRate => "Error: --fps must be greater than zero\n"
  | .submitterGone => "Error: submitter thread panicked\n"
  | .aborted cause => cause.message ++ "\n"

def code : Failure → UInt32
  | .aborted _ => 101
  | _ => 1

/-- What becomes of the command if this happens to a submitter. -/
def ofSubmitter : Failure → Failure
  | .aborted _ => .submitterGone
  | failure => failure

end Failure

abbrev Attempt := Except Failure

def ofDriver {α : Type} (outcome : Except Error α) : Attempt α :=
  outcome.mapError .driver

/-- The outcome of an addition or a multiplication of the command itself. -/
def ofWord {α : Type} (outcome : Except Abort α) : Attempt α :=
  outcome.mapError .aborted

def run {σ α : Type} (act : Act σ α) (s : σ) : Attempt (α × σ) :=
  match act s with
  | (.ok a, s) => .ok (a, s)
  | (.error (.refusal cause), _) => .error (.driver cause)
  | (.error (.abort cause), _) => .error (.aborted cause)

end TensorQueue.Command
