import TensorQueue.Command.Basic

/-!
# The program

Reads the command line and the environment, and prints what they come to.
-/

set_option autoImplicit false

namespace TensorQueue

/-- Every variable that the configuration looks at, with its value if it has one. -/
def readEnvironment : IO (List (String × Option String)) :=
  [Config.Variable.levels, Config.Variable.timer, Config.Variable.realTime,
    Config.Variable.pollTimeout].mapM fun key => do return (key, ← IO.getEnv key)

/-- Prints how a run that began at this time has ended. -/
def printEnding (begun : Nat) : Command.Ending → IO Unit
  | .finished lines timed => do
    lines.forM IO.println
    if timed then IO.println (Command.elapsedLine ⟨(← IO.monoNanosNow) - begun⟩)
  | .failed failure => IO.eprint failure.message
  | .refused => Command.page.forM IO.eprintln

end TensorQueue

def main (arguments : List String) : IO UInt32 := do
  let begun ← IO.monoNanosNow
  let environment ← TensorQueue.readEnvironment
  let ending := TensorQueue.Command.start arguments (fun key => (environment.lookup key).join)
    ⟨⟨begun⟩, .zero, .zero⟩
  TensorQueue.printEnding begun ending
  return ending.code
