import TensorQueue.Error

/-!
# Timing contracts

A contract says how often an executable runs, how long one run may take, and
by how much it may be late. A contract at rate zero with no execution time
says nothing; such an executable is not a real-time one.
-/

set_option autoImplicit false

namespace TensorQueue

structure Contract where
  fps : UInt32
  execution : Duration
  tolerance : Duration
  deriving DecidableEq, Repr, Inhabited

namespace Contract

/-- The contract that says nothing. -/
def none : Contract := ⟨0, .zero, .zero⟩

/-- The time between two runs. -/
def frame? (c : Contract) : Option Duration := Duration.ofRate? c.fps

def isRealTime (c : Contract) : Bool := c.fps ≠ 0 && !c.execution.isZero

/-- Execution must fit into a frame, and lateness into what execution leaves of it. -/
def check (executable : ExecutableId) (c : Contract) : Except Error Unit :=
  match c.frame? with
  | .none => if c.execution.isZero then .ok () else .error (.executionWithoutRate executable)
  | .some frame =>
    if c.execution.isZero then .error (.rateWithoutExecution executable c.fps)
    else if frame.ns < c.execution.ns then
      .error (.executionExceedsFrame executable c.execution frame)
    else
      let slack : Duration := ⟨frame.ns - c.execution.ns⟩
      if slack.ns < c.tolerance.ns then
        .error (.toleranceExceedsSlack executable c.tolerance slack)
      else .ok ()

/-- New terms for a contract. What is not given stays as it is. -/
structure Update where
  fps : Option UInt32
  execution : Option Duration
  tolerance : Option Duration
  deriving DecidableEq, Repr, Inhabited

def Update.ofContract (c : Contract) : Update := ⟨some c.fps, some c.execution, some c.tolerance⟩

def merge (c : Contract) (u : Update) : Contract :=
  ⟨u.fps.getD c.fps, u.execution.getD c.execution, u.tolerance.getD c.tolerance⟩

def record (c : Contract) : String :=
  Text.record "ExecutableTiming"
    [⟨"fps", toString c.fps⟩, ⟨"max_execution_time", c.execution.text⟩,
      ⟨"tolerance", c.tolerance.text⟩] true

end Contract

end TensorQueue
