/-!
# Stamps

Which moments of a request's life have been recorded. Of a moment only its
presence matters here; the two spans are known when both their ends are.
-/

set_option autoImplicit false

namespace TensorQueue.Request

structure Stamps where
  submitted : Bool
  active : Bool
  completed : Bool
  deriving DecidableEq, Repr, Inhabited

namespace Stamps

def none : Stamps := ⟨false, false, false⟩

/-- The time spent behind other work. -/
def hasQueueLatency (s : Stamps) : Bool := s.active && s.submitted

/-- The time from creation to completion. -/
def hasTotal (s : Stamps) : Bool := s.completed

/-- A whole was submitted, or became active, as soon as one of its parts did. -/
def absorb (whole part : Stamps) : Stamps :=
  { whole with submitted := whole.submitted || part.submitted
               active := whole.active || part.active }

end Stamps

end TensorQueue.Request
