import TensorQueue.Act

/-!
# Clocks

A clock that is moved by hand never goes back: it is set to a time only if that
time is later, and a step past the longest duration is aborted. The clock of
the system moves by itself from some moment in the past on, and keeps its
seconds in a signed word. What it shows at any moment is not known beforehand.
-/

set_option autoImplicit false

namespace TensorQueue

/-- The clock of the system on which a wait is measured: what it shows, and how often something is
looked at again before a wait of this length is over. -/
class SystemClock (σ : Type) where
  now : σ → Duration
  looks : Duration → σ → Nat

structure Clock where
  now : Duration
  deriving DecidableEq, Repr, Inhabited

namespace Clock

inductive Move where
  | advance (span : Duration)
  | set (time : Duration)
  deriving DecidableEq, Repr, Inhabited

/-- Moves the clock, and gives the time then. -/
def move : Move → Act Clock Duration
  | .advance span => do
    match (← Act.read).now.add? span with
    | some time =>
      Act.write ⟨time⟩
      return time
    | none => Act.abort .durationOverflow
  | .set time => do
    let time := (← Act.read).now.later time
    Act.write ⟨time⟩
    return time

/-- The least number of seconds that does not fit a signed 64-bit word. -/
def signedSeconds : Nat := UInt64.size / 2

/-- Whether the clock of the system, when it shows this, can tell the moment so far ahead. -/
def reaches (now ahead : Duration) : Bool :=
  (now.ns + ahead.ns) / Duration.nsPerSecond < signedSeconds

theorem now_le_move (m : Move) (c : Clock) : c.now.ns ≤ ((move m c).2).now.ns := by
  cases m with
  | advance span =>
    simp only [move, Act.bind_apply, Act.read_apply]
    cases h : c.now.add? span with
    | none => simp
    | some time =>
      have := (Duration.add?_eq_some_iff.1 h).2
      simp only [Act.bind_apply, Act.write_apply, Act.pure_apply]
      omega
  | set time =>
    simp only [move, Act.bind_apply, Act.read_apply, Act.write_apply, Act.pure_apply,
      Duration.ns_later]
    omega

end Clock

end TensorQueue
