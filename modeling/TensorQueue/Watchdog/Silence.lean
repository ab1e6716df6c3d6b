import TensorQueue.Watchdog.Escalation

/-!
# Silence

What a watchdog does when it is armed and nothing more is heard: every
countdown runs out in turn, and every callback runs to its end.
-/

set_option autoImplicit false

namespace TensorQueue

namespace Watchdog

/-- One round of silence: the cycle that was armed, and the callbacks that ran, each with its
level and cycle. -/
structure Round where
  cycle : UInt64
  callbacks : List (Nat × UInt64)
  deriving DecidableEq, Repr, Inhabited

/-- The same round a number of times. -/
def rounds {W : Type} (round : Act W Round) : Nat → Act W (List Round)
  | 0 => return []
  | more + 1 => do
    let first ← round
    return first :: (← rounds round more)

end Watchdog

/-- The alarm expires once, and its callback runs. -/
def Alarm.silentRound : Act Alarm Watchdog.Round := do
  let cycle ← Alarm.activate
  let a ← Act.read
  match (a.expire 1).beginJob with
  | none => return ⟨cycle, []⟩
  | some (job, a) =>
    Act.write a.finishJob
    return ⟨cycle, [(0, job)]⟩

namespace Escalation

/-- The armed levels expire one after another, at most this many. -/
def climbFor : Nat → Escalation → List (Nat × UInt64) × Escalation
  | 0, e => ([], e)
  | more + 1, e =>
    match e.activeLevel with
    | none => ([], e)
    | some level =>
      match (((e.expire level 1).deliver level).endBark level).beginCallback with
      | none => ([], e)
      | some (job, e) =>
        let (jobs, e) := climbFor more e.finishCallback
        (job :: jobs, e)

/-- The callbacks that run while the silence climbs to the top. -/
def silence (e : Escalation) : List (Nat × UInt64) × Escalation := climbFor e.levels e

def silentRound : Act Escalation Watchdog.Round := do
  let cycle ← restart
  let (callbacks, e) := (← Act.read).silence
  Act.write e
  return ⟨cycle, callbacks⟩

end Escalation

end TensorQueue
