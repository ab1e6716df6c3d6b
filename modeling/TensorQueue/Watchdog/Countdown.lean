import TensorQueue.Clock

/-!
# Countdowns

A countdown is armed with a duration and disarmed with zero. Each source of
countdowns has its own bound on what it can be armed with. One of them computes
the moment of expiry on the clock of the system, so its bound depends on what
that shows. A manual one fires when told to, and refuses the settings that it is
told to refuse.
-/

set_option autoImplicit false

namespace TensorQueue

namespace Countdown

/-- The countdowns that a driver can be configured to run on. -/
inductive Backend where
  | condvar
  | timerfd
  deriving DecidableEq, Repr, Inhabited

def Backend.text : Backend → String
  | .condvar => "condvar"
  | .timerfd => "timerfd"

def Backend.record : Backend → String
  | .condvar => "Condvar"
  | .timerfd => "TimerFd"

/-- Which of the coming settings are refused: runs of settings, each with its length and whether it
is refused. Past the end none is. -/
abbrev Refusals := List (Nat × Bool)

namespace Refusals

def first : Refusals → Bool
  | [] => false
  | (0, _) :: rest => first rest
  | (_ + 1, refused) :: _ => refused

/-- What is left of the runs after one setting. -/
def afterFirst : Refusals → Refusals
  | [] => []
  | (0, _) :: rest => afterFirst rest
  | (length + 1, refused) :: rest => (length, refused) :: rest

end Refusals

/-- Where the time comes from. With the system come the moments that its clock shows at the coming
settings, the last of them at all later ones too. -/
inductive Source where
  | system (backend : Backend) (moments : List Duration)
  | manual (refusals : Refusals)
  deriving DecidableEq, Repr, Inhabited

/-- One setting, as a manual countdown was asked for it. -/
structure Setting where
  duration : Duration
  refused : Bool
  deriving DecidableEq, Repr, Inhabited

end Countdown

structure Countdown where
  source : Countdown.Source
  armed : Bool
  /-- The settings asked for so far, the latest first. -/
  settings : List Countdown.Setting
  deriving DecidableEq, Repr, Inhabited

namespace Countdown

def new (source : Source) : Countdown := ⟨source, false, []⟩

/-- What a source says to a setting, before it is made. -/
def check (source : Source) (duration : Duration) : Except Fault Unit :=
  match source with
  | .system .condvar moments =>
    if duration.isZero || Clock.reaches (moments.headD .zero) duration then .ok ()
    else .error (.abort .instantOverflow)
  | .system .timerfd _ =>
    if duration.seconds < Clock.signedSeconds then .ok () else .error (.refusal .timerProgramming)
  | .manual refusals => if refusals.first then .error (.refusal .timerRefused) else .ok ()

def Source.next : Source → Source
  | .manual refusals => .manual refusals.afterFirst
  | .system backend (_ :: later :: rest) => .system backend (later :: rest)
  | .system backend moments => .system backend moments

/-- Arms the countdown, or disarms it with zero. A setting that fails leaves it as it was. -/
def set (duration : Duration) : Act Countdown Unit := fun c =>
  let verdict := check c.source duration
  let asked := { c with source := c.source.next,
                        settings := ⟨duration, verdict.isOk = false⟩ :: c.settings }
  match verdict with
  | .ok () => (.ok (), { asked with armed := !duration.isZero })
  | .error fault => (.error fault, asked)

/-- Waiting takes the expiry of an armed countdown, and would never end on another. -/
def wait (c : Countdown) : Option (Nat × Countdown) :=
  if c.armed then some (1, { c with armed := false }) else none

/-- So many coming settings are refused, whatever was to be refused before. -/
def refuseNext (count : Nat) (c : Countdown) : Countdown :=
  match c.source with
  | .manual _ => { c with source := .manual [(count, true)] }
  | .system _ _ => c

end Countdown

end TensorQueue
