import TensorQueue.Command.Arguments
import TensorQueue.Command.Plant

/-!
# Frames

A camera runs once in each frame, and a detector a few times. The table shows
which of these submissions the desk admits, frame by frame.
-/

set_option autoImplicit false

namespace TensorQueue.Command

structure Frames where
  fps : UInt32
  executionMillis : UInt64
  toleranceMillis : UInt64
  detectorMillis : UInt64
  detectorPerFrame : UInt32
  frames : UInt32
  /-- For how many frames at the end the camera stays away. -/
  pause : UInt32
  deriving DecidableEq, Repr, Inhabited

namespace Frames

def standard : Frames := ⟨30, 10, 5, 15, 2, 10, 0⟩

def options : List (CommandOption Frames) :=
  [halfWordOption "fps" "Frame rate of the camera model" (some standard.fps)
      fun n s => { s with fps := n },
    wordOption "met-ms" "Worst-case execution time of the camera model, ms"
      (some standard.executionMillis) fun n s => { s with executionMillis := n },
    wordOption "tolerance-ms" "Arrival tolerance of the camera model, ms"
      (some standard.toleranceMillis) fun n s => { s with toleranceMillis := n },
    wordOption "detector-met-ms" "Worst-case execution time of the detector model, ms"
      (some standard.detectorMillis) fun n s => { s with detectorMillis := n },
    halfWordOption "detector-per-frame" "Detector submissions attempted per camera frame"
      (some standard.detectorPerFrame) fun n s => { s with detectorPerFrame := n },
    halfWordOption "frames" "Camera frames to simulate" (some standard.frames)
      fun n s => { s with frames := n },
    halfWordOption "pause-frames" "Camera frames to skip before the last few, to show it going idle"
      (some standard.pause) fun n s => { s with pause := n }]

def purpose : String := "Show which frames a periodic model mix gets admitted"

def page : List String := CommandOption.page purpose "tpu realtime [OPTIONS]" options

def read (arguments : List String) : Reading Frames :=
  readOptions page options [] standard arguments

/-- A model without layers; only the desk tells two of them apart. -/
def model (number : UInt64) (name : String) : Executable :=
  ⟨⟨number⟩, name, Executable.defaultHardwareBatch, [], [], 0, 0⟩

def camera : Executable := model 1 "camera"
def detector : Executable := model 2 "detector"

def cameraContract (f : Frames) : Contract :=
  ⟨f.fps, .ofMillis f.executionMillis.toNat, .ofMillis f.toleranceMillis.toNat⟩

def detectorContract (f : Frames) : Contract := ⟨f.fps, .ofMillis f.detectorMillis.toNat, .zero⟩

def onDispatcher (f : RealTime (Scheduler Escalation) → RealTime (Scheduler Escalation)) :
    Act Plant Unit :=
  Machine.onDriver (Act.modify fun d => { d with dispatcher := f d.dispatcher })

def setContract (executable : Executable) (c : Contract) : Act Plant Unit := do
  let desk := (← Act.read).driver.dispatcher.desk
  let desk ← Act.settle (desk.setContract executable.id (.ofContract c))
  onDispatcher fun s => { s with desk := desk }

/-- Whether the submission is admitted. Requests are numbered from one. -/
def submit (executable : Executable) : Act Plant Bool := do
  let id := (← Act.read).driver.hardware.size + 1
  let key ← Machine.onDriver (Driver.addHardware (.new id.toUInt64 executable))
  return (← Act.attempt (Machine.onDriver (Driver.submitHardware key))).isOk

def mark (admitted : Bool) : String := if admitted then "admit" else "reject"

def submitDetector : Nat → Act Plant (List String)
  | 0 => return []
  | more + 1 => do
    let first := mark (← submit detector)
    return first :: (← submitDetector more)

def row (number : Nat) (time : Duration) (camera : String) (detector : List String) : String :=
  Text.rightAligned 5 (toString number) ++ "  " ++
    Text.rightAligned 8 (time.roundedText 1) ++ "  " ++ Text.leftAligned 8 camera ++ "  " ++
    ",".intercalate detector

/-- The camera's submission in a frame, unless it stays away by then. -/
def cameraMark (f : Frames) (number : Nat) : Act Plant String := do
  if number < f.frames.toNat - f.pause.toNat then return mark (← submit camera)
  else return "idle"

def frame (f : Frames) (period : Duration) (number : Nat) : Act Plant String := do
  onDispatcher fun s => { s with clock := s.clock.later ⟨period.ns * number⟩ }
  let cameraMark ← f.cameraMark number
  let detectorMarks ← submitDetector f.detectorPerFrame.toNat
  return row number (← Act.read).driver.dispatcher.clock cameraMark detectorMarks

/-- The rows of these frames. After each, the engine works off what was admitted. -/
def rows (f : Frames) (period : Duration) : List Nat → Act Plant.Running (List String)
  | [] => return []
  | number :: rest => do
    let first ← Engine.onWorld (f.frame period number)
    let _ ← Engine.runUntilIdle
    return first :: (← rows f period rest)

def heading : String := "frame  time      camera    detector"

def perform (f : Frames) (standing : Config) (tempo : Tempo) : Attempt (List String) := do
  match f.cameraContract.frame? with
  | none => .error .zeroRate
  | some period =>
    let c := { standing with realTime := true }
    let machine ← ofDriver (Plant.build c .zero tempo)
    let (engine, machine) ← run (Plant.start c .standard) machine
    let ((), machine) ← run (setContract camera f.cameraContract) machine
    let ((), machine) ← run (setContract detector f.detectorContract) machine
    let (lines, _) ← run (f.rows period (List.range f.frames.toNat)) ⟨engine, machine⟩
    return heading :: lines

end Frames

end TensorQueue.Command
