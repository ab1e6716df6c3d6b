import TensorQueue.Command.Frames
import TensorQueue.Command.Simulate
import TensorQueue.Config.Environment

/-!
# Commands

What the program can be asked to do on its command line: show the effective
configuration, run a simulation, or show which frames are admitted.
-/

set_option autoImplicit false

namespace TensorQueue

inductive Command where
  | config
  | simulate (simulation : Command.Simulation)
  | frames (frames : Command.Frames)
  deriving DecidableEq, Repr, Inhabited

namespace Command

def configPurpose : String := "Print the configuration after environment overrides"

def configOptions : List (CommandOption Unit) := []

def configPage : List String := CommandOption.page configPurpose "tpu config" configOptions

def helpPurpose : String := "Print this message or the help of the given subcommand(s)"

def helpPage : List String :=
  Help.page helpPurpose "tpu help [COMMAND]..."
    [Help.listing "Arguments" [⟨"[COMMAND]...", "Print help for the subcommand(s)"⟩]]

def page : List String :=
  Help.page "TPU DMA scheduling stack" "tpu <COMMAND>"
    [Help.listing "Commands"
        [⟨"config", configPurpose⟩, ⟨"simulate", Simulation.purpose⟩,
          ⟨"realtime", Frames.purpose⟩, ⟨"help", helpPurpose⟩],
      Help.listing "Options" [Help.helpFlag, Help.versionFlag]]

def pages : List (String × List String) :=
  [("config", configPage), ("simulate", Simulation.page), ("realtime", Frames.page),
    ("help", helpPage)]

def readHelp : List String → Reading Command
  | [] => .help page
  | [name] =>
    match pages.lookup name with
    | some page => .help page
    | none => .refused
  | _ => .refused

/-- A command has to be given; before it only help and the version may be asked for. -/
def read : List String → Reading Command
  | [] => .refused
  | "config" :: rest => (readOptions configPage configOptions [] () rest).map fun () => .config
  | "simulate" :: rest => (Simulation.read rest).map .simulate
  | "realtime" :: rest => (Frames.read rest).map .frames
  | "help" :: rest => readHelp rest
  | argument :: _ =>
    match shape argument with
    | .long "help" none => .help page
    | .long "version" none => .version
    | .short 'h' => .help page
    | .short 'V' => .version
    | _ => .refused

def version : String := "tpu 0.1.0"

def configLines (c : Config) : List String :=
  [s!"Watchdog levels   : " ++ " → ".intercalate (c.levels.map fun l => s!"{l.millis}ms"),
    s!"Watchdog timer    : {c.timer.text}",
    s!"Real-time mode    : {c.realTime}",
    s!"Inactive multiple : {c.inactiveMultiple}",
    s!"Register poll     : {c.pollTimeout.text}"]

/-- How a run of the program ended, with the lines it has for the outside. -/
inductive Ending where
  /-- The lines, and whether the time that they took is to be shown as well. -/
  | finished (lines : List String) (timed : Bool)
  | failed (failure : Failure)
  | refused
  deriving DecidableEq, Repr, Inhabited

/-- Only a simulation shows how long it took. -/
def isTimed : Command → Bool
  | .simulate _ => true
  | _ => false

def elapsedLine (d : Duration) : String := s!"Elapsed           : {d.roundedText 2}"

def perform (c : Config) (tempo : Tempo) : Command → Attempt (List String)
  | .config => .ok (configLines c)
  | .simulate simulation => simulation.perform c tempo
  | .frames f => f.perform c tempo

/-- The command line is read before the environment. -/
def start (arguments : List String) (environment : String → Option String) (tempo : Tempo) :
    Ending :=
  match read arguments with
  | .help page => .finished page false
  | .refused => .refused
  | .version => .finished [version] false
  | .understood command =>
    match Config.ofEnvironment environment with
    | .error cause => .failed (.environment cause)
    | .ok c =>
      match perform c tempo command with
      | .ok lines => .finished lines command.isTimed
      | .error failure => .failed failure

def Ending.code : Ending → UInt32
  | .finished _ _ => 0
  | .failed failure => failure.code
  | .refused => 2

end Command

end TensorQueue
