import TensorQueue.Command.Arguments
import TensorQueue.Command.Plant
import TensorQueue.Text.Fields
import TensorQueue.Watchdog.Silence

/-!
# Simulation

Requests from several submitters are put through a stack by the engine. If the
engine stalls, the watchdog is left to climb, and what is queued is cancelled.
-/

set_option autoImplicit false

namespace TensorQueue.Command

structure Simulation where
  submitters : UInt64
  requests : UInt64
  batch : UInt64
  hardwareBatch : UInt64
  executables : UInt64
  inputBytes : UInt64
  transferMicros : UInt64
  stallAfter : Option UInt64
  /-- The watchdog levels in milliseconds, if they are not the configured ones. -/
  levels : Option (List UInt64)
  deriving DecidableEq, Repr, Inhabited

namespace Simulation

def standard : Simulation := ⟨4, 8, 10, 4, 2, 4096, 0, none, none⟩

/-- Level timeouts between commas. Each further list is put behind those before it. -/
def addLevels (text : List Char) (s : Simulation) : Option Simulation := do
  let levels ← (Text.fields ',' text).mapM readWord
  return { s with levels := some (s.levels.getD [] ++ levels) }

def options : List (CommandOption Simulation) :=
  [wordOption "submitters" "Submitting threads" (some standard.submitters)
      fun n s => { s with submitters := n },
    wordOption "requests" "Requests per submitting thread" (some standard.requests)
      fun n s => { s with requests := n },
    wordOption "batch" "Batch size of each request" (some standard.batch)
      fun n s => { s with batch := n },
    wordOption "hardware-batch" "Native batch size of the executables"
      (some standard.hardwareBatch) fun n s => { s with hardwareBatch := n },
    wordOption "executables" "Distinct executables, used round-robin" (some standard.executables)
      fun n s => { s with executables := n },
    wordOption "input-bytes" "Input activation bytes per batch element" (some standard.inputBytes)
      fun n s => { s with inputBytes := n },
    wordOption "transfer-us" "Simulated time per descriptor, in microseconds"
      (some standard.transferMicros) fun n s => { s with transferMicros := n },
    wordOption "stall-after" "Stall the engine after this many descriptors" standard.stallAfter
      fun n s => { s with stallAfter := some n },
    ⟨"watchdog-ms", "Watchdog level timeouts in ms (comma separated)", none, true, addLevels⟩]

def purpose : String := "Submit requests from several threads and run them on the software engine"

def page : List String := CommandOption.page purpose "tpu simulate [OPTIONS]" options

def read (arguments : List String) : Reading Simulation :=
  readOptions page options [] standard arguments

def config (s : Simulation) (c : Config) : Config :=
  match s.levels with
  | none => c
  | some levels => { c with levels := levels.map fun ms => .ofMillis ms.toNat }

def engineConfig (s : Simulation) : Engine.Config :=
  { Engine.Config.standard with
    transferTime := .ofMicros s.transferMicros.toNat, stallAfter := s.stallAfter }

def model (s : Simulation) (n : Nat) : Except Abort Executable := do
  let input ← Layer.aligned "input" s.inputBytes
  let output ← Layer.aligned "output" (s.inputBytes / 4 + 1)
  return {
    id := ⟨n.toUInt64 + 1⟩
    name := s!"model{n}"
    hardwareBatch := s.hardwareBatch.toNat
    inputs := [input]
    outputs := [output]
    cycles := 10000
    instructionBytes := 4096 }

def models (s : Simulation) : Attempt (List Executable) :=
  (List.range (max s.executables.toNat 1)).mapM fun n => do
    ofDriver (← ofWord (s.model n)).build

/-- How many requests there are. -/
def expected (s : Simulation) : Except Abort UInt64 := Word.multiply s.submitters s.requests

/-- Where the buffers lie does not matter to the simulated hardware. -/
def buffer (size : UInt64) : Buffer := .host 0 size

def addElements (s : Simulation) : Nat → Request → Except Error Request
  | 0, r => .ok r
  | more + 1, r => do
    let r ← r.addBuffer .input "input" (buffer s.inputBytes)
    let r ← r.addBuffer .output "output" (buffer (s.inputBytes / 4 + 1))
    addElements s more r

def request (s : Simulation) (id : UInt64) (executable : Executable) : Except Error Request := do
  let r ← s.addElements s.batch.toNat (.new id executable)
  (← r.setDone).prepare

/-- Makes the request of this number and submits it. All its elements share one input buffer. Its
rejection is reported by its callback. -/
def submitOne (s : Simulation) (models : List Executable) (id : UInt64) : Act Plant Unit := do
  let executable := models[id.toNat % models.length]?.getD default
  Capacity.reserve s.inputBytes.toNat 1
  let r ← Act.settle (s.request id executable)
  let number ← Machine.onDriver (Driver.addRequest r)
  let _ ← Act.attempt (Machine.onDriver (Driver.submitRequest number))

/-- Submits so many requests, numbered on from this one. -/
def submitFrom (s : Simulation) (models : List Executable) (id : UInt64) : Nat → Act Plant Unit
  | 0 => return ()
  | more + 1 => do
    s.submitOne models id
    s.submitFrom models (id + 1) more

/-- The submitters' work, one after the other. What aborts a submitter ends only that one, and the
command misses it. -/
def submitAll (s : Simulation) (models : List Executable) (plant : Plant) :
    Attempt (Unit × Plant) :=
  (run (s.submitFrom models 0 (s.submitters.toNat * s.requests.toNat)) plant).mapError
    Failure.ofSubmitter

/-- How many requests have ended well, and how many have ended otherwise. -/
def tally (log : List Event) : Nat × Nat :=
  log.foldl (fun (ok, failed) event =>
    match event with
    | .requestDone _ _ .ok => (ok + 1, failed)
    | .requestDone _ _ (.failed _) => (ok, failed + 1)
    | _ => (ok, failed)) (0, 0)

/-- The time in which the watchdog has climbed through all its levels. -/
def grace (c : Config) : Attempt Duration :=
  (c.levels.foldlM Desk.sum .zero).mapError .aborted

/-- Cancels what a stalled engine has left. The expiries of the watchdog come with it. -/
def giveUp : Act Plant Nat := do
  let (callbacks, _) := (Plant.watchdog (← Act.read)).silence
  let _ ← Machine.onDriver (Driver.close .asap)
  return callbacks.length

def finish : Act Plant Nat := do
  let _ ← Machine.onDriver (Driver.close .graceful)
  return 0

def totals (expected : UInt64) (log : List Event) (stats : Engine.Stats) (expiries : Nat) :
    List String :=
  let (ok, failed) := tally log
  [s!"Requests          : {expected} ({ok} ok, {failed} failed)",
    s!"Hardware requests : {stats.requests}",
    s!"Descriptors       : {stats.descriptors}",
    s!"Bytes moved       : {stats.bytes}",
    s!"Watchdog expiries : {expiries}"]

def stallNotice (grace : Duration) : String :=
  s!"Engine stalled; waiting {grace.text} for the watchdog cascade ..."

/-- Without a request nothing is ever asked of the engine. -/
def work (expected : UInt64) (running : Plant.Running) : Attempt Plant.Running := do
  if expected = 0 then return running
  else return (← run Engine.runUntilIdle running).2

/-- Ends the work in this way, and adds it up. -/
def conclude (expected : UInt64) (act : Act Plant Nat) (running : Plant.Running) :
    Attempt (List String) := do
  let (expiries, plant) ← run act running.world
  return totals expected plant.driver.log running.engine.stats expiries

def perform (s : Simulation) (standing : Config) (tempo : Tempo) : Attempt (List String) := do
  let c := s.config standing
  let machine ← ofDriver (Plant.build c .zero tempo)
  let (engine, machine) ← run (Plant.start c s.engineConfig) machine
  let models ← s.models
  let expected ← ofWord s.expected
  let ((), machine) ← s.submitAll models machine
  let running ← work expected ⟨engine, machine⟩
  if expected ≠ 0 && running.engine.isStalled then
    let notice := stallNotice (← grace c)
    return notice :: (← conclude expected giveUp running)
  else conclude expected finish running

end Simulation

end TensorQueue.Command
