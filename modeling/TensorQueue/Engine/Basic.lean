import TensorQueue.Registers.Access
import TensorQueue.Word

/-!
# The engine

The engine plays the hardware: it takes descriptors from a feed, runs each
through the registers of the queue and reports it as completed. When the feed
shows a global fence, the engine raises the interrupt of a finished task and
reports the request. It can be told to stall after some descriptors.
-/

set_option autoImplicit false

namespace TensorQueue

/-- Where the engine gets its work, and to whom it reports. -/
class Feed (σ : Type) where
  next : Act σ (Option Handle)
  peek : Act σ (Option Descriptor.Kind)
  complete : Handle → Act σ Unit
  finishRequest : Act σ Unit
  /-- A bound on how often the engine can still make progress. -/
  effort : σ → Nat

namespace Engine

structure Config where
  transferTime : Duration
  stallAfter : Option UInt64
  pollTimeout : Duration
  watchdogCycles : UInt64
  deriving DecidableEq, Repr, Inhabited

def Config.standard : Config := ⟨.zero, none, .ofMillis 100, 1000000⟩

def Config.record (c : Config) : String :=
  Text.record "EngineConfig"
    [⟨"transfer_time", c.transferTime.text⟩,
      ⟨"stall_after", Text.optional (c.stallAfter.map toString)⟩,
      ⟨"poll_timeout", c.pollTimeout.text⟩,
      ⟨"hw_watchdog_cycles", toString c.watchdogCycles⟩] true

/-- What the engine has done since it was made. -/
structure Stats where
  descriptors : UInt64
  bytes : UInt64
  requests : UInt64
  deriving DecidableEq, Repr, Inhabited

/-- One descriptor more. -/
def Stats.countDescriptor (s : Stats) : Except Abort Stats :=
  return { s with descriptors := ← Word.add s.descriptors 1 }

def Stats.addBytes (size : UInt64) (s : Stats) : Except Abort Stats :=
  return { s with bytes := ← Word.add s.bytes size }

/-- One request more. -/
def Stats.countRequest (s : Stats) : Except Abort Stats :=
  return { s with requests := ← Word.add s.requests 1 }

def Stats.record (s : Stats) : String :=
  Text.record "EngineStats"
    [⟨"descriptors", toString s.descriptors⟩, ⟨"bytes", toString s.bytes⟩,
      ⟨"requests", toString s.requests⟩] true

inductive Outcome where
  | dispatched (handle : Handle)
  | requestCompleted
  | idle
  | stalled
  deriving DecidableEq, Repr, Inhabited

end Engine

structure Engine where
  config : Engine.Config
  stats : Engine.Stats
  /-- How many descriptors have been issued, retired or not. -/
  issued : UInt64
  deriving DecidableEq, Repr, Inhabited

namespace Engine

open Registers

/-- An engine with the world it works on: the registers and the feed. -/
structure Attached (σ : Type) where
  engine : Engine
  world : σ

variable {σ : Type}

def onWorld {α : Type} (act : Act σ α) : Act (Attached σ) α :=
  Act.within Attached.world (fun s w => { s with world := w }) act

def update (f : Engine → Engine) : Act (Attached σ) Unit :=
  Act.modify fun s => { s with engine := f s.engine }

/-- A change of the statistics. One that does not fit is not made. -/
def count (f : Stats → Except Abort Stats) : Act (Attached σ) Unit := fun s =>
  match f s.engine.stats with
  | .ok stats => (.ok (), { s with engine := { s.engine with stats := stats } })
  | .error cause => (.error (.abort cause), s)

section Device

variable [RegisterFile σ]

def start (config : Config) : Act σ Engine := do
  RegisterFile.write Offset.queueControl Control.reset
  RegisterFile.write Offset.doorbell 0
  RegisterFile.write Offset.completedCount 0
  RegisterFile.write Offset.interruptClear 0xffffffffffffffff
  RegisterFile.write Offset.interruptStatus 0
  RegisterFile.write Offset.watchdogTimeout config.watchdogCycles
  RegisterFile.write Offset.queueControl Control.enable
  RegisterFile.write Offset.queueStatus Status.idle
  return ⟨config, ⟨0, 0, 0⟩, 0⟩

/-- Latches an interrupt bit and acknowledges it. -/
def raise (bit : UInt64) : Act σ Unit := do
  let status := (← RegisterFile.read Offset.interruptStatus) ||| bit
  RegisterFile.write Offset.interruptStatus status
  RegisterFile.write Offset.interruptClear bit
  RegisterFile.write Offset.interruptStatus (status &&& ~~~bit)

/-- Raises the interrupt that a descriptor stands for, if it stands for one. -/
def raiseLine : Descriptor.Kind → Act σ Unit
  | .coreInterrupt line =>
    match Interrupt.core? line with
    | some bit => raise bit
    | none => Act.refuse (.interruptLineMissing line)
  | _ => return ()

/-- The hardware's part in a descriptor: it is carried out and retired. -/
def execute (kind : Descriptor.Kind) : Act σ Unit := do
  raiseLine kind
  let retired ← RegisterFile.read Offset.completedCount
  RegisterFile.write Offset.completedCount (retired + 1)

/-- Puts one descriptor through the registers. The count of issued descriptors moves before the
doorbell is rung, the statistics when all is done. -/
def issue [SystemClock σ] (d : Descriptor) : Act (Attached σ) Unit := do
  onWorld (RegisterFile.write Offset.descriptorAddress d.address)
  onWorld (RegisterFile.write Offset.descriptorSize d.size)
  onWorld (RegisterFile.write Offset.descriptorTag d.kind.tag)
  update fun e => { e with issued := e.issued + 1 }
  let s ← Act.read
  onWorld (RegisterFile.write Offset.doorbell s.engine.issued)
  onWorld (RegisterFile.write Offset.queueStatus Status.running)
  onWorld (execute d.kind)
  onWorld (poll Offset.completedCount s.engine.issued s.engine.config.pollTimeout)
  onWorld (RegisterFile.write Offset.watchdogKick 1)
  onWorld (RegisterFile.write Offset.queueStatus Status.idle)
  count Stats.countDescriptor
  count (Stats.addBytes d.size)

def isStalled (e : Engine) : Bool :=
  match e.config.stallAfter with
  | none => false
  | some limit => limit ≤ e.stats.descriptors

/-- A stalled queue is shown as halted. -/
def halt : Act σ Unit := do
  let status ← RegisterFile.read Offset.queueStatus
  if status = Status.halted then return ()
  else RegisterFile.write Offset.queueStatus Status.halted

end Device

variable [RegisterFile σ] [SystemClock σ] [Feed σ]

/-- One descriptor, or the completion of one request. -/
def step : Act (Attached σ) Outcome := do
  let s ← Act.read
  if s.engine.isStalled then
    onWorld halt
    return .stalled
  else
    match ← onWorld Feed.next with
    | some handle =>
      issue handle.descriptor
      onWorld (Feed.complete handle)
      return .dispatched handle
    | none =>
      let coming ← onWorld Feed.peek
      if coming = some .globalFence then
        onWorld (raise Interrupt.taskDone)
        onWorld Feed.finishRequest
        count Stats.countRequest
        return .requestCompleted
      else return .idle

/-- Steps until there is nothing to do, at most this many times. -/
def runFor : Nat → Act (Attached σ) Stats
  | 0 => do return (← Act.read).engine.stats
  | more + 1 => do
    match ← step with
    | .idle | .stalled => return (← Act.read).engine.stats
    | .dispatched _ | .requestCompleted => runFor more

/-- Steps until there is nothing to do. The feed bounds the steps that can do anything, and one
more finds that nothing is left. -/
def runUntilIdle : Act (Attached σ) Stats := do
  let s ← Act.read
  runFor (Feed.effort s.world + 1)

def record (e : Engine) : String :=
  Text.record "SoftwareDmaEngine"
    [⟨"config", e.config.record⟩, ⟨"stats", e.stats.record⟩] false

end Engine

end TensorQueue
