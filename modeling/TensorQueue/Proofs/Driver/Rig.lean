import TensorQueue.Driver.Stack
import TensorQueue.Proofs.Driver.Callbacks
import TensorQueue.Proofs.Driver.Engines
import TensorQueue.Proofs.Driver.Safekeeping

/-!
# Runs of a stack

A rig is a stack with the registers of its device, the engines made for it and
the closes that wait for its hardware. A deed is one call that somebody makes:
on a request, on a hardware request by hand, on the dispatcher or on an engine.
The done callbacks of requests are deeds inside of deeds: each has its plan, and
may submit, shut down and notify in turn. In between, the registers, the desk,
the clock and the watchdog may be changed at will. A call that is refused or
aborted ends there, and the run goes on from what it left.
-/

set_option autoImplicit false

namespace TensorQueue

open Dispatcher

structure Rig (R : Type) where
  machine : Machine (RealTime (Scheduler Escalation)) R
  engines : List Engine
  /-- How many closes wait for the hardware. -/
  waiting : Nat

inductive Deed (R : Type) where
  | chore (chore : Driver.Chore)
  | failUnprepared (number : Nat) (cause : Error)
  | prepareBatch (number key : Nat)
  | close (mode : CloseMode)
  /-- One of the closes that wait looks at the hardware again. -/
  | wake
  | startEngine (config : Engine.Config)
  | stepEngine (index : Nat)
  /-- An engine steps until there is nothing to do, at most this many times. -/
  | runEngine (index steps : Nat)
  /-- What happens elsewhere. -/
  | meanwhile (registers : R → R) (tempo : Tempo → Tempo) (desk : Desk → Desk)
      (clock : Duration → Duration) (watchdog : Escalation → Escalation)

/-- The request of which a part is made or given up by hand. -/
def Deed.aided {R : Type} : Deed R → Option Nat
  | .failUnprepared number _ => some number
  | .prepareBatch number _ => some number
  | _ => none

namespace Rig

variable {R α : Type}

def begin (stack : Stack) (registers : R) (tempo : Tempo) : Rig R :=
  ⟨⟨stack, registers, tempo⟩, [], 0⟩

def driver (rig : Rig R) : Stack := rig.machine.driver

def onMachine (act : Act (Machine (RealTime (Scheduler Escalation)) R) α) : Act (Rig R) α :=
  Act.within Rig.machine (fun rig m => { rig with machine := m }) act

def onDriver (act : Act Stack α) : Act (Rig R) α := onMachine (Machine.onDriver act)

/-- The work of one engine. What the engine has counted stays counted, however it ends. -/
def work (index : Nat) (act : Act (Engine.Attached (Machine (RealTime (Scheduler Escalation)) R)) α) :
    Act (Rig R) Unit := do
  let rig ← Act.read
  match rig.engines[index]? with
  | none => return ()
  | some e =>
    let _ ← Act.within (fun rig : Rig R => ⟨e, rig.machine⟩)
      (fun rig s => { rig with machine := s.world, engines := rig.engines.set index s.engine }) act

def settleClose (waiting : Nat) (closed : Bool) : Act (Rig R) Unit :=
  Act.modify fun rig => { rig with waiting := if closed then waiting else waiting + 1 }

def elapse (registers : R → R) (tempo : Tempo → Tempo) (desk : Desk → Desk)
    (clock : Duration → Duration) (watchdog : Escalation → Escalation) (rig : Rig R) : Rig R :=
  let s := rig.driver.dispatcher
  let s := { s with
    desk := desk s.desk
    clock := clock s.clock
    backing := { s.backing with watchdog := watchdog s.backing.watchdog } }
  { rig with machine := ⟨{ rig.driver with dispatcher := s }, registers rig.machine.registers,
    tempo rig.machine.tempo⟩ }

/-- The done callbacks of a stack. -/
abbrev Callbacks := DoneCallbacks (RealTime (Scheduler Escalation))

variable [RegisterFile R] (callbacks : Callbacks)

def perform : Deed R → Act (Rig R) Unit
  | .chore chore => onDriver chore.perform
  | .failUnprepared number cause =>
    onDriver (Driver.onRequest number fun r => r.failUnprepared cause)
  | .prepareBatch number key => onDriver (Driver.prepareBatch number key)
  | .close mode => do
    let closed ← onDriver (Driver.close mode)
    settleClose (← Act.read).waiting closed
  | .wake => do
    match (← Act.read).waiting with
    | 0 => return ()
    | others + 1 => settleClose others (← onDriver Driver.finishClose)
  | .startEngine config => do
    let e ← onMachine (Engine.start config)
    Act.modify fun rig => { rig with engines := rig.engines ++ [e] }
  | .stepEngine index => work index Engine.step
  | .runEngine index steps => work index (Engine.runFor steps)
  | .meanwhile registers tempo desk clock watchdog =>
    Act.modify (elapse registers tempo desk clock watchdog)

def run (deeds : List (Deed R)) (rig : Rig R) : Rig R :=
  deeds.foldl (fun rig deed => (perform callbacks deed rig).2) rig

def isAbort : Except Fault α → Bool
  | .error (.abort _) => true
  | _ => false

/-- Whether the request is prepared and lacks parts. -/
def lacksParts (number : Nat) (rig : Rig R) : Bool :=
  rig.driver.requests[number]?.any fun r => r.phase = .prepared ∧ r.prepared ≠ r.required

/-- Nobody makes or gives up a part of this request by hand while it lacks some. -/
def isUnaided (number : Nat) : List (Deed R) → Rig R → Bool
  | [], _ => true
  | deed :: rest, rig =>
    !(deed.aided = some number && rig.lacksParts number) &&
      isUnaided number rest (perform callbacks deed rig).2

/-- No call is aborted. -/
def isCalm : List (Deed R) → Rig R → Bool
  | [], _ => true
  | deed :: rest, rig =>
    let (outcome, rig) := perform callbacks deed rig
    !isAbort outcome && isCalm rest rig

end Rig

end TensorQueue
