import TensorQueue.Registers.Memory

/-!
# Registers with faults

A register file in memory with some planned faults, and with registers that
are stuck: a write to one of those succeeds and has no effect.
-/

set_option autoImplicit false

namespace TensorQueue.Registers

inductive AccessKind where
  | read
  | write
  deriving DecidableEq, Repr, Inhabited

/-- A fault fires once, at the given one of the accesses that it sees. -/
structure PlannedFault where
  access : AccessKind
  offset : UInt64
  /-- How many matching accesses are still to come before it has fired; none if it has. -/
  left : Nat
  cause : Error
  deriving DecidableEq, Repr, Inhabited

structure Faulty where
  memory : Memory
  stuck : List UInt64
  faults : List PlannedFault
  deriving DecidableEq, Repr, Inhabited

namespace Faulty

/-- The faults after an access, and the error of the one that fires. An access that fails on one
fault is not seen by those behind it. -/
def strike (access : AccessKind) (offset : UInt64) :
    List PlannedFault → Option Error × List PlannedFault
  | [] => (none, [])
  | f :: rest =>
    if f.access = access ∧ f.offset = offset ∧ f.left ≠ 0 then
      let struck := { f with left := f.left - 1 }
      if f.left = 1 then (some f.cause, struck :: rest)
      else
        let (cause, rest) := strike access offset rest
        (cause, struck :: rest)
    else
      let (cause, rest) := strike access offset rest
      (cause, f :: rest)

/-- Lets the planned faults see an access. -/
def survive (access : AccessKind) (offset : UInt64) : Act Faulty Unit := fun s =>
  match strike access offset s.faults with
  | (none, faults) => (.ok (), { s with faults := faults })
  | (some cause, faults) => (.error (.refusal cause), { s with faults := faults })

def onMemory {α : Type} (act : Act Memory α) : Act Faulty α :=
  Act.within Faulty.memory (fun s m => { s with memory := m }) act

def read (offset : UInt64) : Act Faulty UInt64 := do
  survive .read offset
  onMemory (RegisterFile.read offset)

def write (offset value : UInt64) : Act Faulty Unit := do
  survive .write offset
  let s ← Act.read
  if offset ∈ s.stuck then return ()
  else onMemory (RegisterFile.write offset value)

/-- Whether a register has this value, by a look of which the faults see nothing. -/
def holds (offset value : UInt64) (s : Faulty) : Bool :=
  match s.memory.read offset with
  | .ok present => present = value
  | .error _ => false

instance : RegisterFile Faulty where
  read := read
  write := write

end Faulty

end TensorQueue.Registers
