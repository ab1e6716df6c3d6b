import TensorQueue.Registers.Access
import TensorQueue.Table
import TensorQueue.Word

/-!
# Registers in memory

A register file that is plain memory: a register holds what was written last,
and zero before. It may have a size, and then refuses what lies beyond it.
-/

set_option autoImplicit false

namespace TensorQueue.Registers

structure Memory where
  values : Table UInt64 UInt64
  size : Option UInt64
  deriving DecidableEq, Repr, Inhabited

namespace Memory

def new (size : Option UInt64) : Memory := ⟨[], size⟩

/-- A register is eight bytes on a multiple of eight. Where there is a size, the end of the
register is computed, and no word can hold that of the last register of all. -/
def check (m : Memory) (offset : UInt64) : Except Fault Unit :=
  if offset % 8 ≠ 0 then .error (.refusal (.misalignedRegister offset))
  else
    match m.size with
    | none => .ok ()
    | some size =>
      match Word.add offset 8 with
      | .error cause => .error (.abort cause)
      | .ok past =>
        if size < past then .error (.refusal (.registerOutOfBounds offset size)) else .ok ()

def value (m : Memory) (offset : UInt64) : UInt64 := (m.values.get? offset).getD 0

def read (m : Memory) (offset : UInt64) : Except Fault UInt64 := do
  m.check offset
  .ok (m.value offset)

def put (offset value : UInt64) (m : Memory) : Memory :=
  { m with values := m.values.put offset value }

instance : RegisterFile Memory where
  read offset := fun m => (m.read offset, m)
  write offset value := do
    Act.outcome ((← Act.read).check offset)
    Act.modify (put offset value)

end Memory

end TensorQueue.Registers
