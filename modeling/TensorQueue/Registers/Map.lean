import TensorQueue.Descriptor

/-!
# Register map

Offsets of the queue's control registers, and the values and bits they hold.
-/

set_option autoImplicit false

namespace TensorQueue.Registers

namespace Offset

def queueStatus : UInt64 := 0x00
def queueControl : UInt64 := 0x08
def descriptorAddress : UInt64 := 0x10
def descriptorSize : UInt64 := 0x18
def descriptorTag : UInt64 := 0x20
def doorbell : UInt64 := 0x28
def completedCount : UInt64 := 0x30
def interruptStatus : UInt64 := 0x40
def interruptClear : UInt64 := 0x48
def watchdogTimeout : UInt64 := 0x100
def watchdogKick : UInt64 := 0x108

/-- Every offset, in the order of the map. -/
def all : List UInt64 := [queueStatus, queueControl, descriptorAddress, descriptorSize,
  descriptorTag, doorbell, completedCount, interruptStatus, interruptClear, watchdogTimeout,
  watchdogKick]

theorem nodup_all : all.Nodup := by decide

end Offset

namespace Status

def idle : UInt64 := 0
def running : UInt64 := 1
def halted : UInt64 := 2
def error : UInt64 := 3

end Status

namespace Control

def enable : UInt64 := 1
def reset : UInt64 := 2

end Control

namespace Interrupt

/-- Raised when a task as a whole is done. -/
def taskDone : UInt64 := 0x100

/-- The bit of a line of the scalar core, if there is such a line. -/
def core? (line : UInt8) : Option UInt64 :=
  if line < Descriptor.coreInterruptLines then some (1 <<< line.toUInt64) else none

end Interrupt

end TensorQueue.Registers
