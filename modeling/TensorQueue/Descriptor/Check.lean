import TensorQueue.Error

/-!
# Interrupt lines

A descriptor may name an interrupt line that the scalar core does not have.
Such a descriptor can be written down, but is refused before it is queued.
-/

set_option autoImplicit false

namespace TensorQueue.Descriptor.Kind

/-- The interrupt of a line, if the scalar core has that line. -/
def ofLine (line : UInt8) : Except Error Kind :=
  if line < coreInterruptLines then .ok (.coreInterrupt line)
  else .error (.coreInterruptOutOfRange line)

/-- Nothing is wrong with any kind but an interrupt on a missing line. -/
def check : Kind → Except Error Unit
  | .coreInterrupt line => (ofLine line).map fun _ => ()
  | _ => .ok ()

theorem check_eq_ok_iff {k : Kind} : k.check = .ok () ↔ k.isValid = true := by
  cases k <;> simp [check, isValid]
  rename_i line
  by_cases h : line < coreInterruptLines <;> simp [ofLine, h, Except.map]

end TensorQueue.Descriptor.Kind
