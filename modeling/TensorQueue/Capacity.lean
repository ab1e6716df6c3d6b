import TensorQueue.Act

/-!
# Capacity

A block of memory takes at most half of what a word can count. A list that
would take more is not made: what asks for it is aborted. A list that grows may
ask for as much again as it needs.
-/

set_option autoImplicit false

namespace TensorQueue.Capacity

/-- The most bytes that one block can have. -/
def largestBlock : Nat := 0x7fffffffffffffff

/-- Whether so many items of this width, in bytes, can lie in one block. -/
def fits (count width : Nat) : Bool := count * width ≤ largestBlock

/-- Makes room for so many items of this width. -/
def reserve {σ : Type} (count width : Nat) : Act σ Unit :=
  if fits count width then return () else Act.abort .capacityOverflow

theorem reserve_of_fits {σ : Type} {count width : Nat} (h : fits count width = true) (s : σ) :
    reserve count width s = (.ok (), s) := by
  simp [reserve, h]

theorem reserve_of_not_fits {σ : Type} {count width : Nat} (h : fits count width = false)
    (s : σ) : reserve count width s = (.error (.abort .capacityOverflow), s) := by
  simp [reserve, h]

end TensorQueue.Capacity
