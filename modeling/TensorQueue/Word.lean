import TensorQueue.Act

/-!
# Sums and products in a word

A count is kept in a word of the machine. A sum or a product that the word
cannot hold is not formed: what asks for it is aborted.
-/

set_option autoImplicit false

namespace TensorQueue.Word

def add (a b : UInt64) : Except Abort UInt64 :=
  if a.toNat + b.toNat < UInt64.size then .ok (a + b) else .error .addOverflow

def multiply (a b : UInt64) : Except Abort UInt64 :=
  if a.toNat * b.toNat < UInt64.size then .ok (a * b) else .error .multiplyOverflow

theorem add_of_lt {a b : UInt64} (h : a.toNat + b.toNat < UInt64.size) :
    add a b = .ok (a + b) := if_pos h

theorem add_of_le {a b : UInt64} (h : UInt64.size ≤ a.toNat + b.toNat) :
    add a b = .error .addOverflow := if_neg (Nat.not_lt_of_le h)

theorem multiply_of_lt {a b : UInt64} (h : a.toNat * b.toNat < UInt64.size) :
    multiply a b = .ok (a * b) := if_pos h

theorem multiply_of_le {a b : UInt64} (h : UInt64.size ≤ a.toNat * b.toNat) :
    multiply a b = .error .multiplyOverflow := if_neg (Nat.not_lt_of_le h)

/-- A sum that is formed is exact. -/
theorem toNat_of_add {a b c : UInt64} (h : add a b = .ok c) : c.toNat = a.toNat + b.toNat := by
  unfold add at h
  split at h
  · cases h
    rw [UInt64.toNat_add]
    exact Nat.mod_eq_of_lt (by assumption)
  · cases h

theorem toNat_of_multiply {a b c : UInt64} (h : multiply a b = .ok c) :
    c.toNat = a.toNat * b.toNat := by
  unfold multiply at h
  split at h
  · cases h
    rw [UInt64.toNat_mul]
    exact Nat.mod_eq_of_lt (by assumption)
  · cases h

end TensorQueue.Word
