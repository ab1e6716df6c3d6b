/-!
# Durations

A duration is an exact count of nanoseconds. Its count is compared and
computed with as a natural number; only addition is bounded, since a driver
keeps seconds in a 64-bit word and refuses a sum past that word.
-/

set_option autoImplicit false

namespace TensorQueue

structure Duration where
  ns : Nat
  deriving DecidableEq, Repr, Inhabited

namespace Duration

def zero : Duration := ⟨0⟩

def nsPerSecond : Nat := 1000000000

def ofMillis (n : Nat) : Duration := ⟨n * 1000000⟩

def ofMicros (n : Nat) : Duration := ⟨n * 1000⟩

/-- Nanoseconds of the least span that cannot be held: 2^64 whole seconds. -/
def limit : Nat := UInt64.size * nsPerSecond

/-- Whole seconds of a span. -/
def seconds (d : Duration) : Nat := d.ns / nsPerSecond

def millis (d : Duration) : Nat := d.ns / 1000000

def isZero (d : Duration) : Bool := d.ns = 0

/-- The sum, if it can be held. -/
def add? (a b : Duration) : Option Duration :=
  if a.ns + b.ns < limit then some ⟨a.ns + b.ns⟩ else none

theorem add?_eq_some_iff {a b c : Duration} :
    add? a b = some c ↔ a.ns + b.ns < limit ∧ c.ns = a.ns + b.ns := by
  obtain ⟨n⟩ := c
  by_cases h : a.ns + b.ns < limit <;> simp [add?, h, eq_comm]

theorem add?_eq_none_iff {a b : Duration} : add? a b = none ↔ limit ≤ a.ns + b.ns := by
  by_cases h : a.ns + b.ns < limit <;> simp [add?, h]
  omega

/-- The later of two clock times. -/
def later (a b : Duration) : Duration := if a.ns < b.ns then b else a

theorem ns_later (a b : Duration) : (later a b).ns = max a.ns b.ns := by
  unfold later
  split <;> omega

/-- The period of a frame rate, rounded down to a nanosecond; none at rate zero. -/
def ofRate? (fps : UInt32) : Option Duration :=
  if fps = 0 then none else some ⟨nsPerSecond / fps.toNat⟩

theorem ofRate?_eq_none_iff {fps : UInt32} : ofRate? fps = none ↔ fps = 0 := by
  unfold ofRate?
  split <;> simp_all

end Duration

end TensorQueue
