import TensorQueue.Time.Duration
import TensorQueue.Text.Number

/-!
# Duration text

A duration is written in the largest unit of which it has at least one whole,
with the rest as a decimal fraction. The exact form drops trailing zeros; the
rounded form keeps a given number of places, and a tie goes to the even digit.
-/

set_option autoImplicit false

namespace TensorQueue.Duration

/-- A unit: how many decimal digits of nanoseconds it spans, and its mark. -/
structure Scale where
  digits : Nat
  mark : String

/-- The largest unit of which the duration has at least one whole. -/
def scale (d : Duration) : Scale :=
  if nsPerSecond ≤ d.ns then ⟨9, "s"⟩
  else if 1000000 ≤ d.ns then ⟨6, "ms"⟩
  else if 1000 ≤ d.ns then ⟨3, "µs"⟩
  else ⟨0, "ns"⟩

def dropTrailingZeros (digits : List Char) : List Char :=
  (digits.reverse.dropWhile (· = '0')).reverse

def withFraction (whole : Nat) (digits : List Char) : String :=
  if digits.isEmpty then toString whole
  else toString whole ++ "." ++ String.ofList digits

/-- Every digit of the fraction but trailing zeros: 33.333333ms, 1.5µs, 2s. -/
def text (d : Duration) : String :=
  let unit := d.scale
  let base := Nat.pow 10 unit.digits
  let fraction := if unit.digits = 0 then [] else Text.zeroPadded unit.digits (d.ns % base)
  withFraction (d.ns / base) (dropTrailingZeros fraction) ++ unit.mark

/-- The quotient rounded to the nearest whole; a tie goes to the even one. -/
def divToEven (n m : Nat) : Nat :=
  let q := n / m
  let twice := 2 * (n % m)
  if twice < m then q else if m < twice then q + 1 else q + q % 2

/-- Exactly the given number of places, in the unit of the unrounded duration. -/
def roundedText (places : Nat) (d : Duration) : String :=
  let unit := d.scale
  let kept := min places unit.digits
  let scaled := divToEven d.ns (Nat.pow 10 (unit.digits - kept))
  let fraction := if kept = 0 then [] else Text.zeroPadded kept (scaled % Nat.pow 10 kept)
  withFraction (scaled / Nat.pow 10 kept) (fraction ++ List.replicate (places - kept) '0') ++
    unit.mark

end TensorQueue.Duration
