/-!
# Unsigned numbers in text

A number is an optional plus sign and one or more decimal digits of ASCII.
Text that is not a number is told apart from a number past the word.
-/

set_option autoImplicit false

namespace TensorQueue.Text

/-- Why a text is no 64-bit number. -/
inductive NumberFault where
  | empty
  | badDigit
  | tooLarge
  deriving DecidableEq, Repr, Inhabited

def NumberFault.text : NumberFault → String
  | .empty => "cannot parse integer from empty string"
  | .badDigit => "invalid digit found in string"
  | .tooLarge => "number too large to fit in target type"

def digit? (c : Char) : Option Nat :=
  if '0' ≤ c ∧ c ≤ '9' then some (c.toNat - '0'.toNat) else none

/-- The digits read onto a number so far. The first fault from the left is the answer. -/
def readDigits (bound : Nat) : Nat → List Char → Except NumberFault Nat
  | n, [] => .ok n
  | n, c :: rest =>
    match digit? c with
    | none => .error .badDigit
    | some d => if bound ≤ n * 10 + d then .error .tooLarge else readDigits bound (n * 10 + d) rest

/-- A number below the bound. A sign alone is a bad digit. -/
def readUnsigned (bound : Nat) : List Char → Except NumberFault Nat
  | [] => .error .empty
  | ['+'] => .error .badDigit
  | ['-'] => .error .badDigit
  | '+' :: digits => readDigits bound 0 digits
  | digits => readDigits bound 0 digits

end TensorQueue.Text
