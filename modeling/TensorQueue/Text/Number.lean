/-!
# Number text

Hexadecimal and padded decimal text. Digits are lower-case, and a number
carries no leading zeros unless a width asks for them.
-/

set_option autoImplicit false

namespace TensorQueue.Text

/-- Lower-case hexadecimal digits, without a leading sign or mark. -/
def hexDigits (n : Nat) : String := String.ofList (Nat.toDigits 16 n)

/-- Hexadecimal with its mark, as register offsets and values are shown. -/
def hex (n : Nat) : String := "0x" ++ hexDigits n

/-- Decimal digits, filled with zeros on the left up to a width. -/
def zeroPadded (width n : Nat) : List Char :=
  let digits := Nat.toDigits 10 n
  List.replicate (width - digits.length) '0' ++ digits

/-- The text, filled with blanks on the left up to a width. -/
def rightAligned (width : Nat) (text : String) : String :=
  String.ofList (List.replicate (width - text.length) ' ') ++ text

/-- The text, filled with blanks on the right up to a width. -/
def leftAligned (width : Nat) (text : String) : String :=
  text ++ String.ofList (List.replicate (width - text.length) ' ')

end TensorQueue.Text
