import TensorQueue.Text.Number
import TensorQueue.Text.Printable

/-!
# Quoted text

Text between double quotes, as it appears in messages about configuration.
Five characters and the two delimiters have a short escape; any other
character that would not show as itself is written by its code point.
-/

set_option autoImplicit false

namespace TensorQueue.Text

/-- One character between the quotes. -/
def escape (c : Char) : String :=
  if c = '\x00' then "\\0"
  else if c = '\t' then "\\t"
  else if c = '\r' then "\\r"
  else if c = '\n' then "\\n"
  else if c = '"' then "\\\""
  else if c = '\\' then "\\\\"
  else if isPlain c then String.singleton c
  else "\\u\x7b" ++ hexDigits c.toNat ++ "\x7d"

def quoted (text : String) : String :=
  "\"" ++ String.join (text.toList.map escape) ++ "\""

end TensorQueue.Text
