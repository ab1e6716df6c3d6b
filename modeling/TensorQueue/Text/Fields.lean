/-!
# Separated fields

A text cut at every occurrence of a separator. A text without one is a single
field.
-/

set_option autoImplicit false

namespace TensorQueue.Text

/-- One more character in front of the first field. -/
def consFirst (c : Char) : List (List Char) → List (List Char)
  | [] => [[c]]
  | field :: rest => (c :: field) :: rest

def fields (separator : Char) : List Char → List (List Char)
  | [] => [[]]
  | c :: rest =>
    if c = separator then [] :: fields separator rest
    else consFirst c (fields separator rest)

theorem fields_ne_nil (separator : Char) (text : List Char) : fields separator text ≠ [] := by
  cases text with
  | nil => simp [fields]
  | cons c rest =>
    unfold fields
    split
    · simp
    · cases fields separator rest <;> simp [consFirst]

end TensorQueue.Text
