/-!
# Tables

At most one value for each key, in the order in which the keys first came.
-/

set_option autoImplicit false

namespace TensorQueue

abbrev Table (κ α : Type) := List (κ × α)

namespace Table

variable {κ α : Type} [DecidableEq κ]

def get? : Table κ α → κ → Option α
  | [], _ => none
  | (key, a) :: rest, k => if key = k then some a else get? rest k

/-- The value of a key, changed in place, or put behind the rest. -/
def put : Table κ α → κ → α → Table κ α
  | [], k, new => [(k, new)]
  | (key, a) :: rest, k, new =>
    if key = k then (key, new) :: rest else (key, a) :: put rest k new

def erase : Table κ α → κ → Table κ α
  | [], _ => []
  | (key, a) :: rest, k => if key = k then erase rest k else (key, a) :: erase rest k

theorem get?_put (table : Table κ α) (k other : κ) (new : α) :
    (table.put k new).get? other = if k = other then some new else table.get? other := by
  induction table with
  | nil => simp [put, get?]
  | cons row rest ih =>
    obtain ⟨key, a⟩ := row
    by_cases h : key = k
    · subst h
      by_cases h' : key = other <;> simp [put, get?, h']
    · by_cases h' : key = other
      · subst h'
        have h'' : ¬k = key := fun e => h e.symm
        simp [put, get?, h, h'']
      · simp [put, get?, h, h', ih]

theorem get?_erase (table : Table κ α) (k other : κ) :
    (table.erase k).get? other = if k = other then none else table.get? other := by
  induction table with
  | nil => simp [erase, get?]
  | cons row rest ih =>
    obtain ⟨key, a⟩ := row
    by_cases h : key = k
    · subst h
      by_cases h' : key = other
      · subst h'
        simpa [erase] using ih
      · simp [erase, get?, h', ih]
    · by_cases h' : key = other
      · subst h'
        have h'' : ¬k = key := fun e => h e.symm
        simp [erase, get?, h, h'']
      · simp [erase, get?, h, h', ih]

end Table

end TensorQueue
