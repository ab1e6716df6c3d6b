import TensorQueue.Error
import TensorQueue.Executable.Layer

/-!
# Executables

An executable is what the queue needs to know of a compiled model: its layers,
how many batch elements the hardware always runs at once, the size of its
instruction stream and an estimate of its cycles.
-/

set_option autoImplicit false

namespace TensorQueue

structure Executable where
  id : ExecutableId
  name : String
  hardwareBatch : Nat
  inputs : List Layer
  outputs : List Layer
  cycles : UInt64
  instructionBytes : UInt64
  deriving DecidableEq, Repr, Inhabited

namespace Executable

/-- The batch size of hardware that does not say otherwise. -/
def defaultHardwareBatch : Nat := 1

def layers (e : Executable) : Direction → List Layer
  | .input => e.inputs
  | .output => e.outputs

/-- The layer of this name, if the model declares one. -/
def layer? (e : Executable) (direction : Direction) (name : String) : Option Layer :=
  (e.layers direction).find? (·.name = name)

/-- The first name from the left that stands further left as well. -/
def firstRepeated : List String → List String → Option String
  | _, [] => none
  | seen, name :: rest => if name ∈ seen then some name else firstRepeated (name :: seen) rest

theorem firstRepeated_eq_none_iff {seen names : List String} :
    firstRepeated seen names = none ↔ names.Nodup ∧ ∀ n ∈ names, n ∉ seen := by
  induction names generalizing seen with
  | nil => simp [firstRepeated]
  | cons name rest ih =>
    by_cases h : name ∈ seen
    · simp [firstRepeated, h]
    · simp only [firstRepeated, h, if_false, ih, List.nodup_cons, List.mem_cons, not_or]
      constructor
      · rintro ⟨nodup, fresh⟩
        refine ⟨⟨fun mem => (fresh name mem).1 rfl, nodup⟩, ?_⟩
        rintro n (rfl | mem)
        · exact h
        · exact (fresh n mem).2
      · rintro ⟨⟨absent, nodup⟩, fresh⟩
        exact ⟨nodup, fun n mem => ⟨fun eq => absent (eq ▸ mem), fresh n (.inr mem)⟩⟩

def checkNames (e : Executable) (direction : Direction) : Except Error Unit :=
  match firstRepeated [] ((e.layers direction).map (·.name)) with
  | some name => .error (.duplicateLayer e.name direction name)
  | none => .ok ()

/-- A model that the hardware can run: its batch is not empty, and no two layers of one
direction share a name. -/
structure Sound (e : Executable) : Prop where
  batch_pos : 0 < e.hardwareBatch
  nodup_names : ∀ direction, ((e.layers direction).map (·.name)).Nodup

/-- The model itself, unless something is wrong with it. The batch is looked at first, then the
names of the inputs, then those of the outputs. -/
def build (e : Executable) : Except Error Executable := do
  if e.hardwareBatch = 0 then
    .error (.zeroHardwareBatch e.name)
  else
    e.checkNames .input
    e.checkNames .output
    .ok e

theorem checkNames_eq_ok_iff {e : Executable} {direction : Direction} :
    e.checkNames direction = .ok () ↔ ((e.layers direction).map (·.name)).Nodup := by
  unfold checkNames
  cases h : firstRepeated [] ((e.layers direction).map (·.name)) with
  | none => simpa using (firstRepeated_eq_none_iff.1 h).1
  | some name =>
    simp only [reduceCtorEq, false_iff]
    intro nodup
    have := firstRepeated_eq_none_iff.2 ⟨nodup, fun n _ => List.not_mem_nil⟩
    simp [this] at h

end Executable

end TensorQueue
