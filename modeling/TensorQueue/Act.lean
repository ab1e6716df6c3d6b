import TensorQueue.Error

/-!
# Actions

An action on a state ends with a value or a fault, and leaves a state behind
in either case: what was changed before a fault stays changed. A refusal is an
error of the driver, which the caller may answer. An abort is a demand that
nothing could meet; it ends every action around it.
-/

set_option autoImplicit false

namespace TensorQueue

inductive Abort where
  | durationOverflow
  | instantOverflow
  | levelOutOfRange (level levels : Nat)
  | capacityOverflow
  | addOverflow
  | multiplyOverflow
  deriving DecidableEq, Repr, Inhabited

def Abort.message : Abort → String
  | .durationOverflow => "overflow when adding durations"
  | .instantOverflow => "overflow when adding duration to instant"
  | .levelOutOfRange level levels => s!"cascade level {level} out of range ({levels} levels)"
  | .capacityOverflow => "capacity overflow"
  | .addOverflow => "attempt to add with overflow"
  | .multiplyOverflow => "attempt to multiply with overflow"

inductive Fault where
  | refusal (cause : Error)
  | abort (cause : Abort)
  deriving DecidableEq, Repr, Inhabited

def Act (σ α : Type) : Type := σ → Except Fault α × σ

namespace Act

variable {σ τ α β : Type}

def value (a : α) : Act σ α := fun s => (.ok a, s)

/-- The second action runs on what the first left behind, unless the first failed. -/
def andThen (act : Act σ α) (next : α → Act σ β) : Act σ β := fun s =>
  match act s with
  | (.ok a, t) => next a t
  | (.error fault, t) => (.error fault, t)

instance : Monad (Act σ) where
  pure := value
  bind := andThen

def refuse (cause : Error) : Act σ α := fun s => (.error (.refusal cause), s)

def abort (cause : Abort) : Act σ α := fun s => (.error (.abort cause), s)

def read : Act σ σ := fun s => (.ok s, s)

def write (s : σ) : Act σ Unit := fun _ => (.ok (), s)

def modify (f : σ → σ) : Act σ Unit := fun s => (.ok (), f s)

/-- An outcome that is already known. -/
def outcome (known : Except Fault α) : Act σ α := fun s => (known, s)

/-- An outcome that is already known, and is no abort. -/
def settle (outcome : Except Error α) : Act σ α := fun s =>
  match outcome with
  | .ok a => (.ok a, s)
  | .error cause => (.error (.refusal cause), s)

/-- A change that is made as a whole or refused as a whole. -/
def change (f : σ → Except Error σ) : Act σ Unit := fun s =>
  match f s with
  | .ok t => (.ok (), t)
  | .error cause => (.error (.refusal cause), s)

/-- A change with an answer, made as a whole or refused as a whole. -/
def transact (f : σ → Except Error (α × σ)) : Act σ α := fun s =>
  match f s with
  | .ok (a, t) => (.ok a, t)
  | .error cause => (.error (.refusal cause), s)

/-- A refusal becomes an answer. An abort passes through. -/
def attempt (act : Act σ α) : Act σ (Except Error α) := fun s =>
  match act s with
  | (.ok a, t) => (.ok (.ok a), t)
  | (.error (.refusal cause), t) => (.ok (.error cause), t)
  | (.error (.abort cause), t) => (.error (.abort cause), t)

def within (part : σ → τ) (replace : σ → τ → σ) (act : Act τ α) : Act σ α := fun s =>
  match act (part s) with
  | (outcome, t) => (outcome, replace s t)

/-- The same work after every outcome, also after a fault. -/
def closing (act : Act σ α) (after : σ → σ) : Act σ α := fun s =>
  match act s with
  | (outcome, t) => (outcome, after t)

@[simp] theorem pure_apply (a : α) (s : σ) : (pure a : Act σ α) s = (.ok a, s) := rfl

theorem bind_apply (act : Act σ α) (next : α → Act σ β) (s : σ) :
    (act >>= next) s = match act s with
      | (.ok a, t) => next a t
      | (.error fault, t) => (.error fault, t) := rfl

theorem bind_of_ok {act : Act σ α} {next : α → Act σ β} {s t : σ} {a : α}
    (h : act s = (.ok a, t)) : (act >>= next) s = next a t := by
  rw [bind_apply, h]

theorem bind_of_error {act : Act σ α} {next : α → Act σ β} {s t : σ} {fault : Fault}
    (h : act s = (.error fault, t)) : (act >>= next) s = (.error fault, t) := by
  rw [bind_apply, h]

@[simp] theorem refuse_apply (cause : Error) (s : σ) :
    (refuse cause : Act σ α) s = (.error (.refusal cause), s) := rfl

@[simp] theorem abort_apply (cause : Abort) (s : σ) :
    (abort cause : Act σ α) s = (.error (.abort cause), s) := rfl

@[simp] theorem outcome_apply (known : Except Fault α) (s : σ) : outcome known s = (known, s) := rfl

@[simp] theorem read_apply (s : σ) : (read : Act σ σ) s = (.ok s, s) := rfl

@[simp] theorem write_apply (s t : σ) : (write t : Act σ Unit) s = (.ok (), t) := rfl

@[simp] theorem modify_apply (f : σ → σ) (s : σ) : modify f s = (.ok (), f s) := rfl

/-- A refused change leaves the state as it was. -/
theorem state_of_change_error {f : σ → Except Error σ} {s : σ} {fault : Fault}
    (h : (change f s).1 = .error fault) : (change f s).2 = s := by
  unfold change at h ⊢
  split <;> simp_all

theorem state_of_transact_error {f : σ → Except Error (α × σ)} {s : σ} {fault : Fault}
    (h : (transact f s).1 = .error fault) : (transact f s).2 = s := by
  unfold transact at h ⊢
  split <;> simp_all

end Act

end TensorQueue
