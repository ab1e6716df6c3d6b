import TensorQueue.Driver.Basic
import Mathlib.Logic.Relation

/-!
# Books

The books of a driver are what the ends of requests depend on: the requests,
which hardware request is a part of which, what parts have told and which done
callbacks were fired, besides the keys that the dispatcher holds and those that
it has let go and that are still owed an end. A posting is the least that can
happen to the books of a driver that goes about its work, or of a request that
gets ready. A liberty is what its owner takes with the parts of a request.
-/

set_option autoImplicit false

namespace TensorQueue

/-- The request of which this is a part, as long as it has not completed. -/
def HardwareRequest.claim (r : HardwareRequest) : Option Nat :=
  if r.completed then none
  else
    match r.callback with
    | some (.part number) => some number
    | _ => none

theorem HardwareRequest.claim_complete (r : HardwareRequest) : r.complete.claim = none := rfl

def Event.fired? : Event → Option (Nat × Status)
  | .requestDone number _ status => some (number, status)
  | _ => none

/-- The lists of a part have room, also while they grow: a part has a hardware batch of buffers for
each layer, and a descriptor for each of them besides three more. -/
def Executable.Roomy (e : Executable) : Prop :=
  Capacity.fits (2 * ((e.inputs.length + e.outputs.length) * e.hardwareBatch + 3)) Buffer.width =
    true

instance (e : Executable) : Decidable e.Roomy := inferInstanceAs (Decidable (_ = true))

theorem Capacity.fits_of_le {count more width wide : Nat} (h : fits more wide = true)
    (hc : count ≤ more) (hw : width ≤ wide) : fits count width = true := by
  simp only [fits, decide_eq_true_eq] at h ⊢
  exact Nat.le_trans (Nat.mul_le_mul hc hw) h

/-- There is room for a hardware batch of each layer. -/
theorem Executable.Roomy.batch {e : Executable} (h : e.Roomy)
    (layers : 0 < e.inputs.length + e.outputs.length) :
    Capacity.fits e.hardwareBatch Buffer.width = true := by
  apply Capacity.fits_of_le h _ (Nat.le_refl _)
  have one := Nat.le_mul_of_pos_left e.hardwareBatch layers
  omega

structure Books where
  requests : Array Request
  /-- By the key of a hardware request, what it is a part of. -/
  claims : List (Option Nat)
  reports : List Driver.Report
  fired : List (Nat × Status)
  /-- The keys that the dispatcher holds. -/
  held : List Nat
  /-- The keys that are still to be told of their end. -/
  owed : List Nat

namespace Books

/-- The request as it was left, and the done callback if it was fired. -/
def conclude (number : Nat) (outcome : Option Status × Request) (b : Books) : Books :=
  { b with
    requests := b.requests.setIfInBounds number outcome.2
    fired := (outcome.1.map fun status => (number, status)).toList ++ b.fired }

def tell (number : Nat) (f : Request → Option Status × Request) (b : Books) : Books :=
  match b.requests[number]? with
  | none => b
  | some r => b.conclude number (f r)

theorem setRequest_self {requests : Array Request} {number : Nat} {r : Request}
    (h : requests[number]? = some r) : requests.setIfInBounds number r = requests := by
  obtain ⟨hlt, rfl⟩ := Array.getElem?_eq_some_iff.1 h
  rw [Array.setIfInBounds, dif_pos hlt]
  exact Array.set_getElem_self hlt

theorem tell_of_same {number : Nat} {f : Request → Option Status × Request} {b : Books}
    (h : ∀ r, b.requests[number]? = some r → f r = (none, r)) : b.tell number f = b := by
  unfold tell
  split
  · rfl
  · rename_i r hr
    rw [h r hr]
    simp [conclude, setRequest_self hr]

@[simp] theorem claims_tell (number : Nat) (f : Request → Option Status × Request) (b : Books) :
    (b.tell number f).claims = b.claims := by
  unfold tell
  split <;> rfl

@[simp] theorem reports_tell (number : Nat) (f : Request → Option Status × Request) (b : Books) :
    (b.tell number f).reports = b.reports := by
  unfold tell
  split <;> rfl

@[simp] theorem held_tell (number : Nat) (f : Request → Option Status × Request) (b : Books) :
    (b.tell number f).held = b.held := by
  unfold tell
  split <;> rfl

@[simp] theorem owed_tell (number : Nat) (f : Request → Option Status × Request) (b : Books) :
    (b.tell number f).owed = b.owed := by
  unfold tell
  split <;> rfl

/-- A part has ended: it is a part no longer, and its request has been told. -/
def settle (key number : Nat) (status : Status) (stamps : Request.Stamps) (b : Books) : Books :=
  tell number (fun r => r.partDone stamps status)
    { b with claims := b.claims.set key none
             reports := ⟨number, status⟩ :: b.reports }

/-- One more part of a request is prepared. -/
def claim (key number : Nat) (r : Request) (b : Books) : Books :=
  { b with claims := b.claims.set key (some number)
           requests := b.requests.setIfInBounds number { r with prepared := r.prepared + 1 } }

/-- A request with this number can have one more part, and this key may become it. -/
structure Claimable (key number : Nat) (r : Request) (b : Books) : Prop where
  request : b.requests[number]? = some r
  phase : r.phase = .prepared
  missing : r.prepared ≠ r.required
  free : b.claims[key]? = some none

/-- What its owner may do to a request that has no parts yet. -/
structure Configured (r s : Request) : Prop where
  executable : s.executable = r.executable
  prepared : s.prepared = r.prepared
  status : s.status = r.status
  phase : s.phase = .initial ∨ s.phase = .prepared ∧ s.hasDone = true ∧
    s.outstanding = s.required ∧ (0 < r.executable.hardwareBatch → 0 < s.required)

inductive Posting : Books → Books → Prop
  | enlist {b} (id : UInt64) {executable : Executable} : executable.Sound →
      Posting b { b with requests := b.requests.push (.new id executable) }
  | configure {b number r s} : b.requests[number]? = some r → r.phase = .initial →
      Configured r s → Posting b { b with requests := b.requests.setIfInBounds number s }
  | make {b} : Posting b { b with claims := b.claims ++ [none] }
  | hold {b} (key : Nat) : Posting b { b with held := b.held ++ [key] }
  | release {b} {gone rest : List Nat} : b.held = gone ++ rest →
      Posting b { b with held := rest, owed := gone ++ b.owed }
  /-- One more key is to be looked after. -/
  | owe {b} (key : Nat) : Posting b { b with owed := key :: b.owed }
  /-- A key needs no end if the dispatcher holds it, or if nobody is told of its end. -/
  | waive {b} {key : Nat} {rest : List Nat} : b.owed = key :: rest →
      (key ∈ b.held ∨ ∀ number, b.claims[key]? ≠ some (some number)) →
      Posting b { b with owed := rest }
  | claim {b key number r} : b.Claimable key number r → key ∈ b.owed →
      Posting b (b.claim key number r)
  | settle {b key number} (status : Status) (stamps : Request.Stamps) :
      b.claims[key]? = some (some number) → Posting b (b.settle key number status stamps)

/-- What is done by hand to the parts of the request with this number. -/
inductive Liberty (number : Nat) : Books → Books → Prop
  /-- A part that is prepared by hand need not be submitted. -/
  | claim {b key r} : b.Claimable key number r → Liberty number b (b.claim key number r)
  /-- A part without room for its batch is a part, but was not prepared. -/
  | overclaim {b key r} : b.Claimable key number r → ¬ r.executable.Roomy →
      Liberty number b { b with claims := b.claims.set key (some number) }
  | abandon {b} (cause : Error) :
      Liberty number b (b.tell number fun r => r.failUnprepared cause)

/-- What an abort makes of the books: nothing, or a part is left over without room for its batch. -/
inductive Torn : Books → Books → Prop
  | whole {b} : Torn b b
  | overclaimed {b key number r} : b.Claimable key number r → ¬ r.executable.Roomy →
      Torn b { b with claims := b.claims.set key (some number) }

def Postings : Books → Books → Prop := Relation.ReflTransGen Posting

/-- Postings and liberties, in any order. A liberty is taken only with a request with which it is
allowed at the time. -/
def Moves (allowed : Nat → Books → Prop) : Books → Books → Prop :=
  Relation.ReflTransGen fun b c => Posting b c ∨ ∃ number, allowed number b ∧ Liberty number b c

/-- The request lacks no part, or it can have none. -/
def Spent (number : Nat) (b : Books) : Prop :=
  ∀ r, b.requests[number]? = some r → r.phase ≠ .prepared ∨ r.prepared = r.required

section Moves

variable {b c : Books} {allowed : Nat → Books → Prop} {number : Nat}

theorem Postings.moves (h : Postings b c) : Moves allowed b c :=
  Relation.ReflTransGen.mono (fun _ _ => Or.inl) _ _ h

theorem Liberty.moves (h : Liberty number b c) (ha : allowed number b) : Moves allowed b c :=
  .single (.inr ⟨number, ha, h⟩)

end Moves

end Books

namespace Driver

variable {S : Type}

def claims (d : Driver S) : List (Option Nat) := d.hardware.toList.map HardwareRequest.claim

/-- The done callbacks that were fired, the latest first. -/
def fired (d : Driver S) : List (Nat × Status) := d.log.filterMap Event.fired?

section Views

variable {d : Driver S} {key : Nat} {r : HardwareRequest} {f : HardwareRequest → HardwareRequest}

theorem getElem?_claims : d.claims[key]? = d.hardware[key]?.map HardwareRequest.claim := by
  simp [claims]

theorem claims_alterHardware (h : d.hardware[key]? = some r) :
    (alterHardware key f d).claims = d.claims.set key (f r).claim := by
  ext1 i
  rw [List.getElem?_set, getElem?_claims, getElem?_claims, alterHardware, Array.getElem?_modify]
  by_cases hi : key = i
  · subst hi
    have hlt : key < d.claims.length := by
      simpa [claims] using (Array.getElem?_eq_some_iff.1 h).1
    rw [if_pos rfl, if_pos rfl, if_pos hlt, h]
    rfl
  · simp [hi]

theorem claims_alterHardware_same (h : ∀ r, (f r).claim = r.claim) :
    (alterHardware key f d).claims = d.claims := by
  ext1 i
  rw [getElem?_claims, getElem?_claims, alterHardware, Array.getElem?_modify]
  split
  · simp [Function.comp_def, h]
  · rfl

end Views

end Driver

end TensorQueue
