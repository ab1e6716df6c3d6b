import Mathlib.Logic.Function.Basic
import TensorQueue.Proofs.Driver.Runs

/-!
# The affairs of a request

Of all that a driver holds, a request depends on itself, on what its done
callback was fired with and on the bond that each hardware request has with
it. The dispatcher leaves these as they were. A completion ends a bond, and tells
the request if it was bound.
-/

set_option autoImplicit false

namespace TensorQueue

open Dispatcher

/-- What ties a hardware request to a request: nothing, or it will report its end to it, or it has
completed. -/
inductive Bond where
  | free
  | bound
  | ended
  deriving DecidableEq, Repr, Inhabited

namespace HardwareRequest

variable {r s : HardwareRequest} {number other : Nat}

def bond (number : Nat) (r : HardwareRequest) : Bond :=
  if r.completed then .ended else if r.callback = some (.part number) then .bound else .free

theorem bond_of_parts (hc : s.completed = r.completed) (hb : s.callback = r.callback) :
    s.bond number = r.bond number := by
  simp only [bond, hc, hb]

theorem bond_of_claim (h : r.claim = some other) :
    r.bond number = if other = number then .bound else .free := by
  unfold claim at h
  split at h
  · cases h
  · split at h
    · rename_i hopen _ _ hb
      cases h
      simp [bond, hopen, hb]
    · cases h

theorem bond_eq_free (hc : r.completed = false) (hb : r.callback = none) :
    r.bond number = .free := by
  simp [bond, hc, hb]

end HardwareRequest

structure Affairs where
  request : Option Request
  /-- What the done callback was fired with, in order. -/
  dones : List Status
  bond : Nat → Bond

namespace Affairs

def tell (f : Request → Option Status × Request) (a : Affairs) : Affairs :=
  match a.request with
  | none => a
  | some r => { a with request := some (f r).2, dones := a.dones ++ (f r).1.toList }

theorem tell_of_same {f : Request → Option Status × Request} {a : Affairs}
    (h : ∀ r, a.request = some r → f r = (none, r)) : a.tell f = a := by
  unfold tell
  split
  · rfl
  · rename_i r hr
    rw [h r hr, ← hr]
    simp

def tie (key : Nat) (bond : Bond) (a : Affairs) : Affairs :=
  { a with bond := Function.update a.bond key bond }

end Affairs

namespace Driver

variable {S : Type} {d : Driver S} {key number other : Nat} {r : HardwareRequest}
  {f : HardwareRequest → HardwareRequest}

def bond (number : Nat) (d : Driver S) (key : Nat) : Bond :=
  (d.hardware[key]?.map (HardwareRequest.bond number)).getD .free

/-- The hardware request is there and has not completed. -/
def isOpen (d : Driver S) (key : Nat) : Bool := d.hardware[key]?.any fun r => !r.completed

def dones (number : Nat) (d : Driver S) : List Status :=
  ((d.fired.filter fun x => x.1 = number).map Prod.snd).reverse

def affairs (number : Nat) (d : Driver S) : Affairs :=
  ⟨d.requests[number]?, d.dones number, d.bond number⟩

section Views

theorem bond_alterHardware (h : d.hardware[key]? = some r) :
    (alterHardware key f d).bond number =
      Function.update (d.bond number) key ((f r).bond number) := by
  funext other
  simp only [bond, alterHardware, Array.getElem?_modify, Function.update_apply]
  by_cases ho : key = other
  · subst ho
    simp [h]
  · simp [ho, Ne.symm ho]

theorem bond_alterHardware_same (h : ∀ r, (f r).bond number = r.bond number) :
    (alterHardware key f d).bond number = d.bond number := by
  funext other
  simp only [bond, alterHardware, Array.getElem?_modify]
  split
  · simp [Function.comp_def, h]
  · rfl

theorem affairs_alterHardware (h : d.hardware[key]? = some r) :
    (alterHardware key f d).affairs number = (d.affairs number).tie key ((f r).bond number) := by
  rw [affairs, bond_alterHardware h]
  rfl

theorem isOpen_eq_true_iff : d.isOpen key = true ↔
    ∃ r, d.hardware[key]? = some r ∧ r.completed = false := by
  simp [isOpen, Option.any_eq_true]

theorem isOpen_of_bound (h : d.bond number key = .bound) : d.isOpen key = true := by
  rw [isOpen_eq_true_iff]
  unfold bond at h
  cases hr : d.hardware[key]? with
  | none =>
    rw [hr] at h
    cases h
  | some r =>
    refine ⟨r, rfl, ?_⟩
    cases hc : r.completed with
    | false => rfl
    | true => simp [hr, HardwareRequest.bond, hc] at h

theorem bond_of_isOpen (h : d.isOpen key = true) : d.bond number key ≠ .ended := by
  obtain ⟨r, hr, hc⟩ := isOpen_eq_true_iff.1 h
  have own : d.bond number key = r.bond number := by simp [bond, hr]
  rw [own, HardwareRequest.bond, hc]
  by_cases hb : r.callback = some (.part number) <;> simp [hb]

theorem affairs_alterHardware_self {part : HardwareRequest}
    {f : HardwareRequest → HardwareRequest} (hp : d.hardware[key]? = some part)
    (hf : (f part).bond number = part.bond number) :
    (alterHardware key f d).affairs number = d.affairs number := by
  have own : d.bond number key = part.bond number := by simp [bond, hp]
  rw [affairs_alterHardware hp, Affairs.tie, hf, ← own]
  show Affairs.mk _ _ (Function.update (d.bond number) key (d.bond number key)) = _
  rw [Function.update_eq_self]
  rfl

theorem affairs_alterHardware_same (h : ∀ r, (f r).bond number = r.bond number) :
    (alterHardware key f d).affairs number = d.affairs number := by
  rw [affairs, bond_alterHardware_same h]
  rfl

theorem affairs_putRequest (q : Request) (h : (d.requests[other]?).isSome) :
    (putRequest other q d).affairs number =
      if other = number then { d.affairs number with request := some q } else d.affairs number := by
  have hlt : other < d.requests.size := by simpa using h
  by_cases ho : other = number
  · subst ho
    rw [if_pos rfl]
    simp only [affairs, putRequest, Array.getElem?_setIfInBounds, hlt]
    rfl
  · rw [if_neg ho]
    simp only [affairs, putRequest, Array.getElem?_setIfInBounds, ho]
    rfl

end Views

section Spared

theorem affairs_heedAll (marks : List Mark) (d : Driver S) :
    (heedAll marks d).affairs number = d.affairs number := by
  induction marks generalizing d with
  | nil => rfl
  | cons mark rest ih =>
    refine (ih (heed mark d)).trans ?_
    cases mark with
    | submitted key => exact affairs_alterHardware_same fun _ => HardwareRequest.bond_of_parts rfl rfl
    | activated key => exact affairs_alterHardware_same fun _ => HardwareRequest.bond_of_parts rfl rfl
    | consulted consultation => rfl
    | announced => rfl

theorem affairs_told {event : Event} (h : event.fired? = none) :
    Act.Spares (affairs (S := S) number) (tell event) := by
  apply Act.Spares.modify
  intro d
  simp only [affairs, dones, fired, List.filterMap_cons_none h]
  rfl

theorem affairs_addHardware {r : HardwareRequest} (h : r.bond number = .free) :
    Act.Spares (affairs (S := S) number) (addHardware r) := by
  intro d
  show Affairs.mk _ _ _ = Affairs.mk _ _ _
  congr 1
  funext key
  show ((d.hardware.push r)[key]?.map _).getD _ = _
  rw [Array.getElem?_push]
  split
  · rename_i hk
    simp [bond, hk, h]
  · rfl

variable [Dispatcher S]

theorem affairs_submitHardware (key : Nat) :
    Act.Spares (affairs (S := S) number) (submitHardware key) := by
  apply Act.Spares.read.bind
  intro d
  cases d.hardware[key]? with
  | none => exact Act.Spares.value _
  | some r => exact fun e => affairs_heedAll _ _

theorem affairs_followUp (plans : List HardwareRequest.Plan) (executable : Executable) :
    Act.Spares (affairs (S := S) number) (followUp plans executable) := by
  cases plans with
  | nil => exact Act.Spares.value _
  | cons plan rest =>
    apply (affairs_addHardware (by simp [HardwareRequest.bond, HardwareRequest.ofPlan,
      HardwareRequest.new])).bind
    intro key
    exact (affairs_submitHardware key).attempt.bind fun outcome => affairs_told rfl

end Spared

section Told

theorem affairs_onRequest (f : Request → Option Status × Request) (d : Driver S) :
    ∃ e, onRequest other f d = (.ok (), e) ∧
      e.affairs number = if other = number then (d.affairs number).tell f else d.affairs number := by
  simp only [onRequest, Act.bind_apply, Act.read_apply]
  cases hr : d.requests[other]? with
  | none =>
    refine ⟨d, rfl, ?_⟩
    split
    · rename_i ho
      simp [Affairs.tell, affairs, ← ho, hr]
    · rfl
  | some r =>
    have put : (putRequest other (f r).2 d).affairs number = _ :=
      affairs_putRequest _ (Option.isSome_of_eq_some hr)
    simp only [conclude, Act.bind_apply, Act.modify_apply]
    cases hf : (f r).1 with
    | none =>
      refine ⟨_, rfl, put.trans ?_⟩
      by_cases ho : other = number
      · subst ho
        simp [Affairs.tell, affairs, hr, hf]
      · simp [ho]
    | some status =>
      refine ⟨(tell (.requestDone other (f r).2.id status) (putRequest other (f r).2 d)).2, rfl, ?_⟩
      have logged : (tell (.requestDone other (f r).2.id status)
          (putRequest other (f r).2 d)).2.affairs number =
          { (putRequest other (f r).2 d).affairs number with
            dones := d.dones number ++ if other = number then [status] else [] } := by
        by_cases ho : other = number <;>
          simp [affairs, dones, tell, fired, putRequest, Event.fired?, ho] <;> rfl
      rw [logged, put]
      by_cases ho : other = number
      · subst ho
        simp [Affairs.tell, affairs, hr, hf]
      · simp [ho, affairs]

end Told

section Completions

variable [Dispatcher S]

theorem runCallback_cases (number key : Nat) (r : HardwareRequest) (status : Status)
    (d : Driver S) :
    (r.callback ≠ some (.part number) ∧
      (runCallback key r status d).2.affairs number = d.affairs number) ∨
    (r.callback = some (.part number) ∧ (runCallback key r status d).2.affairs number =
      (d.affairs number).tell fun whole => whole.partDone r.complete.stamps status) := by
  cases hb : r.callback with
  | none => exact .inl ⟨by simp, by simp [runCallback, hb]⟩
  | some callback =>
    cases callback with
    | report plans =>
      refine .inl ⟨by simp, ?_⟩
      simp only [runCallback, hb]
      exact ((affairs_told rfl).bind fun _ => affairs_followUp plans r.executable) d
    | part other =>
      obtain ⟨e, he, told⟩ := affairs_onRequest (fun whole => whole.partDone r.complete.stamps status)
        { d with reports := ⟨other, status⟩ :: d.reports }
      have ran : (runCallback key r status d).2 = e := by
        simp only [runCallback, hb, noteReport, Act.bind_apply, Act.modify_apply]
        exact congrArg Prod.snd he
      rw [ran, told]
      by_cases ho : other = number
      · subst ho
        exact .inr ⟨rfl, by rw [if_pos rfl]; rfl⟩
      · exact .inl ⟨by simp [ho], by rw [if_neg ho]; rfl⟩

/-- What completes for the first time has ended, and tells the request if it was bound to. -/
theorem completeHardware_cases (number key : Nat) (status : Status) (d : Driver S) :
    (d.isOpen key = false ∧ (completeHardware key status d).2 = d) ∨
    d.isOpen key = true ∧
      ((d.bond number key = .free ∧ (completeHardware key status d).2.affairs number =
          (d.affairs number).tie key .ended) ∨
        (d.bond number key = .bound ∧ ∃ stamps, (completeHardware key status d).2.affairs number =
          ((d.affairs number).tie key .ended).tell fun r => r.partDone stamps status)) := by
  cases hr : d.hardware[key]? with
  | none => exact .inl ⟨by simp [isOpen, hr], by simp [completeHardware, Act.bind_apply, hr]⟩
  | some r =>
    cases hc : r.completed with
    | true =>
      exact .inl ⟨by simp [isOpen, hr, hc], by simp [completeHardware, Act.bind_apply, hr, hc]⟩
    | false =>
      have ran : (completeHardware key status d).2 =
          (runCallback key r status (alterHardware key HardwareRequest.complete d)).2 := by
        simp [completeHardware, Act.bind_apply, hr, hc]
      have ended : (alterHardware key HardwareRequest.complete d).affairs number =
          (d.affairs number).tie key .ended := affairs_alterHardware hr
      have own : d.bond number key = if r.callback = some (.part number) then .bound else .free := by
        simp [bond, hr, HardwareRequest.bond, hc]
      refine .inr ⟨isOpen_eq_true_iff.2 ⟨r, hr, hc⟩, ?_⟩
      rw [ran, own]
      rcases runCallback_cases number key r status (alterHardware key HardwareRequest.complete d)
        with ⟨hb, h⟩ | ⟨hb, h⟩
      · exact .inl ⟨if_neg hb, h.trans ended⟩
      · exact .inr ⟨if_pos hb, _, by rw [h, ended]⟩

end Completions

end Driver

/-- A part that is not refused was free to become one. -/
theorem Request.free_of_prepareBatch {number : Nat} {r : Request} {part : HardwareRequest}
    (h : ∀ cause, (prepareBatch number (r, part)).1 ≠ .error (.refusal cause)) :
    part.completed = false ∧ part.callback = none := by
  simp only [prepareBatch, Act.bind_apply, Act.read_apply, expect] at h
  by_cases hp : r.phase = .prepared
  · rw [if_pos hp] at h
    by_cases hm : r.prepared = r.required
    · rw [if_pos hm] at h
      exact absurd rfl (h _)
    · rw [if_neg hm] at h
      cases hc : part.setCallback (.part number) with
      | error cause =>
        rw [hc] at h
        exact absurd rfl (h cause)
      | ok claimed =>
        obtain ⟨hopen, hfree, -⟩ := HardwareRequest.setCallback_eq_ok_iff.1 hc
        exact ⟨hopen, hfree⟩
  · rw [if_neg hp] at h
    exact absurd rfl (h _)

theorem HardwareRequest.Change.bond_apply {change : Change} {r s : HardwareRequest} {number : Nat}
    (h : change.apply r = .ok s) : s.bond number = r.bond number := by
  cases change with
  | setBuffers direction layer buffers =>
    cases h
    cases direction <;> exact bond_of_parts rfl rfl
  | setReport plans =>
    obtain ⟨hopen, hfree, rfl⟩ := setCallback_eq_ok_iff.1 h
    rw [bond_eq_free hopen hfree]
    simp [bond, hopen]
  | _ =>
    cases h
    exact bond_of_parts rfl rfl

end TensorQueue
