import TensorQueue.Proofs.Driver.Bookkeeping
import TensorQueue.Proofs.Driver.Tally

/-!
# Cutting a request into parts

A part is prepared for its request and offered to the dispatcher. Once it has
been prepared it ends, whatever the dispatcher says: it is held, or it is
completed on the spot. The only part that may be left over is one for whose
batch there was no room, and then its request lacks a part for good. The done
callback of the request may be run on the way.
-/

set_option autoImplicit false

namespace TensorQueue

open Dispatcher Books

section Claims

variable {r : Request} {part : HardwareRequest} {number : Nat}

theorem HardwareRequest.claim_setBuffers (part : HardwareRequest) (direction : Direction)
    (layer : String) (buffers : List Buffer) :
    (part.setBuffers direction layer buffers).claim = part.claim := by
  cases direction <;> rfl

theorem Request.claim_fillLayers (r : Request) (direction : Direction) (part : HardwareRequest) :
    (r.fillLayers direction part).claim = part.claim := by
  unfold fillLayers
  induction r.executable.layers direction generalizing part with
  | nil => rfl
  | cons layer rest ih => exact (ih _).trans (HardwareRequest.claim_setBuffers _ _ _ _)

theorem HardwareRequest.setCallback_eq_ok_iff {callback : Callback} {claimed : HardwareRequest} :
    part.setCallback callback = .ok claimed ↔ part.completed = false ∧ part.callback = none ∧
      claimed = { part with callback := some callback } := by
  unfold setCallback
  cases hc : part.completed with
  | true => simp
  | false => cases hb : part.callback <;> simp [eq_comm]

theorem Request.reserveBatch_of_roomy {σ : Type} {r : Request} (h : r.executable.Roomy) (s : σ) :
    r.reserveBatch s = (.ok (), s) := by
  unfold reserveBatch
  split
  · rfl
  · rename_i layers
    apply Capacity.reserve_of_fits
    apply h.batch
    cases hi : r.executable.inputs with
    | cons layer rest =>
      rw [List.length_cons]
      omega
    | nil =>
      cases ho : r.executable.outputs with
      | cons layer rest => simp
      | nil => simp [hi, ho] at layers

theorem Request.reserveBatch_cases {σ : Type} (r : Request) (s : σ) :
    r.reserveBatch s = (.ok (), s) ∨
      ¬ r.executable.Roomy ∧ ∃ cause, r.reserveBatch s = (.error (.abort cause), s) := by
  by_cases roomy : r.executable.Roomy
  · exact .inl (reserveBatch_of_roomy roomy s)
  · unfold reserveBatch Capacity.reserve
    split
    · exact .inl rfl
    · split
      · exact .inl rfl
      · exact .inr ⟨roomy, _, rfl⟩

/-- A part that is free to become one is claimed before there is room for its batch. -/
theorem Request.prepareBatch_cases (number : Nat) (r : Request) (part : HardwareRequest) :
    (r.phase = .prepared ∧ r.prepared ≠ r.required ∧ part.claim = none ∧
      ∃ claimed : HardwareRequest, claimed.claim = some number ∧
        (prepareBatch number (r, part) =
            (.ok (), ({ r with prepared := r.prepared + 1 }, claimed)) ∨
          ¬ r.executable.Roomy ∧
            ∃ cause, prepareBatch number (r, part) = (.error (.abort cause), (r, claimed)))) ∨
      ((r.phase ≠ .prepared ∨ r.prepared = r.required ∨ ∃ cause,
          part.setCallback (.part number) = .error cause) ∧
        ∃ cause, prepareBatch number (r, part) = (.error (.refusal cause), (r, part))) := by
  simp only [prepareBatch, Act.bind_apply, Act.read_apply, expect]
  by_cases hp : r.phase = .prepared
  · rw [if_pos hp]
    by_cases hm : r.prepared = r.required
    · exact .inr ⟨.inr (.inl hm), _, by rw [if_pos hm]; rfl⟩
    · rw [if_neg hm]
      cases hc : part.setCallback (.part number) with
      | error cause => exact .inr ⟨.inr (.inr ⟨cause, rfl⟩), cause, rfl⟩
      | ok claimed =>
        obtain ⟨hopen, hfree, rfl⟩ := HardwareRequest.setCallback_eq_ok_iff.1 hc
        have unclaimed : part.claim = none := by simp [HardwareRequest.claim, hfree]
        left
        simp only [Act.settle, Act.bind_apply, Act.write_apply]
        rcases r.reserveBatch_cases (r, { part with callback := some (.part number) }) with
          hr | ⟨full, cause, hr⟩
        · refine ⟨hp, hm, unclaimed, _, ?_, .inl (by rw [hr])⟩
          rw [claim_fillLayers, claim_fillLayers]
          simp [HardwareRequest.claim, hopen]
        · refine ⟨hp, hm, unclaimed, _, ?_, .inr ⟨full, cause, by rw [hr]⟩⟩
          simp [HardwareRequest.claim, hopen]
  · exact .inr ⟨.inl hp, _, by rw [if_neg hp]; rfl⟩

end Claims

namespace Driver

variable {W : Type} {b : Books} {owed : List Nat} {d : Site W} {key number : Nat} {r : Request}
  {part : HardwareRequest}

theorem putRequest_self (h : d.requests[number]? = some r) : putRequest number r d = d := by
  rw [putRequest, setRequest_self h]

theorem alterHardware_self (h : d.hardware[key]? = some part) :
    alterHardware key (fun _ => part) d = d := by
  have same : d.hardware.modify key (fun _ => part) = d.hardware := by
    apply Array.ext_getElem?
    intro i
    rw [Array.getElem?_modify]
    by_cases hi : key = i
    · subst hi
      simp [h]
    · rw [if_neg hi]
  rw [alterHardware, same]

theorem prepareBatch_ends (number key : Nat) (d : Site W) : Act.Ends
    (fun _ e => (∀ owed, ∃ r, (d.books owed).Claimable key number r ∧
        e.books owed = (d.books owed).claim key number r) ∨
      (d.requests[number]? = none ∨ d.hardware[key]? = none) ∧ e = d)
    (fun e => e = d ∧ ∀ r part, d.requests[number]? = some r → d.hardware[key]? = some part →
      r.phase ≠ .prepared ∨ r.prepared = r.required ∨
        ∃ cause, part.setCallback (.part number) = .error cause)
    (fun e => ∀ owed, ∃ r, (d.books owed).Claimable key number r ∧ ¬ r.executable.Roomy ∧
      e.books owed = { d.books owed with claims := d.claims.set key (some number) })
    (prepareBatch number key d) := by
  unfold prepareBatch
  cases hr : d.requests[number]? with
  | none => exact .inr ⟨.inl rfl, rfl⟩
  | some r =>
    cases hp : d.hardware[key]? with
    | none => exact .inr ⟨.inr rfl, rfl⟩
    | some part =>
      rcases Request.prepareBatch_cases number r part with
        ⟨hphase, hm, hfree, claimed, hclaimed, h⟩ | ⟨hreason, cause, h⟩
      · have claimable : ∀ owed, (d.books owed).Claimable key number r := by
          intro owed
          refine ⟨hr, hphase, hm, ?_⟩
          simp [books, getElem?_claims, hp, hfree]
        have marked : ∀ s : Request, (alterHardware key (fun _ => claimed)
            (putRequest number s d)).claims = d.claims.set key (some number) := by
          intro s
          rw [← hclaimed]
          exact claims_alterHardware hp
        rcases h with h | ⟨full, cause, h⟩
        · simp only [h]
          left
          intro owed
          refine ⟨r, claimable owed, ?_⟩
          rw [books, marked]
          rfl
        · simp only [h]
          intro owed
          refine ⟨r, claimable owed, full, ?_⟩
          rw [books, marked]
          simp only [putRequest_self hr]
          rfl
      · simp only [h]
        constructor
        · rw [putRequest_self hr, alterHardware_self hp]
        · rintro _ _ ⟨⟩ ⟨⟩
          exact hreason

/-- One part more: it is prepared, or the request can have no more. -/
theorem preparePart_keeps {executable : Executable} {id : UInt64} :
    Act.Meets
      (fun d => Kept (W := W) b owed d ∧ d.hardware[key]? = some (.new id executable))
      (Act.attempt (prepareBatch number key))
      (fun outcome d => match outcome with
        | .ok _ => Kept b (key :: owed) d
        | .error _ => Kept b owed d ∧ (d.books owed).Spent number)
      (fun _ => False) (Broken b) := by
  apply Act.Meets.attempt
  rintro d ⟨hd, hnew⟩
  apply (prepareBatch_ends number key d).weaken
  · rintro _ e (he | ⟨-, rfl⟩)
    · obtain ⟨r, hr, he⟩ := he (key :: owed)
      rw [Kept, he]
      exact (hd.owe key).post (.claim hr List.mem_cons_self)
    · exact hd.owe key
  · rintro e ⟨rfl, hreason⟩ cause
    refine ⟨hd, fun r hr => ?_⟩
    rcases hreason r _ hr hnew with hp | hm | ⟨cause, hc⟩
    · exact .inl hp
    · exact .inr hm
    · cases hc
  · intro e he
    obtain ⟨r, hr, full, he⟩ := he owed
    refine ⟨owed, d.books owed, hd, ?_⟩
    rw [he]
    exact .overclaimed hr full

theorem verdict_keeps (accepted : Nat) (failure : Option Error) :
    Act.Meets (Kept b owed) (verdict accepted failure) (fun _ => Kept (W := W) b owed)
      (Kept b owed) (Broken b) := by
  cases failure with
  | none => exact Act.Meets.value fun _ hd => hd
  | some cause => exact Act.Meets.refuse fun _ hd => hd

theorem takeId_keeps : Act.Meets (Kept b owed) (takeId : Act (Site W) UInt64) (fun _ => Kept b owed)
    (Kept b owed) (Broken b) := fun _ hd => hd

variable [DoneCallbacks (RealTime (Scheduler W))] (hc : Heedful W)

include hc

/-- Who lacks no part is told nothing of parts that were not prepared. -/
theorem abandon_keeps (cause : Error) :
    Act.Meets (fun d => Kept b owed d ∧ (d.books owed).Spent number)
      (onRequest number fun whole => whole.failUnprepared cause)
      (fun _ => Kept (W := W) b owed) (fun _ => False) (Broken b) := by
  rintro d ⟨hd, hspent⟩
  apply onRequest_ends hc
  intro e hbooks
  apply hd.of_books
  rw [hbooks]
  apply tell_of_same
  intro r hr
  exact Request.failUnprepared_of_spent cause (hspent r hr)

variable [Watchdog W]

theorem offerPart_keeps (failure : Option Error) :
    Act.Meets (Kept b (key :: owed)) (offerPart key failure) (fun _ => Kept (W := W) b owed)
      (fun _ => False) (Broken b) := by
  cases failure with
  | some cause =>
    apply (completeHardware_keeps hc _).bind
    intro _
    exact Act.Meets.value fun _ hd => hd
  | none =>
    have tried : Act.Meets (Kept b (key :: owed)) (Act.attempt (submitHardware key))
        (fun outcome => Kept (W := W) b (if outcome.isOk then owed else key :: owed))
        (fun _ => False) (Broken b) :=
      Act.Meets.attempt (submitHardware_keeps.weaken (fun _ _ hd => hd) (fun _ hd _ => hd)
        fun _ hd => hd)
    apply tried.bind
    rintro (cause | _)
    · apply (completeHardware_keeps hc _).bind
      intro _
      exact Act.Meets.value fun _ hd => hd
    · exact Act.Meets.value fun _ hd => hd

theorem submitParts_keeps (more accepted : Nat) (failure : Option Error) :
    Keeps (W := W) b (submitParts number accepted failure more) := by
  intro owed
  induction more generalizing accepted failure with
  | zero => exact verdict_keeps accepted failure
  | succ more ih =>
    unfold submitParts
    apply Act.Meets.read
    intro d hd
    cases hr : d.requests[number]? with
    | none => exact verdict_keeps accepted failure d hd
    | some r =>
      by_cases hz : r.remaining = 0
      · simp only [hz, if_true]
        exact verdict_keeps accepted failure d hd
      · simp only [hz, if_false]
        apply (takeId_keeps.bind fun id => ?_) d hd
        apply (addHardware_keeps (r := .new id r.executable) rfl).of_unrefused.bind
        intro key
        apply preparePart_keeps.of_unrefused.bind
        rintro (cause | _)
        · apply (abandon_keeps hc cause).of_unrefused.bind
          intro _
          exact Act.Meets.refuse fun _ he => he
        · apply (offerPart_keeps hc failure).of_unrefused.bind
          intro failure
          exact ih _ failure

/-- Submitting a request is posting only, unless a part is left over without room for its batch. -/
theorem submitRequest_keeps (number : Nat) : Keeps (W := W) b (submitRequest number) := by
  intro owed
  unfold submitRequest
  apply Act.Meets.read
  intro d hd
  cases d.requests[number]? with
  | none => exact hd
  | some r =>
    by_cases hp : r.phase = .prepared
    · simp only [hp, if_true]
      exact submitParts_keeps hc _ 0 none owed d hd
    · simp only [hp, if_false]
      exact hd

end Driver

end TensorQueue
