import TensorQueue.Proofs.Driver.Reckoning
import TensorQueue.Proofs.Request.Batches

/-!
# Submitting a request

A request is submitted part by part. The dispatcher is offered one part after
the other, until it refuses one: that one and those after it end at once, with
the error of the refusal. So at any time some parts are with the dispatcher and
some have ended, in this order, and the request has heard of those that have.
It is still prepared as long as a part is missing, so every part can be made.
-/

set_option autoImplicit false

namespace TensorQueue

open Dispatcher

namespace Driver

variable {S : Type} {number : Nat} {r q : Request} {d e : Driver S}

section Sheets

def ids (d : Driver S) : List UInt64 := d.hardware.toList.map HardwareRequest.id

/-- What is written down of requests and their parts, apart from stamps. -/
structure Sheet where
  requests : Array Request
  claims : List (Option Nat)
  ids : List UInt64
  reports : List Report
  fired : List (Nat × Status)
  nextPart : UInt64

def sheet (d : Driver S) : Sheet :=
  ⟨d.requests, d.claims, d.ids, d.reports, d.fired, d.nextPart⟩

theorem ids_alterHardware {key : Nat} {f : HardwareRequest → HardwareRequest}
    (h : ∀ r, (f r).id = r.id) : (alterHardware key f d).ids = d.ids := by
  apply List.ext_getElem?
  intro i
  simp only [ids, alterHardware, List.getElem?_map, Array.getElem?_toList, Array.getElem?_modify]
  split
  · simp [Function.comp_def, h]
  · rfl

theorem sheet_heedAll (marks : List Mark) (d : Driver S) : (heedAll marks d).sheet = d.sheet := by
  induction marks generalizing d with
  | nil => rfl
  | cons mark rest ih =>
    refine (ih (heed mark d)).trans ?_
    have stamped : ∀ key f, (∀ r : HardwareRequest, (f r).claim = r.claim) →
        (∀ r, (f r).id = r.id) → (alterHardware key f d).sheet = d.sheet := by
      intro key f hc hi
      simp only [sheet, claims_alterHardware_same hc, ids_alterHardware hi]
      rfl
    cases mark with
    | submitted key => exact stamped key _ (fun _ => rfl) fun _ => rfl
    | activated key => exact stamped key _ (fun _ => rfl) fun _ => rfl
    | consulted consultation => rfl
    | announced => rfl

theorem exists_of_claim {key : Nat} (h : d.claims[key]? = some (some number)) :
    ∃ part, d.hardware[key]? = some part ∧ part.completed = false ∧
      part.callback = some (.part number) := by
  rw [getElem?_claims, Option.map_eq_some_iff] at h
  obtain ⟨part, hp, hc⟩ := h
  refine ⟨part, hp, ?_⟩
  unfold HardwareRequest.claim at hc
  split at hc
  · cases hc
  · rename_i hopen
    split at hc
    · rename_i hb
      cases hc
      exact ⟨by simpa using hopen, hb⟩
    · cases hc

end Sheets

section Completions

theorem sheet_conclude (number : Nat) (outcome : Option Status × Request) (d : Driver S) :
    ∃ e, conclude number outcome d = (.ok (), e) ∧ e.dispatcher = d.dispatcher ∧
      e.sheet = { d.sheet with
        requests := d.requests.setIfInBounds number outcome.2
        fired := (outcome.1.map fun status => (number, status)).toList ++ d.fired } := by
  unfold conclude
  cases outcome.1 with
  | none => exact ⟨_, rfl, rfl, rfl⟩
  | some status => exact ⟨_, rfl, rfl, rfl⟩

variable [Dispatcher S]

/-- A part that completes has ended, and the request that it is a part of has heard of it. -/
theorem sheet_completeHardware {key : Nat} (hk : d.claims[key]? = some (some number))
    (hr : d.requests[number]? = some r) (status : Status) : ∃ stamps e,
    completeHardware key status d = (.ok (), e) ∧ e.dispatcher = d.dispatcher ∧
      e.sheet = { d.sheet with
        claims := d.claims.set key none
        reports := ⟨number, status⟩ :: d.reports
        requests := d.requests.setIfInBounds number (r.partDone stamps status).2
        fired := ((r.partDone stamps status).1.map fun status => (number, status)).toList ++
          d.fired } := by
  obtain ⟨part, hp, unfinished, callback⟩ := exists_of_claim hk
  obtain ⟨heard, hheard⟩ : ∃ heard, heard =
      { alterHardware key HardwareRequest.complete d with
        reports := ⟨number, status⟩ :: d.reports } := ⟨_, rfl⟩
  have claims : heard.claims = d.claims.set key none := by
    rw [hheard]
    exact claims_alterHardware hp
  have ids : heard.ids = d.ids := by
    rw [hheard]
    exact ids_alterHardware fun _ => rfl
  have sheet_heard : heard.sheet = { d.sheet with
      claims := d.claims.set key none
      reports := ⟨number, status⟩ :: d.reports } := by
    simp only [sheet, claims, ids]
    rw [hheard]
    rfl
  obtain ⟨e, he, dispatcher, concluded⟩ := sheet_conclude number
    (r.partDone part.complete.stamps status) heard
  refine ⟨part.complete.stamps, e, ?_, ?_, ?_⟩
  · rw [hheard] at he
    simp only [completeHardware, Act.bind_apply, Act.read_apply, hp, unfinished, Bool.false_eq_true,
      if_false, Act.write_apply, runCallback, callback, noteReport, Act.modify_apply, onRequest]
    simp only [alterHardware, hr] at he ⊢
    exact he
  · rw [dispatcher, hheard]
    rfl
  · rw [concluded, sheet_heard, hheard]
    rfl

end Completions

section Loop

variable [Dispatcher S]

/-- The submission of parts, with another way to go on when a part cannot be prepared. -/
def submitPartsOr (giveUp : Option Error → Error → Act (Driver S) Nat) (number accepted : Nat)
    (failure : Option Error) : Nat → Act (Driver S) Nat
  | 0 => verdict accepted failure
  | more + 1 => do
    let d ← Act.read
    match d.requests[number]? with
    | none => verdict accepted failure
    | some r =>
      if r.remaining = 0 then verdict accepted failure
      else
        let key ← addHardware (.new (← takeId) r.executable)
        match ← Act.attempt (prepareBatch number key) with
        | .error cause => giveUp failure cause
        | .ok () =>
          let failure ← offerPart key failure
          submitPartsOr giveUp number (if failure.isNone then accepted + 1 else accepted) failure
            more

/-- The way in which a submission goes on then. -/
def abandon (number : Nat) (failure : Option Error) (cause : Error) : Act (Driver S) Nat := do
  onRequest number fun whole => whole.failUnprepared cause
  Act.refuse (failure.getD cause)

theorem submitParts_eq (more accepted : Nat) (failure : Option Error) :
    submitParts (S := S) number accepted failure more =
      submitPartsOr (abandon number) number accepted failure more := by
  induction more generalizing accepted failure with
  | zero => rfl
  | succ more ih =>
    unfold submitPartsOr
    simp only [← ih]
    rfl

/-- The next part of this request is made and prepared. -/
def cutPart (number : Nat) (r : Request) (d : Driver S) : Driver S :=
  { d with
    hardware := d.hardware.push (r.nextBatch number d.nextPart)
    requests := d.requests.setIfInBounds number (r.past (r.prepared + 1))
    nextPart := d.nextPart + 1 }

theorem modify_push {α : Type} (xs : Array α) (x : α) (f : α → α) :
    (xs.push x).modify xs.size f = xs.push (f x) := by
  apply Array.ext_getElem?
  intro i
  rw [Array.getElem?_modify, Array.getElem?_push, Array.getElem?_push]
  by_cases hi : i = xs.size
  · simp [hi]
  · simp [hi, Ne.symm hi]

theorem submitPartsOr_succ {giveUp : Option Error → Error → Act (Driver S) Nat}
    (hr : d.requests[number]? = some r) (hp : r.phase = .prepared) (hm : r.remaining ≠ 0)
    (sound : r.executable.Sound) (roomy : r.executable.Roomy) (accepted more : Nat)
    (failure : Option Error) :
    submitPartsOr giveUp number accepted failure (more + 1) d =
      (offerPart d.hardware.size failure >>= fun failure => submitPartsOr giveUp number
        (if failure.isNone then accepted + 1 else accepted) failure more) (cutPart number r d) := by
  have lacking : r.prepared ≠ r.required := by
    intro h
    simp [Request.remaining, h] at hm
  have prepared : prepareBatch number d.hardware.size
      { d with
        nextPart := d.nextPart + 1
        hardware := d.hardware.push (.new d.nextPart r.executable) } =
      (.ok (), cutPart number r d) := by
    simp only [prepareBatch, hr, Array.getElem?_push_size,
      Request.prepareBatch_eq hp lacking roomy sound d.nextPart rfl]
    rw [alterHardware, putRequest, modify_push]
    rfl
  rw [submitPartsOr, Act.bind_of_ok (Act.read_apply d), hr]
  simp only [hm, if_false, takeId, addHardware, Act.bind_apply, Act.read_apply, Act.write_apply,
    Act.pure_apply, Act.attempt, prepared]

end Loop

section Course

variable {k l : Nat} {status : Status}

/-- The part of this place among those that a request still lacks. -/
def part (number : Nat) (r : Request) (d : Driver S) (i : Nat) : HardwareRequest :=
  (r.past (r.prepared + i)).nextBatch number (d.nextPart + .ofNat i)

/-- The part as it is offered to the dispatcher. -/
def offered (number : Nat) (r : Request) (d : Driver S) (i : Nat) : Offer :=
  ⟨ticket (d.hardware.size + i) (d.part number r i), (d.part number r i).descriptors⟩

/-- A request as it is left when so many more of its parts are with the dispatcher and so many
have ended. -/
structure Left (k l : Nat) (r q : Request) : Prop where
  executable : q.executable = r.executable
  required : q.required = r.required
  prepared : q.prepared = r.prepared + (k + l)
  outstanding : q.outstanding + l = r.outstanding
  underway : 0 < q.outstanding → q.phase = .prepared ∧ q.hasDone = true
  unheard : l = 0 → q = r.past (r.prepared + k)

/-- How far a submission has come: so many parts are with the dispatcher, and so many have ended
like this. The done callback has been fired if nothing is outstanding any more. -/
structure Disposed (number k l : Nat) (status : Status) (d e : Driver S) (r q : Request) :
    Prop where
  left : Left k l r q
  requests : e.requests = d.requests.setIfInBounds number q
  fired : e.fired = (if q.outstanding = 0 then [(number, q.status)] else []) ++ d.fired
  reports : e.reports = List.replicate l ⟨number, status⟩ ++ d.reports
  claims : e.claims = d.claims ++ (List.replicate k (some number) ++ List.replicate l none)
  ids : e.ids = d.ids ++ (List.range (k + l)).map fun i => d.nextPart + .ofNat i
  nextPart : e.nextPart = d.nextPart + .ofNat (k + l)

theorem Left.lose (h : Left k l r q) (some_left : 0 < q.outstanding) (stamps : Request.Stamps)
    (status : Status) : ∃ p, Left k (l + 1) r p ∧
      (q.past (q.prepared + 1)).partDone stamps status =
        (if p.outstanding = 0 then some p.status else none, p) := by
  obtain ⟨phase, callback⟩ := h.underway some_left
  have prepared := h.prepared
  have outstanding := h.outstanding
  obtain ⟨w, hw⟩ : ∃ w, w = { q.past (q.prepared + 1) with
    status := q.status.merge status
    stamps := q.stamps.absorb stamps
    outstanding := q.outstanding - 1 } := ⟨_, rfl⟩
  have told : (q.past (q.prepared + 1)).partDone stamps status = w.takeDone := by
    rw [hw]
    rfl
  have heard : w.prepared = r.prepared + (k + (l + 1)) ∧
      w.outstanding + (l + 1) = r.outstanding := by
    rw [hw]
    constructor
    · show q.prepared + 1 = _
      omega
    · show q.outstanding - 1 + (l + 1) = _
      omega
  have same : w.executable = r.executable ∧ w.required = r.required ∧ w.phase = .prepared ∧
      w.hasDone = true := by
    rw [hw]
    exact ⟨h.executable, h.required, phase, callback⟩
  obtain ⟨executable, required, phase, callback⟩ := same
  rw [told]
  rcases Request.takeDone_cases w with ⟨ht, more⟩ | ⟨none_left, -, ht⟩
  · have more : w.outstanding ≠ 0 := more.resolve_right fun hn => hn phase
    refine ⟨w, ⟨executable, required, heard.1, heard.2, fun _ => ⟨phase, callback⟩, nofun⟩, ?_⟩
    rw [ht, if_neg more]
  · refine ⟨w.takeDone.2, ?_, ?_⟩
    · rw [ht]
      refine ⟨executable, required, heard.1, heard.2, fun some_left => ?_, nofun⟩
      exact absurd none_left (Nat.ne_of_gt some_left)
    · rw [ht, if_pos callback, if_pos none_left]

theorem Left.accept (h : Left k 0 r q) : Left (k + 1) 0 r (q.past (q.prepared + 1)) := by
  have prepared := h.prepared
  refine ⟨h.executable, h.required, ?_, h.outstanding, h.underway, fun _ => ?_⟩
  · show q.prepared + 1 = r.prepared + (k + 1 + 0)
    omega
  · rw [h.unheard rfl]
    rfl

theorem ids_succ (first : UInt64) (n : Nat) :
    ((List.range (n + 1)).map fun i => first + .ofNat i) =
      ((List.range n).map fun i => first + .ofNat i) ++ [first + .ofNat n] := by
  rw [List.range_succ, List.map_append, List.map_singleton]

theorem next_id (first : UInt64) (n : Nat) :
    first + UInt64.ofNat n + 1 = first + .ofNat (n + 1) := by
  rw [UInt64.ofNat_add, UInt64.add_assoc]
  rfl

/-- What a part leaves on the sheet once it is prepared. -/
theorem sheet_cutPart (number : Nat) (q : Request) (e : Driver S) : (cutPart number q e).sheet =
    { e.sheet with
      requests := e.requests.setIfInBounds number (q.past (q.prepared + 1))
      claims := e.claims ++ [some number]
      ids := e.ids ++ [e.nextPart]
      nextPart := e.nextPart + 1 } := by
  simp only [sheet, cutPart, claims, ids, Array.toList_push, List.map_append, List.map_singleton]
  rfl

theorem length_claims (d : Driver S) : d.claims.length = d.hardware.size := by simp [claims]

variable {c f : Driver S}

/-- One part more is with the dispatcher. -/
theorem Disposed.accept (h : Disposed number k 0 status d e r q)
    (hf : f.sheet = (cutPart number q e).sheet) :
    Disposed number (k + 1) 0 status d f r (q.past (q.prepared + 1)) := by
  rw [sheet_cutPart] at hf
  simp only [sheet, Sheet.mk.injEq] at hf
  obtain ⟨requests, claims, ids, reports, fired, nextPart⟩ := hf
  refine ⟨h.left.accept, ?_, ?_, ?_, ?_, ?_, ?_⟩
  · rw [requests, h.requests, Array.setIfInBounds_setIfInBounds]
  · rw [fired, h.fired]
    rfl
  · rw [reports, h.reports]
  · rw [claims, h.claims, List.replicate_succ']
    simp
  · rw [ids, h.ids, h.nextPart, List.append_assoc, ← ids_succ]
  · rw [nextPart, h.nextPart]
    exact next_id _ _

/-- One part more has ended, and the request has heard of it. -/
theorem Disposed.lose (h : Disposed number k l status d e r q) (hq : 0 < q.outstanding)
    (hc : c.sheet = (cutPart number q e).sheet) {stamps : Request.Stamps}
    (hf : f.sheet = { c.sheet with
      claims := c.claims.set e.hardware.size none
      reports := ⟨number, status⟩ :: c.reports
      requests := c.requests.setIfInBounds number
        ((q.past (q.prepared + 1)).partDone stamps status).2
      fired := (((q.past (q.prepared + 1)).partDone stamps status).1.map
        fun status => (number, status)).toList ++ c.fired }) :
    ∃ p, Disposed number k (l + 1) status d f r p := by
  obtain ⟨p, left, told⟩ := h.left.lose hq stamps status
  rw [sheet_cutPart] at hc
  simp only [sheet, Sheet.mk.injEq] at hf hc
  obtain ⟨requests, claims, ids, reports, fired, nextPart⟩ := hf
  obtain ⟨cut_requests, cut_claims, cut_ids, cut_reports, cut_fired, cut_nextPart⟩ := hc
  refine ⟨p, left, ?_, ?_, ?_, ?_, ?_, ?_⟩
  · rw [requests, told, cut_requests, h.requests, Array.setIfInBounds_setIfInBounds,
      Array.setIfInBounds_setIfInBounds]
  · rw [fired, told, cut_fired, h.fired, if_neg (Nat.ne_of_gt hq)]
    by_cases none_left : p.outstanding = 0 <;> simp [none_left]
  · rw [reports, cut_reports, h.reports, List.replicate_succ]
    rfl
  · have last : (e.claims ++ [some number]).set e.hardware.size none = e.claims ++ [none] := by
      rw [← length_claims, List.set_append_right _ _ (Nat.le_refl _), Nat.sub_self]
      rfl
    rw [claims, cut_claims, last, h.claims, List.append_assoc, List.append_assoc,
      List.replicate_succ']
  · rw [ids, cut_ids, h.ids, h.nextPart, List.append_assoc, ← ids_succ]
    rfl
  · rw [nextPart, cut_nextPart, h.nextPart]
    exact next_id _ _

/-- How those that have ended did does not matter as long as there are none. -/
theorem Disposed.restate (h : Disposed number k 0 status d e r q) (other : Status) :
    Disposed number k 0 other d e r q :=
  ⟨h.left, h.requests, h.fired, h.reports, h.claims, h.ids, h.nextPart⟩

/-- A prepared request that counts right, with room for its batches. -/
structure Submittable (number : Nat) (d : Driver S) (r : Request) : Prop where
  request : d.requests[number]? = some r
  phase : r.phase = .prepared
  callback : r.hasDone = true
  bounded : r.prepared ≤ r.required
  positive : 0 < r.outstanding
  enough : r.remaining ≤ r.outstanding
  sound : r.executable.Sound
  roomy : r.executable.Roomy

theorem Submittable.disposed (h : Submittable number d r) (status : Status) :
    Disposed number 0 0 status d d r r where
  left := ⟨rfl, rfl, rfl, rfl, fun _ => ⟨h.phase, h.callback⟩, fun _ => rfl⟩
  requests := (Books.setRequest_self h.request).symm
  fired := by rw [if_neg (Nat.ne_of_gt h.positive), List.nil_append]
  reports := rfl
  claims := (List.append_nil _).symm
  ids := (List.append_nil _).symm
  nextPart := (UInt64.add_zero _).symm

theorem Disposed.request (h : Disposed number k l status d e r q)
    (hr : d.requests[number]? = some r) : e.requests[number]? = some q := by
  have bound : number < d.requests.size := (Array.getElem?_eq_some_iff.1 hr).1
  rw [h.requests, Array.getElem?_setIfInBounds_self_of_lt bound]

theorem Disposed.size (h : Disposed number k l status d e r q) :
    e.hardware.size = d.hardware.size + (k + l) := by
  have claims := congrArg List.length h.claims
  simpa [length_claims] using claims

/-- As long as a part is missing the request counts it, so it has not ended. -/
theorem Disposed.some_left (h : Disposed number k l status d e r q) (hs : Submittable number d r)
    (missing : k + l < r.remaining) : 0 < q.outstanding := by
  have outstanding := h.left.outstanding
  have enough := hs.enough
  omega

theorem Disposed.missing (h : Disposed number k l status d e r q)
    (missing : k + l < r.remaining) : q.remaining ≠ 0 := by
  rw [Request.remaining] at missing ⊢
  rw [h.left.required, h.left.prepared]
  omega

/-- Once all parts are accounted for, none is missing. -/
theorem Disposed.remaining (h : Disposed number k l status d e r q) (hs : Submittable number d r)
    (all : k + l = r.remaining) : q.remaining = 0 := by
  have bounded := hs.bounded
  rw [Request.remaining] at all ⊢
  rw [h.left.required, h.left.prepared]
  omega

/-- Before the first refusal the parts are those that the request lacks, in order. -/
theorem Disposed.offers (h : Disposed number k 0 status d e r q) :
    (⟨ticket e.hardware.size (q.nextBatch number e.nextPart),
      (q.nextBatch number e.nextPart).descriptors⟩ : Offer) = d.offered number r k := by
  rw [h.size, h.left.unheard rfl, h.nextPart]
  rfl

end Course

section Offers

variable {k l : Nat} {status : Status} {cause : Error} {f : Driver S} {s t : S}

theorem dispatcher_heedAll (marks : List Mark) (d : Driver S) :
    (heedAll marks d).dispatcher = d.dispatcher := by
  induction marks generalizing d with
  | nil => rfl
  | cons mark rest ih =>
    refine (ih (heed mark d)).trans ?_
    cases mark <;> rfl

theorem getElem?_cutPart (number : Nat) (q : Request) (e : Driver S) :
    (cutPart number q e).hardware[e.hardware.size]? = some (q.nextBatch number e.nextPart) := by
  simp [cutPart]

variable [Dispatcher S]

/-- An offer changes the dispatcher and stamps, and is answered by the dispatcher. -/
theorem submitHardware_apply {key : Nat} {part : HardwareRequest}
    (hk : d.hardware[key]? = some part) {outcome : Except Fault Unit}
    (h : Dispatcher.submit ⟨ticket key part, part.descriptors⟩ d.dispatcher = (outcome, s)) :
    ∃ e, submitHardware key d = (outcome, e) ∧ e.dispatcher = (takeMarks s).2 ∧
      e.sheet = d.sheet := by
  refine ⟨collect { d with dispatcher := s }, ?_, ?_, ?_⟩
  · rw [submitHardware, Act.bind_of_ok (Act.read_apply d), hk]
    simp only [perform, Act.closing, Act.within, h]
  · exact dispatcher_heedAll _ _
  · exact sheet_heedAll _ _

theorem offerPart_accepted (h : Disposed number k 0 status d e r q)
    (ht : Dispatcher.submit (d.offered number r k) e.dispatcher = (.ok (), t)) : ∃ f p,
    offerPart e.hardware.size none (cutPart number q e) = (.ok none, f) ∧
      f.dispatcher = (takeMarks t).2 ∧ Disposed number (k + 1) 0 status d f r p := by
  rw [← h.offers] at ht
  obtain ⟨f, hf, dispatcher, sheet⟩ := submitHardware_apply (getElem?_cutPart number q e) ht
  refine ⟨f, _, ?_, dispatcher, h.accept sheet⟩
  simp only [offerPart, Act.bind_apply, Act.attempt, hf]
  rfl

/-- A part that has been prepared and is not with the dispatcher is completed. -/
theorem completeHardware_lost (h : Disposed number k l status d e r q)
    (hr : d.requests[number]? = some r) (hq : 0 < q.outstanding)
    (hf : f.sheet = (cutPart number q e).sheet) : ∃ g p,
    completeHardware e.hardware.size status f = (.ok (), g) ∧ g.dispatcher = f.dispatcher ∧
      Disposed number k (l + 1) status d g r p := by
  have cut := hf.trans (sheet_cutPart number q e)
  have claims : f.claims[e.hardware.size]? = some (some number) := by
    rw [show f.claims = _ from congrArg Sheet.claims cut, ← length_claims]
    exact List.getElem?_concat_length
  have request : f.requests[number]? = some (q.past (q.prepared + 1)) := by
    have bound : number < e.requests.size := (Array.getElem?_eq_some_iff.1 (h.request hr)).1
    rw [show f.requests = _ from congrArg Sheet.requests cut]
    exact Array.getElem?_setIfInBounds_self_of_lt bound
  obtain ⟨stamps, g, hg, dispatcher, sheet⟩ := sheet_completeHardware claims request status
  obtain ⟨p, lost⟩ := h.lose hq hf sheet
  exact ⟨g, p, hg, dispatcher, lost⟩

theorem offerPart_refused (h : Disposed number k 0 status d e r q)
    (hr : d.requests[number]? = some r) (hq : 0 < q.outstanding)
    (ht : Dispatcher.submit (d.offered number r k) e.dispatcher =
      (.error (.refusal cause), t)) : ∃ f p,
    offerPart e.hardware.size none (cutPart number q e) = (.ok (some cause), f) ∧
      f.dispatcher = (takeMarks t).2 ∧ Disposed number k 1 (.failed cause) d f r p := by
  rw [← h.offers] at ht
  obtain ⟨f, hf, dispatcher, sheet⟩ := submitHardware_apply (getElem?_cutPart number q e) ht
  obtain ⟨g, p, hg, kept, lost⟩ :=
    completeHardware_lost (h.restate (.failed cause)) hr hq sheet
  refine ⟨g, p, ?_, kept.trans dispatcher, lost⟩
  simp only [offerPart, Act.bind_apply, Act.attempt, hf, hg]
  rfl

theorem offerPart_aborted {abort : Abort} (h : Disposed number k 0 status d e r q)
    (ht : Dispatcher.submit (d.offered number r k) e.dispatcher = (.error (.abort abort), t)) :
    ∃ f, offerPart e.hardware.size none (cutPart number q e) = (.error (.abort abort), f) := by
  rw [← h.offers] at ht
  obtain ⟨f, hf, -⟩ := submitHardware_apply (getElem?_cutPart number q e) ht
  refine ⟨f, ?_⟩
  simp only [offerPart, Act.bind_apply, Act.attempt, hf]

/-- After the first refusal no part is offered any more. -/
theorem offerPart_after (h : Disposed number k l (.failed cause) d e r q)
    (hr : d.requests[number]? = some r) (hq : 0 < q.outstanding) : ∃ f p,
    offerPart e.hardware.size (some cause) (cutPart number q e) = (.ok (some cause), f) ∧
      f.dispatcher = e.dispatcher ∧ Disposed number k (l + 1) (.failed cause) d f r p := by
  obtain ⟨f, p, hf, kept, lost⟩ := completeHardware_lost h hr hq rfl
  refine ⟨f, p, ?_, kept, lost⟩
  simp only [offerPart, Act.bind_of_ok hf]
  rfl

end Offers

section Runs

variable [Dispatcher S] {k l : Nat} {status : Status} {cause : Error} {f : Driver S} {s t : S}
  (giveUp : Option Error → Error → Act (Driver S) Nat)

/-- The dispatcher takes these offers one after the other. Its marks are taken after each. -/
inductive Accepts : S → List Offer → S → Prop
  | nothing (s : S) : Accepts s [] s
  | next {s t u : S} {offer : Offer} {rest : List Offer} : Dispatcher.submit offer s = (.ok (), t) →
      Accepts (takeMarks t).2 rest u → Accepts s (offer :: rest) u

/-- One turn of the submission, as long as a part is missing. -/
theorem submitPartsOr_turn (h : Disposed number k l status d e r q) (hs : Submittable number d r)
    (missing : k + l < r.remaining) (accepted more : Nat) (failure : Option Error) :
    submitPartsOr giveUp number accepted failure (more + 1) e =
      (offerPart e.hardware.size failure >>= fun failure => submitPartsOr giveUp number
        (if failure.isNone then accepted + 1 else accepted) failure more) (cutPart number q e) := by
  have sound : q.executable.Sound := by
    rw [h.left.executable]
    exact hs.sound
  have roomy : q.executable.Roomy := by
    rw [h.left.executable]
    exact hs.roomy
  exact submitPartsOr_succ (h.request hs.request) (h.left.underway (h.some_left hs missing)).1
    (h.missing missing) sound roomy accepted more failure

/-- As long as the dispatcher takes the offers the submission goes on. -/
theorem submitPartsOr_accepted (hs : Submittable number d r) (m rest : Nat)
    (h : Disposed number k 0 status d e r q) (missing : k + m ≤ r.remaining)
    (taken : Accepts e.dispatcher ((List.range' k m).map (d.offered number r)) s) : ∃ f p,
    submitPartsOr giveUp number k none (m + rest) e =
      submitPartsOr giveUp number (k + m) none rest f ∧
    f.dispatcher = s ∧ Disposed number (k + m) 0 status d f r p := by
  induction m generalizing k e q with
  | zero =>
    cases taken
    exact ⟨e, q, by rw [Nat.zero_add, Nat.add_zero], rfl, h⟩
  | succ m ih =>
    obtain _ | ⟨first, others⟩ := taken
    obtain ⟨f, p, hf, dispatcher, one_more⟩ := offerPart_accepted h first
    rw [← dispatcher] at others
    obtain ⟨g, w, hg, reached, all⟩ := ih one_more (by omega) others
    refine ⟨g, w, ?_, reached, ?_⟩
    · rw [Nat.add_right_comm m 1 rest, submitPartsOr_turn _ h hs (by omega), Act.bind_of_ok hf]
      exact hg.trans (by rw [Nat.add_right_comm k 1 m, Nat.add_assoc])
    · rwa [Nat.add_right_comm k 1 m] at all

/-- After the first refusal all parts that are missing end like the one that was refused. -/
theorem submitPartsOr_after (hs : Submittable number d r) (m accepted : Nat)
    (h : Disposed number k l (.failed cause) d e r q) (missing : k + l + m = r.remaining) :
    ∃ f p, submitPartsOr giveUp number accepted (some cause) m e =
        (.error (.refusal cause), f) ∧
      f.dispatcher = e.dispatcher ∧ Disposed number k (l + m) (.failed cause) d f r p := by
  induction m generalizing l e q with
  | zero => exact ⟨e, q, rfl, rfl, h⟩
  | succ m ih =>
    have some_missing : k + l < r.remaining := by omega
    obtain ⟨f, p, hf, dispatcher, one_more⟩ :=
      offerPart_after h hs.request (h.some_left hs some_missing)
    obtain ⟨g, w, hg, kept, all⟩ := ih one_more (by omega)
    refine ⟨g, w, ?_, kept.trans dispatcher, ?_⟩
    · rw [submitPartsOr_turn _ h hs some_missing, Act.bind_of_ok hf]
      exact hg
    · rwa [Nat.add_right_comm l 1 m] at all

/-- Every part that is missing can be prepared, whatever the dispatcher answers. -/
theorem submitPartsOr_congr (hs : Submittable number d r)
    (other : Option Error → Error → Act (Driver S) Nat) (m accepted : Nat)
    (failure : Option Error) (missing : k + l + m = r.remaining)
    (h : Disposed number k l status d e r q)
    (course : failure = none ∧ l = 0 ∨ ∃ cause, failure = some cause ∧ status = .failed cause) :
    submitPartsOr giveUp number accepted failure m e =
      submitPartsOr other number accepted failure m e := by
  induction m generalizing k l status accepted failure e q with
  | zero => rfl
  | succ m ih =>
    have some_missing : k + l < r.remaining := by omega
    rw [submitPartsOr_turn _ h hs some_missing, submitPartsOr_turn _ h hs some_missing]
    have some_left := h.some_left hs some_missing
    rcases course with ⟨rfl, rfl⟩ | ⟨cause, rfl, rfl⟩
    · rcases ht : Dispatcher.submit (d.offered number r k) e.dispatcher with ⟨fault | _, t⟩
      · cases fault with
        | refusal cause =>
          obtain ⟨f, p, hf, -, lost⟩ := offerPart_refused h hs.request some_left ht
          rw [Act.bind_of_ok hf, Act.bind_of_ok hf]
          exact ih _ _ (by omega) lost (.inr ⟨cause, rfl, rfl⟩)
        | abort abort =>
          obtain ⟨f, hf⟩ := offerPart_aborted h ht
          rw [Act.bind_of_error hf, Act.bind_of_error hf]
      · obtain ⟨f, p, hf, -, one_more⟩ := offerPart_accepted h ht
        rw [Act.bind_of_ok hf, Act.bind_of_ok hf]
        exact ih _ _ (by omega) one_more (.inl ⟨rfl, rfl⟩)
    · obtain ⟨f, p, hf, -, lost⟩ := offerPart_after h hs.request some_left
      rw [Act.bind_of_ok hf, Act.bind_of_ok hf]
      exact ih _ _ (by omega) lost (.inr ⟨cause, rfl, rfl⟩)

theorem submitRequest_eq (hs : Submittable number d r) :
    submitRequest number d = submitPartsOr (abandon number) number 0 none r.remaining d := by
  rw [submitRequest, Act.bind_of_ok (Act.read_apply d), hs.request]
  simp only [hs.phase, if_true]
  rw [submitParts_eq]

/-- Nothing is refused: all parts are with the dispatcher. -/
theorem submitRequest_accepted (hs : Submittable number d r)
    (taken : Accepts d.dispatcher ((List.range r.remaining).map (d.offered number r)) s) : ∃ e q,
    submitRequest number d = (.ok r.remaining, e) ∧ e.dispatcher = s ∧
      Disposed number r.remaining 0 .ok d e r q := by
  rw [List.range_eq_range'] at taken
  obtain ⟨e, q, he, dispatcher, all⟩ := submitPartsOr_accepted (abandon number) hs
    r.remaining 0 (hs.disposed .ok) (by omega) taken
  rw [Nat.zero_add] at he all
  exact ⟨e, q, (submitRequest_eq hs).trans he, dispatcher, all⟩

/-- One is refused: those before it are with the dispatcher, and the others have ended. -/
theorem submitRequest_refused (hs : Submittable number d r) (hk : k < r.remaining)
    (taken : Accepts d.dispatcher ((List.range k).map (d.offered number r)) s)
    (refused : Dispatcher.submit (d.offered number r k) s = (.error (.refusal cause), t)) :
    ∃ e q, submitRequest number d = (.error (.refusal cause), e) ∧
      e.dispatcher = (takeMarks t).2 ∧
      Disposed number k (r.remaining - k) (.failed cause) d e r q := by
  rw [List.range_eq_range'] at taken
  obtain ⟨rest, hrest⟩ : ∃ rest, r.remaining = k + (rest + 1) := ⟨r.remaining - k - 1, by omega⟩
  obtain ⟨e, q, he, dispatcher, before⟩ := submitPartsOr_accepted (abandon number) hs
    k (rest + 1) (hs.disposed .ok) (by omega) taken
  rw [Nat.zero_add] at he before
  rw [← dispatcher] at refused
  obtain ⟨f, p, hf, left, lost⟩ :=
    offerPart_refused before hs.request (before.some_left hs (by omega)) refused
  obtain ⟨g, w, hg, kept, all⟩ :=
    submitPartsOr_after (abandon number) hs rest k lost (by omega)
  refine ⟨g, w, ?_, kept.trans left, ?_⟩
  · rw [submitRequest_eq hs, hrest, he, submitPartsOr_turn _ before hs (by omega),
      Act.bind_of_ok hf]
    exact hg
  · rwa [hrest, Nat.add_sub_cancel_left, Nat.add_comm rest 1]

end Runs

end Driver

end TensorQueue
