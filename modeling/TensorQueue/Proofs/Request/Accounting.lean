import TensorQueue.Proofs.Request.Balance

/-!
# The account of a request adds up

However the errands on a request follow each other, what it counts as
outstanding are the hardware requests that were prepared for it and have not
completed, and the parts that it still lacks. Its done callback is fired when
nothing is outstanding any more, with the first failure that was heard of. A
hardware request for which there was no room is not counted, but it reports all
the same, so none of these may have completed.
-/

set_option autoImplicit false

namespace TensorQueue

namespace Dossier

variable {S : Type} {number : Nat} {d e : Dossier S} {errands : List Errand} {errand : Errand}
  {r : Request}

theorem balanced_begin (dispatcher : S) : ((begin dispatcher).account number).Balanced where
  apart := .nil
  known key hk := by cases hk
  bound key hk := by
    have free : ((begin dispatcher).account number).bond key = .free := rfl
    rw [free] at hk
    cases hk
  batch r hr := by cases hr
  silent _ := ⟨rfl, rfl, rfl, rfl⟩
  fresh r hr := by cases hr
  tally r hr := by cases hr

instance : Decidable d.Unspoilt := inferInstanceAs (Decidable (∀ key ∈ d.stray, _ = true))

theorem Unspoilt.account (h : d.Unspoilt) : (d.account number).Unspoilt :=
  fun key hk => Driver.bond_of_isOpen (h key hk)

/-- Of what was prepared just that is bound which has not completed. -/
theorem unfinished_account (h : (d.account number).Keyed) :
    (d.account number).unfinished = d.unfinished := by
  apply List.filter_congr
  intro key hk
  have known : d.driver.bond number key ≠ .free := h.known key (List.mem_append_left _ hk)
  show decide (d.driver.bond number key = .bound) = d.driver.isOpen key
  cases ho : d.driver.isOpen key with
  | true =>
    have unended : d.driver.bond number key ≠ .ended := Driver.bond_of_isOpen ho
    cases hb : d.driver.bond number key with
    | free => exact absurd hb known
    | bound => rfl
    | ended => exact absurd hb unended
  | false =>
    exact decide_eq_false fun hb => by
      rw [Driver.isOpen_of_bound hb] at ho
      cases ho

variable [Dispatcher S]

/-- What has not completed in the end had not before. -/
theorem unspoilt_of_run (h : ((run number errands d).account number).Unspoilt) :
    (d.account number).Unspoilt := by
  induction errands generalizing d with
  | nil => exact h
  | cons errand rest ih => exact (entered_note number errand d).unspoilt (ih h)

theorem balanced_run (h : (d.account number).Balanced)
    (hu : ((run number errands d).account number).Unspoilt) :
    ((run number errands d).account number).Balanced := by
  induction errands generalizing d with
  | nil => exact h
  | cons errand rest ih =>
    exact ih ((entered_note number errand d).balanced h (unspoilt_of_run hu)) hu

/-- Who reports to the request is outstanding, and the request is under way. -/
theorem reports_outstanding {key : Nat} {status : Status} (h : (d.account number).Balanced)
    (hu : (d.note number (.complete key status)).Unspoilt)
    (hb : d.driver.bond number key = .bound) (hr : d.driver.requests[number]? = some r) :
    0 < r.outstanding := by
  have entered := entered_note number (.complete key status) d
  have ended : ((d.note number (.complete key status)).account number).bond key = .ended := by
    rcases Driver.completeHardware_cases number key status d.driver with
      ⟨shut, -⟩ | ⟨-, ⟨free, -⟩ | ⟨-, stamps, told⟩⟩
    · rw [Driver.isOpen_of_bound hb] at shut
      cases shut
    · rw [hb] at free
      cases free
    · show (Driver.completeHardware key status d.driver).2.bond number key = .ended
      rw [show Driver.bond number _ = _ from congrArg Affairs.bond told, Account.bond_tell]
      exact Function.update_self ..
  have own : key ∈ d.prepared := h.mem_prepared hb fun hs =>
    hu.account key (entered.stray_subset hs) ended
  obtain ⟨q, hq, under⟩ := h.of_unfinished (List.mem_filter.2 ⟨own, decide_eq_true hb⟩)
  cases hr.symm.trans hq
  exact (h.underway hr under).2.2.1

/-- Whatever is done on requests and hardware requests, and in which order, a request only moves on.
What a prepared one counts as outstanding are the prepared parts that have not completed and those
that it lacks, so what is taken off is always there. Its done callback is fired by what leaves
nothing outstanding, with the first failure heard of until then, and never otherwise. -/
theorem adds_up {dispatcher : S} (hd : run number errands (begin dispatcher) = d)
    (he : d.note number errand = e) (hu : e.Unspoilt)
    (hr : d.driver.requests[number]? = some r) :
    ∃ q, e.driver.requests[number]? = some q ∧ r.phase.Onward q.phase ∧
      (r.phase ≠ .initial → 1 ≤ r.required ∧ r.prepared ≤ r.required ∧
        r.outstanding = d.unfinished.length + (r.required - r.prepared) ∧
        (r.phase = .done ↔ r.outstanding = 0)) ∧
      (∀ key status, errand = .complete key status → d.driver.bond number key = .bound →
        1 ≤ r.outstanding) ∧
      d.driver.dones number =
        (if r.phase = .done then [Status.firstFailure d.tidings] else []) ∧
      e.driver.dones number = d.driver.dones number ++
        if r.phase = .prepared ∧ q.outstanding = 0 then [Status.firstFailure e.tidings] else [] := by
  subst he
  have entered := entered_note number errand d
  have balanced : (d.account number).Balanced := by
    have before := entered.unspoilt hu.account
    rw [← hd] at before ⊢
    exact balanced_run (balanced_begin dispatcher) before
  obtain ⟨q, hq, onward⟩ := entered.onward hr
  refine ⟨q, hq, onward, fun begun => ?_, ?_, balanced.dones_eq hr,
    entered.fires balanced hu.account hr hq⟩
  · obtain ⟨tally, course⟩ := balanced.tally r hr begun
    refine ⟨tally.required, tally.bounded, ?_, course.done_iff⟩
    rw [← unfinished_account balanced.toKeyed]
    exact tally.outstanding
  · rintro key status rfl hb
    exact reports_outstanding balanced hu hb hr

section GivenUp

/-- Of three parts two are prepared. One of them completes, and the third is given up. -/
def givenUp : List Errand :=
  [.newRequest 1 Rig.narrow, .changeRequest 0 (.addBuffer .input "in" (.host 0 64)),
    .changeRequest 0 (.addBuffer .input "in" (.host 64 64)),
    .changeRequest 0 (.addBuffer .input "in" (.host 128 64)), .changeRequest 0 .setDone,
    .changeRequest 0 .prepare, .newHardware 1 Rig.narrow, .newHardware 2 Rig.narrow,
    .prepareBatch 0 0, .prepareBatch 0 0, .prepareBatch 0 1, .complete 0 .ok,
    .failUnprepared 0 .queueNotOpen, .complete 0 (.failed .queueNotOpen)]

/-- The completion of the other one fires the callback with why the third was given up. -/
theorem given_up_adds_up : ∃ (d e : Dossier (Scheduler Watchdog.Idle)) (r : Request),
    run 0 givenUp (begin (Scheduler.new ⟨⟩)) = d ∧
    d.note 0 (.complete 1 (.failed (.hardwareRequestCancelled 2))) = e ∧ e.Unspoilt ∧
    d.driver.requests[0]? = some r ∧ r.phase = .prepared ∧ d.prepared = [0, 1] ∧
    d.driver.dones 0 = [] ∧ 1 ≤ r.outstanding ∧ e.driver.dones 0 = [.failed .queueNotOpen] := by
  obtain ⟨d, hd⟩ : ∃ d, run 0 givenUp (begin (Scheduler.new (⟨⟩ : Watchdog.Idle))) = d := ⟨_, rfl⟩
  obtain ⟨e, he⟩ : ∃ e, d.note 0 (.complete 1 (.failed (.hardwareRequestCancelled 2))) = e :=
    ⟨_, rfl⟩
  have seen : (d.driver.requests[0]?.map fun r => (r.phase, r.outstanding)) = some (.prepared, 1) ∧
      d.prepared = [0, 1] ∧ d.driver.bond 0 1 = .bound ∧ e.Unspoilt ∧
      e.tidings = [.ok, .failed .queueNotOpen, .failed (.hardwareRequestCancelled 2)] ∧
      (e.driver.requests[0]?.map Request.outstanding) = some 0 := by
    subst he hd
    decide +kernel
  obtain ⟨before, prepared, bound, unspoilt, tidings, after⟩ := seen
  obtain ⟨r, hr, course⟩ := Option.map_eq_some_iff.1 before
  obtain ⟨phase, -⟩ := Prod.mk.inj course
  obtain ⟨q, hq, -, -, reports, silent, fired⟩ := adds_up hd he unspoilt hr
  rw [hq] at after
  have nothing : q.outstanding = 0 := Option.some.inj after
  rw [if_neg (by simp [phase])] at silent
  rw [silent, if_pos ⟨phase, nothing⟩, tidings] at fired
  exact ⟨d, e, r, hd, he, unspoilt, hr, phase, prepared, silent, reports 1 _ rfl bound, fired⟩

end GivenUp

end Dossier

end TensorQueue
