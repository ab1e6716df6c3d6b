import TensorQueue.Proofs.Queue.Operations
import TensorQueue.Queue.Scheduler

/-!
# The watchdog has no say in the queue

What a supervised queue comes to in each call. The watchdog is told of it, but
its answers change nothing: a call that is not aborted gives the answer of the
queue alone and leaves the queue that it leaves. Only an abort of the watchdog,
or for a submission the want of room, may cut a call short, and then the queue
is one that the call passes through.
-/

set_option autoImplicit false

namespace TensorQueue.Scheduler

open Dispatcher

variable {W : Type}

theorem consult_cases {α : Type} (act : Act W α) (s : Scheduler W) :
    (∃ answer w, consult act s = (.ok answer, { s with watchdog := w })) ∨
      ∃ cause w, consult act s = (.error (.abort cause), { s with watchdog := w }) := by
  simp only [consult, Act.bind_apply, Act.attempt, Act.within]
  rcases act s.watchdog with ⟨_ | _, w⟩
  · rename_i fault
    cases fault with
    | refusal cause => exact .inl ⟨_, _, rfl⟩
    | abort cause => exact .inr ⟨_, _, rfl⟩
  · exact .inl ⟨_, _, rfl⟩

variable [Watchdog W]

theorem kick_cases (s : Scheduler W) :
    (∃ w, kick s = (.ok (), { s with watchdog := w })) ∨
      ∃ cause w, kick s = (.error (.abort cause), { s with watchdog := w }) := by
  simp only [kick, Act.bind_apply, Act.read_apply]
  split
  · rcases consult_cases (Watchdog.signal (W := W)) s with ⟨answer, w, h⟩ | ⟨cause, w, h⟩
    · simp only [Act.bind_apply, h]
      cases answer with
      | true => exact .inl ⟨w, rfl⟩
      | false =>
        rcases consult_cases (Watchdog.activate (W := W)) { s with watchdog := w } with
          ⟨_, v, h'⟩ | ⟨cause, v, h'⟩
        · exact .inl ⟨v, by simp [Act.bind_apply, h']⟩
        · exact .inr ⟨cause, v, by simp [Act.bind_apply, h']⟩
    · exact .inr ⟨cause, w, by simp [Act.bind_apply, h]⟩
  · rcases consult_cases (Watchdog.deactivate (W := W)) s with ⟨_, w, h⟩ | ⟨cause, w, h⟩
    · exact .inl ⟨w, by simp [Act.bind_apply, h]⟩
    · exact .inr ⟨cause, w, by simp [Act.bind_apply, h]⟩

theorem openUp_cases (s : Scheduler W) :
    (∃ q, s.queue.openUp = .ok q ∧
        (Dispatcher.openUp : Act (Scheduler W) Unit) s = (.ok (), { s with queue := q })) ∨
      ∃ cause, s.queue.openUp = .error cause ∧
        (Dispatcher.openUp : Act (Scheduler W) Unit) s = (.error (.refusal cause), s) := by
  simp only [Dispatcher.openUp, Act.change]
  cases h : s.queue.openUp with
  | ok q => exact .inl ⟨q, rfl, by simp [bind, Except.bind]⟩
  | error cause => exact .inr ⟨cause, rfl, by simp [bind, Except.bind]⟩

/-- A submission is accepted, or refused with nothing changed, or aborted for want of room: then
the number of its task may have been taken, and nothing else has changed. -/
theorem submit_cases (offer : Offer) (s : Scheduler W) :
    (∃ ds q marks, offer.descriptors = .ok ds ∧ s.queue.submit offer.ticket ds = .ok q ∧
        Dispatcher.submit offer s = (.ok (), { s with queue := q, marks := marks })) ∨
      (∃ cause, Dispatcher.submit offer s = (.error (.refusal cause), s) ∧
        ∀ ds, offer.descriptors = .ok ds → s.queue.submit offer.ticket ds = .error cause) ∨
      ∃ cause n marks, Dispatcher.submit offer s =
          (.error (.abort cause), { s with queue := { s.queue with nextTask := n }, marks := marks }) ∧
        (n = s.queue.nextTask ∨ n = s.queue.nextTask + 1) ∧
        ∀ ds, offer.descriptors = .ok ds → Capacity.fits ds.length Entry.width = false := by
  simp only [Dispatcher.submit, submit, Act.bind_apply, Act.outcome_apply, Act.settle]
  cases hd : offer.descriptors with
  | error fault =>
    cases fault with
    | refusal cause => exact .inr (.inl ⟨cause, rfl, by simp⟩)
    | abort cause => exact .inr (.inr ⟨cause, s.queue.nextTask, s.marks, rfl, .inl rfl, by simp⟩)
  | ok ds =>
    simp only [Act.read_apply]
    cases hq : s.queue.submit offer.ticket ds with
    | error cause =>
      refine .inr (.inl ⟨cause, rfl, ?_⟩)
      rintro _ ⟨⟩
      exact hq
    | ok q =>
      simp only [leave, putQueue, Act.modify_apply]
      cases hf : Capacity.fits ds.length Entry.width with
      | true =>
        rw [Capacity.reserve_of_fits hf]
        exact .inl ⟨ds, q, _, rfl, hq, rfl⟩
      | false =>
        rw [Capacity.reserve_of_not_fits hf]
        refine .inr (.inr ⟨_, q.nextTask, _, rfl, .inr ?_, ?_⟩)
        · rw [(Queue.submit_eq_ok_iff.1 hq).2.2]
        · rintro _ ⟨⟩
          exact hf

/-- A report of the hardware side is refused by the queue, or goes through as the queue has it. -/
theorem progress_cases (f : Queue → Except Error (List Ticket × Queue)) (s : Scheduler W) :
    (∃ finished q, f s.queue = .ok (finished, q) ∧ ∃ w marks,
        progress f s = (.ok finished, ⟨q, w, marks⟩) ∨
        ∃ cause, progress f s = (.error (.abort cause), ⟨q, w, marks⟩)) ∨
      ∃ cause, f s.queue = .error cause ∧ progress f s = (.error (.refusal cause), s) := by
  simp only [progress, Act.bind_apply, Act.read_apply, Act.settle]
  cases h : f s.queue with
  | error cause => exact .inr ⟨cause, rfl, rfl⟩
  | ok out =>
    obtain ⟨finished, q⟩ := out
    refine .inl ⟨finished, q, rfl, ?_⟩
    simp only [putQueue, Act.modify_apply]
    rcases kick_cases { s with queue := q } with ⟨w, hk⟩ | ⟨cause, w, hk⟩
    · exact ⟨w, _, .inl (by rw [hk]; rfl)⟩
    · exact ⟨w, _, .inr ⟨cause, by rw [hk]⟩⟩

theorem cancelAll_cases (s : Scheduler W) : ∃ w marks,
    cancelAll s = (.ok (.closed s.queue.drain.1), ⟨s.queue.drain.2, w, marks⟩) ∨
    ∃ cause, cancelAll s = (.error (.abort cause), ⟨s.queue.drain.2, w, marks⟩) := by
  simp only [cancelAll, Act.bind_apply, Act.read_apply, putQueue, Act.modify_apply]
  rcases consult_cases (Watchdog.deactivate (W := W)) { s with queue := s.queue.drain.2 } with
    ⟨_, w, h⟩ | ⟨cause, w, h⟩
  · exact ⟨w, _, .inl (by rw [h]; rfl)⟩
  · exact ⟨w, _, .inr ⟨cause, by rw [h]⟩⟩

/-- A close is refused, or it waits with the queue shut, or everything is cancelled. -/
theorem close_cases (mode : CloseMode) (s : Scheduler W) :
    (∃ q, s.queue.shut = .ok q ∧
        ((mode = .graceful ∧ q.hasActive = true ∧
            Dispatcher.close mode s = (.ok .waiting, { s with queue := q })) ∨
          ∃ w marks, Dispatcher.close mode s = (.ok (.closed q.drain.1), ⟨q.drain.2, w, marks⟩) ∨
            ∃ cause, Dispatcher.close mode s = (.error (.abort cause), ⟨q.drain.2, w, marks⟩))) ∨
      ∃ cause, s.queue.shut = .error cause ∧ Dispatcher.close mode s = (.error (.refusal cause), s) := by
  simp only [Dispatcher.close, close, Act.bind_apply, Act.read_apply, Act.settle]
  cases h : s.queue.shut with
  | error cause => exact .inr ⟨cause, rfl, rfl⟩
  | ok q =>
    refine .inl ⟨q, rfl, ?_⟩
    simp only [putQueue, Act.modify_apply]
    by_cases hw : mode = .graceful ∧ q.hasActive = true
    · exact .inl ⟨hw.1, hw.2, by rw [if_pos hw]; rfl⟩
    · right
      rw [if_neg hw]
      exact cancelAll_cases { s with queue := q }

theorem finishClose_cases (s : Scheduler W) :
    (s.queue.hasActive = true ∧ Dispatcher.finishClose s = (.ok .waiting, s)) ∨
      (s.queue.hasActive = false ∧ ∃ w marks,
        Dispatcher.finishClose s = (.ok (.closed s.queue.drain.1), ⟨s.queue.drain.2, w, marks⟩) ∨
        ∃ cause, Dispatcher.finishClose s = (.error (.abort cause), ⟨s.queue.drain.2, w, marks⟩)) := by
  simp only [Dispatcher.finishClose, finishClose, Act.bind_apply, Act.read_apply]
  cases h : s.queue.hasActive with
  | true => exact .inl ⟨rfl, rfl⟩
  | false => exact .inr ⟨rfl, cancelAll_cases s⟩

/-- The end of looking for work: the queue is put back, and finished requests are progress. -/
def hand (step : Queue.Next) : Act (Scheduler W) (Option Handle × List Ticket) := do
  putQueue step.queue
  unless step.finished.isEmpty do
    kick
    announce
  return (step.handle, step.finished)

theorem hand_cases (step : Queue.Next) (s : Scheduler W) : ∃ w marks,
    hand step s = (.ok (step.handle, step.finished), ⟨step.queue, w, marks⟩) ∨
    ∃ cause, hand step s = (.error (.abort cause), ⟨step.queue, w, marks⟩) := by
  simp only [hand, Act.bind_apply, putQueue, Act.modify_apply]
  cases hf : step.finished.isEmpty with
  | true => exact ⟨s.watchdog, s.marks, .inl rfl⟩
  | false =>
    simp only [Bool.false_eq_true, ↓reduceIte, Act.bind_apply]
    rcases kick_cases { s with queue := step.queue } with ⟨w, h⟩ | ⟨cause, w, h⟩
    · exact ⟨w, _, .inl (by rw [h]; rfl)⟩
    · exact ⟨w, _, .inr ⟨cause, by rw [h]⟩⟩

/-- Looking for work gives what the queue gives. An abort comes after tasks were activated, or once
finished ones have been taken off. -/
theorem next_cases (s : Scheduler W) :
    (∃ w marks, Dispatcher.next s =
        (.ok (s.queue.next.handle, s.queue.next.finished), ⟨s.queue.next.queue, w, marks⟩)) ∨
      ∃ cause q w marks, Dispatcher.next s = (.error (.abort cause), ⟨q, w, marks⟩) ∧
        (q = s.queue.promote.2 ∨ q = s.queue.next.queue) := by
  have ending : ∀ t : Scheduler W, Dispatcher.next s = hand s.queue.next t →
      (∃ w marks, Dispatcher.next s =
        (.ok (s.queue.next.handle, s.queue.next.finished), ⟨s.queue.next.queue, w, marks⟩)) ∨
      ∃ cause q w marks, Dispatcher.next s = (.error (.abort cause), ⟨q, w, marks⟩) ∧
        (q = s.queue.promote.2 ∨ q = s.queue.next.queue) := by
    intro t ht
    rcases hand_cases s.queue.next t with ⟨w, marks, h | ⟨cause, h⟩⟩
    · exact .inl ⟨w, marks, ht.trans h⟩
    · exact .inr ⟨cause, _, w, marks, ht.trans h, .inr rfl⟩
  cases ha : s.queue.next.activated.isEmpty with
  | true =>
    refine ending s ?_
    simp only [Dispatcher.next, next, Act.bind_apply, Act.read_apply, ha]
    rfl
  | false =>
    obtain ⟨marks, hm⟩ : ∃ marks, marks = s.marks ++ s.queue.next.activated.map fun t =>
      .activated t.key := ⟨_, rfl⟩
    rcases consult_cases (Watchdog.activate (W := W)) ⟨s.queue.promote.2, s.watchdog, marks⟩ with
      ⟨_, w, h⟩ | ⟨cause, w, h⟩
    · refine ending ⟨s.queue.promote.2, w, marks⟩ ?_
      simp only [Dispatcher.next, next, Act.bind_apply, Act.read_apply, ha, putQueue, leave]
      simp only [Bool.false_eq_true, ↓reduceIte, Act.bind_apply, Act.modify_apply, ← hm, h]
      rfl
    · refine .inr ⟨cause, _, w, marks, ?_, .inl rfl⟩
      simp only [Dispatcher.next, next, Act.bind_apply, Act.read_apply, ha, putQueue, leave]
      simp only [Bool.false_eq_true, ↓reduceIte, Act.bind_apply, Act.modify_apply, ← hm, h]

end TensorQueue.Scheduler
