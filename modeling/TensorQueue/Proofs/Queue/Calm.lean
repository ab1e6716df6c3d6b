import TensorQueue.Proofs.Outcomes
import TensorQueue.Proofs.Queue.Supervision

/-!
# Watchdogs that answer

A watchdog may refuse a call, and the scheduler goes on. Only a watchdog that is
aborted in a call keeps the scheduler from answering in turn. As long as the
watchdog is in a state from which no series of calls is aborted, every call on
the scheduler answers as the queue does.
-/

set_option autoImplicit false

namespace TensorQueue

/-- From this state the action ends with a value or with a refusal. -/
def Act.Answers {σ α : Type} (act : Act σ α) (s : σ) : Prop :=
  ∀ cause, (act s).1 ≠ .error (.abort cause)

/-- In these states of a watchdog no call that a scheduler makes is aborted, and each leaves one of
them. -/
structure Watchdog.Calm {W : Type} [Watchdog W] (calm : W → Prop) : Prop where
  activate : Act.Meets calm Watchdog.activate (fun _ => calm) calm fun _ => False
  signal : Act.Meets calm Watchdog.signal (fun _ => calm) calm fun _ => False
  deactivate : Act.Meets calm Watchdog.deactivate (fun _ => calm) calm fun _ => False

theorem Watchdog.Idle.calm : Watchdog.Calm fun _ : Watchdog.Idle => True :=
  ⟨fun _ _ => trivial, fun _ _ => trivial, fun _ _ => trivial⟩

namespace Scheduler

open Dispatcher

variable {W : Type}

theorem consult_answers {α : Type} {act : Act W α} {s : Scheduler W} (h : act.Answers s.watchdog) :
    ∃ answer, consult act s = (.ok answer, { s with watchdog := (act s.watchdog).2 }) := by
  simp only [consult, Act.bind_apply, Act.attempt, Act.within]
  cases hact : act s.watchdog with
  | mk outcome w =>
    cases outcome with
    | ok a => exact ⟨_, rfl⟩
    | error fault =>
      cases fault with
      | refusal cause => exact ⟨_, rfl⟩
      | abort cause => exact absurd (congrArg Prod.fst hact) (h cause)

theorem consult_calm {α : Type} {calm : W → Prop} {act : Act W α} {s : Scheduler W}
    (h : Act.Meets calm act (fun _ => calm) calm fun _ => False) (hs : calm s.watchdog) :
    ∃ answer w, consult act s = (.ok answer, { s with watchdog := w }) ∧ calm w := by
  have ends := h s.watchdog hs
  have answers : act.Answers s.watchdog := by
    intro cause hc
    rcases hact : act s.watchdog with ⟨outcome, w⟩
    rw [hact] at ends hc
    obtain rfl : outcome = .error (.abort cause) := hc
    exact ends
  obtain ⟨answer, hc⟩ := consult_answers answers
  refine ⟨answer, _, hc, ?_⟩
  rcases hact : act s.watchdog with ⟨fault | a, w⟩ <;> rw [hact] at ends
  · cases fault with
    | refusal cause => exact ends
    | abort cause => exact ends.elim
  · exact ends

variable [Watchdog W]

/-- With nothing in flight the watchdog is only disarmed. -/
theorem kick_disarms {s : Scheduler W} (hs : s.queue.inFlight = false)
    (h : (Watchdog.deactivate (W := W)).Answers s.watchdog) :
    ∃ w, kick s = (.ok (), { s with watchdog := w }) := by
  obtain ⟨answer, hc⟩ := consult_answers h
  exact ⟨(Watchdog.deactivate (W := W) s.watchdog).2, by simp [kick, Act.bind_apply, hs, hc]⟩

theorem progress_of_kick {f : Queue → Except Error (List Ticket × Queue)} {s : Scheduler W}
    {ts : List Ticket} {q : Queue} {w : W} (hf : f s.queue = .ok (ts, q))
    (hk : kick { s with queue := q } = (.ok (), { s with queue := q, watchdog := w })) :
    progress f s = (.ok ts, ⟨q, w, s.marks ++ [.announced]⟩) := by
  simp only [progress, Act.bind_apply, Act.read_apply, Act.settle, hf, putQueue, Act.modify_apply,
    hk]
  rfl

section Calm

variable {calm : W → Prop} (h : Watchdog.Calm calm) {s : Scheduler W} (hs : calm s.watchdog)

include h hs

theorem kick_calm : ∃ w, kick s = (.ok (), { s with watchdog := w }) ∧ calm w := by
  cases hf : s.queue.inFlight with
  | false =>
    obtain ⟨answer, w, hc, hw⟩ := consult_calm h.deactivate hs
    exact ⟨w, by simp [kick, Act.bind_apply, hf, hc], hw⟩
  | true =>
    obtain ⟨answer, w, hc, hw⟩ := consult_calm h.signal hs
    cases answer with
    | true => exact ⟨w, by simp [kick, Act.bind_apply, hf, hc], hw⟩
    | false =>
      obtain ⟨_, v, hd, hv⟩ := consult_calm (s := { s with watchdog := w }) h.activate hw
      exact ⟨v, by simp [kick, Act.bind_apply, hf, hc, hd], hv⟩

theorem progress_calm {f : Queue → Except Error (List Ticket × Queue)} {ts : List Ticket}
    {q : Queue} (hf : f s.queue = .ok (ts, q)) :
    ∃ w marks, progress f s = (.ok ts, ⟨q, w, marks⟩) ∧ calm w := by
  obtain ⟨w, hk, hw⟩ := kick_calm (s := { s with queue := q }) h hs
  exact ⟨w, _, progress_of_kick hf hk, hw⟩

theorem hand_calm (step : Queue.Next) : ∃ w marks,
    hand step s = (.ok (step.handle, step.finished), ⟨step.queue, w, marks⟩) ∧ calm w := by
  simp only [hand, Act.bind_apply, putQueue, Act.modify_apply]
  cases hf : step.finished.isEmpty with
  | true => exact ⟨s.watchdog, s.marks, rfl, hs⟩
  | false =>
    obtain ⟨w, hk, hw⟩ := kick_calm (s := { s with queue := step.queue }) h hs
    simp only [Bool.false_eq_true, ↓reduceIte, Act.bind_apply]
    exact ⟨w, _, by rw [hk]; rfl, hw⟩

/-- The watchdog is armed first if tasks were activated; from there it is `hand`. -/
theorem next_calm : ∃ w marks, Dispatcher.next s =
    (.ok (s.queue.next.handle, s.queue.next.finished), ⟨s.queue.next.queue, w, marks⟩) ∧
      calm w := by
  cases ha : s.queue.next.activated.isEmpty with
  | true =>
    obtain ⟨w, marks, hh, hw⟩ := hand_calm h hs s.queue.next
    refine ⟨w, marks, Eq.trans ?_ hh, hw⟩
    simp only [Dispatcher.next, next, Act.bind_apply, Act.read_apply, ha]
    rfl
  | false =>
    obtain ⟨_, w, hc, hw⟩ := consult_calm (s := ⟨s.queue.promote.2, s.watchdog,
      s.marks ++ s.queue.next.activated.map fun t => .activated t.key⟩) h.activate hs
    obtain ⟨v, marks, hh, hv⟩ := hand_calm (s := ⟨s.queue.promote.2, w,
      s.marks ++ s.queue.next.activated.map fun t => .activated t.key⟩) h hw s.queue.next
    refine ⟨v, marks, Eq.trans ?_ hh, hv⟩
    simp only [Dispatcher.next, next, Act.bind_apply, Act.read_apply, ha, putQueue, leave]
    simp only [Bool.false_eq_true, ↓reduceIte, Act.bind_apply, Act.modify_apply, hc]
    rfl

end Calm

end Scheduler

end TensorQueue
