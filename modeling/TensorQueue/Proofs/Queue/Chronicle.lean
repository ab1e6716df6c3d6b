import TensorQueue.Proofs.Queue.Passage
import TensorQueue.Proofs.Queue.Operations
import TensorQueue.Proofs.Queue.Supervision
import Mathlib.Logic.Relation

/-!
# Runs of a scheduler

A chronicle is a scheduler with its history. A turn is one call on it together
with the submissions that are made from inside the callbacks of the requests
let go by the call: each request is told of its end, then its callback submits
what it likes, then comes the next one. A call that is refused changes nothing.
A watchdog may also abort a call, which then never comes back to its caller, and
what is true of the other runs need not be true after it. A patrol goes on from
what such a call has left. The runs of a chronicle are those in which every call
is answered. Every turn is made up of beats, and what every beat keeps is true
after every run.
-/

set_option autoImplicit false

namespace TensorQueue

open Dispatcher History

/-- A scheduler, how many closes wait for its hardware, and all that has passed. -/
structure Chronicle (W : Type) where
  scheduler : Scheduler W
  waiting : Nat
  passages : List Passage

namespace Chronicle

variable {W : Type}

inductive Call where
  | openUp
  | submit (offer : Offer)
  | next
  | complete (h : Handle)
  | finishRequest
  | close (mode : CloseMode)
  /-- One of the closes that wait looks at the hardware again. -/
  | wake

/-- A call, and what is submitted by the callback of each request that it lets go. -/
structure Turn where
  call : Call
  inside : List (List Offer)

/-- What the caller has in hand after a call: a descriptor, and the requests to be told. -/
structure Reply where
  handle : Option Handle
  notices : List Notice

def Reply.none : Reply := ⟨.none, []⟩

def finished (ts : List Ticket) : List Notice := ts.map (⟨·, .finished⟩)

def cancelled (ts : List Ticket) : List Notice := ts.map (⟨·, .cancelled⟩)

def begin (watchdog : W) : Chronicle W := ⟨.new watchdog, 0, []⟩

def note (x : Passage) (c : Chronicle W) : Chronicle W := { c with passages := c.passages ++ [x] }

/-- A call on the scheduler. What an accepted one leads to is added by `after`. -/
def attempt {α : Type} (act : Act (Scheduler W) α) (after : α → Chronicle W → Reply × Chronicle W)
    (c : Chronicle W) : Option (Reply × Chronicle W) :=
  match act c.scheduler with
  | (.ok a, s) => some (after a { c with scheduler := s })
  | (.error (.refusal _), s) => some (.none, { c with scheduler := s })
  | (.error (.abort _), _) => none

/-- An accepted offer, as it was made. -/
def enter (number : UInt64) (offer : Offer) (c : Chronicle W) : Chronicle W :=
  match offer.descriptors with
  | .ok ds => c.note (.accepted ⟨number, offer.ticket, ds⟩)
  | .error _ => c

def takeOut (handle : Option Handle) (c : Chronicle W) : Chronicle W :=
  match handle with
  | none => c
  | some h => c.note (.handedOut h)

/-- A close that waits is one more, and one that has ended tells everyone. -/
def settleClose (waiting : Nat) (closing : Closing) (c : Chronicle W) : Reply × Chronicle W :=
  match closing with
  | .waiting => (.none, { c with waiting := waiting + 1 })
  | .closed ts => (⟨none, cancelled ts⟩, { c.note .drained with waiting := waiting })

def report (number : Option UInt64) (c : Chronicle W) : Chronicle W :=
  match number with
  | none => c
  | some n => c.note (.reported n)

theorem scheduler_enter (number : UInt64) (offer : Offer) (c : Chronicle W) :
    (c.enter number offer).scheduler = c.scheduler := by
  unfold enter
  split <;> rfl

theorem scheduler_takeOut (handle : Option Handle) (c : Chronicle W) :
    (c.takeOut handle).scheduler = c.scheduler := by
  cases handle <;> rfl

theorem scheduler_report (number : Option UInt64) (c : Chronicle W) :
    (c.report number).scheduler = c.scheduler := by
  cases number <;> rfl

theorem scheduler_settleClose (waiting : Nat) (closing : Closing) (c : Chronicle W) :
    (settleClose waiting closing c).2.scheduler = c.scheduler := by
  cases closing <;> rfl

variable [Watchdog W]

def perform (call : Call) (c : Chronicle W) : Option (Reply × Chronicle W) :=
  match call with
  | .openUp => attempt Dispatcher.openUp (fun _ d => (.none, d)) c
  | .submit offer =>
    attempt (Dispatcher.submit offer)
      (fun _ d => (.none, d.enter c.scheduler.queue.nextTask offer)) c
  | .next =>
    attempt Dispatcher.next (fun out d => (⟨out.1, finished out.2⟩, d.takeOut out.1)) c
  | .complete h =>
    attempt (Dispatcher.complete h)
      (fun ts d => (⟨none, finished ts⟩, d.note (.takenBack ⟨h.task, h.index⟩))) c
  | .finishRequest =>
    attempt Dispatcher.finishRequest (fun ts d =>
      (⟨none, finished ts⟩, d.report (c.scheduler.queue.active.head?.map Task.number))) c
  | .close mode => attempt (Dispatcher.close mode) (settleClose c.waiting) c
  | .wake =>
    match c.waiting with
    | 0 => none
    | others + 1 => attempt Dispatcher.finishClose (settleClose others) c

def submitAll : List Offer → Chronicle W → Option (Chronicle W)
  | [], c => some c
  | offer :: rest, c => (perform (.submit offer) c).bind fun out => submitAll rest out.2

/-- Tells each request of its end, and lets its callback submit. -/
def answer : List Notice → List (List Offer) → Chronicle W → Option (Chronicle W)
  | [], _, c => some c
  | n :: rest, inside, c =>
    (submitAll (inside.headD []) (c.note (.notified n))).bind (answer rest inside.tail)

def turn (t : Turn) (c : Chronicle W) : Option (Option Handle × Chronicle W) :=
  (perform t.call c).bind fun out =>
    (answer out.1.notices t.inside out.2).map fun d => (out.1.handle, d)

def run : List Turn → Chronicle W → Option (Chronicle W)
  | [], c => some c
  | t :: rest, c => (turn t c).bind fun out => run rest out.2

section Beats

/-- A queue with its history, and those that are still to be told of their end. -/
structure Moment where
  queue : Queue
  owed : List Notice
  log : List Passage

/-- The least that can happen. -/
inductive Beat : Moment → Moment → Prop
  | openUp {q r log} : q.openUp = .ok r → Beat ⟨q, [], log⟩ ⟨r, [], log⟩
  | shut {q r log} : q.shut = .ok r → Beat ⟨q, [], log⟩ ⟨r, [], log⟩
  | submit {q r owed log ticket ds} : q.submit ticket ds = .ok r →
      Beat ⟨q, owed, log⟩ ⟨r, owed, log ++ [.accepted ⟨q.nextTask, ticket, ds⟩]⟩
  | idle {q log} : q.next.handle = none →
      Beat ⟨q, [], log⟩ ⟨q.next.queue, finished q.next.finished, log⟩
  | handOut {q log h} : q.next.handle = some h →
      Beat ⟨q, [], log⟩ ⟨q.next.queue, finished q.next.finished, log ++ [.handedOut h]⟩
  | takeBack {q r log h ts} : q.complete h = .ok (ts, r) →
      Beat ⟨q, [], log⟩ ⟨r, finished ts, log ++ [.takenBack ⟨h.task, h.index⟩]⟩
  | report {q r log ts t} : q.active.head? = some t → q.finishRequest = .ok (ts, r) →
      Beat ⟨q, [], log⟩ ⟨r, finished ts, log ++ [.reported t.number]⟩
  | drain {q log} : Beat ⟨q, [], log⟩ ⟨q.drain.2, cancelled q.drain.1, log ++ [.drained]⟩
  | notify {q n owed log} : Beat ⟨q, n :: owed, log⟩ ⟨q, owed, log ++ [.notified n]⟩

def Beats : Moment → Moment → Prop := Relation.ReflTransGen Beat

/-- The moment of a chronicle while these are still to be told. -/
def moment (owed : List Notice) (c : Chronicle W) : Moment :=
  ⟨c.scheduler.queue, owed, c.passages⟩

section Attempt

variable {α : Type} {act : Act (Scheduler W) α} {after : α → Chronicle W → Reply × Chronicle W}
  {c : Chronicle W} {s : Scheduler W}

omit [Watchdog W] in
theorem attempt_of_ok {a : α} (h : act c.scheduler = (.ok a, s)) :
    attempt act after c = some (after a { c with scheduler := s }) := by
  rw [attempt, h]

omit [Watchdog W] in
theorem attempt_of_refusal {cause : Error} (h : act c.scheduler = (.error (.refusal cause), s)) :
    attempt act after c = some (.none, { c with scheduler := s }) := by
  rw [attempt, h]

omit [Watchdog W] in
theorem attempt_of_abort {cause : Abort} (h : act c.scheduler = (.error (.abort cause), s)) :
    attempt act after c = none := by
  rw [attempt, h]

end Attempt

variable {c d : Chronicle W} {reply : Reply}

/-- A submission is entered in the log if it is accepted, and changes nothing otherwise. -/
theorem submit_inversion {offer : Offer} (h : perform (.submit offer) c = some (reply, d)) :
    reply = .none ∧ (d = c ∨ ∃ ds q marks, c.scheduler.queue.submit offer.ticket ds = .ok q ∧
      d = note (.accepted ⟨c.scheduler.queue.nextTask, offer.ticket, ds⟩)
        { c with scheduler := { c.scheduler with queue := q, marks := marks } }) := by
  rcases Scheduler.submit_cases offer c.scheduler with
    ⟨ds, q, marks, hds, hq, hs⟩ | ⟨cause, hs, -⟩ | ⟨cause, n, marks, hs, -⟩
  · rw [perform, attempt_of_ok hs] at h
    cases h
    refine ⟨rfl, .inr ⟨ds, q, marks, hq, ?_⟩⟩
    simp only [enter, hds]
  · rw [perform, attempt_of_refusal hs] at h
    cases h
    exact ⟨rfl, .inl rfl⟩
  · rw [perform, attempt_of_abort hs] at h
    cases h

/-- A submission may also come from inside a callback, while others wait to be told. -/
theorem submit_beats {offer : Offer} (h : perform (.submit offer) c = some (reply, d))
    (owed : List Notice) :
    reply = .none ∧ Beats (c.moment owed) (d.moment owed) := by
  obtain ⟨rfl, rfl | ⟨ds, q, marks, hq, rfl⟩⟩ := submit_inversion h
  · exact ⟨rfl, .refl⟩
  · exact ⟨rfl, .single (.submit hq)⟩

theorem next_beat (h : perform .next c = some (reply, d)) :
    reply.handle = c.scheduler.queue.next.handle ∧ d.scheduler.queue = c.scheduler.queue.next.queue ∧
      Beat (c.moment []) (d.moment reply.notices) := by
  rcases Scheduler.next_cases c.scheduler with ⟨w, marks, hs⟩ | ⟨cause, q, w, marks, hs, -⟩
  · rw [perform, attempt_of_ok hs] at h
    cases h
    cases hh : c.scheduler.queue.next.handle with
    | none => exact ⟨rfl, rfl, .idle hh⟩
    | some k => exact ⟨rfl, rfl, .handOut hh⟩
  · rw [perform, attempt_of_abort hs] at h
    cases h

/-- A report of the hardware side changes nothing, or goes through as the queue has it. -/
theorem progress_inversion {f : Queue → Except Error (List Ticket × Queue)}
    {after : List Ticket → Chronicle W → Reply × Chronicle W}
    (h : attempt (Scheduler.progress f) after c = some (reply, d)) :
    (reply = .none ∧ d = c) ∨ ∃ ts q w marks, f c.scheduler.queue = .ok (ts, q) ∧
      (reply, d) = after ts { c with scheduler := ⟨q, w, marks⟩ } := by
  rcases Scheduler.progress_cases f c.scheduler with
    ⟨ts, q, hq, w, marks, hs | ⟨cause, hs⟩⟩ | ⟨cause, -, hs⟩
  · rw [attempt_of_ok hs] at h
    exact .inr ⟨ts, q, w, marks, hq, (Option.some.inj h).symm⟩
  · rw [attempt_of_abort hs] at h
    cases h
  · rw [attempt_of_refusal hs] at h
    cases h
    exact .inl ⟨rfl, rfl⟩

/-- What a call on the scheduler comes to, beat by beat. -/
theorem perform_beats {call : Call} (h : perform call c = some (reply, d)) :
    Beats (c.moment []) (d.moment reply.notices) := by
  have closed : ∀ {waiting} {act : Act (Scheduler W) Closing} {q : Queue},
      (∃ w marks, act c.scheduler = (.ok (.closed q.drain.1), ⟨q.drain.2, w, marks⟩) ∨
        ∃ cause, act c.scheduler = (.error (.abort cause), ⟨q.drain.2, w, marks⟩)) →
      attempt act (settleClose waiting) c = some (reply, d) →
      Beat ⟨q, [], c.passages⟩ (d.moment reply.notices) := by
    rintro waiting act q ⟨w, marks, hs | ⟨cause, hs⟩⟩ ha
    · rw [attempt_of_ok hs] at ha
      cases ha
      exact .drain
    · rw [attempt_of_abort hs] at ha
      cases ha
  cases call with
  | openUp =>
    rcases Scheduler.openUp_cases c.scheduler with ⟨q, hq, hs⟩ | ⟨cause, -, hs⟩
    · rw [perform, attempt_of_ok hs] at h
      cases h
      exact .single (.openUp hq)
    · rw [perform, attempt_of_refusal hs] at h
      cases h
      exact .refl
  | submit offer =>
    obtain ⟨rfl, beats⟩ := submit_beats h []
    exact beats
  | next => exact .single (next_beat h).2.2
  | complete k =>
    rw [perform] at h
    change attempt (Scheduler.progress (Queue.complete k)) _ c = _ at h
    rcases progress_inversion h with ⟨rfl, rfl⟩ | ⟨ts, q, w, marks, hq, ha⟩
    · exact .refl
    · cases ha
      exact .single (.takeBack hq)
  | finishRequest =>
    rw [perform] at h
    change attempt (Scheduler.progress Queue.finishRequest) _ c = _ at h
    rcases progress_inversion h with ⟨rfl, rfl⟩ | ⟨ts, q, w, marks, hq, ha⟩
    · exact .refl
    · cases ha
      obtain ⟨t, others, ha, -, -⟩ := Queue.finishRequest_eq_ok_iff.1 hq
      have head : c.scheduler.queue.active.head? = some t := by rw [ha]; rfl
      simp only [head, Option.map_some, report]
      exact .single (.report head hq)
  | close mode =>
    rcases Scheduler.close_cases mode c.scheduler with
      ⟨q, hq, ⟨-, -, hs⟩ | hs⟩ | ⟨cause, -, hs⟩
    · rw [perform, attempt_of_ok hs] at h
      cases h
      exact .single (.shut hq)
    · exact .head (.shut hq) (.single (closed hs h))
    · rw [perform, attempt_of_refusal hs] at h
      cases h
      exact .refl
  | wake =>
    rw [perform] at h
    split at h
    · cases h
    · rcases Scheduler.finishClose_cases c.scheduler with ⟨-, hs⟩ | ⟨-, hs⟩
      · rw [attempt_of_ok hs] at h
        cases h
        exact .refl
      · exact .single (closed hs h)

theorem submitAll_beats (offers : List Offer) (owed : List Notice) :
    ∀ {c d : Chronicle W}, submitAll offers c = some d → Beats (c.moment owed) (d.moment owed) := by
  induction offers with
  | nil =>
    intro c d h
    cases h
    exact .refl
  | cons offer rest ih =>
    intro c d h
    obtain ⟨⟨reply, e⟩, he, hd⟩ := Option.bind_eq_some_iff.1 h
    exact (submit_beats he owed).2.trans (ih hd)

theorem answer_beats (owed : List Notice) : ∀ (inside : List (List Offer)) {c d : Chronicle W},
    answer owed inside c = some d → Beats (c.moment owed) (d.moment []) := by
  induction owed with
  | nil =>
    intro inside c d h
    cases h
    exact .refl
  | cons n rest ih =>
    intro inside c d h
    obtain ⟨e, he, hd⟩ := Option.bind_eq_some_iff.1 h
    exact .head .notify ((submitAll_beats _ rest he).trans (ih _ hd))

theorem submitAll_active (offers : List Offer) : ∀ {c d : Chronicle W},
    submitAll offers c = some d → d.scheduler.queue.active = c.scheduler.queue.active := by
  induction offers with
  | nil =>
    intro c d h
    cases h
    rfl
  | cons offer rest ih =>
    intro c d h
    obtain ⟨⟨reply, e⟩, he, hd⟩ := Option.bind_eq_some_iff.1 h
    rw [ih hd]
    obtain ⟨-, rfl | ⟨ds, q, marks, hq, rfl⟩⟩ := submit_inversion he
    · rfl
    · obtain ⟨-, -, rfl⟩ := Queue.submit_eq_ok_iff.1 hq
      rfl

theorem answer_active (owed : List Notice) : ∀ (inside : List (List Offer)) {c d : Chronicle W},
    answer owed inside c = some d → d.scheduler.queue.active = c.scheduler.queue.active := by
  induction owed with
  | nil =>
    intro inside c d h
    cases h
    rfl
  | cons n rest ih =>
    intro inside c d h
    obtain ⟨e, he, hd⟩ := Option.bind_eq_some_iff.1 h
    have submitted := submitAll_active _ he
    rw [ih _ hd]
    exact submitted

theorem turn_beats {t : Turn} {handle : Option Handle} (h : turn t c = some (handle, d)) :
    Beats (c.moment []) (d.moment []) := by
  obtain ⟨⟨reply, e⟩, he, hd⟩ := Option.bind_eq_some_iff.1 h
  obtain ⟨f, hf, hout⟩ := Option.map_eq_some_iff.1 hd
  cases hout
  exact (perform_beats he).trans (answer_beats _ _ hf)

theorem run_beats (ts : List Turn) : ∀ {c d : Chronicle W}, run ts c = some d →
    Beats (c.moment []) (d.moment []) := by
  induction ts with
  | nil =>
    intro c d h
    cases h
    exact .refl
  | cons t rest ih =>
    intro c d h
    obtain ⟨⟨handle, e⟩, he, hd⟩ := Option.bind_eq_some_iff.1 h
    exact (turn_beats he).trans (ih hd)

end Beats

end Chronicle

end TensorQueue
