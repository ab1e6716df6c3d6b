import TensorQueue.Proofs.Queue.Chronicle
import TensorQueue.Proofs.Queue.Holdings
import Mathlib.Data.List.Induction

/-!
# A watchdog on patrol

A patrol is a scheduler with its watchdog while other things happen to the
watchdog too: its countdown runs out, and news of that is dealt with, at any
moment between two calls. The patrol remembers the latest sign: of life, when
tasks were activated or a report of the hardware was taken, or an expiry. What
each call asks of the watchdog follows from the queue alone. So a watchdog that
heeds every single demand is at rest whenever nothing is in flight, and armed
whenever something is and no expiry came after the latest sign of life. A call
that the watchdog aborts is a step like any other, and the patrol goes on from
what it has left. When every call is answered, a patrol is a chronicle.
-/

set_option autoImplicit false

namespace TensorQueue

open Dispatcher

namespace Queue

variable {q r : Queue}

/-- The tickets of the tasks in flight, the oldest first. -/
def aloft (q : Queue) : List Ticket := q.flying.map Task.ticket

theorem inFlight_iff (q : Queue) : q.inFlight = true ↔ q.aloft ≠ [] := by
  cases hc : q.completed <;> cases ha : q.active <;> simp [inFlight, aloft, flying, hc, ha]

@[simp] theorem aloft_alterEntry {p : Place} {f : Entry → Entry} :
    (q.alterEntry p f).aloft = q.aloft := by
  rw [aloft, flying_alterEntry, List.map_map]
  exact List.map_congr_left fun t _ => ticket_touch t

theorem aloft_settleFrom (l : List Place) (q : Queue) : (settleFrom l q).aloft = q.aloft := by
  induction l generalizing q with
  | nil => rfl
  | cons p rest ih =>
    rw [settleFrom]
    split
    · exact (ih _).trans aloft_alterEntry
    · rfl

theorem aloft_promoteFrom (ts : List Task) (q : Queue) :
    (promoteFrom ts q).2.aloft = q.aloft ++ (promoteFrom ts q).1 := by
  induction ts generalizing q with
  | nil => exact (List.append_nil _).symm
  | cons t rest ih =>
    rw [promoteFrom]
    split
    · have activated : (settleFences (activate t q)).aloft = q.aloft ++ [t.ticket] := by
        rw [settleFences, aloft_settleFrom]
        simp [aloft, flying, activate]
      rw [ih, activated, List.append_assoc]
      rfl
    · exact (List.append_nil _).symm

@[simp] theorem aloft_dispatch : q.dispatch.2.aloft = q.aloft := by
  rcases dispatch_cases q with h | ⟨p, rest, e, -, -, -, h⟩
  · rw [h]
  · rw [h]
    exact aloft_alterEntry

theorem aloft_takeFinished (q : Queue) :
    q.aloft = q.takeFinished.1 ++ q.takeFinished.2.aloft := by
  obtain ⟨gone, done, ended, rest, hc, ha, hf, -, -, -, heq⟩ := takeFinished_cases q
  rw [heq, aloft, aloft, flying, ← hc, ← ha]
  rcases hf with rfl | rfl <;> simp [flying]

/-- Whoever comes into flight either stays there or is found finished. -/
theorem aloft_next (q : Queue) :
    q.aloft ++ q.next.activated = q.next.finished ++ q.next.queue.aloft := by
  cases ho : q.isOpen with
  | false => simp [next_of_shut ho]
  | true =>
    have taken := aloft_takeFinished q.promote.2.dispatch.2
    rw [aloft_dispatch, promote, aloft_promoteFrom] at taken
    rw [next_of_open ho]
    exact taken

theorem inFlight_promote (h : q.next.activated ≠ []) : q.promote.2.inFlight = true := by
  cases ho : q.isOpen with
  | false => exact absurd (by rw [next_of_shut ho]) h
  | true =>
    rw [next_of_open ho] at h
    rw [inFlight_iff, promote, aloft_promoteFrom]
    exact List.append_ne_nil_of_right_ne_nil _ h

theorem inFlight_of_complete {h : Handle} {ts : List Ticket} (hc : q.complete h = .ok (ts, r)) :
    q.inFlight = true := by
  obtain ⟨t, -, ht, -⟩ := complete_eq_ok_iff.1 hc
  rw [inFlight_iff, aloft, Ne, List.map_eq_nil_iff]
  exact List.ne_nil_of_mem (List.mem_of_find?_eq_some ht)

theorem inFlight_of_finishRequest {ts : List Ticket} (hf : q.finishRequest = .ok (ts, r)) :
    q.inFlight = true := by
  obtain ⟨t, others, ha, -⟩ := finishRequest_eq_ok_iff.1 hf
  simp [inFlight, ha]

end Queue

namespace Watchdog

variable {W : Type} [Watchdog W]

/-- What a demand leaves, however it ends. -/
def activated (w : W) : W := (activate w).2

def rested (w : W) : W := (deactivate w).2

/-- Progress leaves the watchdog signalled, or activated if it refuses the signal; it comes to rest
once nothing is in flight. -/
def kicked (busy : Bool) (w : W) : W :=
  if busy then
    match signal w with
    | (.error (.refusal _), v) => activated v
    | (_, v) => v
  else rested w

end Watchdog

namespace Scheduler

variable {W : Type}

/-- The latest that is known of the work: tasks were activated, a report of the hardware was taken
by a watchdog found in this state, or the watchdog expired. -/
inductive Sign (W : Type) where
  | promotion
  | completion (found : W)
  | expiry
  deriving DecidableEq

/-- A scheduler without the marks that it has left. -/
def post (s : Scheduler W) : Queue × W := (s.queue, s.watchdog)

theorem consult_apply {α : Type} (act : Act W α) (s : Scheduler W) : consult act s =
    match act s.watchdog with
    | (.ok _, w) => (.ok true, { s with watchdog := w })
    | (.error (.refusal _), w) => (.ok false, { s with watchdog := w })
    | (.error (.abort cause), w) => (.error (.abort cause), { s with watchdog := w }) := by
  simp only [consult, Act.bind_apply, Act.attempt, Act.within]
  rcases act s.watchdog with ⟨fault | a, w⟩
  · cases fault <;> rfl
  · rfl

theorem post_consult {α : Type} (act : Act W α) (s : Scheduler W) :
    (consult act s).2.post = (s.queue, (act s.watchdog).2) := by
  rw [consult_apply]
  rcases act s.watchdog with ⟨fault | a, w⟩
  · cases fault <;> rfl
  · rfl

variable [Watchdog W]

theorem post_kick (s : Scheduler W) : (kick s).2.post =
    (s.queue, Watchdog.kicked s.queue.inFlight s.watchdog) := by
  simp only [kick, Act.bind_apply, Act.read_apply]
  cases s.queue.inFlight with
  | false => exact (Act.view_bind (fun _ _ => rfl) s).trans (post_consult _ s)
  | true =>
    simp only [↓reduceIte, Act.bind_apply, consult_apply, Watchdog.kicked]
    rcases Watchdog.signal (W := W) s.watchdog with ⟨fault | a, v⟩
    · cases fault with
      | refusal cause => exact (Act.view_bind (fun _ _ => rfl) _).trans (post_consult _ _)
      | abort cause => rfl
    · rfl

/-- What a call leaves, however it ends. -/
def after (s : Scheduler W) : Chronicle.Call → Scheduler W
  | .openUp => ((Dispatcher.openUp : Act (Scheduler W) Unit) s).2
  | .submit offer => (Dispatcher.submit offer s).2
  | .next => (Dispatcher.next s).2
  | .complete h => (Dispatcher.complete h s).2
  | .finishRequest => (Dispatcher.finishRequest s).2
  | .close mode => (Dispatcher.close mode s).2
  | .wake => (Dispatcher.finishClose s).2

/-- The sign of life that a call gives, if any. -/
def sign (s : Scheduler W) : Chronicle.Call → Option (Sign W)
  | .next => if s.queue.next.activated.isEmpty then none else some .promotion
  | .complete h =>
    if (Dispatcher.complete h s).1.isOk then some (.completion s.watchdog) else none
  | .finishRequest =>
    if (Dispatcher.finishRequest s).1.isOk then some (.completion s.watchdog) else none
  | _ => none

/-- What a call comes to for the watchdog, and the sign of life that it gives. -/
inductive Demands (s t : Scheduler W) : Option (Sign W) → Prop where
  | nothing : t.queue.aloft = s.queue.aloft → t.watchdog = s.watchdog → Demands s t none
  | attention : t.queue.inFlight = true → t.watchdog = Watchdog.activated s.watchdog →
      Demands s t (some .promotion)
  | progress {sign : Option (Sign W)} : s.queue.inFlight = true →
      t.watchdog = Watchdog.kicked t.queue.inFlight s.watchdog →
      (sign = none ∨ sign = some (.completion s.watchdog)) → Demands s t sign
  | passage : t.watchdog = Watchdog.kicked t.queue.inFlight (Watchdog.activated s.watchdog) →
      Demands s t (some .promotion)
  | rest : t.queue.inFlight = false → t.watchdog = Watchdog.rested s.watchdog → Demands s t none

section Demands

theorem post_progress {f : Queue → Except Error (List Ticket × Queue)} {s : Scheduler W}
    {ts : List Ticket} {q : Queue} (h : f s.queue = .ok (ts, q)) :
    (progress f s).2.post = (q, Watchdog.kicked q.inFlight s.watchdog) := by
  simp only [progress, Act.bind_apply, Act.read_apply, Act.settle, h, putQueue, Act.modify_apply]
  exact (Act.view_bind (fun _ _ => rfl) _).trans (post_kick { s with queue := q })

theorem progress_demands {f : Queue → Except Error (List Ticket × Queue)} {s : Scheduler W}
    (hf : ∀ {ts r}, f s.queue = .ok (ts, r) → s.queue.inFlight = true) :
    Demands s (progress f s).2
      (if (progress f s).1.isOk then some (.completion s.watchdog) else none) := by
  cases h : f s.queue with
  | error cause =>
    have refused : progress f s = (.error (.refusal cause), s) := by
      simp only [progress, Act.bind_apply, Act.read_apply, Act.settle, h]
    rw [refused]
    exact .nothing rfl rfl
  | ok out =>
    obtain ⟨queue, watchdog⟩ := Prod.mk.inj (post_progress h)
    refine .progress (hf h) (by rw [watchdog, queue]) ?_
    split
    · exact .inr rfl
    · exact .inl rfl

theorem cancelAll_demands {s t : Scheduler W} (h : s.watchdog = t.watchdog) :
    Demands t (cancelAll s).2 none := by
  have left : (cancelAll s).2.post = (s.queue.drain.2, Watchdog.rested s.watchdog) := by
    simp only [cancelAll, Act.bind_apply, Act.read_apply, putQueue, Act.modify_apply]
    exact (Act.view_bind (fun _ _ => rfl) _).trans (post_consult _ _)
  obtain ⟨queue, watchdog⟩ := Prod.mk.inj left
  exact .rest (by rw [queue]; rfl) (by rw [watchdog, h])

theorem close_demands (mode : CloseMode) (s : Scheduler W) :
    Demands s (Dispatcher.close mode s).2 none := by
  simp only [Dispatcher.close, close, Act.bind_apply, Act.read_apply, Act.settle]
  rcases hs : s.queue.shut with cause | q
  · exact .nothing rfl rfl
  · obtain ⟨-, rfl⟩ := Queue.shut_eq_ok_iff.1 hs
    simp only [putQueue, Act.modify_apply]
    split
    · exact .nothing rfl rfl
    · exact cancelAll_demands rfl

theorem finishClose_demands (s : Scheduler W) : Demands s (Dispatcher.finishClose s).2 none := by
  simp only [Dispatcher.finishClose, finishClose, Act.bind_apply, Act.read_apply]
  split
  · exact .nothing rfl rfl
  · exact cancelAll_demands rfl

theorem post_hand (step : Queue.Next) (s : Scheduler W) : (hand step s).2.post =
    (step.queue, if step.finished.isEmpty then s.watchdog
      else Watchdog.kicked step.queue.inFlight s.watchdog) := by
  cases hf : step.finished.isEmpty with
  | true =>
    simp only [hand, hf]
    rfl
  | false =>
    simp only [hand, hf, Act.bind_of_ok (show putQueue step.queue s = (.ok (), _) from rfl)]
    exact (Act.view_bind (fun _ _ => rfl) _).trans (post_kick { s with queue := step.queue })

theorem hand_demands {s t : Scheduler W} (hw : t.watchdog = Watchdog.activated s.watchdog)
    (ha : s.queue.next.activated ≠ []) :
    Demands s (hand s.queue.next t).2 (some .promotion) := by
  obtain ⟨queue, watchdog⟩ := Prod.mk.inj (post_hand s.queue.next t)
  by_cases hf : s.queue.next.finished = []
  · rw [hf, hw] at watchdog
    have flying := s.queue.aloft_next
    rw [hf, List.nil_append] at flying
    refine .attention ?_ watchdog
    rw [queue, Queue.inFlight_iff, ← flying]
    exact List.append_ne_nil_of_right_ne_nil _ ha
  · rw [if_neg (by simpa using hf), hw] at watchdog
    exact .passage (by rw [watchdog, queue])

/-- With nothing to activate, looking for work is the handing out alone. -/
theorem next_of_none {s : Scheduler W} (h : s.queue.next.activated = []) :
    Dispatcher.next s = hand s.queue.next s := by
  simp only [Dispatcher.next, next, Act.bind_apply, Act.read_apply, h]
  rfl

/-- Otherwise the watchdog is activated before. -/
theorem next_of_some {s : Scheduler W} (h : s.queue.next.activated ≠ []) : ∃ marks,
    Dispatcher.next s = (do
      let _ ← consult (Watchdog.activate (W := W))
      hand s.queue.next) ⟨s.queue.promote.2, s.watchdog, marks⟩ := by
  refine ⟨s.marks ++ s.queue.next.activated.map fun t => .activated t.key, ?_⟩
  have some : s.queue.next.activated.isEmpty = false := by simpa using h
  simp only [Dispatcher.next, next, Act.bind_apply, Act.read_apply, some]
  rfl

theorem next_demands (s : Scheduler W) : Demands s (Dispatcher.next s).2 (s.sign .next) := by
  have flying := s.queue.aloft_next
  by_cases ha : s.queue.next.activated = []
  · obtain ⟨queue, watchdog⟩ := Prod.mk.inj (post_hand s.queue.next s)
    rw [ha, List.append_nil] at flying
    rw [sign, ha, next_of_none ha]
    by_cases hf : s.queue.next.finished = []
    · rw [hf] at watchdog flying
      exact .nothing (by rw [queue]; exact flying.symm) watchdog
    · rw [if_neg (by simpa using hf)] at watchdog
      refine .progress ?_ (by rw [watchdog, queue]) (.inl rfl)
      rw [Queue.inFlight_iff, flying]
      exact List.append_ne_nil_of_left_ne_nil hf _
  · obtain ⟨marks, hn⟩ := next_of_some ha
    rw [sign, if_neg (by simpa using ha), hn, Act.bind_apply, consult_apply]
    rcases hw : Watchdog.activate (W := W) s.watchdog with ⟨fault | a, w⟩
    all_goals have same : w = Watchdog.activated s.watchdog := (congrArg Prod.snd hw).symm
    · cases fault with
      | refusal cause => exact hand_demands same ha
      | abort cause => exact .attention (Queue.inFlight_promote ha) same
    · exact hand_demands same ha

theorem call_demands (s : Scheduler W) (c : Chronicle.Call) : Demands s (s.after c) (s.sign c) := by
  cases c with
  | openUp =>
    rcases openUp_cases s with ⟨q, hq, h⟩ | ⟨cause, -, h⟩
    · obtain ⟨-, rfl⟩ := Queue.openUp_eq_ok_iff.1 hq
      rw [after, h]
      exact .nothing rfl rfl
    · rw [after, h]
      exact .nothing rfl rfl
  | submit offer =>
    rcases submit_cases offer s with
      ⟨ds, q, marks, -, hq, h⟩ | ⟨cause, h, -⟩ | ⟨cause, n, marks, h, -⟩
    · obtain ⟨-, -, rfl⟩ := Queue.submit_eq_ok_iff.1 hq
      rw [after, h]
      exact .nothing rfl rfl
    · rw [after, h]
      exact .nothing rfl rfl
    · rw [after, h]
      exact .nothing rfl rfl
  | next => exact next_demands s
  | complete h => exact progress_demands Queue.inFlight_of_complete
  | finishRequest => exact progress_demands Queue.inFlight_of_finishRequest
  | close mode => exact close_demands mode s
  | wake => exact finishClose_demands s

end Demands

end Scheduler

namespace Watchdog

/-- What else goes on at a watchdog: what each move leaves, and which moves are expiries. -/
structure Course (W M : Type) where
  after : W → M → W
  expires : W → M → Bool

/-- A watchdog that heeds every demand. While it is fit an activation arms it, and so does progress
that it hears; armed it stays until it expires, and at rest until it is activated. -/
structure Heeds {W M : Type} [Watchdog W] (course : Course W M)
    (fit armed resting hears : W → Prop) : Prop where
  wakes : ∀ w, fit w → fit (activated w) ∧ armed (activated w)
  goesOn : ∀ w, fit w → fit (kicked true w) ∧ (hears w → armed (kicked true w))
  rests : ∀ w, fit w → fit (rested w) ∧ resting (rested w)
  hears : ∀ w, armed w → hears w
  after : ∀ w m, fit w → fit (course.after w m) ∧
    (resting w → resting (course.after w m)) ∧
    (armed w → course.expires w m = false → armed (course.after w m))

theorem Heeds.kick {W M : Type} [Watchdog W] {course : Course W M}
    {fit armed resting hears : W → Prop} (h : Heeds course fit armed resting hears) {w : W}
    (busy : Bool) (hw : fit w) : fit (kicked busy w) ∧ (busy = false → resting (kicked busy w)) ∧
      (busy = true → hears w → armed (kicked busy w)) := by
  cases busy with
  | false =>
    obtain ⟨fit', rests⟩ := h.rests w hw
    exact ⟨fit', fun _ => rests, by simp⟩
  | true =>
    obtain ⟨fit', arms⟩ := h.goesOn w hw
    exact ⟨fit', by simp, fun _ => arms⟩

end Watchdog

open Scheduler (Sign)

/-- A scheduler, and the latest sign of its work. -/
structure Patrol (W : Type) where
  scheduler : Scheduler W
  latest : Option (Sign W)

namespace Patrol

variable {W M : Type} [Watchdog W]

/-- A call on the scheduler, or something that happens at its watchdog meanwhile. -/
inductive Event (M : Type) where
  | call (c : Chronicle.Call)
  | move (m : M)

def begin (watchdog : W) : Patrol W := ⟨.new watchdog, none⟩

def watchdog (p : Patrol W) : W := p.scheduler.watchdog

def step (course : Watchdog.Course W M) (p : Patrol W) : Event M → Patrol W
  | .call c => ⟨p.scheduler.after c, (p.scheduler.sign c).or p.latest⟩
  | .move m =>
    ⟨{ p.scheduler with watchdog := course.after p.watchdog m },
      if course.expires p.watchdog m then some .expiry else p.latest⟩

def run (course : Watchdog.Course W M) (es : List (Event M)) (p : Patrol W) : Patrol W :=
  es.foldl (step course) p

/-- No expiry came after this sign, and the watchdog could hear it. -/
def Heard (hears : W → Prop) : Option (Sign W) → Prop
  | some (.completion found) => hears found
  | some .expiry => False
  | _ => True

/-- The watchdog is at rest when nothing is in flight. Otherwise it is armed, unless the latest sign
is an expiry or was not heard. -/
structure Attended (fit armed resting hears : W → Prop) (p : Patrol W) : Prop where
  fit : fit p.watchdog
  rests : p.scheduler.queue.inFlight = false → resting p.watchdog
  armed : p.scheduler.queue.inFlight = true → Heard hears p.latest → armed p.watchdog

section Attended

variable {course : Watchdog.Course W M} {fit armed resting hears : W → Prop} {p : Patrol W}

theorem run_concat (es : List (Event M)) (e : Event M) (p : Patrol W) :
    run course (es ++ [e]) p = step course (run course es p) e := by
  rw [run, List.foldl_append]
  rfl

theorem inFlight_congr {q r : Queue} (h : q.aloft = r.aloft) : q.inFlight = r.inFlight := by
  rw [Bool.eq_iff_iff, Queue.inFlight_iff, Queue.inFlight_iff, h]

theorem Attended.demands {s t : Scheduler W} {latest sign : Option (Sign W)}
    (h : Watchdog.Heeds course fit armed resting hears)
    (hs : Attended fit armed resting hears ⟨s, latest⟩) (hd : s.Demands t sign) :
    Attended fit armed resting hears ⟨t, sign.or latest⟩ := by
  have fits : fit s.watchdog := hs.fit
  cases hd with
  | nothing flying watchdog =>
    have busy := inFlight_congr flying
    constructor <;> simp only [Patrol.watchdog, watchdog, busy, Option.none_or]
    · exact hs.fit
    · exact hs.rests
    · exact hs.armed
  | attention flying watchdog =>
    obtain ⟨fit', armed'⟩ := h.wakes s.watchdog fits
    rw [← watchdog] at fit' armed'
    refine ⟨fit', fun idle => ?_, fun _ _ => armed'⟩
    rw [show t.queue.inFlight = false from idle] at flying
    cases flying
  | progress flying watchdog given =>
    obtain ⟨fit', rests, arms⟩ := h.kick t.queue.inFlight fits
    rw [← watchdog] at fit' rests arms
    refine ⟨fit', rests, fun busy heard => arms busy ?_⟩
    rcases given with rfl | rfl
    · exact h.hears _ (hs.armed flying heard)
    · exact heard
  | passage watchdog =>
    obtain ⟨woken, armed'⟩ := h.wakes s.watchdog fits
    obtain ⟨fit', rests, arms⟩ := h.kick t.queue.inFlight woken
    rw [← watchdog] at fit' rests arms
    exact ⟨fit', rests, fun busy _ => arms busy (h.hears _ armed')⟩
  | rest flying watchdog =>
    obtain ⟨fit', rests⟩ := h.rests s.watchdog fits
    rw [← watchdog] at fit' rests
    refine ⟨fit', fun _ => rests, fun busy _ => ?_⟩
    rw [show t.queue.inFlight = true from busy] at flying
    cases flying

/-- What every demand asks for and every move leaves alone is true after every run. -/
theorem Attended.step (h : Watchdog.Heeds course fit armed resting hears)
    (hp : Attended fit armed resting hears p) (e : Event M) :
    Attended fit armed resting hears (step course p e) := by
  cases e with
  | call c => exact hp.demands h (p.scheduler.call_demands c)
  | move m =>
    obtain ⟨fit', rests, stays⟩ := h.after p.watchdog m hp.fit
    refine ⟨fit', fun idle => rests (hp.rests idle), fun busy heard => ?_⟩
    cases he : course.expires p.watchdog m with
    | true => simp [Patrol.step, he, Heard] at heard
    | false =>
      simp only [Patrol.step, he] at heard
      exact stays (hp.armed busy heard) he

omit [Watchdog W] in
theorem attended_begin {w : W} (hf : fit w) (hr : resting w) :
    Attended fit armed resting hears (begin w) :=
  ⟨hf, fun _ => hr, fun busy => Bool.noConfusion busy⟩

theorem attended_run (h : Watchdog.Heeds course fit armed resting hears)
    (hp : Attended fit armed resting hears p) (es : List (Event M)) :
    Attended fit armed resting hears (run course es p) := by
  induction es using List.reverseRecOn with
  | nil => exact hp
  | append_singleton es e ih =>
    rw [run_concat]
    exact ih.step h e

end Attended

end Patrol

namespace Scheduler

variable {W : Type}

/-- An abort does not come back to the caller, a refusal does. -/
def isAnswer {α : Type} : Except Fault α → Bool
  | .error (.abort _) => false
  | _ => true

variable [Watchdog W]

/-- Whether a call is answered. -/
def answers (s : Scheduler W) : Chronicle.Call → Bool
  | .openUp => isAnswer ((Dispatcher.openUp : Act (Scheduler W) Unit) s).1
  | .submit offer => isAnswer (Dispatcher.submit offer s).1
  | .next => isAnswer (Dispatcher.next s).1
  | .complete h => isAnswer (Dispatcher.complete h s).1
  | .finishRequest => isAnswer (Dispatcher.finishRequest s).1
  | .close mode => isAnswer (Dispatcher.close mode s).1
  | .wake => isAnswer (Dispatcher.finishClose s).1

/-- Calls that are all answered lead from one state to the other. -/
inductive Answered : List Chronicle.Call → Scheduler W → Scheduler W → Prop where
  | nil {s : Scheduler W} : Answered [] s s
  | cons {s t : Scheduler W} {c : Chronicle.Call} {cs : List Chronicle.Call} :
      s.answers c = true → Answered cs (s.after c) t → Answered (c :: cs) s t

theorem Answered.trans {s t u : Scheduler W} {cs ds : List Chronicle.Call} (h : Answered cs s t)
    (k : Answered ds t u) : Answered (cs ++ ds) s u := by
  induction h with
  | nil => exact k
  | cons answered _ ih => exact .cons answered (ih k)

end Scheduler

namespace Chronicle

open Scheduler

variable {W : Type} {c d : Chronicle W} {reply : Reply}

theorem attempt_inversion {α : Type} {act : Act (Scheduler W) α}
    {after : α → Chronicle W → Reply × Chronicle W}
    (ha : ∀ a e, (after a e).2.scheduler = e.scheduler)
    (h : attempt act after c = some (reply, d)) :
    isAnswer (act c.scheduler).1 = true ∧ d.scheduler = (act c.scheduler).2 := by
  rcases hs : act c.scheduler with ⟨fault | a, s⟩
  · cases fault with
    | refusal cause =>
      rw [attempt_of_refusal hs] at h
      cases h
      exact ⟨rfl, rfl⟩
    | abort cause =>
      rw [attempt_of_abort hs] at h
      cases h
  · rw [attempt_of_ok hs] at h
    have left := congrArg (fun out => out.2.scheduler) (Option.some.inj h)
    exact ⟨rfl, left.symm.trans (ha a _)⟩

variable [Watchdog W]

/-- What a chronicle has of a call is what the call leaves once it is answered. -/
theorem answered_perform {call : Call} (h : perform call c = some (reply, d)) :
    Answered [call] c.scheduler d.scheduler := by
  have answered : c.scheduler.answers call = true ∧ d.scheduler = c.scheduler.after call := by
    cases call <;> rw [perform] at h
    case openUp => exact attempt_inversion (fun _ _ => rfl) h
    case submit => exact attempt_inversion (fun _ _ => scheduler_enter _ _ _) h
    case next => exact attempt_inversion (fun _ _ => scheduler_takeOut _ _) h
    case complete => exact attempt_inversion (fun _ _ => rfl) h
    case finishRequest => exact attempt_inversion (fun _ _ => scheduler_report _ _) h
    case close => exact attempt_inversion (fun _ _ => scheduler_settleClose _ _ _) h
    case wake =>
      split at h
      · cases h
      · exact attempt_inversion (fun _ _ => scheduler_settleClose _ _ _) h
  rw [answered.2]
  exact .cons answered.1 .nil

theorem answered_submitAll (offers : List Offer) : ∀ {c d : Chronicle W},
    submitAll offers c = some d → ∃ cs, Answered cs c.scheduler d.scheduler := by
  induction offers with
  | nil =>
    intro c d h
    cases h
    exact ⟨[], .nil⟩
  | cons offer rest ih =>
    intro c d h
    obtain ⟨⟨reply, e⟩, he, hd⟩ := Option.bind_eq_some_iff.1 h
    obtain ⟨cs, more⟩ := ih hd
    exact ⟨_, (answered_perform he).trans more⟩

theorem answered_answer (owed : List Notice) : ∀ (inside : List (List Offer)) {c d : Chronicle W},
    answer owed inside c = some d → ∃ cs, Answered cs c.scheduler d.scheduler := by
  induction owed with
  | nil =>
    intro inside c d h
    cases h
    exact ⟨[], .nil⟩
  | cons n rest ih =>
    intro inside c d h
    obtain ⟨e, he, hd⟩ := Option.bind_eq_some_iff.1 h
    obtain ⟨cs, first⟩ := answered_submitAll _ he
    obtain ⟨more, last⟩ := ih _ hd
    exact ⟨_, first.trans last⟩

/-- The runs of a chronicle are series of calls on the scheduler like those of a patrol, but that
each call is answered. -/
theorem exists_answered_of_run {ts : List Turn} : ∀ {c d : Chronicle W}, run ts c = some d →
    ∃ cs, Answered cs c.scheduler d.scheduler := by
  induction ts with
  | nil =>
    intro c d h
    cases h
    exact ⟨[], .nil⟩
  | cons t ts ih =>
    intro c d h
    obtain ⟨⟨handle, e⟩, he, hd⟩ := Option.bind_eq_some_iff.1 h
    obtain ⟨⟨reply, f⟩, hf, ha⟩ := Option.bind_eq_some_iff.1 he
    obtain ⟨g, hg, hout⟩ := Option.map_eq_some_iff.1 ha
    obtain ⟨-, rfl⟩ := Prod.mk.inj hout
    obtain ⟨inside, told⟩ := answered_answer _ _ hg
    obtain ⟨more, rest⟩ := ih hd
    exact ⟨_, ((answered_perform hf).trans told).trans rest⟩

end Chronicle

namespace Patrol

variable {W M : Type} [Watchdog W]

theorem scheduler_run_calls (course : Watchdog.Course W M) {cs : List Chronicle.Call}
    {s t : Scheduler W} (h : Scheduler.Answered cs s t) (latest : Option (Sign W)) :
    (run course (cs.map .call) ⟨s, latest⟩).scheduler = t := by
  induction h generalizing latest with
  | nil => rfl
  | cons _ _ ih => exact ih _

/-- A patrol goes on after a call that is aborted. Its runs without such a call, and without anything
else that happens at the watchdog, are those of a chronicle. -/
theorem exists_run_of_chronicle (course : Watchdog.Course W M) {w : W} {ts : List Chronicle.Turn}
    {c : Chronicle W} (h : Chronicle.run ts (.begin w) = some c) :
    ∃ cs, Scheduler.Answered cs (.new w) c.scheduler ∧
      (run course (cs.map .call) (begin w)).scheduler = c.scheduler := by
  obtain ⟨cs, answered⟩ := Chronicle.exists_answered_of_run h
  exact ⟨cs, answered, scheduler_run_calls course answered none⟩

end Patrol

end TensorQueue
