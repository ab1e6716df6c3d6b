import TensorQueue.Proofs.Queue.Absorption
import TensorQueue.Proofs.Queue.Calm
import TensorQueue.Proofs.Queue.Patrol
import TensorQueue.Watchdog.Escalation

/-!
# Completions commute

The hardware comes back with descriptors in an order of its own. Each one is
notified, and the fences behind it and the tasks in front of it are dealt with at
once, so the queues in between depend on the order. What is left in the end does
not, nor do the requests that end, the oldest first. The watchdog is told each
time. If it aborts a notification, nobody hears of the requests that it has let
go of, but the queue goes on as if it had not.
-/

set_option autoImplicit false

namespace TensorQueue

open Dispatcher

namespace Queue

variable {q : Queue}

/-- The tasks fit together, and no settled fence is left in front. Tasks that are finished may still
have to be taken off. -/
structure Tidy (q : Queue) : Prop extends Framed q where
  unsettled : q.Unsettled

theorem Sound.tidy (h : q.Sound) : q.Tidy := ⟨h.toFramed, h.unsettled⟩

theorem Tidy.setOpen (h : q.Tidy) (b : Bool) : Tidy { q with isOpen := b } :=
  ⟨h.toFramed.setOpen b, h.unsettled.of_same rfl rfl⟩

theorem Tidy.push (h : q.Tidy) {ticket : Ticket} {ds : List Descriptor}
    (hb : q.nextTask.toNat + 1 < UInt64.size) :
    Tidy { q with nextTask := q.nextTask + 1
                  pending := q.pending ++ [Task.new q.nextTask ticket ds] } :=
  ⟨h.toFramed.push hb, h.unsettled.of_same rfl rfl⟩

theorem Tidy.skip (h : q.Tidy) (hb : q.nextTask.toNat + 1 < UInt64.size) :
    Tidy { q with nextTask := q.nextTask + 1 } :=
  ⟨h.toFramed.skip hb, h.unsettled.of_same rfl rfl⟩

theorem Tidy.promote (h : q.Tidy) : q.promote.2.Tidy := by
  obtain ⟨framed, unsettled⟩ := promote_framed h.toFramed h.unsettled
  exact ⟨framed, unsettled⟩

theorem Tidy.next (h : q.Tidy) : q.next.queue.Tidy := by
  cases ho : q.isOpen with
  | true => exact (h.toFramed.next_sound h.unsettled ho).tidy
  | false =>
    rw [next_of_shut ho]
    exact h

theorem completeAll_cons {k : Handle} {rest : List Handle} {ts : List Ticket} {r : Queue}
    (h : completeAll (k :: rest) q = .ok (ts, r)) : ∃ first others via,
      q.complete k = .ok (first, via) ∧ completeAll rest via = .ok (others, r) ∧
        ts = first ++ others := by
  obtain ⟨⟨first, via⟩, hc, h⟩ := exists_of_except_bind h
  obtain ⟨⟨others, left⟩, hr, h⟩ := exists_of_except_bind h
  cases h
  exact ⟨first, others, via, hc, hr, rfl⟩

/-- Completions take tasks off the front. -/
theorem tickets_of_completeAll {hs : List Handle} {ts : List Ticket} {r : Queue}
    (h : completeAll hs q = .ok (ts, r)) : q.tickets = ts ++ r.tickets := by
  induction hs generalizing q ts with
  | nil =>
    cases h
    rfl
  | cons k rest ih =>
    obtain ⟨first, others, via, hc, hr, rfl⟩ := completeAll_cons h
    rw [tickets_of_complete hc, ih hr, List.append_assoc]

end Queue

namespace Scheduler

variable {W : Type} [Watchdog W]

/-- How many numbers of tasks a call takes: an accepted submission takes one, and one that is aborted
may have taken one. -/
def admits (s : Scheduler W) : Chronicle.Call → Nat
  | .submit offer =>
    if (Dispatcher.submit offer s).2.queue.nextTask = s.queue.nextTask then 0 else 1
  | _ => 0

/-- Still tidy, and so many numbers later. -/
structure Advances (n : Nat) (q r : Queue) : Prop where
  tidy : r.Tidy
  number : r.nextTask.toNat = q.nextTask.toNat + n

section Calls

variable {s : Scheduler W} {q : Queue}

theorem Advances.refl (h : q.Tidy) : Advances 0 q q := ⟨h, rfl⟩

omit [Watchdog W] in
/-- A drained queue is tidy, whether the watchdog lets the close answer or not. -/
theorem Advances.drained {act : Act (Scheduler W) Closing}
    (h : ∃ w marks, act s = (.ok (.closed q.drain.1), ⟨q.drain.2, w, marks⟩) ∨
      ∃ cause, act s = (.error (.abort cause), ⟨q.drain.2, w, marks⟩))
    (hn : q.nextTask = s.queue.nextTask) : Advances 0 s.queue (act s).2.queue := by
  have left : (act s).2.queue = q.drain.2 := by
    obtain ⟨w, marks, h | ⟨cause, h⟩⟩ := h <;> rw [h]
  rw [left]
  exact ⟨Queue.drain_sound.tidy, by rw [Queue.nextTask_drain, hn, Nat.add_zero]⟩

theorem progress_advances {f : Queue → Except Error (List Ticket × Queue)} (h : s.queue.Tidy)
    (hf : ∀ {ts r}, f s.queue = .ok (ts, r) → r.Sound ∧ r.nextTask = s.queue.nextTask) :
    Advances 0 s.queue (progress f s).2.queue := by
  rcases progress_cases f s with ⟨ts, q, hq, -⟩ | ⟨cause, -, hp⟩
  · obtain ⟨sound, number⟩ := hf hq
    have left : (progress f s).2.queue = q := congrArg Prod.fst (post_progress hq)
    rw [left]
    exact ⟨sound.tidy, by rw [number, Nat.add_zero]⟩
  · rw [hp]
    exact .refl h

theorem next_advances (h : s.queue.Tidy) : Advances 0 s.queue (Dispatcher.next s).2.queue := by
  have looked : Advances 0 s.queue s.queue.next.queue :=
    ⟨h.next, by rw [Queue.nextTask_next, Nat.add_zero]⟩
  rcases next_cases s with ⟨w, marks, hn⟩ | ⟨cause, q, w, marks, hn, rfl | rfl⟩
  · rw [hn]
    exact looked
  · rw [hn]
    exact ⟨h.promote, by rw [Queue.nextTask_promote, Nat.add_zero]⟩
  · rw [hn]
    exact looked

theorem close_advances (mode : CloseMode) (h : s.queue.Tidy) :
    Advances 0 s.queue (Dispatcher.close mode s).2.queue := by
  rcases close_cases mode s with ⟨q, hq, ⟨-, -, hc⟩ | hc⟩ | ⟨cause, -, hc⟩
  · obtain ⟨-, rfl⟩ := Queue.shut_eq_ok_iff.1 hq
    rw [hc]
    exact ⟨h.setOpen false, rfl⟩
  · obtain ⟨-, rfl⟩ := Queue.shut_eq_ok_iff.1 hq
    exact .drained hc rfl
  · rw [hc]
    exact .refl h

theorem finishClose_advances (h : s.queue.Tidy) :
    Advances 0 s.queue (Dispatcher.finishClose s).2.queue := by
  rcases finishClose_cases s with ⟨-, hc⟩ | ⟨-, hc⟩
  · rw [hc]
    exact .refl h
  · exact .drained hc rfl

theorem admits_submit_of_same {offer : Offer}
    (h : (Dispatcher.submit offer s).2.queue.nextTask = s.queue.nextTask) :
    s.admits (.submit offer) = 0 := if_pos h

theorem admits_submit_of_succ {offer : Offer}
    (h : (Dispatcher.submit offer s).2.queue.nextTask = s.queue.nextTask + 1) :
    s.admits (.submit offer) = 1 := by
  have moved : s.queue.nextTask + 1 ≠ s.queue.nextTask := by
    simp
  rw [← h] at moved
  exact if_neg moved

theorem submit_advances (offer : Offer) (h : s.queue.Tidy)
    (hb : s.queue.nextTask.toNat + s.admits (.submit offer) < UInt64.size) :
    Advances (s.admits (.submit offer)) s.queue (Dispatcher.submit offer s).2.queue := by
  rcases submit_cases offer s with
    ⟨ds, q, marks, -, hq, hs⟩ | ⟨cause, hs, -⟩ | ⟨cause, n, marks, hs, rfl | rfl, -⟩
  · obtain ⟨-, -, rfl⟩ := Queue.submit_eq_ok_iff.1 hq
    have one : s.admits (.submit offer) = 1 := admits_submit_of_succ (by rw [hs])
    rw [one] at hb ⊢
    rw [hs]
    exact ⟨h.push hb, Queue.toNat_number_succ hb⟩
  · have none : s.admits (.submit offer) = 0 := admits_submit_of_same (by rw [hs])
    rw [none, hs]
    exact .refl h
  · have none : s.admits (.submit offer) = 0 := admits_submit_of_same (by rw [hs])
    rw [none, hs]
    exact .refl h
  · have one : s.admits (.submit offer) = 1 := admits_submit_of_succ (by rw [hs])
    rw [one] at hb ⊢
    rw [hs]
    exact ⟨h.skip hb, Queue.toNat_number_succ hb⟩

/-- However a call ends, it leaves the queue tidy. -/
theorem after_advances (h : s.queue.Tidy) (c : Chronicle.Call)
    (hb : s.queue.nextTask.toNat + s.admits c < UInt64.size) :
    Advances (s.admits c) s.queue (s.after c).queue := by
  cases c with
  | openUp =>
    rcases openUp_cases s with ⟨q, hq, ho⟩ | ⟨cause, -, ho⟩
    · obtain ⟨-, rfl⟩ := Queue.openUp_eq_ok_iff.1 hq
      rw [after, ho]
      exact ⟨h.setOpen true, rfl⟩
    · rw [after, ho]
      exact .refl h
  | submit offer => exact submit_advances offer h hb
  | next => exact next_advances h
  | complete k =>
    exact progress_advances h fun hc =>
      ⟨h.toFramed.complete_sound hc, Queue.nextTask_of_complete hc⟩
  | finishRequest =>
    exact progress_advances h fun hf =>
      ⟨h.toFramed.finishRequest_sound h.unsettled hf, Queue.nextTask_of_finishRequest hf⟩
  | close mode => exact close_advances mode h
  | wake => exact finishClose_advances h

end Calls

end Scheduler

namespace Patrol

variable {W M : Type} [Watchdog W] {course : Watchdog.Course W M}

/-- How many numbers of tasks are taken in the course of these events. -/
def admitted (course : Watchdog.Course W M) : List (Event M) → Patrol W → Nat
  | [], _ => 0
  | .call c :: es, p => p.scheduler.admits c + admitted course es (step course p (.call c))
  | .move m :: es, p => admitted course es (step course p (.move m))

/-- As long as the numbers of tasks last, the queue is tidy after every run. -/
theorem tidy_run (es : List (Event M)) {p : Patrol W} (h : p.scheduler.queue.Tidy)
    (hb : p.scheduler.queue.nextTask.toNat + admitted course es p < UInt64.size) :
    (run course es p).scheduler.queue.Tidy := by
  induction es generalizing p with
  | nil => exact h
  | cons e es ih =>
    cases e with
    | call c =>
      rw [admitted, ← Nat.add_assoc] at hb
      obtain ⟨tidy, number⟩ := Scheduler.after_advances h c (Nat.lt_of_le_of_lt
        (Nat.le_add_right _ _) hb)
      exact ih tidy (by rwa [← number] at hb)
    | move m => exact ih h hb

end Patrol

namespace Scheduler

variable {W : Type} [Watchdog W]

/-- The hardware comes back with these descriptors, one after another. After an abort it goes on
with the next. -/
def notifyAll : List Handle → Scheduler W → List (Except Fault (List Ticket)) × Scheduler W
  | [], s => ([], s)
  | h :: rest, s =>
    let (answer, s) := Dispatcher.complete h s
    let (answers, s) := notifyAll rest s
    (answer :: answers, s)

/-- The requests that somebody is told of. -/
def told (answers : List (Except Fault (List Ticket))) : List Ticket :=
  answers.flatMap fun
    | .ok ts => ts
    | .error _ => []

/-- The notifications end these requests and leave this queue. None is refused, and everybody is
told unless there is an abort. -/
structure Settles (finished : List Ticket) (left : Queue)
    (out : List (Except Fault (List Ticket)) × Scheduler W) : Prop where
  queue : out.2.queue = left
  accepted : ∀ answer ∈ out.1, answer.isOk = true ∨ ∃ cause, answer = .error (.abort cause)
  told : (told out.1).Sublist finished
  all : (∀ answer ∈ out.1, answer.isOk = true) → Scheduler.told out.1 = finished

section Notifications

variable {s t : Scheduler W} {hs : List Handle} {ts : List Ticket} {r : Queue}

theorem notifyAll_cons {k : Handle} {rest : List Handle} {answer : Except Fault (List Ticket)}
    (h : Dispatcher.complete k s = (answer, t)) :
    notifyAll (k :: rest) s = (answer :: (notifyAll rest t).1, (notifyAll rest t).2) := by
  rw [notifyAll, h]

/-- The queue alone decides what the notifications come to. -/
theorem notifyAll_settles (h : Queue.completeAll hs s.queue = .ok (ts, r)) :
    Settles ts r (notifyAll hs s) := by
  induction hs generalizing s ts with
  | nil =>
    cases h
    exact ⟨rfl, by simp [notifyAll], List.Sublist.refl [], fun _ => rfl⟩
  | cons k rest ih =>
    obtain ⟨first, others, via, hc, hr, rfl⟩ := Queue.completeAll_cons h
    rcases progress_cases (Queue.complete k) s with
      ⟨done, q, hq, w, marks, hp | ⟨cause, hp⟩⟩ | ⟨cause, hq, -⟩
    · cases hc.symm.trans hq
      obtain ⟨queue, accepted, told, all⟩ := ih (s := ⟨via, w, marks⟩) hr
      rw [notifyAll_cons hp]
      refine ⟨queue, List.forall_mem_cons.2 ⟨.inl rfl, accepted⟩, told.append_left first, ?_⟩
      intro ok
      exact congrArg (first ++ ·) (all (List.forall_mem_cons.1 ok).2)
    · cases hc.symm.trans hq
      obtain ⟨queue, accepted, told, -⟩ := ih (s := ⟨via, w, marks⟩) hr
      rw [notifyAll_cons hp]
      refine ⟨queue, List.forall_mem_cons.2 ⟨.inr ⟨cause, rfl⟩, accepted⟩,
        told.trans (List.sublist_append_right first others), fun ok => ?_⟩
      cases (List.forall_mem_cons.1 ok).1
    · cases hc.symm.trans hq

/-- A watchdog that always answers lets every notification be answered. -/
theorem notifyAll_calm {calm : W → Prop} (hw : Watchdog.Calm calm) (hs' : calm s.watchdog)
    (h : Queue.completeAll hs s.queue = .ok (ts, r)) :
    ∀ answer ∈ (notifyAll hs s).1, answer.isOk = true := by
  induction hs generalizing s ts with
  | nil => simp [notifyAll]
  | cons k rest ih =>
    obtain ⟨first, others, via, hc, hr, -⟩ := Queue.completeAll_cons h
    obtain ⟨w, marks, hp, still⟩ := progress_calm hw hs' hc
    rw [notifyAll_cons hp]
    exact List.forall_mem_cons.2 ⟨rfl, ih (s := ⟨via, w, marks⟩) still hr⟩

end Notifications

end Scheduler

namespace Queue

variable {q : Queue}

/-- Completions of the same descriptors come to the same in every order, and the hardware goes on
holding the others. -/
theorem Framed.completeAll_perm (h : q.Framed) {hs : List Handle}
    (hn : (hs.map Handle.place).Nodup) (ha : ∀ k ∈ hs, q.ActiveAt k.place) :
    ∃ ts r, (∀ a, r.ActiveAt a ↔ q.ActiveAt a ∧ a ∉ hs.map Handle.place) ∧
      ∀ order : List Handle, order.Perm hs → completeAll order q = .ok (ts, r) := by
  by_cases hne : hs = []
  · refine ⟨[], q, by simp [hne], fun order perm => ?_⟩
    rw [hne, List.perm_nil] at perm
    rw [perm]
    rfl
  · have framed : (Queue.mark (hs.map Handle.place) q).Framed := h.mark hn fun p hp => by
      obtain ⟨k, hk, rfl⟩ := List.mem_map.1 hp
      exact ha k hk
    have others : ∀ a, (collect (Queue.mark (hs.map Handle.place) q)).2.ActiveAt a ↔
        q.ActiveAt a ∧ a ∉ hs.map Handle.place :=
      fun a => framed.activeAt_collect.trans (activeAt_mark _ q)
    obtain ⟨⟨ts, r⟩, hc⟩ : ∃ out, collect (Queue.mark (hs.map Handle.place) q) = out := ⟨_, rfl⟩
    rw [hc] at others
    refine ⟨ts, r, others, fun order perm => ?_⟩
    have places : (order.map Handle.place).Perm (hs.map Handle.place) := perm.map _
    have some : order ≠ [] := by
      rintro rfl
      exact hne (List.perm_nil.1 perm.symm)
    rw [h.completeAll_eq some (places.nodup_iff.2 hn) fun k hk => ha k (perm.mem_iff.1 hk),
      mark_perm places, hc]

end Queue

namespace Patrol

variable {W M : Type} [Watchdog W] {course : Watchdog.Course W M} {w : W}
  {es : List (Event M)} {p : Patrol W} {hs : List Handle}

/-- The hardware comes back with some of the descriptors that it holds, in any order, and goes on
holding the others. The queue that is left and the requests that end, the oldest first, are the same
for every order. A notification is answered unless the watchdog aborts it. -/
theorem completions_commute (hp : run course es (begin w) = p)
    (hb : admitted course es (begin w) < UInt64.size) (hn : (hs.map Handle.place).Nodup)
    (ha : ∀ h ∈ hs, p.scheduler.queue.ActiveAt h.place) :
    ∃ finished left, p.scheduler.queue.tickets = finished ++ left.tickets ∧
      (∀ a, left.ActiveAt a ↔ p.scheduler.queue.ActiveAt a ∧ a ∉ hs.map Handle.place) ∧
      ∀ order : List Handle, order.Perm hs →
        Scheduler.Settles finished left (p.scheduler.notifyAll order) ∧
        ∀ calm : W → Prop, Watchdog.Calm calm → calm p.watchdog →
          ∀ answer ∈ (p.scheduler.notifyAll order).1, answer.isOk = true := by
  have start : (begin w).scheduler.queue.nextTask.toNat + admitted course es (begin w) <
      UInt64.size := by
    rw [show (begin w).scheduler.queue.nextTask.toNat = 0 from rfl, Nat.zero_add]
    exact hb
  have tidy : p.scheduler.queue.Tidy := by
    rw [← hp]
    exact tidy_run es Queue.new_sound.tidy start
  obtain ⟨finished, left, others, same⟩ := tidy.toFramed.completeAll_perm hn ha
  refine ⟨finished, left, Queue.tickets_of_completeAll (same hs (List.Perm.refl hs)), others, ?_⟩
  intro order perm
  exact ⟨Scheduler.notifyAll_settles (same order perm), fun calm hc hw =>
    Scheduler.notifyAll_calm hc hw (same order perm)⟩

/-- Nothing else goes on at the watchdog. -/
def still : Watchdog.Course W Empty := ⟨fun w _ => w, fun _ _ => false⟩

/-- The hardware holds all of two requests, the first of which has been reported as a whole. A fence
ends the second one. -/
def dispatched : List (Event Empty) :=
  [.openUp, .submit ⟨{ (default : Ticket) with key := 1 },
      .ok [⟨.instruction, 0, 64⟩, ⟨.instruction, 64, 64⟩]⟩, .next, .next, .finishRequest,
    .submit ⟨{ (default : Ticket) with key := 2 },
      .ok [⟨.instruction, 128, 64⟩, Descriptor.marker .localFence]⟩, .next].map .call

def inOrder : List Handle :=
  [⟨0, 0, ⟨.instruction, 0, 64⟩⟩, ⟨0, 1, ⟨.instruction, 64, 64⟩⟩, ⟨1, 0, ⟨.instruction, 128, 64⟩⟩]

theorem backwards_comes_to_the_same : ∃ p : Patrol Watchdog.Idle,
    run still dispatched (begin ⟨⟩) = p ∧
      (p.scheduler.notifyAll inOrder).2.queue = (p.scheduler.notifyAll inOrder.reverse).2.queue ∧
      (Scheduler.told (p.scheduler.notifyAll inOrder).1).map Ticket.key = [1, 2] ∧
      Scheduler.told (p.scheduler.notifyAll inOrder.reverse).1 =
        Scheduler.told (p.scheduler.notifyAll inOrder).1 := by
  obtain ⟨p, hp⟩ : ∃ p : Patrol Watchdog.Idle, run still dispatched (begin ⟨⟩) = p := ⟨_, rfl⟩
  have active : ∀ h ∈ inOrder,
      ((run still dispatched (begin Watchdog.Idle.mk)).scheduler.queue.entryAt? h.place).any
        Entry.isActive = true := by
    decide +kernel
  have keys : (Scheduler.told ((run still dispatched
      (begin Watchdog.Idle.mk)).scheduler.notifyAll inOrder).1).map Ticket.key = [1, 2] := by
    decide +kernel
  rw [hp] at active keys
  have held : ∀ h ∈ inOrder, p.scheduler.queue.ActiveAt h.place := fun h hh =>
    (Option.any_eq_true _ _).1 (active h hh)
  obtain ⟨finished, left, -, -, same⟩ :=
    completions_commute hp (by decide +kernel) (by decide) held
  obtain ⟨forwards, calm⟩ := same inOrder (List.Perm.refl _)
  obtain ⟨backwards, calm'⟩ := same inOrder.reverse (List.reverse_perm _)
  refine ⟨p, hp, forwards.queue.trans backwards.queue.symm, keys, ?_⟩
  rw [forwards.all (calm _ Watchdog.Idle.calm trivial),
    backwards.all (calm' _ Watchdog.Idle.calm trivial)]

/-- A transfer is with the hardware, and the watchdog has a level that the clock cannot tell. -/
def overlong : List (Event Empty) :=
  [.openUp, .submit ⟨default, .ok [⟨.instruction, 0, 64⟩, ⟨.instruction, 64, 64⟩]⟩, .next, .next,
    .next].map .call

/-- The notification of a descriptor that the hardware holds is aborted with the watchdog. -/
theorem notification_aborted : ∃ e p h,
    Escalation.new [⟨Clock.signedSeconds * Duration.nsPerSecond⟩] (fun _ => .ok (.system .condvar [])) =
      .ok e ∧ run still overlong (begin e) = p ∧
      admitted still overlong (begin e) < UInt64.size ∧ p.scheduler.queue.ActiveAt h.place ∧
      (p.scheduler.notifyAll [h]).1 = [.error (.abort .instantOverflow)] := by
  obtain ⟨e, he⟩ : ∃ e, Escalation.new [⟨Clock.signedSeconds * Duration.nsPerSecond⟩]
      (fun _ => .ok (.system .condvar [])) = .ok e := ⟨_, rfl⟩
  have seen : (Escalation.new [⟨Clock.signedSeconds * Duration.nsPerSecond⟩]
      (fun _ => .ok (.system .condvar []))).toOption.map (fun e =>
        let p := run still overlong (begin e)
        let h : Handle := ⟨0, 0, ⟨.instruction, 0, 64⟩⟩
        decide (admitted still overlong (begin e) < UInt64.size ∧
          (p.scheduler.queue.entryAt? h.place).any Entry.isActive = true ∧
          (p.scheduler.notifyAll [h]).1 = [.error (.abort .instantOverflow)])) = some true := by
    decide +kernel
  rw [he] at seen
  obtain ⟨bounded, active, aborted⟩ := of_decide_eq_true (Option.some.inj seen)
  obtain ⟨x, hx, ha⟩ := (Option.any_eq_true _ _).1 active
  exact ⟨e, _, ⟨0, 0, ⟨.instruction, 0, 64⟩⟩, he, rfl, bounded, ⟨x, hx, ha⟩, aborted⟩

end Patrol

end TensorQueue
