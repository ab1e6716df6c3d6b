import TensorQueue.Admission.RealTime
import TensorQueue.Proofs.Outcomes
import TensorQueue.Proofs.Queue.Outline
import TensorQueue.Proofs.Queue.Supervision

/-!
# What a queue holds

The keys of the tasks held say which requests still have to end. A submission
that is accepted adds its key at the back. Keys leave from the front, and a
call that is answered names all that left. A call that is refused leaves them
alone. One that is aborted may have lost keys from the front, which nobody is
told of.
-/

set_option autoImplicit false

namespace TensorQueue

open Dispatcher

namespace Queue

variable {q r : Queue} {p : Place} {f : Entry → Entry} {ts : List Ticket}

/-- The tickets of all tasks held, the oldest first. -/
def tickets (q : Queue) : List Ticket := q.held.map Task.ticket

/-- The keys of the requests held, the oldest first. -/
def keys (q : Queue) : List Nat := q.held.map fun t => t.ticket.key

theorem keys_eq (q : Queue) : q.keys = q.tickets.map Ticket.key := by
  rw [keys, tickets, List.map_map]
  rfl

@[simp] theorem ticket_touch (t : Task) : (touch p f t).ticket = t.ticket := by
  unfold touch
  split <;> rfl

@[simp] theorem tickets_alterEntry : (q.alterEntry p f).tickets = q.tickets := by
  simp only [tickets, held, flying_alterEntry, List.map_append, List.map_map]
  congr 1
  exact List.map_congr_left fun t _ => ticket_touch t

theorem tickets_settleFrom (l : List Place) (q : Queue) :
    (settleFrom l q).tickets = q.tickets := by
  induction l generalizing q with
  | nil => rfl
  | cons p rest ih =>
    rw [settleFrom]
    split
    · exact (ih _).trans tickets_alterEntry
    · rfl

@[simp] theorem tickets_settleFences : q.settleFences.tickets = q.tickets :=
  tickets_settleFrom q.ready q

theorem tickets_promoteFrom (ts : List Task) (q : Queue) :
    (promoteFrom ts q).2.tickets = ({ q with pending := ts } : Queue).tickets := by
  induction ts generalizing q with
  | nil => rfl
  | cons t rest ih =>
    rw [promoteFrom]
    split
    · have same : settleFences { activate t q with pending := rest } =
          { settleFences (activate t q) with pending := rest } := settleFrom_pending _ _ _
      have settled : (settleFences { activate t q with pending := rest }).tickets =
          ({ activate t q with pending := rest } : Queue).tickets := tickets_settleFences
      rw [same] at settled
      rw [ih, settled]
      simp [tickets, held, flying, activate]
    · rfl

@[simp] theorem tickets_promote : q.promote.2.tickets = q.tickets :=
  tickets_promoteFrom q.pending q

@[simp] theorem tickets_dispatch : q.dispatch.2.tickets = q.tickets := by
  rcases dispatch_cases q with h | ⟨p, rest, e, -, -, -, h⟩
  · rw [h]
  · rw [h]
    exact tickets_alterEntry

theorem tickets_rest {t : Task} {others : List Task} (ha : q.active = t :: others) :
    (rest t others q).tickets = q.tickets := by
  simp [tickets, held, flying, rest, ha, Task.completePending]

theorem tickets_takeFinished (q : Queue) :
    q.tickets = q.takeFinished.1 ++ q.takeFinished.2.tickets := by
  obtain ⟨gone, hheld, htickets, -⟩ := takeFinished_leaves q
  rw [tickets, ← hheld, htickets, tickets, List.map_append]

theorem tickets_next (q : Queue) : q.tickets = q.next.finished ++ q.next.queue.tickets := by
  cases ho : q.isOpen with
  | false => simp [next_of_shut ho]
  | true =>
    have taken := tickets_takeFinished q.promote.2.dispatch.2
    rw [tickets_dispatch, tickets_promote] at taken
    rw [next_of_open ho]
    exact taken

theorem tickets_of_complete {h : Handle} (hc : q.complete h = .ok (ts, r)) :
    q.tickets = ts ++ r.tickets := by
  obtain ⟨t, e, -, -, -, heq⟩ := complete_eq_ok_iff.1 hc
  have taken := tickets_takeFinished
    (settleFences (q.alterEntry ⟨h.task, h.index⟩ Entry.complete))
  rw [tickets_settleFences, tickets_alterEntry, ← heq] at taken
  exact taken

theorem tickets_of_finishRequest (hf : q.finishRequest = .ok (ts, r)) :
    q.tickets = ts ++ r.tickets := by
  obtain ⟨t, others, ha, -, heq⟩ := finishRequest_eq_ok_iff.1 hf
  have taken := tickets_takeFinished (rest t others q)
  rw [tickets_rest ha, ← heq] at taken
  exact taken

theorem tickets_of_submit {ticket : Ticket} {ds : List Descriptor}
    (h : q.submit ticket ds = .ok r) : r.tickets = q.tickets ++ [ticket] := by
  obtain ⟨-, -, rfl⟩ := submit_eq_ok_iff.1 h
  simp [tickets, held, flying, Task.new]

theorem keys_of_tickets (h : q.tickets = ts ++ r.tickets) :
    q.keys = ts.map Ticket.key ++ r.keys := by
  rw [keys_eq, keys_eq, h, List.map_append]

theorem keys_promote : q.promote.2.keys = q.keys := by
  rw [keys_eq, keys_eq, tickets_promote]

theorem keys_of_openUp (h : q.openUp = .ok r) : r.keys = q.keys := by
  obtain ⟨-, rfl⟩ := openUp_eq_ok_iff.1 h
  rfl

theorem keys_of_shut (h : q.shut = .ok r) : r.keys = q.keys := by
  obtain ⟨-, rfl⟩ := shut_eq_ok_iff.1 h
  rfl

theorem keys_of_submit {ticket : Ticket} {ds : List Descriptor} (h : q.submit ticket ds = .ok r) :
    r.keys = q.keys ++ [ticket.key] := by
  rw [keys_eq, keys_eq, tickets_of_submit h, List.map_append]
  rfl

theorem keys_next (q : Queue) : q.keys = q.next.finished.map Ticket.key ++ q.next.queue.keys :=
  keys_of_tickets q.tickets_next

theorem keys_of_complete {h : Handle} (hc : q.complete h = .ok (ts, r)) :
    q.keys = ts.map Ticket.key ++ r.keys :=
  keys_of_tickets (tickets_of_complete hc)

theorem keys_of_finishRequest (hf : q.finishRequest = .ok (ts, r)) :
    q.keys = ts.map Ticket.key ++ r.keys :=
  keys_of_tickets (tickets_of_finishRequest hf)

theorem keys_drain (q : Queue) : q.keys = q.drain.1.map Ticket.key ++ q.drain.2.keys := by
  simp [keys, drain, held, flying, Function.comp_def]

theorem keys_of_isEmpty (h : q.isEmpty = true) : q.keys = [] := by
  simp only [isEmpty, Bool.and_eq_true, List.isEmpty_iff] at h
  simp [keys, held, flying, h.1.1.1, h.1.2, h.2]

end Queue

/-- The tickets that a close lets go. -/
def Dispatcher.Closing.tickets : Closing → List Ticket
  | .waiting => []
  | .closed ts => ts

namespace Scheduler

variable {W α : Type} {ks : List Nat}

def Holds (ks : List Nat) (s : Scheduler W) : Prop := s.queue.keys = ks

/-- Of these keys, the ones of the tickets have left from the front. -/
def Released (ks : List Nat) (ts : List Ticket) (s : Scheduler W) : Prop :=
  ks = ts.map Ticket.key ++ s.queue.keys

/-- Keys may have been lost from the front. -/
def Lossy (ks : List Nat) (s : Scheduler W) : Prop := ∃ gone, ks = gone ++ s.queue.keys

/-- The action answers with all that it lets go, and lets nothing go if it is refused. -/
def Releasing (act : Act (Scheduler W) α) (tickets : α → List Ticket) : Prop :=
  ∀ ks, Act.Meets (Holds ks) act (fun a => Released ks (tickets a)) (Holds ks) (Lossy ks)

theorem drained_ends {act : Act (Scheduler W) Closing} {s : Scheduler W} {q : Queue}
    (hq : q.keys = ks) (h : ∃ w marks, act s = (.ok (.closed q.drain.1), ⟨q.drain.2, w, marks⟩) ∨
      ∃ cause, act s = (.error (.abort cause), ⟨q.drain.2, w, marks⟩)) :
    Act.Ends (fun c => Released ks c.tickets) (Holds ks) (Lossy ks) (act s) := by
  obtain ⟨w, marks, h | ⟨cause, h⟩⟩ := h
  · rw [h]
    exact hq.symm.trans q.keys_drain
  · rw [h]
    exact ⟨_, hq.symm.trans q.keys_drain⟩

variable [Watchdog W]

theorem submit_holds (offer : Offer) : Act.Meets (Holds ks) (Dispatcher.submit offer)
    (fun _ => Holds (W := W) (ks ++ [offer.ticket.key])) (Holds ks) (Holds ks) := by
  intro s hs
  rcases submit_cases offer s with
    ⟨ds, q, marks, -, hq, h⟩ | ⟨cause, h, -⟩ | ⟨cause, n, marks, h, -⟩
  · rw [h]
    exact (Queue.keys_of_submit hq).trans (hs ▸ rfl)
  · rw [h]
    exact hs
  · rw [h]
    exact hs

theorem openUp_releasing :
    Releasing (W := W) Dispatcher.openUp fun _ => [] := by
  intro ks s hs
  rcases openUp_cases s with ⟨q, hq, h⟩ | ⟨cause, -, h⟩
  · rw [h]
    exact hs.symm.trans (Queue.keys_of_openUp hq).symm
  · rw [h]
    exact hs

theorem next_releasing : Releasing (W := W) Dispatcher.next Prod.snd := by
  intro ks s hs
  rcases next_cases s with ⟨w, marks, h⟩ | ⟨cause, q, w, marks, h, hq⟩
  · rw [h]
    exact hs.symm.trans s.queue.keys_next
  · rw [h]
    rcases hq with rfl | rfl
    · exact ⟨[], hs.symm.trans Queue.keys_promote.symm⟩
    · exact ⟨_, hs.symm.trans s.queue.keys_next⟩

theorem progress_releasing {f : Queue → Except Error (List Ticket × Queue)}
    (hf : ∀ {q ts r}, f q = .ok (ts, r) → q.keys = ts.map Ticket.key ++ r.keys) :
    Releasing (progress (W := W) f) id := by
  intro ks s hs
  rcases progress_cases f s with ⟨ts, q, hq, w, marks, h | ⟨cause, h⟩⟩ | ⟨cause, -, h⟩
  · rw [h]
    exact hs.symm.trans (hf hq)
  · rw [h]
    exact ⟨_, hs.symm.trans (hf hq)⟩
  · rw [h]
    exact hs

theorem close_releasing (mode : CloseMode) :
    Releasing (W := W) (Dispatcher.close mode) Closing.tickets := by
  intro ks s hs
  rcases close_cases mode s with ⟨q, hq, ⟨-, -, h⟩ | h⟩ | ⟨cause, -, h⟩
  · rw [h]
    exact hs.symm.trans (Queue.keys_of_shut hq).symm
  · exact drained_ends ((Queue.keys_of_shut hq).trans hs) h
  · rw [h]
    exact hs

theorem finishClose_releasing :
    Releasing (W := W) Dispatcher.finishClose Closing.tickets := by
  intro ks s hs
  rcases finishClose_cases s with ⟨-, h⟩ | ⟨-, h⟩
  · rw [h]
    exact hs.symm
  · exact drained_ends hs h

end Scheduler

namespace RealTime

variable {W : Type} [Watchdog W] {ks : List Nat}

def Holds (ks : List Nat) (s : RealTime (Scheduler W)) : Prop := s.backing.Holds ks

omit [Watchdog W] in
theorem onDesk_holds (f : Desk → Desk) :
    Act.Meets (Holds (W := W) ks) (onDesk f) (fun _ => Holds ks) (Holds ks) (Holds ks) :=
  Act.Meets.modify fun _ hs => hs

omit [Watchdog W] in
theorem reserve_holds (ticket : Ticket) :
    Act.Meets (Holds (W := W) ks) (reserve ticket) (fun _ => Holds ks) (Holds ks) (Holds ks) := by
  unfold reserve
  apply Act.Meets.read
  intro s hs
  apply ((onDesk_holds _).bind fun _ => ?_) s hs
  intro t ht
  show Act.Ends _ _ _ (t.desk.decide ticket.id ticket.executable t.clock, t)
  rcases t.desk.decide ticket.id ticket.executable t.clock with fault | finish
  · cases fault <;> exact ht
  · exact ht

theorem submit_holds (offer : Offer) :
    Act.Meets (Holds (W := W) ks) (Dispatcher.submit offer)
      (fun _ => Holds (ks ++ [offer.ticket.key])) (Holds ks) (Holds ks) := by
  have behind : Act.Meets (Holds (W := W) ks) (onBacking (Dispatcher.submit offer))
      (fun _ => Holds (ks ++ [offer.ticket.key])) (Holds ks) (Holds ks) :=
    fun s hs => Act.Ends.within (Scheduler.submit_holds offer s.backing hs)
  have tried : Act.Meets (Holds (W := W) ks) (Act.attempt (onBacking (Dispatcher.submit offer)))
      (fun outcome => Holds (if outcome.isOk then ks ++ [offer.ticket.key] else ks)) (Holds ks)
      (Holds ks) :=
    Act.Meets.attempt (behind.weaken (fun _ _ ht => ht) (fun _ ht _ => ht) fun _ ht => ht)
  show Act.Meets _ (submit offer) _ _ _
  unfold submit
  apply Act.Meets.read
  intro s hs
  split
  · apply ((reserve_holds offer.ticket).bind fun finish => ?_) s hs
    apply (onDesk_holds _).bind
    intro _
    apply tried.bind
    rintro (cause | _)
    · exact (onDesk_holds _).bind fun _ => Act.Meets.refuse fun _ ht => ht
    · exact Act.Meets.value fun _ ht => ht
  · exact behind s hs

end RealTime

end TensorQueue
