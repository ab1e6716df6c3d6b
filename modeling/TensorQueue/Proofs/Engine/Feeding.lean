import TensorQueue.Engine.Basic
import TensorQueue.Proofs.Queue.Calm
import TensorQueue.Proofs.Queue.Emptying

/-!
# A scheduler that feeds an engine

An engine sees of a scheduler what the caller of a call sees, faults included,
and the callbacks of the requests submit nothing. What it gets without a fault
is a turn of the chronicle, so all that runs keep is kept. As long as the
watchdog answers, the work of a workable queue gets less with every service.
-/

set_option autoImplicit false

namespace TensorQueue.Chronicle

open Dispatcher History

variable {W : Type} {c d e : Chronicle W}

/-- Requests are told of their end, and nothing is submitted. -/
def tell (told : List Notice) (c : Chronicle W) : Chronicle W :=
  { c with passages := c.passages ++ told.map .notified }

def engage {α : Type} (act : Act (Scheduler W) α) : Act (Chronicle W) α :=
  Act.within Chronicle.scheduler (fun c s => { c with scheduler := s }) act

section Notes

theorem accepted_tell (told : List Notice) :
    accepted (c.tell told).passages = accepted c.passages := by
  simp [tell, accepted, Function.comp_def, Passage.task?]

theorem notices_tell (told : List Notice) :
    notices (c.tell told).passages = notices c.passages ++ told := by
  simp [tell, notices, List.filterMap_append, Function.comp_def, Passage.notice?]

end Notes

/-- The second chronicle goes on where the first one ends. Nothing was submitted meanwhile, and
whoever was told of an end was told that all is done. -/
structure Serves (c d : Chronicle W) : Prop where
  beats : Beats (c.moment []) (d.moment [])
  accepted : accepted d.passages = accepted c.passages
  told : ∃ ts, notices d.passages = notices c.passages ++ finished ts

section Serves

theorem Serves.trans (h : Serves c d) (h' : Serves d e) : Serves c e where
  beats := h.beats.trans h'.beats
  accepted := h'.accepted.trans h.accepted
  told := by
    obtain ⟨ts, ht⟩ := h.told
    obtain ⟨us, hu⟩ := h'.told
    refine ⟨ts ++ us, ?_⟩
    rw [hu, ht, List.append_assoc, finished, finished, finished, List.map_append]

/-- Once the queue holds nothing, everyone who was in it has been told, in order. -/
theorem Serves.told_all (h : Serves c d) (hc : Kept (c.moment [])) (hb : Bounded c.passages)
    (hd : d.scheduler.queue.held = []) :
    notices d.passages =
      notices c.passages ++ finished (c.scheduler.queue.held.map Task.ticket) := by
  have tickets : ∀ {log ns ts}, List.Forall₂ (Settles log) ns ts →
      ns.map Notice.ticket = ts.map Task.ticket := by
    intro log ns ts hf
    induction hf with
    | nil => rfl
    | cons hs _ ih => rw [List.map_cons, List.map_cons, hs.1, ih]
  have bounded : Bounded d.passages := by
    rw [Bounded, h.accepted]
    exact hb
  obtain ⟨gone, split, settled⟩ := hc.ledger.split
  obtain ⟨gone', split', settled'⟩ := (beats_keep kept_of_beat h.beats bounded hc).ledger.split
  obtain ⟨ts, told⟩ := h.told
  have before := tickets settled
  have after := tickets settled'
  have all : gone' = gone ++ c.scheduler.queue.held.map Task.restored := by
    rw [show gone' = History.accepted d.passages by simpa [moment, hd] using split', h.accepted]
    exact split.symm
  simp only [moment, List.append_nil] at before after
  rw [told, List.map_append, before, all, List.map_append, List.append_cancel_left_eq,
    List.map_map] at after
  have same : ts = c.scheduler.queue.held.map Task.ticket := by
    simpa [finished, Function.comp_def] using after
  rw [told, same]

end Serves

variable [Watchdog W]

instance : Feed (Chronicle W) where
  next := do
    let (handle, ts) ← engage Dispatcher.next
    Act.modify fun c => (c.takeOut handle).tell (finished ts)
    return handle
  peek := return Dispatcher.peek (← Act.read).scheduler
  complete h := do
    let ts ← engage (Dispatcher.complete h)
    Act.modify fun c => (c.note (.takenBack ⟨h.task, h.index⟩)).tell (finished ts)
  finishRequest := do
    let before ← Act.read
    let ts ← engage Dispatcher.finishRequest
    Act.modify fun c =>
      (c.report (before.scheduler.queue.active.head?.map Task.number)).tell (finished ts)
  effort c := Dispatcher.effort c.scheduler

section Turns

theorem answer_silently (told : List Notice) (c : Chronicle W) :
    answer told [] c = some (c.tell told) := by
  induction told generalizing c with
  | nil => simp [answer, tell]
  | cons n rest ih =>
    rw [answer]
    refine (ih _).trans ?_
    simp [tell, note]

theorem turn_silently {call : Call} {reply : Reply} (h : perform call c = some (reply, d)) :
    turn ⟨call, []⟩ c = some (reply.handle, d.tell reply.notices) := by
  rw [turn, h, Option.bind_some, answer_silently, Option.map_some]

theorem serves_of_perform {call : Call} {handle : Option Handle} {ts : List Ticket}
    (h : perform call c = some (⟨handle, finished ts⟩, d))
    (ha : History.accepted d.passages = History.accepted c.passages)
    (hn : notices d.passages = notices c.passages) : Serves c (d.tell (finished ts)) where
  beats := turn_beats (turn_silently h)
  accepted := (accepted_tell _).trans ha
  told := ⟨ts, by rw [notices_tell, hn]⟩

end Turns

section TakeOut

variable (handle : Option Handle)

omit [Watchdog W] in
theorem accepted_takeOut : accepted (c.takeOut handle).passages = accepted c.passages := by
  cases handle <;> simp [takeOut, note, accepted_concat, Passage.task?]

omit [Watchdog W] in
theorem notices_takeOut : notices (c.takeOut handle).passages = notices c.passages := by
  cases handle <;> simp [takeOut, note, notices_concat, Passage.notice?]

end TakeOut

section Service

variable {calm : W → Prop} {k : Handle} {ts : List Ticket} {r : Queue}

omit [Watchdog W] in
theorem engage_of_ok {α : Type} {act : Act (Scheduler W) α} {a : α} {s : Scheduler W}
    (h : act c.scheduler = (.ok a, s)) : engage act c = (.ok a, { c with scheduler := s }) := by
  rw [engage, Act.within, h]

variable (hw : Watchdog.Calm calm) (hc : calm c.scheduler.watchdog)

include hw hc

theorem feed_next : ∃ d, Feed.next c = (.ok c.scheduler.queue.next.handle, d) ∧ Serves c d ∧
    d.scheduler.queue = c.scheduler.queue.next.queue ∧ calm d.scheduler.watchdog := by
  obtain ⟨w, marks, hn, hcalm⟩ := Scheduler.next_calm hw hc
  obtain ⟨d, hd⟩ : ∃ d : Chronicle W,
    d = { c with scheduler := ⟨c.scheduler.queue.next.queue, w, marks⟩ } := ⟨_, rfl⟩
  have scheduler := d.scheduler_takeOut c.scheduler.queue.next.handle
  have performed : perform .next c = some (⟨c.scheduler.queue.next.handle,
      finished c.scheduler.queue.next.finished⟩, d.takeOut c.scheduler.queue.next.handle) := by
    rw [perform, attempt_of_ok hn, hd]
  refine ⟨_, ?_, serves_of_perform performed ?_ ?_, ?_, ?_⟩
  · simp only [Feed.next, Act.bind_apply, engage_of_ok hn, hd]
    rfl
  · rw [accepted_takeOut, hd]
  · rw [notices_takeOut, hd]
  · exact (congrArg Scheduler.queue scheduler).trans (by rw [hd])
  · rw [tell, scheduler, hd]
    exact hcalm

theorem feed_complete (hq : c.scheduler.queue.complete k = .ok (ts, r)) :
    ∃ d, Feed.complete k c = (.ok (), d) ∧ Serves c d ∧ d.scheduler.queue = r ∧
      calm d.scheduler.watchdog := by
  obtain ⟨w, marks, hn, hcalm⟩ := Scheduler.progress_calm hw hc hq
  have done : Dispatcher.complete k c.scheduler = (.ok ts, ⟨r, w, marks⟩) := hn
  have performed : perform (.complete k) c = some (⟨none, finished ts⟩,
      note (.takenBack ⟨k.task, k.index⟩) { c with scheduler := ⟨r, w, marks⟩ }) := by
    rw [perform, attempt_of_ok done]
  refine ⟨_, ?_, serves_of_perform performed ?_ ?_, rfl, hcalm⟩
  · simp only [Feed.complete, Act.bind_apply, engage_of_ok done]
    rfl
  · simp [note, accepted_concat, Passage.task?]
  · simp [note, notices_concat, Passage.notice?]

theorem feed_finishRequest (hq : c.scheduler.queue.finishRequest = .ok (ts, r)) :
    ∃ d, Feed.finishRequest c = (.ok (), d) ∧ Serves c d ∧ d.scheduler.queue = r ∧
      calm d.scheduler.watchdog := by
  obtain ⟨w, marks, hn, hcalm⟩ := Scheduler.progress_calm hw hc hq
  obtain ⟨t, others, active, -, -⟩ := Queue.finishRequest_eq_ok_iff.1 hq
  have done : Dispatcher.finishRequest c.scheduler = (.ok ts, ⟨r, w, marks⟩) := hn
  have oldest : c.scheduler.queue.active.head?.map Task.number = some t.number := by
    rw [active, List.head?_cons, Option.map_some]
  have performed : perform .finishRequest c = some (⟨none, finished ts⟩,
      note (.reported t.number) { c with scheduler := ⟨r, w, marks⟩ }) := by
    rw [perform, attempt_of_ok done, oldest]
    rfl
  refine ⟨_, ?_, serves_of_perform performed ?_ ?_, rfl, hcalm⟩
  · simp only [Feed.finishRequest, Act.bind_apply, Act.read_apply, engage_of_ok done, oldest]
    rfl
  · simp [note, accepted_concat, Passage.task?]
  · simp [note, notices_concat, Passage.notice?]

end Service

/-- Everything that is queued can be worked off, and the watchdog answers. -/
structure Ready (calm : W → Prop) (c : Chronicle W) : Prop where
  workable : c.scheduler.queue.Workable
  calm : calm c.scheduler.watchdog

/-- What there is to do for an engine: the transfers to come, and how many reports. -/
def work (c : Chronicle W) : List Handle × Nat :=
  (c.scheduler.queue.upcoming, c.scheduler.queue.fenced)

section Work

variable {calm : W → Prop} {k : Handle} (hw : Watchdog.Calm calm) (h : c.Ready calm)

include hw h

theorem Ready.transfer (hn : c.scheduler.queue.next.handle = some k) :
    ∃ d e, Feed.next c = (.ok (some k), d) ∧ Feed.complete k d = (.ok (), e) ∧
      e.Ready calm ∧ Serves c e ∧ c.work = (k :: e.work.1, e.work.2) := by
  obtain ⟨ts, r, hq, workable, upcoming, fenced⟩ := h.workable.next_some hn
  obtain ⟨d, next, serves, queue, calm⟩ := feed_next hw h.calm
  rw [← queue] at hq
  obtain ⟨e, complete, serves', queue', calm'⟩ := feed_complete hw calm hq
  refine ⟨d, e, hn ▸ next, complete, ⟨queue' ▸ workable, calm'⟩, serves.trans serves', ?_⟩
  rw [work, work, queue', upcoming, fenced]

theorem Ready.nothing (hn : c.scheduler.queue.next.handle = none) :
    ∃ d, Feed.next c = (.ok none, d) ∧ d.Ready calm ∧ Serves c d ∧ c.work = d.work ∧
      (d.scheduler.queue.isEmpty = true ∨ d.scheduler.queue.atGlobalFence = true) := by
  obtain ⟨workable, upcoming, fenced, cases⟩ := h.workable.next_none hn
  obtain ⟨d, next, serves, queue, calm⟩ := feed_next hw h.calm
  rw [← queue] at workable upcoming fenced cases
  refine ⟨d, hn ▸ next, ⟨workable, calm⟩, serves, ?_, cases⟩
  rw [work, work, upcoming, fenced]

theorem Ready.report (hf : c.scheduler.queue.atGlobalFence = true) :
    ∃ d, Feed.finishRequest c = (.ok (), d) ∧ d.Ready calm ∧ Serves c d ∧
      c.work = (d.work.1, d.work.2 + 1) := by
  obtain ⟨ts, r, hq, workable, upcoming, fenced⟩ := h.workable.finish hf
  obtain ⟨d, finish, serves, queue, calm⟩ := feed_finishRequest hw h.calm hq
  refine ⟨d, finish, ⟨queue ▸ workable, calm⟩, serves, ?_⟩
  rw [work, work, queue, upcoming, fenced]

end Work

end TensorQueue.Chronicle
