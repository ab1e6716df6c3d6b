import TensorQueue.Proofs.Queue.Confluence

/-!
# What a handle is good for

A handle names a task and a descriptor of it, and anybody can make one up. The
queue takes a handle only for a descriptor that the hardware holds, and it keeps
no list of those: it looks at the progress of the descriptor. So the progress has
to agree with the history, over every series of calls. A descriptor is held from
the moment when it is handed out until it comes back or a close removes its task,
and numbers of tasks do not come again. A watchdog may abort a call when the
queue has already changed; then the change counts, though nobody has the handle.
A call that is refused has done nothing at all.
-/

set_option autoImplicit false

namespace TensorQueue

open Dispatcher

namespace History

variable {log : List Passage} {x : Passage} {p : Place}

/-- A descriptor was handed out from this place, and since then it was neither taken back nor
removed. -/
def Outstanding (log : List Passage) (p : Place) : Prop :=
  ∃ before h after, log = before ++ .handedOut h :: after ∧ h.place = p ∧
    ∀ x ∈ after, x ≠ .takenBack p ∧ x ≠ .drained

theorem not_outstanding_nil : ¬ Outstanding [] p := by
  rintro ⟨before, h, after, hlog, -⟩
  cases before <;> cases hlog

theorem outstanding_concat : Outstanding (log ++ [x]) p ↔
    (Outstanding log p ∧ x ≠ .takenBack p ∧ x ≠ .drained) ∨
      ∃ h, x = .handedOut h ∧ h.place = p := by
  constructor
  · rintro ⟨before, h, after, hlog, place, since⟩
    rcases List.eq_nil_or_concat' after with rfl | ⟨earlier, y, rfl⟩
    · exact .inr ⟨h, List.singleton_inj.1 (List.append_inj' hlog rfl).2, place⟩
    · rw [← List.cons_append, ← List.append_assoc] at hlog
      obtain ⟨rfl, last⟩ := List.append_inj' hlog rfl
      obtain rfl := List.singleton_inj.1 last
      exact .inl ⟨⟨before, h, earlier, rfl, place, fun z hz => since z (List.mem_append_left _ hz)⟩,
        since x (List.mem_append_right _ (List.mem_singleton_self x))⟩
  · rintro (⟨⟨before, h, after, rfl, place, since⟩, hx⟩ | ⟨h, rfl, place⟩)
    · refine ⟨before, h, after ++ [x], by simp, place, fun z hz => ?_⟩
      rcases List.mem_append.1 hz with hz | hz
      · exact since z hz
      · rw [List.mem_singleton.1 hz]
        exact hx
    · exact ⟨log, h, [], rfl, place, by simp⟩

/-- How what passes changes which descriptors are held. -/
inductive Handling (held held' : Place → Prop) : Option Passage → Prop where
  | nothing : (∀ a, held' a ↔ held a) → Handling held held' none
  | handOut {h : Handle} : (∀ a, held' a ↔ held a ∨ h.place = a) →
      Handling held held' (some (.handedOut h))
  | takeBack {p : Place} : (∀ a, held' a ↔ held a ∧ p ≠ a) →
      Handling held held' (some (.takenBack p))
  | remove : (∀ a, ¬ held' a) → Handling held held' (some .drained)

/-- What is outstanding by the log is what is held, one passage later too. -/
theorem Handling.outstanding {held held' : Place → Prop} {o : Option Passage}
    (ho : Handling held held' o) (h : ∀ a, Outstanding log a ↔ held a) :
    ∀ a, Outstanding (log ++ o.toList) a ↔ held' a := by
  intro a
  cases ho with
  | nothing same => simp [h, same]
  | handOut more => simp [outstanding_concat, h, more]
  | takeBack less => simp [outstanding_concat, h, less]
  | remove gone => simp [outstanding_concat, gone]

theorem handed_append_of_none {o : Option Passage} (h : o.bind Passage.handle? = none) :
    handed (o.toList ++ log) = handed log := by
  cases o with
  | none => rfl
  | some x => exact List.filterMap_cons_none h

end History

namespace Queue

variable {q r : Queue} {a p : Place}

theorem activeAt_congr (h : r.flying = q.flying) : r.ActiveAt a ↔ q.ActiveAt a := by
  rw [ActiveAt, ActiveAt, entryAt?, entryAt?, task?, task?, h]

theorem activeAt_handOut {e : Entry} (he : q.entryAt? p = some e) :
    (q.alterEntry p Entry.activate).ActiveAt a ↔ q.ActiveAt a ∨ p = a := by
  by_cases hp : p = a
  · subst hp
    rw [ActiveAt, entryAt?_alterEntry_self, he]
    simp [Entry.activate, Entry.isActive]
  · rw [ActiveAt, entryAt?_alterEntry_of_ne hp]
    simp [hp, ActiveAt]

/-- A task that comes in at the back without anything active brings nothing that is held. -/
theorem activeAt_activate {t : Task} (h : t.Fresh) : (activate t q).ActiveAt a ↔ q.ActiveAt a := by
  have back : (activate t q).task? a.task =
      (q.task? a.task).or (if t.number = a.task then some t else none) := by
    simp only [task?, flying, activate, ← List.append_assoc, List.find?_append]
    by_cases hn : t.number = a.task <;> simp [hn]
  simp only [activeAt_iff, back]
  cases ht : q.task? a.task with
  | some u => simp
  | none =>
    simp only [Option.none_or, reduceCtorEq, false_and, exists_false, iff_false]
    rintro ⟨u, e, hu, he, active⟩
    obtain ⟨-, same⟩ := Option.ite_none_right_eq_some.1 hu
    obtain rfl : t = u := Option.some.inj same
    have pending := h e ((Task.mem_entries_iff t e).2 ⟨_, he⟩)
    rw [not_active_of_pending pending] at active
    cases active

theorem activeAt_promoteFrom (ts : List Task) (q : Queue) (h : Framed { q with pending := ts })
    (hu : q.Unsettled) : (promoteFrom ts q).2.ActiveAt a ↔ q.ActiveAt a := by
  induction ts generalizing q with
  | nil => exact activeAt_congr rfl
  | cons t rest ih =>
    rw [promoteFrom]
    split
    · rename_i hr
      have ready : q.ready = [] := by simpa using hr
      have activated : Framed { activate t q with pending := rest } := h.activate rfl ready
      have settled := settleFences_framed activated
      have same : settleFences { activate t q with pending := rest } =
          { settleFences (activate t q) with pending := rest } := settleFrom_pending _ _ _
      rw [same] at settled
      have kept : (settleFences { activate t q with pending := rest }).ActiveAt a ↔ q.ActiveAt a :=
        (activeAt_settleFrom _ _ activated).trans
          ((activeAt_congr (q := activate t q) rfl).trans
            (activeAt_activate (h.fresh t List.mem_cons_self)))
      rw [same] at kept
      exact (ih _ settled.1 settled.2).trans kept
    · exact activeAt_congr rfl

theorem Tidy.activeAt_promote (h : q.Tidy) : q.promote.2.ActiveAt a ↔ q.ActiveAt a :=
  activeAt_promoteFrom q.pending q h.toFramed h.unsettled

theorem activeAt_dispatch : q.dispatch.2.ActiveAt a ↔
    q.ActiveAt a ∨ ∃ k, q.dispatch.1 = some k ∧ k.place = a := by
  rcases dispatch_cases q with h | ⟨p, rest, e, -, he, -, h⟩
  · simp [h]
  · rw [h]
    exact (activeAt_congr rfl).trans ((activeAt_handOut he).trans (by simp [Handle.place]))

/-- Looking for work adds what it hands out to what the hardware holds. -/
theorem Tidy.activeAt_next (h : q.Tidy) : q.next.queue.ActiveAt a ↔
    q.ActiveAt a ∨ ∃ k, q.next.handle = some k ∧ k.place = a := by
  cases ho : q.isOpen with
  | false => simp [next_of_shut ho]
  | true =>
    have promoted := h.promote
    have dispatched := dispatch_framed promoted.toFramed promoted.unsettled
    rw [next_of_open ho, dispatched.1.activeAt_takeFinished, activeAt_dispatch, h.activeAt_promote]

/-- What is to be handed out is not held before. -/
theorem Tidy.not_activeAt_promote (h : q.Tidy) {k : Handle} (hk : q.next.handle = some k) :
    ¬ q.promote.2.ActiveAt k.place := by
  cases ho : q.isOpen with
  | false => simp [next_of_shut ho] at hk
  | true =>
    rw [next_of_open ho] at hk
    rcases dispatch_cases q.promote.2 with hd | ⟨p, rest, e, hr, -, -, hd⟩
    · simp [hd] at hk
    · rw [hd] at hk
      cases hk
      rintro ⟨d, hentry, active⟩
      obtain ⟨x, hx, pending⟩ := h.promote.toFramed.pending_of_ready (p := p) (by simp [hr])
      obtain rfl : x = d := Option.some.inj (hx.symm.trans hentry)
      rw [not_active_of_pending pending] at active
      cases active

theorem activeAt_rest {t : Task} {others : List Task} (h : q.active = t :: others) :
    (rest t others q).ActiveAt a ↔ q.ActiveAt a := by
  have same : ∀ i : Nat, (∃ e : Entry, t.completePending.entries[i]? = some e ∧ e.isActive = true) ↔
      ∃ e : Entry, t.entries[i]? = some e ∧ e.isActive = true := by
    intro i
    rw [Task.getElem?_completePending]
    cases t.entries[i]? with
    | none => simp
    | some e =>
      by_cases hp : e.isPending = true
      · have still : e.complete.isActive = false := rfl
        simp [hp, not_active_of_pending hp, still]
      · simp [hp]
  have number : t.completePending.number = t.number := rfl
  simp only [activeAt_iff, task?, flying, rest, h, List.append_assoc, List.singleton_append,
    List.find?_append, List.find?_cons, number]
  cases q.completed.find? fun u => decide (u.number = a.task) with
  | some u => simp
  | none =>
    by_cases hn : t.number = a.task
    · simpa [hn] using same a.index
    · simp [hn]

/-- What is done as a whole may still be with the hardware. -/
theorem Framed.activeAt_finishRequest (h : q.Framed) {ts : List Ticket}
    (hf : q.finishRequest = .ok (ts, r)) : r.ActiveAt a ↔ q.ActiveAt a := by
  obtain ⟨t, others, ha, -, heq⟩ := finishRequest_eq_ok_iff.1 hf
  rw [show r = (Queue.rest t others q).takeFinished.2 from congrArg Prod.snd heq,
    (h.rest ha).1.activeAt_takeFinished, activeAt_rest ha]

theorem Framed.activeAt_of_complete (h : q.Framed) {k : Handle} {ts : List Ticket}
    (hc : q.complete k = .ok (ts, r)) : r.ActiveAt a ↔ q.ActiveAt a ∧ k.place ≠ a := by
  obtain ⟨t, e, ht, he, active, heq⟩ := complete_eq_ok_iff.1 hc
  rw [show r = (collect (q.alterEntry k.place Entry.complete)).2 from congrArg Prod.snd heq,
    (h.takeBack (p := k.place) ht he active).activeAt_collect, activeAt_complete]

/-- The queue takes a handle for what the hardware holds, and no other. -/
theorem complete_isOk_iff {k : Handle} : (q.complete k).isOk = true ↔ q.ActiveAt k.place := by
  constructor
  · intro ok
    cases hc : q.complete k with
    | error cause => simp [hc, Except.isOk, Except.toBool] at ok
    | ok out =>
      obtain ⟨t, e, ht, he, active, -⟩ := complete_eq_ok_iff.1 hc
      exact activeAt_iff.2 ⟨t, e, ht, he, active⟩
  · intro active
    rw [complete_of_activeAt active]
    rfl

theorem not_activeAt_drain : ¬ q.drain.2.ActiveAt a := by
  rintro ⟨e, he, -⟩
  cases he

end Queue

namespace Scheduler

variable {W : Type} [Watchdog W]

/-- A refusal, not an abort. -/
def Refused {α : Type} (out : Except Fault α) : Prop := ∃ cause, out = .error (.refusal cause)

/-- How a call ends, without what it answers. -/
def outcome (s : Scheduler W) : Chronicle.Call → Except Fault Unit
  | .openUp => ((Dispatcher.openUp : Act (Scheduler W) Unit) s).1
  | .submit offer => (Dispatcher.submit offer s).1
  | .next => (Dispatcher.next s).1.map fun _ => ()
  | .complete h => (Dispatcher.complete h s).1.map fun _ => ()
  | .finishRequest => (Dispatcher.finishRequest s).1.map fun _ => ()
  | .close mode => (Dispatcher.close mode s).1.map fun _ => ()
  | .wake => (Dispatcher.finishClose s).1.map fun _ => ()

/-- Whether a close has removed all tasks. If it was aborted it has. -/
def removes : Except Fault Closing → Bool
  | .ok (.closed _) => true
  | .error (.abort _) => true
  | _ => false

/-- What passes between the queue and the hardware in a call. A completion that is aborted was
taken. A look at the queue that is aborted gives nobody a handle; if it has marked a descriptor as
handed out by then, the descriptor stays so. -/
def passage (s : Scheduler W) : Chronicle.Call → Option Passage
  | .next =>
    match (Dispatcher.next s).1 with
    | .ok (handle, _) => handle.map .handedOut
    | .error _ => (s.queue.next.handle.filter fun h =>
        ((s.after .next).queue.entryAt? h.place).any Entry.isActive).map .handedOut
  | .complete h =>
    match (Dispatcher.complete h s).1 with
    | .error (.refusal _) => none
    | _ => some (.takenBack h.place)
  | .close mode => if removes (Dispatcher.close mode s).1 then some .drained else none
  | .wake => if removes (Dispatcher.finishClose s).1 then some .drained else none
  | _ => none

/-- Nothing is handed out but by a look at the queue. -/
theorem handle?_passage {s : Scheduler W} {c : Chronicle.Call} (h : c ≠ .next) :
    (s.passage c).bind Passage.handle? = none := by
  cases c with
  | next => exact absurd rfl h
  | openUp | submit offer | finishRequest => rfl
  | complete k | close mode | wake =>
    rw [passage]
    split <;> rfl

section Calls

open History (Handling)

variable {s : Scheduler W}

theorem Refused.of_map {α : Type} {out : Except Fault α} (h : Refused (out.map fun _ => ())) :
    Refused out := by
  obtain ⟨cause, hc⟩ := h
  rcases out with fault | a
  · cases hc
    exact ⟨cause, rfl⟩
  · cases hc

/-- A report of the hardware that is refused has changed nothing. -/
theorem state_of_progress_refused {f : Queue → Except Error (List Ticket × Queue)}
    (h : Refused (progress f s).1) : (progress f s).2 = s := by
  obtain ⟨cause, h⟩ := h
  rcases progress_cases f s with ⟨ts, q, -, w, marks, hp | ⟨c, hp⟩⟩ | ⟨c, -, hp⟩
  · rw [hp] at h
    cases h
  · rw [hp] at h
    cases h
  · rw [hp]

/-- The completion of what the hardware holds is answered, unless the watchdog aborts it. -/
theorem complete_of_held {k : Handle} (h : s.queue.ActiveAt k.place) :
    (∃ finished, (Dispatcher.complete k s).1 = .ok finished) ∨
      ∃ cause, (Dispatcher.complete k s).1 = .error (.abort cause) := by
  have taken : s.queue.complete k = .ok _ := Queue.complete_of_activeAt h
  rcases progress_cases (Queue.complete k) s with ⟨ts, q, -, w, marks, hd | ⟨cause, hd⟩⟩ |
    ⟨cause, hq, -⟩
  · exact .inl ⟨ts, congrArg Prod.fst hd⟩
  · exact .inr ⟨cause, congrArg Prod.fst hd⟩
  · cases taken.symm.trans hq

/-- Of what the hardware does not hold it is refused. -/
theorem refused_of_not_held {k : Handle} (h : ¬ s.queue.ActiveAt k.place) :
    Refused (s.outcome (.complete k)) := by
  rcases progress_cases (Queue.complete k) s with ⟨ts, q, hq, -⟩ | ⟨cause, -, hd⟩
  · have ok : (s.queue.complete k).isOk = true := by
      rw [hq]
      rfl
    exact absurd (Queue.complete_isOk_iff.1 ok) h
  · exact ⟨cause, congrArg (Except.map fun _ => ()) (congrArg Prod.fst hd)⟩

omit [Watchdog W] in
/-- Removing all tasks is not refused. -/
theorem not_refused_of_removed {act : Act (Scheduler W) Closing} {q : Queue}
    (hc : ∃ w marks, act s = (.ok (.closed q.drain.1), ⟨q.drain.2, w, marks⟩) ∨
      ∃ cause, act s = (.error (.abort cause), ⟨q.drain.2, w, marks⟩)) : ¬ Refused (act s).1 := by
  rintro ⟨cause, h⟩
  obtain ⟨w, marks, hc | ⟨c, hc⟩⟩ := hc <;> (rw [hc] at h; cases h)

/-- A call that is refused leaves all as it was: the queue, the watchdog with what it remembers of
the calls made on it, and the marks. -/
theorem after_of_refused (c : Chronicle.Call) (h : Refused (s.outcome c)) : s.after c = s := by
  cases c with
  | openUp =>
    obtain ⟨cause, h⟩ := h
    rcases openUp_cases s with ⟨q, -, ho⟩ | ⟨c, -, ho⟩
    · rw [outcome, ho] at h
      cases h
    · rw [after, ho]
  | submit offer =>
    obtain ⟨cause, h⟩ := h
    rcases submit_cases offer s with
      ⟨ds, q, marks, -, -, hs⟩ | ⟨c, hs, -⟩ | ⟨c, n, marks, hs, -, -⟩
    · rw [outcome, hs] at h
      cases h
    · rw [after, hs]
    · rw [outcome, hs] at h
      cases h
  | next =>
    obtain ⟨cause, h⟩ := h.of_map
    rcases next_cases s with ⟨w, marks, hn⟩ | ⟨c, q, w, marks, hn, -⟩ <;> (rw [hn] at h; cases h)
  | complete k => exact state_of_progress_refused h.of_map
  | finishRequest => exact state_of_progress_refused h.of_map
  | close mode =>
    rcases close_cases mode s with ⟨q, -, ⟨-, -, hc⟩ | hc⟩ | ⟨c, -, hc⟩
    · obtain ⟨cause, h⟩ := h.of_map
      rw [hc] at h
      cases h
    · exact absurd h.of_map (not_refused_of_removed hc)
    · rw [after, hc]
  | wake =>
    rcases finishClose_cases s with ⟨-, hc⟩ | ⟨-, hc⟩
    · rw [after, hc]
    · exact absurd h.of_map (not_refused_of_removed hc)

theorem next_handling (h : s.queue.Tidy) :
    Handling s.queue.ActiveAt (s.after .next).queue.ActiveAt (s.passage .next) := by
  have all : ∀ a, s.queue.next.queue.ActiveAt a ↔
      s.queue.ActiveAt a ∨ ∃ k, s.queue.next.handle = some k ∧ k.place = a :=
    fun a => h.activeAt_next
  have promoted : ∀ a, s.queue.promote.2.ActiveAt a ↔ s.queue.ActiveAt a :=
    fun a => h.activeAt_promote
  cases hk : s.queue.next.handle with
  | none =>
    have same : ∀ a, s.queue.next.queue.ActiveAt a ↔ s.queue.ActiveAt a := by simpa [hk] using all
    rcases next_cases s with ⟨w, marks, hn⟩ | ⟨cause, q, w, marks, hn, rfl | rfl⟩
    all_goals
      simp only [passage, after, hn, hk, Option.map_none, Option.filter_none]
      exact .nothing (by assumption)
  | some k =>
    have more : ∀ a, s.queue.next.queue.ActiveAt a ↔ s.queue.ActiveAt a ∨ k.place = a := by
      simpa [hk] using all
    have held : (s.queue.next.queue.entryAt? k.place).any Entry.isActive = true :=
      (Option.any_eq_true _ _).2 ((more k.place).2 (.inr rfl))
    have before : (s.queue.promote.2.entryAt? k.place).any Entry.isActive = false :=
      Bool.eq_false_iff.2 fun ha => h.not_activeAt_promote hk ((Option.any_eq_true _ _).1 ha)
    rcases next_cases s with ⟨w, marks, hn⟩ | ⟨cause, q, w, marks, hn, rfl | rfl⟩
    · simp only [passage, after, hn, hk]
      exact .handOut more
    · simp only [passage, after, hn, hk, Option.filter_some, before]
      exact .nothing promoted
    · simp only [passage, after, hn, hk, Option.filter_some, held]
      exact .handOut more

theorem complete_handling (h : s.queue.Tidy) (k : Handle) :
    Handling s.queue.ActiveAt (s.after (.complete k)).queue.ActiveAt (s.passage (.complete k)) := by
  rcases progress_cases (Queue.complete k) s with ⟨ts, q, hq, w, marks, hp | ⟨cause, hp⟩⟩ |
    ⟨cause, -, hp⟩
  all_goals
    rw [show progress (Queue.complete k) s = Dispatcher.complete k s from rfl] at hp
    simp only [passage, after, hp]
  · exact .takeBack fun a => h.toFramed.activeAt_of_complete hq
  · exact .takeBack fun a => h.toFramed.activeAt_of_complete hq
  · exact .nothing fun a => Iff.rfl

omit [Watchdog W] in
theorem removed_handling {act : Act (Scheduler W) Closing} {q : Queue} {held : Place → Prop}
    (hc : ∃ w marks, act s = (.ok (.closed q.drain.1), ⟨q.drain.2, w, marks⟩) ∨
      ∃ cause, act s = (.error (.abort cause), ⟨q.drain.2, w, marks⟩)) :
    Handling held (act s).2.queue.ActiveAt (if removes (act s).1 then some .drained else none) := by
  obtain ⟨w, marks, hc | ⟨cause, hc⟩⟩ := hc
  all_goals
    rw [hc]
    exact .remove fun a => Queue.not_activeAt_drain

/-- Every call changes what the hardware holds as its passage says. -/
theorem call_handling (h : s.queue.Tidy) (c : Chronicle.Call) :
    Handling s.queue.ActiveAt (s.after c).queue.ActiveAt (s.passage c) := by
  cases c with
  | openUp =>
    refine .nothing fun a => Queue.activeAt_congr ?_
    rcases openUp_cases s with ⟨q, hq, ho⟩ | ⟨cause, -, ho⟩
    · obtain ⟨-, rfl⟩ := Queue.openUp_eq_ok_iff.1 hq
      rw [after, ho]
      rfl
    · rw [after, ho]
  | submit offer =>
    refine .nothing fun a => Queue.activeAt_congr ?_
    rcases submit_cases offer s with
      ⟨ds, q, marks, -, hq, hs⟩ | ⟨cause, hs, -⟩ | ⟨cause, n, marks, hs, -, -⟩
    · obtain ⟨-, -, rfl⟩ := Queue.submit_eq_ok_iff.1 hq
      rw [after, hs]
      rfl
    · rw [after, hs]
    · rw [after, hs]
      rfl
  | next => exact next_handling h
  | complete k => exact complete_handling h k
  | finishRequest =>
    refine .nothing fun a => ?_
    rcases progress_cases Queue.finishRequest s with ⟨ts, q, hq, -⟩ | ⟨cause, -, hp⟩
    · have left : (s.after .finishRequest).queue = q := congrArg Prod.fst (post_progress hq)
      rw [left]
      exact h.toFramed.activeAt_finishRequest hq
    · rw [show s.after .finishRequest = s from congrArg Prod.snd hp]
  | close mode =>
    rcases close_cases mode s with ⟨q, hq, ⟨-, -, hc⟩ | hc⟩ | ⟨cause, -, hc⟩
    · obtain ⟨-, rfl⟩ := Queue.shut_eq_ok_iff.1 hq
      simp only [passage, after, hc]
      exact .nothing fun a => Queue.activeAt_congr rfl
    · exact removed_handling hc
    · simp only [passage, after, hc]
      exact .nothing fun a => Iff.rfl
  | wake =>
    rcases finishClose_cases s with ⟨-, hc⟩ | ⟨-, hc⟩
    · simp only [passage, after, hc]
      exact .nothing fun a => Iff.rfl
    · exact removed_handling hc

end Calls

end Scheduler

namespace Patrol

variable {W M : Type} [Watchdog W] {course : Watchdog.Course W M} {w : W}
  {es : List (Event M)} {p : Patrol W}

open History (Outstanding)

/-- What passes between the queue and the hardware in the course of these events. -/
def traffic (course : Watchdog.Course W M) : List (Event M) → Patrol W → List Passage
  | [], _ => []
  | .call c :: es, p =>
    (p.scheduler.passage c).toList ++ traffic course es (step course p (.call c))
  | .move m :: es, p => traffic course es (step course p (.move m))

/-- The progress of the descriptors goes on agreeing with the history. -/
theorem outstanding_run (es : List (Event M)) {log : List Passage} (h : p.scheduler.queue.Tidy)
    (hb : p.scheduler.queue.nextTask.toNat + admitted course es p < UInt64.size)
    (hl : ∀ a, Outstanding log a ↔ p.scheduler.queue.ActiveAt a) :
    ∀ a, Outstanding (log ++ traffic course es p) a ↔
      (run course es p).scheduler.queue.ActiveAt a := by
  induction es generalizing p log with
  | nil =>
    rw [traffic, List.append_nil]
    exact hl
  | cons e es ih =>
    cases e with
    | call c =>
      rw [admitted, ← Nat.add_assoc] at hb
      obtain ⟨tidy, number⟩ := Scheduler.after_advances h c (Nat.lt_of_le_of_lt
        (Nat.le_add_right _ _) hb)
      rw [traffic, ← List.append_assoc]
      exact ih tidy (by rwa [← number] at hb) ((Scheduler.call_handling h c).outstanding hl)
    | move m => exact ih h hb hl

/-- After every run a handle is taken if and only if its descriptor is outstanding, whatever else is
in it. The call is answered then, unless the watchdog aborts it. Any other handle is refused. And a
refused call of any kind has changed nothing. -/
theorem genuine_handles_only (hp : run course es (begin w) = p)
    (hb : admitted course es (begin w) < UInt64.size) :
    (∀ h : Handle,
      (Outstanding (traffic course es (begin w)) h.place →
        ((∃ finished, (Dispatcher.complete h p.scheduler).1 = .ok finished) ∨
          ∃ cause, (Dispatcher.complete h p.scheduler).1 = .error (.abort cause)) ∧
        ∀ calm : W → Prop, Watchdog.Calm calm → calm p.watchdog →
          ∃ finished, (Dispatcher.complete h p.scheduler).1 = .ok finished) ∧
      (¬ Outstanding (traffic course es (begin w)) h.place →
        Scheduler.Refused (p.scheduler.outcome (.complete h)))) ∧
    ∀ c : Chronicle.Call, Scheduler.Refused (p.scheduler.outcome c) →
      p.scheduler.after c = p.scheduler := by
  have start : (begin w).scheduler.queue.nextTask.toNat + admitted course es (begin w) <
      UInt64.size := by
    rw [show (begin w).scheduler.queue.nextTask.toNat = 0 from rfl, Nat.zero_add]
    exact hb
  have empty : ∀ a, Outstanding [] a ↔ (begin w).scheduler.queue.ActiveAt a := fun a =>
    iff_of_false History.not_outstanding_nil fun ⟨e, he, _⟩ => by cases he
  have agree : ∀ a, Outstanding (traffic course es (begin w)) a ↔ p.scheduler.queue.ActiveAt a := by
    rw [← hp]
    exact outstanding_run es Queue.new_sound.tidy start empty
  refine ⟨fun h => ⟨fun out => ?_, fun forged => ?_⟩, fun c => Scheduler.after_of_refused c⟩
  · have held : p.scheduler.queue.ActiveAt h.place := (agree h.place).1 out
    refine ⟨Scheduler.complete_of_held held, fun calm hc hw => ?_⟩
    obtain ⟨v, marks, hd, -⟩ :=
      Scheduler.progress_calm hc hw (Queue.complete_of_activeAt held)
    exact ⟨_, congrArg Prod.fst hd⟩
  · exact Scheduler.refused_of_not_held fun held => forged ((agree h.place).2 held)

/-- A descriptor is handed out, a close removes its task, and after the queue has been opened again
a descriptor of the next task is handed out. -/
def reopened : List (Event Empty) :=
  [.openUp, .submit ⟨default, .ok [⟨.instruction, 0, 64⟩]⟩, .next, .close .asap, .openUp,
    .submit ⟨default, .ok [⟨.instruction, 0, 64⟩]⟩, .next].map .call

theorem stale_handle_refused : ∃ p : Patrol Watchdog.Idle, run still reopened (begin ⟨⟩) = p ∧
    (∃ finished, (Dispatcher.complete ⟨1, 0, default⟩ p.scheduler).1 = .ok finished) ∧
      Scheduler.Refused (p.scheduler.outcome (.complete ⟨0, 0, default⟩)) ∧
      p.scheduler.after (.complete ⟨0, 0, default⟩) = p.scheduler := by
  obtain ⟨p, hp⟩ : ∃ p : Patrol Watchdog.Idle, run still reopened (begin ⟨⟩) = p := ⟨_, rfl⟩
  have log : traffic still reopened (begin Watchdog.Idle.mk) =
      [] ++ [.handedOut ⟨0, 0, ⟨.instruction, 0, 64⟩⟩] ++ [.drained] ++
        [.handedOut ⟨1, 0, ⟨.instruction, 0, 64⟩⟩] := by
    decide +kernel
  obtain ⟨handles, unchanged⟩ := genuine_handles_only hp (by decide +kernel)
  have fresh : Outstanding (traffic still reopened (begin Watchdog.Idle.mk)) ⟨1, 0⟩ := by
    rw [log, History.outstanding_concat]
    exact .inr ⟨_, rfl, rfl⟩
  have stale : ¬ Outstanding (traffic still reopened (begin Watchdog.Idle.mk)) ⟨0, 0⟩ := by
    rw [log, History.outstanding_concat, History.outstanding_concat]
    simp [Handle.place]
  have refused := (handles ⟨0, 0, default⟩).2 stale
  exact ⟨p, hp, ((handles ⟨1, 0, default⟩).1 fresh).2 _ Watchdog.Idle.calm trivial, refused,
    unchanged _ refused⟩

/-- What the looks at the queue answer in the course of these events. -/
def looks (course : Watchdog.Course W M) :
    List (Event M) → Patrol W → List (Except Fault (Option Handle))
  | [], _ => []
  | .call .next :: es, p =>
    (Dispatcher.next p.scheduler).1.map Prod.fst :: looks course es (step course p (.call .next))
  | e :: es, p => looks course es (step course p e)

/-- As long as no look is aborted, the descriptors handed out are those that were answered. -/
theorem handed_traffic (es : List (Event M)) (p : Patrol W)
    (h : ∀ answer ∈ looks course es p, answer.isOk = true) :
    History.handed (traffic course es p) =
      (looks course es p).filterMap fun answer => answer.toOption.join := by
  induction es generalizing p with
  | nil => rfl
  | cons e es ih =>
    cases e with
    | move m => exact ih _ h
    | call c =>
      by_cases hc : c = .next
      · subst hc
        obtain ⟨first, rest⟩ := List.forall_mem_cons.1 h
        rw [traffic, looks, List.filterMap_cons, History.handed, List.filterMap_append,
          show List.filterMap _ (traffic course es _) = _ from ih _ rest]
        cases hn : (Dispatcher.next p.scheduler).1 with
        | error fault =>
          rw [hn] at first
          cases first
        | ok out =>
          obtain ⟨handle, finished⟩ := out
          cases handle <;>
            simp [Scheduler.passage, hn, Except.map, Except.toOption, Passage.handle?]
      · have skip : looks course (.call c :: es) p = looks course es (step course p (.call c)) := by
          cases c <;> first | rfl | exact absurd rfl hc
        rw [skip] at h ⊢
        rw [traffic, History.handed_append_of_none (Scheduler.handle?_passage hc)]
        exact ih _ h

/-- A task is drained as soon as it is activated. The watchdog, which cannot tell its timeout on the
clock, aborts the look that activates it, and the one that finds it finished too. -/
def unwatchable : List (Event Empty) :=
  [.openUp, .submit ⟨default, .ok [Descriptor.marker .localFence]⟩,
    .submit ⟨default, .ok [⟨.instruction, 0, 64⟩]⟩, .next, .next].map .call

/-- With a watchdog that aborts, a handle that was given out and is outstanding need not be
answered, and one that nobody was given may be taken. -/
theorem handles_and_aborts : ∃ e,
    Escalation.new [⟨Clock.signedSeconds * Duration.nsPerSecond⟩]
      (fun _ => .ok (.system .condvar [])) = .ok e ∧
    (looks still overlong (begin e) = [.error (.abort .instantOverflow),
        .ok (some ⟨0, 0, ⟨.instruction, 0, 64⟩⟩), .ok (some ⟨0, 1, ⟨.instruction, 64, 64⟩⟩)] ∧
      (Dispatcher.complete ⟨0, 0, ⟨.instruction, 0, 64⟩⟩
        (run still overlong (begin e)).scheduler).1 = .error (.abort .instantOverflow)) ∧
    looks still unwatchable (begin e) =
        [.error (.abort .instantOverflow), .error (.abort .instantOverflow)] ∧
      (Dispatcher.complete ⟨1, 0, ⟨.instruction, 0, 64⟩⟩
        (run still unwatchable (begin e)).scheduler).1.isOk = true := by
  obtain ⟨e, he⟩ : ∃ e, Escalation.new [⟨Clock.signedSeconds * Duration.nsPerSecond⟩]
      (fun _ => .ok (.system .condvar [])) = .ok e := ⟨_, rfl⟩
  have seen : (Escalation.new [⟨Clock.signedSeconds * Duration.nsPerSecond⟩]
      (fun _ => .ok (.system .condvar []))).toOption.map (fun e => decide (
        (looks still overlong (begin e) = [.error (.abort .instantOverflow),
            .ok (some ⟨0, 0, ⟨.instruction, 0, 64⟩⟩), .ok (some ⟨0, 1, ⟨.instruction, 64, 64⟩⟩)] ∧
          (Dispatcher.complete ⟨0, 0, ⟨.instruction, 0, 64⟩⟩
            (run still overlong (begin e)).scheduler).1 = .error (.abort .instantOverflow)) ∧
        looks still unwatchable (begin e) =
            [.error (.abort .instantOverflow), .error (.abort .instantOverflow)] ∧
          (Dispatcher.complete ⟨1, 0, ⟨.instruction, 0, 64⟩⟩
            (run still unwatchable (begin e)).scheduler).1.isOk = true)) = some true := by
    decide +kernel
  rw [he] at seen
  exact ⟨e, he, of_decide_eq_true (Option.some.inj seen)⟩

end Patrol

end TensorQueue
