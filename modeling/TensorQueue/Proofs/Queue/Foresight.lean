import TensorQueue.Proofs.Queue.Handles
import TensorQueue.Proofs.Queue.Stillness
import Mathlib.Data.List.Find

/-!
# Peeking foretells the next descriptor

A peek looks at the descriptor in front without touching anything; taking the
next one activates tasks until something is ready, and may settle many local
fences on the way. The two agree. What is ready stays in front, and if nothing
is, the first descriptor of the waiting tasks that is not a local fence comes to
stand there. It is handed out unless it is a fence. So a peek at a transfer tells
what will be handed out, a peek at nothing or at a fence that is ready tells that
nothing will, and a peek at the local fence of a waiting task leaves it open. A
look that the watchdog aborts hands out nothing, whatever was told before.
-/

set_option autoImplicit false

namespace TensorQueue

open Dispatcher

namespace Task

variable {t : Task} {h : Handle}

/-- The handles of all descriptors, in list order. -/
def handles (t : Task) : List Handle :=
  t.entries.toList.zipIdx.map fun entry => ⟨t.number, entry.2, entry.1.descriptor⟩

theorem mem_handles (hm : h ∈ t.handles) :
    h.task = t.number ∧ (t.entries[h.index]?).map Entry.descriptor = some h.descriptor := by
  obtain ⟨⟨e, i⟩, he, rfl⟩ := List.mem_map.1 hm
  have found := List.mem_zipIdx_iff_getElem?.1 he
  rw [Array.getElem?_toList] at found
  exact ⟨rfl, by rw [found]; rfl⟩

theorem places_eq_handles (t : Task) : t.places = t.handles.map Handle.place := by
  have indices : t.entries.toList.zipIdx.map Prod.snd = List.range t.entries.size := by
    rw [List.zipIdx_map_snd, List.range_eq_range', Array.length_toList]
  rw [places, handles, ← indices, List.map_map, List.map_map]
  rfl

theorem handles_of_head {e : Entry} (he : t.entries[0]? = some e) :
    ∃ rest, t.handles = ⟨t.number, 0, e.descriptor⟩ :: rest := by
  rw [← Array.getElem?_toList] at he
  obtain ⟨first, others, hl⟩ := List.exists_cons_of_ne_nil (l := t.entries.toList) fun hn => by
    simp [hn] at he
  rw [hl, List.getElem?_cons_zero, Option.some.injEq] at he
  exact ⟨_, by rw [handles, hl, List.zipIdx_cons, List.map_cons, he]⟩

theorem idle_of_fresh (hf : t.Fresh) : t.hasActive = false :=
  hasActive_eq_false_iff.2 fun e he => Queue.not_active_of_pending (hf e he)

end Task

namespace Queue

variable {q r : Queue}

/-- The first descriptor of these tasks that is not a local fence. -/
def firstStop (ts : List Task) : Option Handle :=
  (ts.flatMap Task.handles).find? fun h => h.descriptor.kind ≠ .localFence

/-- The descriptor in front of what is ready. -/
def front (q : Queue) : Option Handle :=
  q.ready.head?.bind fun p => (q.entryAt? p).map fun e => ⟨p.task, p.index, e.descriptor⟩

theorem firstStop_cons (t : Task) (ts : List Task) : firstStop (t :: ts) =
    (t.handles.find? fun h => h.descriptor.kind ≠ .localFence).or (firstStop ts) := by
  rw [firstStop, List.flatMap_cons, List.find?_append]
  rfl

theorem not_localFence_of_firstStop {ts : List Task} {h : Handle} (hf : firstStop ts = some h) :
    h.descriptor.kind ≠ .localFence := by
  unfold firstStop at hf
  simpa using List.find?_some hf

section Settling

theorem map_kind (o : Option Entry) :
    o.map Entry.kind = (o.map Entry.descriptor).map Descriptor.kind := by
  rw [Option.map_map]
  rfl

theorem descriptor_complete (q : Queue) (p a : Place) :
    ((q.alterEntry p Entry.complete).entryAt? a).map Entry.descriptor =
      (q.entryAt? a).map Entry.descriptor := by
  by_cases hp : p = a
  · subst hp
    rw [entryAt?_alterEntry_self, Option.map_map]
    rfl
  · rw [entryAt?_alterEntry_of_ne hp]

/-- Settling a fence changes no descriptor. -/
theorem descriptor_settleFrom (l : List Place) (q : Queue) (a : Place) :
    ((settleFrom l q).entryAt? a).map Entry.descriptor = (q.entryAt? a).map Entry.descriptor := by
  induction l generalizing q with
  | nil => rfl
  | cons p rest ih =>
    rw [settleFrom]
    split
    · rw [ih, descriptor_complete]
    · rfl

/-- While nothing of its task is with the hardware, every local fence in front is settled. -/
theorem head_settleFrom (l : List Place) (q : Queue) (h : Framed { q with ready := l })
    (idle : ∀ t ∈ q.active.getLast?, t.hasActive = false) :
    (settleFrom l q).ready.head? =
      l.find? fun p => (q.entryAt? p).map Entry.kind ≠ some .localFence := by
  induction l generalizing q with
  | nil => rfl
  | cons p rest ih =>
    obtain ⟨before, t, hb, hn, hw, e, he, hp⟩ := h.ready_cons rfl
    have hf : t ∈ q.flying := mem_flying_of_active (by rw [show q.active = _ from hb]; simp)
    have last : t.hasActive = false := idle t (by rw [show q.active = _ from hb]; simp)
    have task : q.task? p.task = some t := h.numbered.task?_eq_some_iff.2 ⟨hf, hn⟩
    have found : q.entryAt? p = some e := by rw [entryAt?, task, Option.bind_some, he]
    have settled : q.isSettledFence p = true ↔ (q.entryAt? p).map Entry.kind = some .localFence := by
      have fence : q.isSettledFence p = true ↔ _ := h.numbered.isSettledFence_iff hf hn
      rw [fence, he, found]
      -- What stands before it in its task is neither waiting nor with the hardware.
      refine and_iff_left ((Task.completedBefore_iff t _).2 fun j hj d hd => ?_)
      exact Entry.isCompleted_of_not ((Task.waiting_cons hw).1 j hj d hd)
        (Task.hasActive_eq_false_iff.1 last d ((Task.mem_entries_iff t d).2 ⟨j, hd⟩))
    -- Settling this fence keeps the frame, and nothing comes to be with the hardware by it.
    by_cases hs : q.isSettledFence p = true
    · have goesOn := ih (q.alterEntry p Entry.complete) (h.settle rfl hs) fun u hu => by
        rw [active_alterEntry, show q.active = _ from hb, List.map_append, List.map_singleton,
          List.getLast?_concat, Option.mem_some_iff, touch_of_eq hn] at hu
        rw [← hu, Task.hasActive_eq_false_iff]
        exact Task.forall_mem_alterEntry (Task.hasActive_eq_false_iff.1 last) fun _ _ => rfl
      rw [settleFrom, if_pos hs, goesOn, List.find?_cons_of_neg (by simpa using settled.1 hs)]
      refine List.find?_congr fun a _ => ?_
      rw [map_kind, descriptor_complete, ← map_kind]
    · rw [settleFrom, if_neg hs, List.find?_cons_of_pos (by simpa using mt settled.2 hs)]
      rfl

end Settling

section Promoting

/-- A task that is activated brings its first descriptor that is not a local fence to the front. -/
theorem head_activate {t : Task} {rest : List Task} (h : Framed { q with pending := t :: rest })
    (hr : q.ready = []) :
    (settleFences { activate t q with pending := rest }).ready.head? =
        (t.handles.find? fun k => k.descriptor.kind ≠ .localFence).map Handle.place ∧
      ∀ k ∈ t.handles, ((settleFences { activate t q with pending := rest }).entryAt? k.place).map
        Entry.descriptor = some k.descriptor := by
  obtain ⟨r, hact⟩ : ∃ r : Queue, r = { activate t q with pending := rest } := ⟨_, rfl⟩
  have framed : r.Framed := hact ▸ h.activate rfl hr
  have active : r.active = q.active ++ [t] := by rw [hact]; rfl
  have ready : r.ready = t.handles.map Handle.place := by
    rw [hact, ← Task.places_eq_handles]
    show q.ready ++ t.places = t.places
    rw [hr, List.nil_append]
  have stands : ∀ k ∈ t.handles, (r.entryAt? k.place).map Entry.descriptor =
      some k.descriptor := by
    intro k hk
    obtain ⟨number, descriptor⟩ := Task.mem_handles hk
    have found : r.task? k.task = some t := framed.numbered.task?_eq_some_iff.2
      ⟨mem_flying_of_active (by simp [active]), number.symm⟩
    rw [entryAt?, Handle.place, found]
    exact descriptor
  rw [← hact]
  refine ⟨?_, fun k hk => (descriptor_settleFrom _ _ _).trans (stands k hk)⟩
  rw [settleFences, head_settleFrom _ _ framed, ready, List.find?_map]
  · congr 1
    refine List.find?_congr fun k hk => ?_
    have kind : (r.entryAt? k.place).map Entry.kind = some k.descriptor.kind := by
      rw [map_kind, stands k hk]
      rfl
    simp only [Function.comp_apply, kind, ne_eq, Option.some.injEq]
  · intro u hu
    rw [active, List.getLast?_concat, Option.mem_some_iff] at hu
    subst hu
    exact Task.idle_of_fresh (h.fresh _ List.mem_cons_self)

theorem promoteFrom_of_ready (ts : List Task) (h : q.ready ≠ []) :
    promoteFrom ts q = ([], { q with pending := ts }) := by
  cases ts with
  | nil => rfl
  | cons t rest => rw [promoteFrom, if_neg (by simpa using h)]

/-- By induction on the waiting tasks: one that holds only local fences leaves nothing ready, so the
next one is activated. -/
theorem head_promoteFrom (ts : List Task) (q : Queue) (h : Framed { q with pending := ts })
    (hr : q.ready = []) :
    (promoteFrom ts q).2.ready.head? = (firstStop ts).map Handle.place ∧
      ∀ k ∈ firstStop ts, ((promoteFrom ts q).2.entryAt? k.place).map Entry.descriptor =
        some k.descriptor := by
  induction ts generalizing q with
  | nil => exact ⟨by rw [promoteFrom, hr]; rfl, fun k hk => by cases hk⟩
  | cons t rest ih =>
    have same : settleFences { activate t q with pending := rest } =
        { settleFences (activate t q) with pending := rest } := settleFrom_pending _ _ _
    obtain ⟨head, stands⟩ := head_activate h hr
    have framed := (settleFences_framed (q := { activate t q with pending := rest })
      (h.activate rfl hr)).1
    rw [same] at head stands framed
    rw [promoteFrom, if_pos (by simpa using hr), firstStop_cons]
    cases hf : t.handles.find? fun k => k.descriptor.kind ≠ .localFence with
    | some k =>
      rw [hf, Option.map_some] at head
      have some_ready : (settleFences (activate t q)).ready ≠ [] := fun hn => by
        rw [show Queue.ready _ = [] from hn] at head
        cases head
      rw [promoteFrom_of_ready rest some_ready, Option.some_or]
      refine ⟨head, fun k' hk' => ?_⟩
      rw [← Option.mem_some_iff.1 hk']
      exact stands k (List.mem_of_find?_eq_some hf)
    | none =>
      rw [hf, Option.map_none, List.head?_eq_none_iff] at head
      rw [Option.none_or]
      exact ih _ framed head

/-- What comes to the front is what is ready already, or else the first descriptor of the waiting
tasks that is not a local fence. -/
theorem front_promote (h : q.Framed) :
    q.promote.2.front = if q.ready = [] then firstStop q.pending else q.front := by
  by_cases hr : q.ready = []
  · rw [if_pos hr]
    obtain ⟨head, stands⟩ := head_promoteFrom q.pending q h hr
    rw [front, promote, head]
    cases hf : firstStop q.pending with
    | none => rfl
    | some k =>
      obtain ⟨e, he, hd⟩ := Option.map_eq_some_iff.1 (stands k (Option.mem_def.2 hf))
      rw [Option.map_some, Option.bind_some, he, Option.map_some, hd]
      rfl
  · rw [if_neg hr, promote, promoteFrom_of_ready _ hr]

end Promoting

section Looking

/-- What is in front is handed out unless it is a fence. -/
theorem dispatch_eq_front (q : Queue) :
    q.dispatch.1 = q.front.filter fun h => !h.descriptor.kind.isFence := by
  unfold dispatch front
  split
  · rename_i hr
    rw [hr]
    rfl
  · rename_i p rest hr
    rw [hr, List.head?_cons, Option.bind_some]
    split
    · rename_i he
      rw [he]
      rfl
    · rename_i e he
      rw [he, Option.map_some, Option.filter_some]
      split
      · rename_i hk
        rw [if_neg (by simpa [Entry.kind] using hk)]
      · rename_i hk
        rw [if_pos (by simpa [Entry.kind] using hk)]

theorem handle_next (h : q.Framed) (ho : q.isOpen = true) : q.next.handle =
    (if q.ready = [] then firstStop q.pending else q.front).filter fun h =>
      !h.descriptor.kind.isFence := by
  rw [next_of_open ho, ← front_promote h]
  exact dispatch_eq_front _

/-- Taking finished tasks off leaves in front what is in front. -/
theorem Tidy.front_takeFinished (h : q.Tidy) : q.takeFinished.2.front = q.front := by
  obtain ⟨ready, -, kept⟩ := h.toFramed.takeFinished_kept
  have framed := (takeFinished_sound h.toFramed h.unsettled).toFramed
  rw [front, front, ready]
  cases hr : q.ready with
  | nil => rfl
  | cons p rest =>
    obtain ⟨t, ha, hn, -, e, he, -, after⟩ := framed.entryAt?_ready (ready.trans hr)
    have before : q.entryAt? p = some e := by
      rw [entryAt?, h.numbered.task?_eq_some_iff.2 ⟨kept t (mem_flying_of_active ha), hn⟩,
        Option.bind_some, he]
    rw [List.head?_cons, Option.bind_some, Option.bind_some, after, before]

theorem next_of_handle_none (ho : q.isOpen = true) (hn : q.next.handle = none) :
    q.next = ⟨q.promote.1, none, q.promote.2.takeFinished.1, q.promote.2.takeFinished.2⟩ := by
  rw [next_of_open ho] at hn ⊢
  rcases dispatch_cases q.promote.2 with hd | ⟨p, rest, e, -, -, -, hd⟩
  · rw [hd]
  · rw [hd] at hn
    cases hn

/-- A look that gives nothing leaves its reason in front. -/
theorem Tidy.front_next (h : q.Tidy) (ho : q.isOpen = true) (hn : q.next.handle = none) :
    q.next.queue.front = if q.ready = [] then firstStop q.pending else q.front := by
  rw [next_of_handle_none ho hn, ← front_promote h.toFramed]
  exact h.promote.front_takeFinished

/-- With nothing to activate, a look that gives nothing only takes finished tasks off. -/
theorem next_of_idle (ho : q.isOpen = true) (hn : q.next.handle = none)
    (hi : q.ready ≠ [] ∨ q.pending = []) :
    q.next = ⟨[], none, q.takeFinished.1, q.takeFinished.2⟩ := by
  have same : q.promote = ([], q) := by
    rcases hi with hr | hp
    · exact promoteFrom_of_ready _ hr
    · rw [promote, hp, promoteFrom, ← hp]
  rw [next_of_handle_none ho hn, same]

theorem Sound.takeFinished_eq (h : q.Sound) : q.takeFinished = ([], q) := by
  have stays : ∀ ts : List Task, (∀ t ∈ ts.head?, t.isDrained = false) →
      ts.span Task.isDrained = ([], ts) := by
    intro ts ht
    cases ts with
    | nil => rfl
    | cons t rest => simp [List.span_eq_takeWhile_dropWhile, ht t rfl]
  rw [takeFinished, stays _ h.completed_front]
  dsimp only
  split
  · rename_i hc
    rw [stays _ (h.active_front (by simpa using hc))]
    rfl
  · rfl

end Looking

section Peeking

/-- Every waiting task has a descriptor. -/
def Stocked (q : Queue) : Prop := ∀ t ∈ q.pending, 0 < t.entries.size

section Stocked

theorem Stocked.of_pending (h : q.Stocked) (hp : ∀ t ∈ r.pending, t ∈ q.pending) : r.Stocked :=
  fun t ht => h t (hp t ht)

/-- A submission without descriptors is refused. -/
theorem Stocked.push (h : q.Stocked) {n : UInt64} {ticket : Ticket} {ds : List Descriptor}
    (hc : checkDescriptors ticket.id ds = .ok ()) :
    Stocked { q with nextTask := q.nextTask + 1
                     pending := q.pending ++ [Task.new n ticket ds] } := by
  intro t ht
  rcases List.mem_append.1 ht with ht | ht
  · exact h t ht
  · rw [List.mem_singleton.1 ht]
    cases ds with
    | nil => cases hc
    | cons d rest => simp [Task.new]

theorem pending_settleFrom (l : List Place) (q : Queue) :
    (settleFrom l q).pending = q.pending := by
  rw [show settleFrom l q = _ from settleFrom_pending l q q.pending]

theorem mem_promoteFrom_pending {ts : List Task} {q : Queue} {t : Task}
    (ht : t ∈ (promoteFrom ts q).2.pending) : t ∈ ts := by
  induction ts generalizing q with
  | nil => exact ht
  | cons u rest ih =>
    rw [promoteFrom] at ht
    split at ht
    · exact List.mem_cons_of_mem _ (ih ht)
    · exact ht

theorem pending_takeFinished (q : Queue) : q.takeFinished.2.pending = q.pending := by
  obtain ⟨gone, done, ended, rest, -, -, -, -, -, -, heq⟩ := takeFinished_cases q
  rw [heq]
  unfold withdraw
  split <;> rfl

theorem Stocked.promote (h : q.Stocked) : q.promote.2.Stocked :=
  h.of_pending fun _ => mem_promoteFrom_pending

theorem Stocked.next (h : q.Stocked) : q.next.queue.Stocked := by
  cases ho : q.isOpen with
  | false =>
    rw [next_of_shut ho]
    exact h
  | true =>
    have same : q.next.queue.pending = q.promote.2.pending := by
      rw [next_of_open ho, pending_takeFinished]
      rcases dispatch_cases q.promote.2 with hd | ⟨p, rest, e, -, -, -, hd⟩ <;> rw [hd]
      rfl
    exact h.promote.of_pending fun t ht => same ▸ ht

theorem pending_of_complete {k : Handle} {ts : List Ticket} (hc : q.complete k = .ok (ts, r)) :
    r.pending = q.pending := by
  obtain ⟨t, e, -, -, -, heq⟩ := complete_eq_ok_iff.1 hc
  rw [show r = _ from congrArg Prod.snd heq, pending_takeFinished, settleFences,
    pending_settleFrom]
  rfl

theorem pending_of_finishRequest {ts : List Ticket} (hf : q.finishRequest = .ok (ts, r)) :
    r.pending = q.pending := by
  obtain ⟨t, others, -, -, heq⟩ := finishRequest_eq_ok_iff.1 hf
  rw [show r = _ from congrArg Prod.snd heq, pending_takeFinished]
  rfl

end Stocked

/-- The descriptor in front, or else the very first one of the waiting tasks. -/
def first (q : Queue) : Option Handle :=
  if q.ready = [] then (q.pending.flatMap Task.handles).head? else q.front

theorem Framed.front_isSome (h : q.Framed) (hr : q.ready ≠ []) : q.front.isSome = true := by
  obtain ⟨p, rest, hc⟩ := List.exists_cons_of_ne_nil hr
  obtain ⟨-, -, -, -, e, -, -, he⟩ := h.entryAt?_ready hc
  rw [front, hc, List.head?_cons, Option.bind_some, he]
  rfl

/-- Whatever else waits, a peek sees what is in front. -/
theorem peek_of_front {h : Handle} (hf : q.front = some h) : q.peek = some h.descriptor.kind := by
  unfold front at hf
  cases hr : q.ready with
  | nil => simp [hr] at hf
  | cons p rest =>
    rw [hr, List.head?_cons, Option.bind_some] at hf
    obtain ⟨e, he, rfl⟩ := Option.map_eq_some_iff.1 hf
    rw [peek, hr]
    simp only [he]
    rfl

theorem peek_eq_first (hs : q.Stocked) : q.peek = q.first.map fun h => h.descriptor.kind := by
  cases hr : q.ready with
  | cons p rest =>
    rw [first, if_neg (by simp [hr]), peek, hr, front, hr, List.head?_cons, Option.bind_some,
      Option.map_map]
    rfl
  | nil =>
    cases hp : q.pending with
    | nil => simp [first, peek, hr, hp]
    | cons t rest =>
      obtain ⟨e, he⟩ : ∃ e, t.entries[0]? = some e :=
        ⟨_, Array.getElem?_eq_getElem (hs t (by simp [hp]))⟩
      obtain ⟨others, handles⟩ := Task.handles_of_head he
      rw [first, if_pos hr, peek, hr, hp, List.flatMap_cons, handles]
      simp only [he]
      rfl

/-- What was first and is no local fence is what comes to the front. -/
theorem firstStop_of_first {h : Handle} (hf : (q.pending.flatMap Task.handles).head? = some h)
    (hk : h.descriptor.kind ≠ .localFence) : firstStop q.pending = some h := by
  obtain ⟨others, hl⟩ := List.head?_eq_some_iff.1 hf
  rw [firstStop, hl, List.find?_cons_of_pos (by simpa using hk)]

/-- A fence that is ready stays where it is, and so does a queue without work. -/
theorem Tidy.next_of_peek (h : q.Tidy) (hs : q.Stocked) (ho : q.isOpen = true)
    (hp : q.peek = none ∨ q.peek = some .localFence ∧ q.ready ≠ []) :
    q.next = ⟨[], none, q.takeFinished.1, q.takeFinished.2⟩ := by
  rw [peek_eq_first hs] at hp
  by_cases hr : q.ready = []
  · have nothing : (q.pending.flatMap Task.handles).head? = none := by
      simpa [first, hr] using hp
    have empty : q.pending = [] := by
      cases hq : q.pending with
      | nil => rfl
      | cons t rest =>
        obtain ⟨others, handles⟩ := Task.handles_of_head
          (Array.getElem?_eq_getElem (hs t (by simp [hq])))
        rw [hq, List.flatMap_cons, handles] at nothing
        cases nothing
    refine next_of_idle ho ?_ (.inr empty)
    rw [handle_next h.toFramed ho, if_pos hr, empty]
    rfl
  · refine next_of_idle ho ?_ (.inl hr)
    obtain ⟨k, hf⟩ := Option.isSome_iff_exists.1 (h.toFramed.front_isSome hr)
    rw [first, if_neg hr, hf] at hp
    rw [handle_next h.toFramed ho, if_neg hr, hf, Option.filter_some, if_neg]
    rcases hp with hp | ⟨hp, -⟩
    · cases hp
    · rw [Option.map_some, Option.some.injEq] at hp
      rw [hp]
      decide

end Peeking

end Queue

namespace Scheduler

variable {W : Type} [Watchdog W] {s t : Scheduler W}

/-- What a peek tells of a look that answers with this handle and leaves the second scheduler. -/
structure Foretold (s t : Scheduler W) (handle : Option Handle) : Prop where
  transfer : ∀ kind, Dispatcher.peek s = some kind → kind.isFence = false →
    ∃ h, handle = some h ∧ h.descriptor.kind = kind
  nothing : Dispatcher.peek s = none → handle = none ∧ t.queue = s.queue.takeFinished.2
  globalFence : Dispatcher.peek s = some .globalFence →
    handle = none ∧ Dispatcher.peek t = some .globalFence
  readyFence : Dispatcher.peek s = some .localFence → s.queue.ready ≠ [] →
    handle = none ∧ t.queue = s.queue.takeFinished.2
  waitingFence : Dispatcher.peek s = some .localFence → s.queue.ready = [] → ∀ h,
    handle = some h ↔
      Queue.firstStop s.queue.pending = some h ∧ h.descriptor.kind ≠ .globalFence

/-- A look that is answered has been foretold. -/
theorem foretold_next (h : s.queue.Tidy) (hs : s.queue.Stocked) (ho : s.queue.isOpen = true)
    (ht : t.queue = s.queue.next.queue) : Foretold s t s.queue.next.handle := by
  have handle := Queue.handle_next h.toFramed ho
  have stops : ∀ k, Dispatcher.peek s = some k → k ≠ .localFence → ∃ x,
      (if s.queue.ready = [] then Queue.firstStop s.queue.pending else s.queue.front) = some x ∧
        x.descriptor.kind = k := by
    intro k hk hl
    rw [show Dispatcher.peek s = s.queue.peek from rfl, Queue.peek_eq_first hs] at hk
    obtain ⟨x, hx, rfl⟩ := Option.map_eq_some_iff.1 hk
    rw [Queue.first] at hx
    by_cases hr : s.queue.ready = []
    · rw [if_pos hr] at hx ⊢
      exact ⟨x, Queue.firstStop_of_first hx hl, rfl⟩
    · rw [if_neg hr] at hx ⊢
      exact ⟨x, hx, rfl⟩
  have stays : (Dispatcher.peek s = none ∨
      Dispatcher.peek s = some .localFence ∧ s.queue.ready ≠ []) →
      s.queue.next.handle = none ∧ t.queue = s.queue.takeFinished.2 := by
    intro hp
    have same := h.next_of_peek hs ho hp
    rw [ht, same]
    exact ⟨rfl, rfl⟩
  refine ⟨fun k hk hf => ?_, fun hp => stays (.inl hp), fun hp => ?_,
    fun hp hr => stays (.inr ⟨hp, hr⟩), fun hp hr x => ?_⟩
  · obtain ⟨x, hx, rfl⟩ := stops k hk fun hl => by simp [hl, Descriptor.Kind.isFence] at hf
    exact ⟨x, by rw [handle, hx, Option.filter_some, hf]; rfl, rfl⟩
  · obtain ⟨x, hx, kind⟩ := stops _ hp (by decide)
    have none : s.queue.next.handle = none := by
      rw [handle, hx, Option.filter_some, kind]
      rfl
    have front := h.front_next ho none
    rw [hx, ← ht] at front
    exact ⟨none, (Queue.peek_of_front front).trans (congrArg some kind)⟩
  · rw [handle, if_pos hr, Option.filter_eq_some_iff]
    refine and_congr_right fun hx => ?_
    have := Queue.not_localFence_of_firstStop hx
    cases hk : x.descriptor.kind <;> simp_all [Descriptor.Kind.isFence]

/-- What a call leaves of the queue. Only a look that is aborted leaves tasks activated and nothing
taken off, and only a submission that is aborted leaves a number out. -/
inductive Left (s : Scheduler W) : Chronicle.Call → Queue → Prop where
  | unchanged {c} : Left s c s.queue
  | opened {q} : s.queue.openUp = .ok q → Left s .openUp q
  | submitted {offer ds q} : s.admits (.submit offer) = 1 →
      s.queue.submit offer.ticket ds = .ok q → Left s (.submit offer) q
  | skipped {offer} : s.admits (.submit offer) = 1 →
      Left s (.submit offer) { s.queue with nextTask := s.queue.nextTask + 1 }
  | looked : Left s .next s.queue.next.queue
  | cutShort : (Dispatcher.next s).1.isOk = false → Left s .next s.queue.promote.2
  | completed {h ts q} : s.queue.complete h = .ok (ts, q) → Left s (.complete h) q
  | reported {ts q} : s.queue.finishRequest = .ok (ts, q) → Left s .finishRequest q
  | shut {mode q} : s.queue.shut = .ok q → Left s (.close mode) q
  | drained {c isOpen} : Left s c { s.queue with isOpen := isOpen }.drain.2

omit [Watchdog W] in
theorem queue_of_drained {act : Act (Scheduler W) Closing} {q : Queue}
    (hc : ∃ w marks, act s = (.ok (.closed q.drain.1), ⟨q.drain.2, w, marks⟩) ∨
      ∃ cause, act s = (.error (.abort cause), ⟨q.drain.2, w, marks⟩)) :
    (act s).2.queue = q.drain.2 := by
  obtain ⟨w, marks, hc | ⟨cause, hc⟩⟩ := hc <;> rw [hc]

theorem after_left (s : Scheduler W) (c : Chronicle.Call) : s.Left c (s.after c).queue := by
  cases c with
  | openUp =>
    rcases openUp_cases s with ⟨q, hq, ho⟩ | ⟨cause, -, ho⟩ <;> rw [after, ho]
    · exact .opened hq
    · exact .unchanged
  | submit offer =>
    rcases submit_cases offer s with
      ⟨ds, q, marks, -, hq, hs⟩ | ⟨cause, hs, -⟩ | ⟨cause, n, marks, hs, rfl | rfl, -⟩
    · have one : s.admits (.submit offer) = 1 := by
        apply admits_submit_of_succ
        rw [hs, (Queue.submit_eq_ok_iff.1 hq).2.2]
      rw [after, hs]
      exact .submitted one hq
    · rw [after, hs]
      exact .unchanged
    · rw [after, hs]
      exact .unchanged
    · have one : s.admits (.submit offer) = 1 := admits_submit_of_succ (by rw [hs])
      rw [after, hs]
      exact .skipped one
  | next =>
    rcases next_cases s with ⟨w, marks, hn⟩ | ⟨cause, q, w, marks, hn, rfl | rfl⟩ <;>
      rw [after, hn]
    · exact .looked
    · exact .cutShort (by rw [hn]; rfl)
    · exact .looked
  | complete k =>
    rcases progress_cases (Queue.complete k) s with ⟨ts, q, hq, -⟩ | ⟨cause, -, hp⟩
    · rw [show (s.after (.complete k)).queue = q from congrArg Prod.fst (post_progress hq)]
      exact .completed hq
    · rw [show s.after (.complete k) = s from congrArg Prod.snd hp]
      exact .unchanged
  | finishRequest =>
    rcases progress_cases Queue.finishRequest s with ⟨ts, q, hq, -⟩ | ⟨cause, -, hp⟩
    · rw [show (s.after .finishRequest).queue = q from congrArg Prod.fst (post_progress hq)]
      exact .reported hq
    · rw [show s.after .finishRequest = s from congrArg Prod.snd hp]
      exact .unchanged
  | close mode =>
    rcases close_cases mode s with ⟨q, hq, ⟨-, -, hc⟩ | hc⟩ | ⟨cause, -, hc⟩
    · rw [after, hc]
      exact .shut hq
    · rw [after, queue_of_drained hc, (Queue.shut_eq_ok_iff.1 hq).2]
      exact .drained
    · rw [after, hc]
      exact .unchanged
  | wake =>
    rcases finishClose_cases s with ⟨-, hc⟩ | ⟨-, hc⟩
    · rw [after, hc]
      exact .unchanged
    · rw [after, queue_of_drained hc]
      exact .drained

section Kept

variable {c : Chronicle.Call} {q : Queue}

theorem Left.stocked (hl : s.Left c q) (h : s.queue.Stocked) : q.Stocked := by
  cases hl with
  | unchanged => exact h
  | opened ho =>
    rw [(Queue.openUp_eq_ok_iff.1 ho).2]
    exact h
  | submitted _ hs =>
    obtain ⟨checked, -, rfl⟩ := Queue.submit_eq_ok_iff.1 hs
    exact h.push checked
  | skipped _ => exact h
  | looked => exact h.next
  | cutShort => exact h.promote
  | completed hc => exact h.of_pending fun t ht => Queue.pending_of_complete hc ▸ ht
  | reported hf => exact h.of_pending fun t ht => Queue.pending_of_finishRequest hf ▸ ht
  | shut hs =>
    rw [(Queue.shut_eq_ok_iff.1 hs).2]
    exact h
  | drained => exact fun t ht => by cases ht

/-- A queue is sound again after every call but a look that is aborted. -/
theorem Left.sound (hl : s.Left c q) (h : s.queue.Sound)
    (hb : s.queue.nextTask.toNat + s.admits c < UInt64.size)
    (hn : c = .next → (Dispatcher.next s).1.isOk = true) : q.Sound := by
  cases hl with
  | unchanged => exact h
  | opened ho => exact Queue.openUp_sound h ho
  | submitted one hs => exact Queue.submit_sound h (one ▸ hb) hs
  | skipped one => exact h.skip (one ▸ hb)
  | looked => exact Queue.next_sound h
  | cutShort ha =>
    rw [hn rfl] at ha
    cases ha
  | completed hc => exact Queue.complete_sound h hc
  | reported hf => exact Queue.finishRequest_sound h hf
  | shut hs => exact Queue.shut_sound h hs
  | drained => exact Queue.drain_sound

end Kept

/-- On a sound queue without work, or behind a fence that is ready, a look changes nothing. -/
theorem next_changes_nothing (h : s.queue.Sound) (hs : s.queue.Stocked)
    (ho : s.queue.isOpen = true) (hp : Dispatcher.peek s = none ∨
      Dispatcher.peek s = some .localFence ∧ s.queue.ready ≠ []) :
    Dispatcher.next s = (.ok (none, []), s) := by
  have same : s.queue.next = ⟨[], none, [], s.queue⟩ := by
    rw [h.tidy.next_of_peek hs ho hp, h.takeFinished_eq]
  rw [next_of_none (by rw [same]), same]
  rfl

end Scheduler

namespace Patrol

variable {W M : Type} [Watchdog W] {course : Watchdog.Course W M} {w : W}
  {es : List (Event M)} {p : Patrol W}

theorem stocked_run (es : List (Event M)) {p : Patrol W} (h : p.scheduler.queue.Stocked) :
    (run course es p).scheduler.queue.Stocked := by
  induction es generalizing p with
  | nil => exact h
  | cons e es ih =>
    cases e with
    | call c => exact ih ((p.scheduler.after_left c).stocked h)
    | move m => exact ih h

/-- As long as the numbers of tasks last and no look is aborted, the queue is sound after every
run. -/
theorem sound_run (es : List (Event M)) {p : Patrol W} (h : p.scheduler.queue.Sound)
    (hb : p.scheduler.queue.nextTask.toNat + admitted course es p < UInt64.size)
    (hl : ∀ answer ∈ looks course es p, answer.isOk = true) :
    (run course es p).scheduler.queue.Sound := by
  induction es generalizing p with
  | nil => exact h
  | cons e es ih =>
    cases e with
    | move m => exact ih h hb hl
    | call c =>
      rw [admitted, ← Nat.add_assoc] at hb
      have room := Nat.lt_of_le_of_lt (Nat.le_add_right _ _) hb
      have number := (Scheduler.after_advances h.tidy c room).number
      rw [← number] at hb
      obtain ⟨answered, rest⟩ : (c = .next → (Dispatcher.next p.scheduler).1.isOk = true) ∧
          ∀ answer ∈ looks course es (step course p (.call c)), answer.isOk = true := by
        by_cases hc : c = .next
        · subst hc
          obtain ⟨first, rest⟩ := List.forall_mem_cons.1 hl
          refine ⟨fun _ => ?_, rest⟩
          cases hn : (Dispatcher.next p.scheduler).1 with
          | error fault =>
            rw [hn] at first
            cases first
          | ok out => rfl
        · refine ⟨fun h => absurd h hc, ?_⟩
          cases c <;> first | exact hl | exact absurd rfl hc
      exact ih ((p.scheduler.after_left c).sound h room answered) hb rest

/-- After every run, a look at an open queue is answered as the peek foretells, unless the watchdog
aborts it. If no look was aborted before, one that is foretold to find nothing changes nothing. -/
theorem peek_foretells_next (hp : run course es (begin w) = p)
    (hb : admitted course es (begin w) < UInt64.size) (ho : p.scheduler.queue.isOpen = true) :
    ((∃ handle finished, (Dispatcher.next p.scheduler).1 = .ok (handle, finished) ∧
          Scheduler.Foretold p.scheduler (p.scheduler.after .next) handle) ∨
        ∃ cause, (Dispatcher.next p.scheduler).1 = .error (.abort cause)) ∧
      (∀ calm : W → Prop, Watchdog.Calm calm → calm p.watchdog →
        (Dispatcher.next p.scheduler).1.isOk = true) ∧
      ((∀ answer ∈ looks course es (begin w), answer.isOk = true) →
        (Dispatcher.peek p.scheduler = none ∨
          Dispatcher.peek p.scheduler = some .localFence ∧ p.scheduler.queue.ready ≠ []) →
        Dispatcher.next p.scheduler = (.ok (none, []), p.scheduler)) := by
  have start : (begin w).scheduler.queue.nextTask.toNat + admitted course es (begin w) <
      UInt64.size := by
    rw [show (begin w).scheduler.queue.nextTask.toNat = 0 from rfl, Nat.zero_add]
    exact hb
  have stocked : p.scheduler.queue.Stocked := by
    rw [← hp]
    exact stocked_run es fun t ht => by cases ht
  refine ⟨?_, fun calm hc hw => ?_, fun hl foretold => ?_⟩
  · have tidy : p.scheduler.queue.Tidy := by
      rw [← hp]
      exact tidy_run es Queue.new_sound.tidy start
    rcases Scheduler.next_cases p.scheduler with ⟨v, marks, hn⟩ | ⟨cause, q, v, marks, hn, -⟩
    · exact .inl ⟨_, _, congrArg Prod.fst hn, Scheduler.foretold_next tidy stocked ho
        (by rw [Scheduler.after, hn])⟩
    · exact .inr ⟨cause, congrArg Prod.fst hn⟩
  · obtain ⟨v, marks, hn, -⟩ := Scheduler.next_calm hc hw
    rw [hn]
    rfl
  · refine Scheduler.next_changes_nothing ?_ stocked ho foretold
    rw [← hp]
    exact sound_run es Queue.new_sound start hl

/-- A task that is only a fence waits, and behind it one that begins with a fence. -/
def fencedOff : List (Event Empty) :=
  [.openUp, .submit ⟨default, .ok [Descriptor.marker .localFence]⟩,
    .submit ⟨default, .ok [Descriptor.marker .localFence, ⟨.instruction, 0, 64⟩]⟩].map .call

theorem transfer_behind_fences : ∃ p : Patrol Watchdog.Idle,
    run still fencedOff (begin ⟨⟩) = p ∧ Dispatcher.peek p.scheduler = some .localFence ∧
      ∃ finished, (Dispatcher.next p.scheduler).1 =
        .ok (some ⟨1, 1, ⟨.instruction, 0, 64⟩⟩, finished) := by
  obtain ⟨p, hp⟩ : ∃ p : Patrol Watchdog.Idle, run still fencedOff (begin ⟨⟩) = p := ⟨_, rfl⟩
  obtain ⟨opened, idle, stop, peeked⟩ :
      (run still fencedOff (begin Watchdog.Idle.mk)).scheduler.queue.isOpen = true ∧
      (run still fencedOff (begin Watchdog.Idle.mk)).scheduler.queue.ready = [] ∧
      Queue.firstStop (run still fencedOff (begin Watchdog.Idle.mk)).scheduler.queue.pending =
        some ⟨1, 1, ⟨.instruction, 0, 64⟩⟩ ∧
      (run still fencedOff (begin Watchdog.Idle.mk)).scheduler.queue.peek = some .localFence := by
    decide +kernel
  rw [hp] at opened idle stop peeked
  obtain ⟨⟨handle, finished, answered, foretold⟩ | ⟨cause, aborted⟩, calm, -⟩ :=
    peek_foretells_next hp (by decide +kernel) opened
  · have given := (foretold.waitingFence peeked idle ⟨1, 1, ⟨.instruction, 0, 64⟩⟩).2
      ⟨stop, by decide⟩
    exact ⟨p, hp, peeked, finished, by rw [answered, given]⟩
  · have answered := calm _ Watchdog.Idle.calm trivial
    rw [aborted] at answered
    cases answered

/-- A transfer waits, alone. -/
def waiting : List (Event Empty) :=
  [.openUp, .submit ⟨default, .ok [⟨.instruction, 0, 64⟩]⟩].map .call

/-- A task that was only a fence has been activated, and the watchdog, which cannot tell its timeout
on the clock, has aborted the look. -/
def leftBehind : List (Event Empty) :=
  [.openUp, .submit ⟨default, .ok [Descriptor.marker .localFence]⟩, .next].map .call

/-- With a watchdog that aborts, a look need not give what the peek tells. Once it has aborted one,
a look that is told to find nothing may change the queue. -/
theorem peeks_and_aborts : ∃ e,
    Escalation.new [⟨Clock.signedSeconds * Duration.nsPerSecond⟩]
      (fun _ => .ok (.system .condvar [])) = .ok e ∧
    ((run still waiting (begin e)).scheduler.queue.isOpen = true ∧
      Dispatcher.peek (run still waiting (begin e)).scheduler = some .instruction ∧
      (Dispatcher.next (run still waiting (begin e)).scheduler).1 =
        .error (.abort .instantOverflow)) ∧
    (run still leftBehind (begin e)).scheduler.queue.isOpen = true ∧
      Dispatcher.peek (run still leftBehind (begin e)).scheduler = none ∧
      ((run still leftBehind (begin e)).scheduler.after .next).queue ≠
        (run still leftBehind (begin e)).scheduler.queue := by
  obtain ⟨e, he⟩ : ∃ e, Escalation.new [⟨Clock.signedSeconds * Duration.nsPerSecond⟩]
      (fun _ => .ok (.system .condvar [])) = .ok e := ⟨_, rfl⟩
  have seen : (Escalation.new [⟨Clock.signedSeconds * Duration.nsPerSecond⟩]
      (fun _ => .ok (.system .condvar []))).toOption.map (fun e => decide (
        ((run still waiting (begin e)).scheduler.queue.isOpen = true ∧
          Dispatcher.peek (run still waiting (begin e)).scheduler = some .instruction ∧
          (Dispatcher.next (run still waiting (begin e)).scheduler).1 =
            .error (.abort .instantOverflow)) ∧
        (run still leftBehind (begin e)).scheduler.queue.isOpen = true ∧
          Dispatcher.peek (run still leftBehind (begin e)).scheduler = none ∧
          ((run still leftBehind (begin e)).scheduler.after .next).queue ≠
            (run still leftBehind (begin e)).scheduler.queue)) = some true := by
    decide +kernel
  rw [he] at seen
  exact ⟨e, he, of_decide_eq_true (Option.some.inj seen)⟩

end Patrol

end TensorQueue
