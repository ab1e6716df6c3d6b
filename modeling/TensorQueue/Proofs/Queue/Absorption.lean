import TensorQueue.Proofs.Queue.Outline
import Mathlib.Data.List.Induction
import Mathlib.Data.List.Perm.Basic

/-!
# One completion absorbs the other

Every completion marks a descriptor, settles fences and takes the finished tasks
off the front. The next completion finds what the one before has done and goes
on from there: what was settled stays settled, and what has left does not come
back. So descriptors that are completed one after another come to the same as
all of them marked first, with the fences settled and the front taken off once.
Marks commute, and so do completions.
-/

set_option autoImplicit false

namespace TensorQueue

def Handle.place (h : Handle) : Place := ⟨h.task, h.index⟩

namespace Queue

variable {q : Queue} {p a : Place} {f : Entry → Entry}

/-- The hardware holds the descriptor at this place. -/
def ActiveAt (q : Queue) (p : Place) : Prop := ∃ e, q.entryAt? p = some e ∧ e.isActive = true

/-- All these descriptors come back at once, and nobody looks at the queue yet. -/
def mark (ps : List Place) (q : Queue) : Queue :=
  ps.foldl (fun q p => q.alterEntry p Entry.complete) q

/-- The completions of these descriptors, one after another. -/
def completeAll : List Handle → Queue → Except Error (List Ticket × Queue)
  | [], q => .ok ([], q)
  | h :: rest, q => do
    let (finished, q) ← q.complete h
    let (more, q) ← completeAll rest q
    .ok (finished ++ more, q)

section Marks

theorem task?_alterEntry (n : UInt64) :
    (q.alterEntry p f).task? n = (q.task? n).map (touch p f) := by
  simp only [task?, flying_alterEntry, List.find?_map, Function.comp_def, number_touch]

theorem entryAt?_alterEntry_of_ne (h : p ≠ a) : (q.alterEntry p f).entryAt? a = q.entryAt? a := by
  rw [entryAt?, entryAt?, task?_alterEntry]
  cases ht : q.task? a.task with
  | none => rfl
  | some t =>
    have number : t.number = a.task := by simpa using List.find?_some ht
    simp only [Option.map_some, Option.bind_some, touch]
    split
    · rename_i hn
      refine Task.getElem?_alterEntry_of_ne fun hi => h ?_
      cases p
      cases a
      simp_all
    · rfl

theorem entryAt?_alterEntry_self : (q.alterEntry p f).entryAt? p = (q.entryAt? p).map f := by
  rw [entryAt?, entryAt?, task?_alterEntry]
  cases ht : q.task? p.task with
  | none => rfl
  | some t =>
    have number : t.number = p.task := by simpa using List.find?_some ht
    simp only [Option.map_some, Option.bind_some, touch_of_eq number, Task.getElem?_alterEntry,
      ↓reduceIte]

theorem complete_alterEntry_comm (t : Task) (i j : Nat) :
    (t.alterEntry i Entry.complete).alterEntry j Entry.complete =
      (t.alterEntry j Entry.complete).alterEntry i Entry.complete := by
  refine Task.eq_of_entries rfl rfl fun k => ?_
  simp only [Task.getElem?_alterEntry]
  by_cases hi : i = k <;> by_cases hj : j = k <;> simp [hi, hj]

theorem touch_comm (t : Task) : touch a Entry.complete (touch p Entry.complete t) =
    touch p Entry.complete (touch a Entry.complete t) := by
  have apart : ∀ (r : Place) (u : Task), u.number = t.number → t.number ≠ r.task →
      touch r Entry.complete u = u := fun r u hu hn => if_neg (hu.trans_ne hn)
  by_cases hp : t.number = p.task
  · by_cases ha : t.number = a.task
    · rw [touch_of_eq hp, touch_of_eq ha, touch_of_eq (t := t.alterEntry p.index _) ha,
        touch_of_eq (t := t.alterEntry a.index _) hp, complete_alterEntry_comm]
    · rw [apart a _ (number_touch t) ha, apart a t rfl ha]
  · rw [apart p _ (number_touch t) hp, apart p t rfl hp]

theorem alterEntry_comm (q : Queue) (p a : Place) :
    (q.alterEntry p Entry.complete).alterEntry a Entry.complete =
      (q.alterEntry a Entry.complete).alterEntry p Entry.complete := by
  have swap : ∀ ts : List Task, (ts.map (touch p Entry.complete)).map (touch a Entry.complete) =
      (ts.map (touch a Entry.complete)).map (touch p Entry.complete) := by
    intro ts
    simp only [List.map_map]
    exact List.map_congr_left fun t _ => touch_comm t
  show { q with completed := (q.completed.map (touch p Entry.complete)).map (touch a Entry.complete),
                active := (q.active.map (touch p Entry.complete)).map (touch a Entry.complete) } = _
  rw [swap, swap]
  rfl

theorem mark_perm {ps ps' : List Place} (h : ps.Perm ps') (q : Queue) : mark ps q = mark ps' q :=
  have : RightCommutative fun (q : Queue) p => q.alterEntry p Entry.complete := ⟨alterEntry_comm⟩
  h.foldl_eq q

/-- A settled fence stays settled, whatever comes back. -/
theorem isSettledFence_alterEntry (h : q.isSettledFence a = true) :
    (q.alterEntry p Entry.complete).isSettledFence a = true := by
  rw [isSettledFence] at h ⊢
  rw [task?_alterEntry]
  cases ht : q.task? a.task with
  | none => simp [ht] at h
  | some t =>
    simp only [ht, Bool.and_eq_true, decide_eq_true_eq] at h
    simp only [Option.map_some, Bool.and_eq_true, decide_eq_true_eq, touch]
    split
    · refine ⟨?_, Task.completedBefore_alterEntry_complete h.2⟩
      rw [Task.getElem?_alterEntry, ← h.1]
      split
      · cases t.entries[a.index]? <;> rfl
      · rfl
    · exact h

end Marks

section Settled

theorem settleFrom_ready (l ready : List Place) (q : Queue) :
    settleFrom l { q with ready := ready } = settleFrom l q := by
  induction l generalizing q with
  | nil => rfl
  | cons p rest ih =>
    have same : isSettledFence { q with ready := ready } p = q.isSettledFence p :=
      isSettledFence_congr rfl p
    rw [settleFrom, settleFrom, same]
    split
    · exact ih (q.alterEntry p Entry.complete)
    · rfl

/-- Settling once more is all that a mark leaves to do. -/
theorem settleFences_alterEntry (l : List Place) (q : Queue) :
    settleFences ((settleFrom l q).alterEntry p Entry.complete) =
      settleFrom l (q.alterEntry p Entry.complete) := by
  induction l generalizing q with
  | nil => rfl
  | cons a rest ih =>
    by_cases hs : q.isSettledFence a = true
    · rw [settleFrom, if_pos hs, ih, settleFrom, if_pos (isSettledFence_alterEntry hs),
        alterEntry_comm]
    · rw [settleFrom, if_neg hs]
      exact settleFrom_ready (a :: rest) (a :: rest) (q.alterEntry p Entry.complete)

end Settled

section Behind

variable {gone ended : List Task}

/-- The queue with these tasks still in front, of the completed and of the active ones. -/
def behind (gone ended : List Task) (q : Queue) : Queue :=
  { q with completed := gone ++ q.completed, active := ended ++ q.active }

/-- None of these tasks has this number. -/
def Apart (gone ended : List Task) (n : UInt64) : Prop := n ∉ (gone ++ ended).map Task.number

theorem Apart.split {n : UInt64} (h : Apart gone ended n) :
    n ∉ gone.map Task.number ∧ n ∉ ended.map Task.number := by
  simpa [Apart, not_or] using h

theorem task?_behind {n : UInt64} (h : Apart gone ended n) :
    (q.behind gone ended).task? n = q.task? n := by
  have skip : ∀ ts : List Task, n ∉ ts.map Task.number → ts.find? (·.number = n) = none := by
    intro ts hn
    rw [List.find?_eq_none]
    intro t ht heq
    exact hn (List.mem_map.2 ⟨t, ht, by simpa using heq⟩)
  rw [task?, task?, flying, flying, behind]
  simp only [List.find?_append, skip _ h.split.1, skip _ h.split.2, Option.none_or]

theorem alterEntry_behind (h : Apart gone ended p.task) :
    (q.behind gone ended).alterEntry p f = (q.alterEntry p f).behind gone ended := by
  show { q with completed := (gone ++ q.completed).map (touch p f),
                active := (ended ++ q.active).map (touch p f) } = _
  rw [List.map_append, List.map_append, map_touch_of_not_mem h.split.1,
    map_touch_of_not_mem h.split.2]
  rfl

theorem settleFrom_behind (l : List Place) (q : Queue)
    (h : ∀ p ∈ l, Apart gone ended p.task) :
    settleFrom l (q.behind gone ended) = (settleFrom l q).behind gone ended := by
  induction l generalizing q with
  | nil => rfl
  | cons p rest ih =>
    obtain ⟨first, others⟩ := List.forall_mem_cons.1 h
    have same : (q.behind gone ended).isSettledFence p = q.isSettledFence p := by
      rw [isSettledFence, isSettledFence, task?_behind first]
    rw [settleFrom, settleFrom, same]
    split
    · rw [alterEntry_behind first, ih _ others]
    · rfl

theorem Framed.takeFinished_eq (h : q.Framed) : q.takeFinished =
    if (q.completed.dropWhile Task.isDrained).isEmpty then
      ((q.completed.takeWhile Task.isDrained ++ q.active.takeWhile Task.isDrained).map Task.ticket,
        { q with completed := [], active := q.active.dropWhile Task.isDrained })
    else
      ((q.completed.takeWhile Task.isDrained).map Task.ticket,
        { q with completed := q.completed.dropWhile Task.isDrained }) := by
  have kept : withdraw ((q.active.takeWhile Task.isDrained).map Task.number) q = q :=
    h.withdraw_eq List.takeWhile_append_dropWhile fun t ht => List.mem_takeWhile_imp ht
  simp only [takeFinished, List.span_eq_takeWhile_dropWhile]
  cases q.completed.dropWhile Task.isDrained with
  | nil => simp only [List.isEmpty_nil, ↓reduceIte, withdraw_completed, kept]
  | cons t ts => rfl

/-- Those in front leave first, and for the rest it makes no difference that they were there. -/
theorem takeFinished_behind (hf : (q.behind gone ended).Framed)
    (hd : ∀ t ∈ gone ++ ended, t.isDrained = true) (ho : q.completed = [] ∨ ended = []) :
    (q.behind gone ended).takeFinished =
      ((gone ++ ended).map Task.ticket ++ q.takeFinished.1, q.takeFinished.2) := by
  have hgone : ∀ t ∈ gone, t.isDrained = true := fun t ht => hd t (List.mem_append_left _ ht)
  have hended : ∀ t ∈ ended, t.isDrained = true := fun t ht => hd t (List.mem_append_right _ ht)
  have front : gone ++ q.completed = (q.behind gone ended).completed := rfl
  have back : ended ++ q.active = (q.behind gone ended).active := rfl
  have framed : q.Framed := hf.leave front back ho hended
  rw [hf.takeFinished_eq, framed.takeFinished_eq, behind]
  simp only [List.takeWhile_append_of_pos hgone, List.dropWhile_append_of_pos hgone,
    List.takeWhile_append_of_pos hended, List.dropWhile_append_of_pos hended]
  rcases ho with none | rfl
  · simp [none]
  · split <;> simp

end Behind

section Completions

/-- What the fences and the front come to after marks. -/
def collect (q : Queue) : List Ticket × Queue := q.settleFences.takeFinished

theorem activeAt_iff : q.ActiveAt p ↔ ∃ t e, q.task? p.task = some t ∧
    t.entries[p.index]? = some e ∧ e.isActive = true := by
  simp only [ActiveAt, entryAt?, Option.bind_eq_some_iff]
  constructor
  · rintro ⟨e, ⟨t, ht, he⟩, ha⟩
    exact ⟨t, e, ht, he, ha⟩
  · rintro ⟨t, e, ht, he, ha⟩
    exact ⟨e, ⟨t, ht, he⟩, ha⟩

theorem complete_of_activeAt {h : Handle} (ha : q.ActiveAt h.place) :
    q.complete h = .ok (collect (q.alterEntry h.place Entry.complete)) := by
  obtain ⟨t, e, ht, he, active⟩ := activeAt_iff.1 ha
  exact complete_eq_ok_iff.2 ⟨t, e, ht, he, active, rfl⟩

theorem Framed.mark_one (h : q.Framed) (ha : q.ActiveAt p) :
    (q.alterEntry p Entry.complete).Framed := by
  obtain ⟨t, e, ht, he, active⟩ := activeAt_iff.1 ha
  exact h.takeBack ht he active

theorem activeAt_complete :
    (q.alterEntry p Entry.complete).ActiveAt a ↔ q.ActiveAt a ∧ p ≠ a := by
  by_cases hp : p = a
  · subst hp
    rw [ActiveAt, entryAt?_alterEntry_self]
    constructor
    · rintro ⟨e, he, active⟩
      obtain ⟨d, -, rfl⟩ := Option.map_eq_some_iff.1 he
      cases active
    · exact fun h => absurd rfl h.2
  · rw [ActiveAt, entryAt?_alterEntry_of_ne hp]
    exact ⟨fun h => ⟨h, hp⟩, And.left⟩

/-- Of what the hardware held it has brought these back, and nothing else. -/
theorem activeAt_mark (ps : List Place) (q : Queue) :
    (mark ps q).ActiveAt a ↔ q.ActiveAt a ∧ a ∉ ps := by
  induction ps generalizing q with
  | nil => simp [mark]
  | cons p rest ih =>
    have first : mark (p :: rest) q = mark rest (q.alterEntry p Entry.complete) := rfl
    rw [first, ih, activeAt_complete, List.mem_cons, not_or, and_assoc, ne_comm]

/-- What waits to be handed out is pending. -/
theorem Framed.pending_of_ready (h : q.Framed) (hp : p ∈ q.ready) :
    ∃ e, q.entryAt? p = some e ∧ e.isPending = true := by
  obtain ⟨first, rest, hr⟩ := List.exists_cons_of_ne_nil (List.ne_nil_of_mem hp)
  obtain ⟨before, t, hb, -, hw, -⟩ := h.ready_cons hr
  obtain ⟨number, e, he, pending⟩ := Task.waiting_subset (by rw [hw, ← hr]; exact hp)
  have ha : t ∈ q.active := by simp [hb]
  refine ⟨e, ?_, pending⟩
  rw [entryAt?, h.numbered.task?_eq_some_iff.2 ⟨mem_flying_of_active ha, number.symm⟩]
  exact he

theorem not_active_of_pending {e : Entry} (h : e.isPending = true) : e.isActive = false := by
  simp only [Entry.isPending, decide_eq_true_eq] at h
  simp [Entry.isActive, h]

/-- Settling fences does not touch what the hardware holds. -/
theorem activeAt_settleFrom (l : List Place) (q : Queue) (h : Framed { q with ready := l }) :
    (settleFrom l q).ActiveAt a ↔ q.ActiveAt a := by
  induction l generalizing q with
  | nil => rfl
  | cons p rest ih =>
    rw [settleFrom]
    split
    · rename_i hs
      rw [ih (q.alterEntry p Entry.complete) (h.settle rfl hs), activeAt_complete,
        and_iff_left_iff_imp]
      rintro ⟨d, hd, active⟩ rfl
      obtain ⟨e, he, pending⟩ := h.pending_of_ready (p := p) List.mem_cons_self
      obtain rfl : e = d := Option.some.inj (he.symm.trans hd)
      rw [not_active_of_pending pending] at active
      cases active
    · rfl

/-- A descriptor that is not completed is not one of these tasks, which are drained. -/
theorem Framed.apart (h : q.Framed) {gone ended : List Task} {e : Entry}
    (hm : ∀ t ∈ gone ++ ended, t ∈ q.flying ∧ t.isDrained = true) (he : q.entryAt? p = some e)
    (hc : e.isCompleted = false) : Apart gone ended p.task := by
  intro hn
  obtain ⟨t, ht, number⟩ := List.mem_map.1 hn
  obtain ⟨hf, hd⟩ := hm t ht
  rw [entryAt?, h.numbered.task?_eq_some_iff.2 ⟨hf, number⟩] at he
  have completed := (Task.isDrained_iff t).1 hd e ((Task.mem_entries_iff t e).2 ⟨_, he⟩)
  rw [hc] at completed
  cases completed

/-- Those that leave stood in front of what is left. -/
theorem Framed.takeFinished_splits (h : q.Framed) : ∃ (gone ended : List Task) (r : Queue),
    q = r.behind gone ended ∧ q.takeFinished = ((gone ++ ended).map Task.ticket, r) ∧
      (r.completed = [] ∨ ended = []) ∧ ∀ t ∈ gone ++ ended, t ∈ q.flying ∧ t.isDrained = true := by
  obtain ⟨gone, done, ended, rest, hc, ha, ho, hd, -, -, heq⟩ := takeFinished_cases q
  have hended : ∀ t ∈ ended, t.isDrained = true := fun t ht => hd t (List.mem_append_right _ ht)
  rw [h.withdraw_eq ha hended] at heq
  refine ⟨gone, ended, _, ?_, heq, ho, fun t ht => ⟨?_, hd t ht⟩⟩
  · simp only [behind, hc, ha]
  · rw [flying, ← hc, ← ha]
    simp only [List.mem_append] at ht ⊢
    tauto

/-- Nor does taking off the front, where nothing is left with the hardware. -/
theorem Framed.activeAt_takeFinished (h : q.Framed) :
    q.takeFinished.2.ActiveAt a ↔ q.ActiveAt a := by
  obtain ⟨gone, ended, r, rfl, taken, -, hd⟩ := h.takeFinished_splits
  rw [taken]
  constructor
  · intro active
    obtain ⟨t, e, ht, he, hactive⟩ := activeAt_iff.1 active
    have number : t.number = a.task := by simpa using List.find?_some ht
    have flying : t ∈ (r.behind gone ended).flying := by
      have kept := List.mem_of_find?_eq_some ht
      simp only [flying, behind, List.mem_append] at kept ⊢
      tauto
    exact activeAt_iff.2 ⟨t, e, h.numbered.task?_eq_some_iff.2 ⟨flying, number⟩, he, hactive⟩
  · rintro ⟨e, he, active⟩
    have here : Apart gone ended a.task := h.apart hd he
      (by simp_all [Entry.isActive, Entry.isCompleted])
    rw [entryAt?, task?_behind here] at he
    exact ⟨e, he, active⟩

theorem Framed.activeAt_collect (h : q.Framed) : q.collect.2.ActiveAt a ↔ q.ActiveAt a := by
  rw [collect, (settleFences_framed h).1.activeAt_takeFinished]
  exact activeAt_settleFrom q.ready q h

theorem completed_settleFences (hn : q.completed = []) : q.settleFences.completed = [] := by
  have numbers := completed_numbers_settleFrom q.ready q
  rw [hn] at numbers
  exact List.map_eq_nil_iff.1 numbers

/-- After a collection the next mark has the same effect as before it. -/
theorem Framed.collect_mark (h : q.Framed) (ha : q.ActiveAt p) :
    collect (q.alterEntry p Entry.complete) =
      (q.collect.1 ++ (collect (q.collect.2.alterEntry p Entry.complete)).1,
        (collect (q.collect.2.alterEntry p Entry.complete)).2) := by
  have settled := (settleFences_framed h).1
  have active := (activeAt_settleFrom q.ready q h).2 ha
  have absorbed : settleFences (q.settleFences.alterEntry p Entry.complete) =
      settleFences (q.alterEntry p Entry.complete) := settleFences_alterEntry q.ready q
  have marked := (settleFences_framed (settled.mark_one active)).1
  obtain ⟨gone, ended, r, split, taken, ho, hd⟩ := settled.takeFinished_splits
  have left : q.collect = ((gone ++ ended).map Task.ticket, r) := taken
  have waiting : ∀ a ∈ q.settleFences.ready, Apart gone ended a.task := by
    intro a hw
    obtain ⟨e, he, pending⟩ := settled.pending_of_ready hw
    exact settled.apart hd he (by simp_all [Entry.isPending, Entry.isCompleted])
  have here : Apart gone ended p.task := by
    obtain ⟨e, he, hactive⟩ := active
    exact settled.apart hd he (by simp_all [Entry.isActive, Entry.isCompleted])
  -- the tasks that leave stay in front, whatever is marked and settled behind them
  have moved : settleFences (q.settleFences.alterEntry p Entry.complete) =
      (settleFences (r.alterEntry p Entry.complete)).behind gone ended := by
    rw [split] at waiting ⊢
    rw [alterEntry_behind here]
    exact settleFrom_behind r.ready _ waiting
  have still : (settleFences (r.alterEntry p Entry.complete)).completed = [] ∨ ended = [] := by
    rcases ho with hn | hn
    · exact .inl (completed_settleFences (by rw [completed_alterEntry, hn]; rfl))
    · exact .inr hn
  rw [moved] at marked
  rw [left, collect, ← absorbed, moved, takeFinished_behind marked (fun t ht => (hd t ht).2) still]
  rfl

theorem completeAll_concat (hs : List Handle) (k : Handle) (q : Queue) :
    completeAll (hs ++ [k]) q = (do
      let (finished, q) ← completeAll hs q
      let (more, q) ← q.complete k
      .ok (finished ++ more, q)) := by
  induction hs generalizing q with
  | nil =>
    simp only [List.nil_append, completeAll, bind, Except.bind]
    cases q.complete k <;> simp
  | cons h rest ih =>
    simp only [List.cons_append, completeAll, ih, bind, Except.bind]
    cases q.complete h with
    | error cause => rfl
    | ok out =>
      dsimp only
      cases completeAll rest out.2 with
      | error cause => rfl
      | ok next =>
        dsimp only
        cases next.2.complete k <;> simp

theorem Framed.mark (h : q.Framed) {ps : List Place} (hn : ps.Nodup)
    (ha : ∀ p ∈ ps, q.ActiveAt p) : (mark ps q).Framed := by
  induction ps generalizing q with
  | nil => exact h
  | cons p rest ih =>
    obtain ⟨new, others⟩ := List.nodup_cons.1 hn
    obtain ⟨first, later⟩ := List.forall_mem_cons.1 ha
    refine ih (h.mark_one first) others fun a hr => activeAt_complete.2 ⟨later a hr, ?_⟩
    rintro rfl
    exact new hr

/-- Completions one after another come to marking all of them first. -/
theorem Framed.completeAll_eq (h : q.Framed) {hs : List Handle} (hne : hs ≠ [])
    (hn : (hs.map Handle.place).Nodup) (ha : ∀ k ∈ hs, q.ActiveAt k.place) :
    completeAll hs q = .ok (collect (Queue.mark (hs.map Handle.place) q)) := by
  induction hs using List.reverseRecOn with
  | nil => exact absurd rfl hne
  | append_singleton hs k ih =>
    rw [List.map_append, List.map_singleton] at hn ⊢
    obtain ⟨nodup, -, apart⟩ := List.nodup_append.1 hn
    have before : ∀ p ∈ hs.map Handle.place, q.ActiveAt p := by
      intro p hp
      obtain ⟨j, hj, rfl⟩ := List.mem_map.1 hp
      exact ha j (List.mem_append_left _ hj)
    have framed := h.mark nodup before
    have active : (Queue.mark (hs.map Handle.place) q).ActiveAt k.place :=
      (activeAt_mark _ q).2 ⟨ha k (List.mem_append_right _ (List.mem_singleton_self k)),
        fun hk => apart _ hk _ (List.mem_singleton_self _) rfl⟩
    have last : Queue.mark (hs.map Handle.place ++ [k.place]) q =
        (Queue.mark (hs.map Handle.place) q).alterEntry k.place Entry.complete := by
      rw [Queue.mark, List.foldl_append]
      rfl
    rw [completeAll_concat, last]
    cases hs with
    | nil =>
      simp only [completeAll, bind, Except.bind]
      rw [show q.complete k = _ from complete_of_activeAt active]
      rfl
    | cons j rest =>
      have still := framed.activeAt_collect.2 active
      rw [ih (by simp) nodup fun i hi => ha i (List.mem_append_left _ hi),
        framed.collect_mark active]
      simp only [bind, Except.bind]
      rw [complete_of_activeAt still]

end Completions

end Queue

end TensorQueue
