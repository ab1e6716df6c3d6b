import TensorQueue.Proofs.Outcomes
import TensorQueue.Proofs.Queue.Order
import TensorQueue.Proofs.Queue.Stillness

/-!
# A queue that is worked on becomes empty

Between two descriptors the hardware has nothing. From such a queue, if no task
goes on behind a global fence, there is always a way on: a descriptor is handed
out and comes back, or the queue has come to a global fence and the report of a
finished task gets it past. Each of the two takes one off what there is to do,
and a queue with nothing left to do is empty.
-/

set_option autoImplicit false

namespace TensorQueue

open Descriptor Chronicle

namespace Task

/-- The kinds of the descriptors, in order. They never change. -/
def kinds (t : Task) : List Kind := t.entries.toList.map Entry.kind

/-- There is a global fence to be reported. -/
def isFenced (t : Task) : Bool := t.kinds.contains .globalFence

/-- Behind a global fence nothing goes to the hardware. -/
def Closed (t : Task) : Prop := t.kinds.Pairwise fun a b => a = .globalFence → b.isFence = true

instance (t : Task) : Decidable t.Closed :=
  inferInstanceAs (Decidable (t.kinds.Pairwise fun a b => a = .globalFence → b.isFence = true))

/-- The hardware can be done with the task: every interrupt line exists, and a global fence is the
end. -/
structure Proper (t : Task) : Prop where
  valid : ∀ k ∈ t.kinds, k.isValid = true
  closed : t.Closed

variable {t : Task}

@[simp] theorem kinds_restored : t.restored.kinds = t.kinds := by
  simp [kinds, restored, Function.comp_def, Entry.kind, Entry.new]

theorem isFenced_restored : t.restored.isFenced = t.isFenced := by
  rw [isFenced, kinds_restored, isFenced]

theorem proper_congr {u : Task} (h : t.kinds = u.kinds) (hu : u.Proper) : t.Proper :=
  ⟨h ▸ hu.valid, by rw [Closed, h]; exact hu.closed⟩

theorem getElem?_kinds (i : Nat) : t.kinds[i]? = t.entries[i]?.map Entry.kind := by
  simp [kinds]

theorem mem_kinds {e : Entry} {i : Nat} (h : t.entries[i]? = some e) : e.kind ∈ t.kinds :=
  List.mem_of_getElem? (by rw [getElem?_kinds, h, Option.map_some])

theorem isFenced_iff : t.isFenced = true ↔ ∃ e ∈ t.entries, e.kind = .globalFence := by
  simp [isFenced, kinds]

theorem Proper.behind (h : t.Proper) {i j : Nat} {e d : Entry} (hij : i < j)
    (he : t.entries[i]? = some e) (hd : t.entries[j]? = some d) (hk : e.kind = .globalFence) :
    d.kind.isFence = true := by
  have hi : t.kinds[i]? = some e.kind := by rw [getElem?_kinds, he, Option.map_some]
  have hj : t.kinds[j]? = some d.kind := by rw [getElem?_kinds, hd, Option.map_some]
  obtain ⟨bi, hi⟩ := List.getElem?_eq_some_iff.1 hi
  obtain ⟨bj, hj⟩ := List.getElem?_eq_some_iff.1 hj
  have := List.pairwise_iff_getElem.1 h.closed i j bi bj hij
  rw [hi, hj] at this
  exact this hk

/-- A drained task that kept its global fences waiting has none. -/
theorem not_fenced_of_drained (hg : t.GlobalsWaiting) (hd : t.isDrained = true) :
    t.isFenced = false := by
  rw [Bool.eq_false_iff, Ne, isFenced_iff]
  rintro ⟨e, he, hk⟩
  have := hg e he hk
  rw [spent_of_isDrained hd e he] at this
  cases this

theorem length_upcoming_le : t.upcoming.length ≤ t.entries.size := by
  have all : t.places.length = t.entries.size := by simp [places]
  rw [upcoming, ← all]
  exact (List.length_filterMap_le _ _).trans (List.length_filter_le _ _)

theorem transfer_of_mem_upcoming {k : Handle} (h : k ∈ t.upcoming) :
    ∃ i : Nat, ∃ e : Entry, t.entries[i]? = some e ∧ e.descriptor = k.descriptor := by
  obtain ⟨p, -, hp⟩ := List.mem_filterMap.1 h
  unfold transfer? at hp
  split at hp
  · cases hp
  · rename_i e he
    split at hp
    · cases hp
    · cases hp
      exact ⟨p.index, e, he, rfl⟩

theorem hasActive_outline_iff (h : t.FencesIdle) :
    t.outline.hasActive = false ↔ t.hasActive = false := by
  have same : ∀ e ∈ t.entries, e.outline.isActive = e.isActive := by
    intro e he
    cases hk : e.kind.isFence with
    | true =>
      rw [h e he hk, Entry.outline, if_pos hk]
      rfl
    | false => rw [Entry.outline_of_not_fence hk]
  simp only [hasActive_eq_false_iff, outline, Array.forall_mem_map]
  exact forall₂_congr fun e he => by rw [same e he]

theorem Fresh.hasActive (h : t.Fresh) : t.hasActive = false := by
  rw [hasActive_eq_false_iff]
  intro e he
  have := h e he
  simp_all [Entry.isPending, Entry.isActive]

theorem hasActive_there_and_back {p : Place} (h : t.hasActive = false) :
    (Queue.touch p Entry.complete (Queue.touch p Entry.activate t)).hasActive = false := by
  rw [hasActive_eq_false_iff] at h ⊢
  by_cases hn : t.number = p.task
  · rw [Queue.touch_of_eq hn, Queue.touch_of_eq (by exact hn)]
    intro e he
    obtain ⟨j, hj⟩ := (mem_entries_iff _ e).1 he
    rw [getElem?_alterEntry, getElem?_alterEntry] at hj
    split at hj
    · obtain ⟨d, -, rfl⟩ := Option.map_eq_some_iff.1 hj
      rfl
    · exact h e ((mem_entries_iff t e).2 ⟨j, hj⟩)
  · have same : Queue.touch p Entry.activate t = t := if_neg hn
    rw [same, Queue.touch, if_neg hn]
    exact h

end Task

namespace Queue

variable {q r m : Queue} {ts : List Ticket}

/-- How many of the tasks held wait for a report because of a global fence. -/
def fenced (q : Queue) : Nat := q.held.countP Task.isFenced

theorem fenced_eq_restored (q : Queue) :
    q.fenced = (q.held.map Task.restored).countP Task.isFenced := by
  rw [fenced, List.countP_map]
  exact List.countP_congr fun t _ => by rw [Function.comp_apply, Task.isFenced_restored]

/-- No task rests, and no task has left that waits for a report. -/
structure Succeeds (q r : Queue) : Prop where
  completed : r.completed = []
  fenced : r.fenced = q.fenced
  proper : (∀ t ∈ q.held, t.Proper) → ∀ t ∈ r.held, t.Proper

/-- Drained tasks that leave from the active ones have no global fence. -/
theorem Leaves.succeeds (h : m.Leaves ts r) (hm : m.Framed)
    (hheld : m.held.map Task.restored = q.held.map Task.restored)
    (hn : m.completed.map Task.number = q.completed.map Task.number) (hc : q.completed = []) :
    q.Succeeds r := by
  obtain ⟨gone, left, -, drained, stays, -⟩ := h
  have hc' : m.completed = [] := by
    rw [← List.map_eq_nil_iff (f := Task.number), hn, hc, List.map_nil]
  have unfenced : gone.countP Task.isFenced = 0 := by
    rw [List.countP_eq_zero]
    intro t ht
    obtain ⟨done, hin⟩ := drained t ht
    rw [hc'] at hin
    have active := hin.resolve_left List.not_mem_nil
    rw [Task.not_fenced_of_drained (hm.guarded t (List.mem_append_left _ active)) done]
    exact Bool.false_ne_true
  constructor
  case completed =>
    exact List.eq_nil_iff_forall_not_mem.2 fun t ht => by simpa [hc'] using stays t ht
  case fenced =>
    rw [fenced_eq_restored q, ← hheld, ← fenced_eq_restored m, fenced, fenced, ← left,
      List.countP_append, unfenced, Nat.zero_add]
  case proper =>
    intro proper t ht
    have hmem : t.restored ∈ q.held.map Task.restored := by
      rw [← hheld, ← left, List.map_append]
      exact List.mem_append_right _ (List.mem_map_of_mem ht)
    obtain ⟨u, hu, hut⟩ := List.mem_map.1 hmem
    refine Task.proper_congr ?_ (proper u hu)
    rw [← Task.kinds_restored, ← hut, Task.kinds_restored]

theorem Leaves.outlines_subset (h : m.Leaves ts r) : ∀ t ∈ r.outlines, t ∈ m.outlines := by
  obtain ⟨gone, hheld, -⟩ := h
  intro t ht
  rw [outlines, ← hheld, List.map_append]
  exact List.mem_append_right _ ht

/-- What the hardware has shows in the outlines. -/
theorem Framed.still_iff (h : q.Framed) :
    q.hasActive = false ↔ ∀ t ∈ q.outlines, t.hasActive = false := by
  rw [hasActive_eq_false_iff, outlines, List.forall_mem_map]
  constructor
  · intro still t ht
    rw [Task.hasActive_outline_iff (h.idle t ht)]
    rcases List.mem_append.1 ht with ht | ht
    · exact still t ht
    · exact (h.fresh t ht).hasActive
  · intro still t ht
    have hm := mem_held_of_flying ht
    exact (Task.hasActive_outline_iff (h.idle t hm)).1 (still t hm)

/-- A queue from which everything can be worked off. -/
structure Workable (q : Queue) : Prop where
  sound : q.Sound
  isOpen : q.isOpen = true
  still : q.hasActive = false
  proper : ∀ t ∈ q.held, t.Proper

section Steps

variable (h : q.Workable)

include h

theorem Workable.completed_nil : q.completed = [] := h.sound.completed_nil_of_still h.still

theorem Workable.valid_of_upcoming {k : Handle} (hk : k ∈ q.upcoming) :
    k.descriptor.kind.isValid = true := by
  obtain ⟨t, ht, hkt⟩ := List.mem_flatMap.1 hk
  obtain ⟨i, e, he, hd⟩ := Task.transfer_of_mem_upcoming hkt
  rw [← hd]
  exact (h.proper t ht).valid _ (Task.mem_kinds he)

/-- What is handed out comes back at once: that is one transfer less. -/
theorem Workable.next_some {k : Handle} (hn : q.next.handle = some k) :
    ∃ ts r, q.next.queue.complete k = .ok (ts, r) ∧ r.Workable ∧
      q.upcoming = k :: r.upcoming ∧ r.fenced = q.fenced := by
  obtain ⟨-, m, framed, outlines, numbers, leaves⟩ := h.sound.next_handOut hn
  have sound := next_sound h.sound
  obtain ⟨t, ht, hnum, hentry, -⟩ := h.sound.next_active hn
  have found := sound.numbered.task?_eq_some_iff.2 ⟨mem_flying_of_active ht, hnum⟩
  obtain ⟨ts, r, hout⟩ : ∃ ts r, (ts, r) = takeFinished (settleFences
    (q.next.queue.alterEntry ⟨k.task, k.index⟩ Entry.complete)) := ⟨_, _, rfl⟩
  have hc : q.next.queue.complete k = .ok (ts, r) :=
    complete_eq_ok_iff.2 ⟨t, _, found, hentry, rfl, hout⟩
  obtain ⟨-, m', framed', outlines', numbers', leaves'⟩ := sound.complete_outlines hc
  have out := leaves.succeeds framed (restored_of_touch outlines fun _ => rfl) numbers
    h.completed_nil
  have back := leaves'.succeeds framed' (restored_of_touch outlines' fun _ => rfl) numbers'
    out.completed
  have after := complete_sound sound hc
  -- each task held was idle before, and one descriptor of one of them has gone and come back
  have still : r.hasActive = false := by
    rw [after.toFramed.still_iff]
    intro u hu
    have hu' := leaves'.outlines_subset u hu
    rw [outlines'] at hu'
    obtain ⟨v, hv, rfl⟩ := List.mem_map.1 hu'
    have hv' := leaves.outlines_subset v hv
    rw [outlines] at hv'
    obtain ⟨x, hx, rfl⟩ := List.mem_map.1 hv'
    exact Task.hasActive_there_and_back (h.sound.toFramed.still_iff.1 h.still x hx)
  refine ⟨ts, r, hc, ⟨after, ?_, still, back.proper (out.proper h.proper)⟩, ?_, ?_⟩
  · rw [isOpen_of_complete hc, isOpen_next, h.isOpen]
  · rw [h.sound.next_upcoming, hn, sound.complete_upcoming hc]
    rfl
  · rw [back.fenced, out.fenced]

/-- Where nothing can be handed out, nothing is left, or the queue has come to a global fence. -/
theorem Workable.next_none (hn : q.next.handle = none) :
    q.next.queue.Workable ∧ q.next.queue.upcoming = q.upcoming ∧
      q.next.queue.fenced = q.fenced ∧
      (q.next.queue.isEmpty = true ∨ q.next.queue.atGlobalFence = true) := by
  obtain ⟨m, framed, outlines, numbers, leaves⟩ := h.sound.next_idle hn
  have sound := next_sound h.sound
  have restored := (restored_outlines m).symm.trans
    ((congrArg _ outlines).trans (restored_outlines q))
  have idle := leaves.succeeds framed restored numbers h.completed_nil
  have still : q.next.queue.hasActive = false := by
    rw [sound.toFramed.still_iff]
    intro u hu
    have hu' := leaves.outlines_subset u hu
    rw [outlines] at hu'
    exact h.sound.toFramed.still_iff.1 h.still u hu'
  refine ⟨⟨sound, ?_, still, idle.proper h.proper⟩, ?_, idle.fenced, ?_⟩
  · rw [isOpen_next, h.isOpen]
  · rw [leaves.upcoming, upcoming_congr outlines]
  · rcases h.sound.next_none_cases h.isOpen hn with empty | active | fence
    · exact .inl empty
    · rw [still] at active
      cases active
    · exact .inr fence

/-- The report gets the queue past the global fence: that is one fenced task less. -/
theorem Workable.finish (hf : q.atGlobalFence = true) :
    ∃ ts r, q.finishRequest = .ok (ts, r) ∧ r.Workable ∧
      r.upcoming = q.upcoming ∧ r.fenced + 1 = q.fenced := by
  rcases h.sound.still_cases h.still with ⟨-, hready⟩ | ⟨t, p, rest, alone⟩
  · simp [atGlobalFence, hready] at hf
  · obtain ⟨e, he, hk⟩ := alone.atGlobalFence_iff.1 hf
    have held : q.held = t :: q.pending := by
      simp [Queue.held, flying, alone.completed, alone.active]
    have hmem : t ∈ q.held := by simp [held]
    have behind : ∀ j, p.index < j → ∀ d, t.entries[j]? = some d → d.kind.isFence = true :=
      fun j hj d hd => (h.proper t hmem).behind hj he hd hk
    have done := alone.finishRequest h.still
      (Task.no_pending_transfers alone.waiting he (by rw [hk]; rfl) behind)
    have after := finishRequest_sound h.sound done
    refine ⟨_, _, done, ⟨after, h.isOpen, ?_, ?_⟩, ?_, ?_⟩
    · simp [hasActive, flying, alone.completed]
    · intro u hu
      refine h.proper u ?_
      rw [held]
      exact List.mem_cons_of_mem _ (by simpa [Queue.held, flying, alone.completed] using hu)
    · exact h.sound.finishRequest_upcoming (t := t) (by simp [alone.active]) done
    · have fence : t.isFenced = true :=
        Task.isFenced_iff.2 ⟨e, (Task.mem_entries_iff t e).2 ⟨_, he⟩, hk⟩
      have left : ({ q with ready := [], active := [] } : Queue).held = q.pending := by
        simp [Queue.held, flying, alone.completed]
      rw [Queue.fenced, left, Queue.fenced, held, List.countP_cons_of_pos fence]

/-- Every transfer that is left and every report that is due are counted in the effort. -/
theorem Workable.work_le_effort : q.upcoming.length + q.fenced ≤ q.effort := by
  have bound : ∀ l : List Task, (l.flatMap Task.upcoming).length + l.countP Task.isFenced ≤
      l.foldr (fun t rest => t.entries.size + 1 + rest) 0 := by
    intro l
    induction l with
    | nil => exact Nat.le_refl 0
    | cons t rest ih =>
      have size := t.length_upcoming_le
      rw [List.flatMap_cons, List.length_append, List.countP_cons, List.foldr_cons]
      split <;> omega
  have order : (q.held.flatMap Task.upcoming).length + q.held.countP Task.isFenced =
      ((q.pending ++ q.active).flatMap Task.upcoming).length +
        (q.pending ++ q.active).countP Task.isFenced := by
    simp only [held, flying, h.completed_nil, List.nil_append, List.flatMap_append,
      List.length_append, List.countP_append]
    omega
  rw [upcoming, fenced, order]
  exact bound _

end Steps

theorem peek_of_atGlobalFence (h : q.atGlobalFence = true) : q.peek = some .globalFence := by
  cases hr : q.ready with
  | nil => simp [atGlobalFence, hr] at h
  | cons p rest => simpa [atGlobalFence, peek, hr] using h

theorem peek_of_isEmpty (h : q.isEmpty = true) : q.peek = none := by
  obtain ⟨held, ready⟩ := isEmpty_iff.1 h
  rw [peek, ready, (List.append_eq_nil_iff.1 held).2]

theorem upcoming_of_isEmpty (h : q.isEmpty = true) : q.upcoming = [] := by
  rw [upcoming, (isEmpty_iff.1 h).1, List.flatMap_nil]

theorem fenced_of_isEmpty (h : q.isEmpty = true) : q.fenced = 0 := by
  rw [fenced, (isEmpty_iff.1 h).1, List.countP_nil]

end Queue

namespace Chronicle

open History

theorem valid_of_checkDescriptors {id : UInt64} {ds : List Descriptor}
    (h : Queue.checkDescriptors id ds = .ok ()) : ∀ d ∈ ds, d.kind.isValid = true := by
  have checked : ∀ ds : List Descriptor, (ds.forM fun d => d.kind.check) = .ok () →
      ∀ d ∈ ds, d.kind.isValid = true := by
    intro ds
    induction ds with
    | nil => simp
    | cons d rest ih =>
      intro h
      change (d.kind.check >>= fun _ => rest.forM fun d => d.kind.check) = .ok () at h
      obtain ⟨u, hd, h⟩ := exists_of_except_bind h
      exact List.forall_mem_cons.2 ⟨Kind.check_eq_ok_iff.1 hd, ih h⟩
  unfold Queue.checkDescriptors at h
  split at h
  · cases h
  · exact checked ds h

variable {W : Type} [Watchdog W] {w : W} {ts : List Turn} {c : Chronicle W}

/-- No task names an interrupt line that does not exist, as it would not have been accepted. -/
theorem valid_of_run (h : run ts (begin w) = some c) (hb : Bounded c.passages) :
    ∀ t ∈ c.scheduler.queue.held, ∀ k ∈ t.kinds, k.isValid = true := by
  have known : ∀ t ∈ accepted c.passages, ∀ k ∈ t.kinds, k.isValid = true := by
    refine run_keeps (P := fun x => ∀ t ∈ accepted x.log, ∀ k ∈ t.kinds, k.isValid = true)
      (by simp [moment, begin, accepted]) ?_ h hb
    intro x y beat _ valid
    cases beat with
    | submit hs =>
      rw [accepted_concat]
      intro t ht
      rcases List.mem_append.1 ht with ht | ht
      · exact valid t ht
      · have checked := valid_of_checkDescriptors (Queue.submit_eq_ok_iff.1 hs).1
        obtain rfl := List.mem_singleton.1 ht
        simpa [Task.kinds, Task.new, Entry.kind, Entry.new] using checked
    | openUp _ => exact valid
    | shut _ => exact valid
    | idle _ => exact valid
    | _ =>
      rw [accepted_concat]
      simpa [Passage.task?] using valid
  intro t ht
  rw [← Task.kinds_restored]
  exact known _ ((run_ledger h hb).restored_mem ht)

end Chronicle

end TensorQueue
