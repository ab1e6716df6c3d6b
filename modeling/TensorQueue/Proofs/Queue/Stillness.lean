import TensorQueue.Proofs.Queue.Operations
import TensorQueue.Proofs.Queue.Outline

/-!
# A queue with nothing at the hardware

While no descriptor is with the hardware, a sound queue can wait for one thing
only. Either nothing is in flight, or one task is, and the first descriptor that
it still has to hand out is not a local fence. If looking for work then gives
nothing, the queue is empty or this descriptor is a global fence; and a report
that the task is done ends that task, and it alone.
-/

set_option autoImplicit false

namespace TensorQueue

section Tasks

variable {t : Task}

theorem Task.hasActive_eq_false_iff : t.hasActive = false ↔ ∀ e ∈ t.entries, e.isActive = false := by
  rw [hasActive, Array.any_eq_false']
  simp only [Bool.not_eq_true]

theorem Entry.isCompleted_of_not {e : Entry} (hp : e.isPending = false) (ha : e.isActive = false) :
    e.isCompleted = true := by
  obtain ⟨d, progress⟩ := e
  cases progress with
  | pending => cases hp
  | active => cases ha
  | completed => rfl

theorem Task.isDrained_of_spent (hs : t.Spent) (ha : t.hasActive = false) : t.isDrained = true := by
  rw [isDrained_iff]
  intro e he
  exact Entry.isCompleted_of_not (hs e he) (hasActive_eq_false_iff.1 ha e he)

theorem Task.isDrained_completePending (ha : t.hasActive = false) :
    t.completePending.isDrained = true := by
  rw [isDrained_iff]
  intro e he
  obtain ⟨i, hi⟩ := (mem_entries_iff _ e).1 he
  rw [getElem?_completePending] at hi
  obtain ⟨old, ho, rfl⟩ := Option.map_eq_some_iff.1 hi
  by_cases hp : old.isPending = true
  · rw [if_pos hp]
    rfl
  · rw [if_neg hp]
    exact Entry.isCompleted_of_not (Bool.eq_false_iff.2 hp)
      (hasActive_eq_false_iff.1 ha old ((mem_entries_iff t old).2 ⟨i, ho⟩))

/-- Behind the first fence that waits nothing but fences is left, so nothing is left for the
hardware. -/
theorem Task.no_pending_transfers {p : Place} {rest : List Place} {e : Entry}
    (hw : t.waiting = p :: rest) (he : t.entries[p.index]? = some e) (hk : e.kind.isFence = true)
    (hb : ∀ j, p.index < j → ∀ d, t.entries[j]? = some d → d.kind.isFence = true) :
    t.hasPendingTransfers = false := by
  rw [hasPendingTransfers, Array.any_eq_false']
  intro d hd
  obtain ⟨j, hj⟩ := (mem_entries_iff t d).1 hd
  rcases Nat.lt_trichotomy j p.index with hlt | rfl | hgt
  · simp [(waiting_cons hw).1 j hlt d hj]
  · rw [he] at hj
    cases hj
    simp [hk]
  · simp [hb j hgt d hj]

end Tasks

namespace Queue

variable {q : Queue}

/-- The next descriptor to be handed out is a global fence. -/
def atGlobalFence (q : Queue) : Bool :=
  (q.ready.head?.bind q.entryAt?).map Entry.kind = some .globalFence

theorem hasActive_eq_false_iff : q.hasActive = false ↔ ∀ t ∈ q.flying, t.hasActive = false := by
  simp [hasActive]

theorem isEmpty_iff : q.isEmpty = true ↔ q.held = [] ∧ q.ready = [] := by
  simp only [isEmpty, held, flying, Bool.and_eq_true, List.isEmpty_iff, List.append_eq_nil_iff]
  tauto

/-- One task is in flight, and this is the first place that it still has to hand out. -/
structure Alone (q : Queue) (t : Task) (p : Place) (rest : List Place) : Prop where
  completed : q.completed = []
  active : q.active = [t]
  ready : q.ready = p :: rest
  owner : t.number = p.task
  waiting : t.waiting = p :: rest

theorem Alone.entryAt? {t : Task} {p : Place} {rest : List Place} (h : q.Alone t p rest) :
    q.entryAt? p = t.entries[p.index]? := by
  simp [Queue.entryAt?, task?, flying, h.completed, h.active, h.owner]

theorem Alone.atGlobalFence_iff {t : Task} {p : Place} {rest : List Place}
    (h : q.Alone t p rest) : q.atGlobalFence = true ↔
      ∃ e, t.entries[p.index]? = some e ∧ e.kind = .globalFence := by
  simp [atGlobalFence, h.ready, h.entryAt?]

section Still

variable (h : q.Sound) (hi : q.hasActive = false)

include h hi

theorem Sound.completed_nil_of_still : q.completed = [] := by
  cases hc : q.completed with
  | nil => rfl
  | cons t others =>
    have hmem : t ∈ q.completed := by simp [hc]
    have drained : t.isDrained = true := Task.isDrained_of_spent
      (h.spent t (List.mem_append_left _ hmem))
      (hasActive_eq_false_iff.1 hi t (List.mem_append_left _ hmem))
    have := h.completed_front t (by simp [hc])
    rw [drained] at this
    cases this

/-- The task drained last is the only one in flight, and it has something left to hand out. -/
theorem Sound.still_cases : q.flying = [] ∧ q.ready = [] ∨ ∃ t p rest, q.Alone t p rest := by
  have hc := h.completed_nil_of_still hi
  cases ha : q.active with
  | nil =>
    left
    refine ⟨by simp [flying, hc, ha], ?_⟩
    rw [h.ready_eq]
    simp [waiting, ha]
  | cons t others =>
    have front : t.isDrained = false := h.active_front hc t (by simp [ha])
    have unspent : ¬t.Spent := fun hs => by
      have := Task.isDrained_of_spent hs
        (hasActive_eq_false_iff.1 hi t (mem_flying_of_active (by simp [ha])))
      rw [front] at this
      cases this
    -- every task in front of the one drained last is spent
    have alone : others = [] := by
      by_contra hne
      refine unspent (h.spent t (List.mem_append_right _ ?_))
      rw [ha, List.dropLast_cons_of_ne_nil hne]
      exact List.mem_cons_self
    have hw : q.ready = t.waiting := by
      rw [h.ready_eq]
      simp [waiting, ha, alone]
    obtain ⟨p, rest, hr⟩ := List.exists_cons_of_ne_nil fun hn =>
      unspent ((Task.waiting_eq_nil_iff t).1 hn)
    have hp : p.task = t.number := (Task.waiting_subset (t := t) (p := p) (by simp [hr])).1
    exact .inr ⟨t, p, rest, hc, by rw [ha, alone], hw.trans hr, hp.symm, hr⟩

/-- The descriptors in front of the first one that waits are completed, so a local fence in its
place would be settled. -/
theorem Sound.not_localFence {t : Task} {p : Place} {rest : List Place} {e : Entry}
    (ha : q.Alone t p rest) (he : t.entries[p.index]? = some e) : e.kind ≠ .localFence := by
  intro hk
  have hf : t ∈ q.flying := mem_flying_of_active (by simp [ha.active])
  have settled : q.isSettledFence p = true := by
    rw [h.numbered.isSettledFence_iff hf ha.owner]
    refine ⟨by simp [he, hk], (Task.completedBefore_iff t _).2 fun j hj d hd => ?_⟩
    exact Entry.isCompleted_of_not ((Task.waiting_cons ha.waiting).1 j hj d hd)
      (Task.hasActive_eq_false_iff.1 (hasActive_eq_false_iff.1 hi t hf) d
        ((Task.mem_entries_iff t d).2 ⟨j, hd⟩))
  have := h.unsettled p (by simp [ha.ready])
  rw [settled] at this
  cases this

omit h in
/-- A report that the task is done ends it, and it alone. -/
theorem Alone.finishRequest {t : Task} {p : Place} {rest : List Place} (ha : q.Alone t p rest)
    (hp : t.hasPendingTransfers = false) :
    q.finishRequest = .ok ([t.ticket], { q with ready := [], active := [] }) := by
  have drained : t.completePending.isDrained = true := Task.isDrained_completePending
    (hasActive_eq_false_iff.1 hi t (mem_flying_of_active (by simp [ha.active])))
  have withdrawn : q.ready.filter (fun r => r.task ≠ t.number) = [] := by
    apply List.filter_eq_nil_iff.2
    intro r hr
    rw [ha.ready, ← ha.waiting] at hr
    simpa using (Task.waiting_subset hr).1
  have gone : takeFinished (Queue.rest t [] q) =
      ([t.ticket], { q with ready := [], active := [] }) := by
    simp only [Queue.rest, withdrawn, ha.completed, List.nil_append]
    simp [takeFinished, List.span_eq_takeWhile_dropWhile, drained, withdraw]
    rfl
  exact finishRequest_eq_ok_iff.2 ⟨t, [], ha.active, hp, gone.symm⟩

end Still

section Looking

theorem promoteFrom_pending (ts : List Task) (q : Queue) (h : (promoteFrom ts q).2.ready = []) :
    (promoteFrom ts q).2.pending = [] := by
  induction ts generalizing q with
  | nil => rfl
  | cons t rest ih =>
    rw [promoteFrom] at h ⊢
    split at h
    · rename_i hr
      rw [if_pos hr]
      exact ih _ h
    · rename_i hr
      exact absurd (by simpa using h) hr

theorem Framed.takeFinished_kept (h : q.Framed) : q.takeFinished.2.ready = q.ready ∧
    q.takeFinished.2.pending = q.pending ∧ ∀ t ∈ q.takeFinished.2.flying, t ∈ q.flying := by
  obtain ⟨gone, done, ended, rest, hc, ha, -, hd, -, -, heq⟩ := takeFinished_cases q
  rw [heq, h.withdraw_eq ha fun t ht => hd t (List.mem_append_right _ ht)]
  refine ⟨rfl, rfl, fun t ht => ?_⟩
  rw [flying, ← hc, ← ha]
  rcases List.mem_append.1 ht with ht | ht
  · exact List.mem_append_left _ (List.mem_append_right _ ht)
  · exact List.mem_append_right _ (List.mem_append_right _ ht)

/-- If looking for work gives nothing, tasks are left to be activated only behind something that is
ready, and that begins with a fence. -/
theorem Sound.next_none (h : q.Sound) (ho : q.isOpen = true) (hn : q.next.handle = none) :
    (q.next.queue.ready = [] → q.next.queue.pending = []) ∧
      ∀ p ∈ q.next.queue.ready.head?, ∀ e ∈ q.next.queue.entryAt? p, e.kind.isFence = true := by
  have sound := next_sound h
  rw [next_of_open ho] at hn sound ⊢
  have promoted := (promote_framed h.toFramed h.unsettled).1
  rcases dispatch_cases q.promote.2 with hd | ⟨p, rest, e, -, -, -, hd⟩
  · rw [hd] at sound ⊢
    obtain ⟨ready, pending, kept⟩ := promoted.takeFinished_kept
    refine ⟨fun hr => ?_, fun p hp e he => ?_⟩
    · rw [pending]
      exact promoteFrom_pending _ _ (ready.symm.trans hr)
    · obtain ⟨rest, hr⟩ := List.head?_eq_some_iff.1 hp
      obtain ⟨t, ha, hnum, -, d, hentry, -, hd'⟩ := sound.toFramed.entryAt?_ready hr
      have hed : e = d := Option.some.inj (he.symm.trans hd')
      have hq : q.promote.2.entryAt? p = some e := by
        rw [entryAt?, promoted.numbered.task?_eq_some_iff.2
          ⟨kept t (mem_flying_of_active ha), hnum⟩, Option.bind_some, hentry, hed]
      by_contra hk
      have out : q.promote.2.dispatch.1 = none := hn
      simp [dispatch, ready.symm.trans hr, hq, hk] at out
  · rw [hd] at hn
    cases hn

/-- A queue from which nothing is handed out is empty, or a descriptor is with the hardware, or the
queue has come to a global fence. -/
theorem Sound.next_none_cases (h : q.Sound) (ho : q.isOpen = true) (hn : q.next.handle = none) :
    q.next.queue.isEmpty = true ∨ q.next.queue.hasActive = true ∨
      q.next.queue.atGlobalFence = true := by
  by_cases hi : q.next.queue.hasActive = true
  · exact .inr (.inl hi)
  · have still := Bool.eq_false_iff.2 hi
    have sound := next_sound h
    obtain ⟨exhausted, fenced⟩ := h.next_none ho hn
    rcases sound.still_cases still with ⟨hflying, hready⟩ | ⟨t, p, rest, ha⟩
    · exact .inl (isEmpty_iff.2 ⟨by rw [held, hflying, exhausted hready, List.nil_append], hready⟩)
    · obtain ⟨-, -, -, -, e, -, -, he⟩ := sound.toFramed.entryAt?_ready ha.ready
      have fence := fenced p (by simp [ha.ready]) e he
      have local_free := sound.not_localFence still ha (ha.entryAt?.symm.trans he)
      have global : e.kind = .globalFence := by
        cases hk : e.kind <;> simp_all [Descriptor.Kind.isFence]
      exact .inr (.inr (by simp [atGlobalFence, ha.ready, he, global]))

end Looking

end Queue

end TensorQueue
