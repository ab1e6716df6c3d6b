import TensorQueue.Proofs.Queue.Soundness
import Mathlib.Data.List.TakeWhile
import Mathlib.Data.List.TakeDrop

/-!
# The stages of an operation

Settling fences, activating tasks and handing out a descriptor keep a queue
framed and leave no settled fence in front. Taking the finished tasks off the
front then makes it sound.
-/

set_option autoImplicit false

namespace TensorQueue.Queue

theorem isSettledFence_congr {q r : Queue} (h : r.flying = q.flying) (p : Place) :
    r.isSettledFence p = q.isSettledFence p := by
  simp only [isSettledFence, task?, h]

section Settling

theorem Framed.settle {q : Queue} {p : Place} {rest : List Place} (h : q.Framed)
    (hr : q.ready = p :: rest) (hs : q.isSettledFence p = true) :
    Framed { q.alterEntry p Entry.complete with ready := rest } := by
  obtain ⟨before, t, hb, hn, -, e, he, hp⟩ := h.ready_cons hr
  have ha : t ∈ q.active := by simp [hb]
  have hf := mem_flying_of_active ha
  obtain ⟨hk, hc⟩ := (h.numbered.isSettledFence_iff hf hn).1 hs
  have hlocal : e.kind = .localFence := by simpa [he] using hk
  have hin : t ∈ q.active ++ q.pending := List.mem_append_left _ ha
  refine h.alter hf hn (h.waiting_alter_head hr fun _ => rfl).symm ?_ ?_ ?_ ?_
  · intro hspent
    exact Task.forall_mem_alterEntry hspent fun _ _ => rfl
  · exact Task.forall_mem_alterEntry (h.idle t (mem_held_of_flying hf)) fun _ _ _ => rfl
  · exact fun _ => Task.locals_ordered_complete he (h.ordered t hin) fun _ => hc
  · intro _
    refine Task.forall_mem_alterEntry (h.guarded t hin) fun d hd hg => ?_
    rw [he] at hd
    cases hd
    exact absurd (hlocal.symm.trans hg) (by decide)

theorem settleFrom_framed (l : List Place) (q : Queue) (h : Framed { q with ready := l }) :
    (settleFrom l q).Framed ∧ (settleFrom l q).Unsettled := by
  induction l generalizing q with
  | nil => exact ⟨h, by simp [Unsettled, settleFrom]⟩
  | cons p rest ih =>
    rw [settleFrom]
    split
    · exact ih _ (h.settle rfl (by assumption))
    · refine ⟨h, ?_⟩
      rintro r ⟨⟩
      exact Bool.eq_false_iff.2 (by assumption)

theorem settleFrom_pending (l : List Place) (q : Queue) (ts : List Task) :
    settleFrom l { q with pending := ts } = { settleFrom l q with pending := ts } := by
  induction l generalizing q with
  | nil => rfl
  | cons p rest ih =>
    have same : isSettledFence { q with pending := ts } p = q.isSettledFence p :=
      isSettledFence_congr rfl p
    by_cases hs : q.isSettledFence p = true
    · simp only [settleFrom, same, hs, ↓reduceIte]
      exact ih (q.alterEntry p Entry.complete)
    · simp only [settleFrom, same, hs]
      rfl

theorem settleFences_framed {q : Queue} (h : q.Framed) :
    q.settleFences.Framed ∧ q.settleFences.Unsettled :=
  settleFrom_framed q.ready q h

end Settling

section Promoting

theorem Framed.spent_of_ready_nil {q : Queue} (h : q.Framed) (hr : q.ready = []) :
    ∀ t ∈ q.flying, t.Spent := by
  intro t ht
  rcases List.mem_append.1 ht with hc | ha
  · exact h.spent t (List.mem_append_left _ hc)
  · obtain ⟨before, last, hb⟩ :=
      (List.eq_nil_or_concat' q.active).resolve_left (List.ne_nil_of_mem ha)
    have hw : last.waiting = [] := by
      have := h.ready_eq
      rw [hr] at this
      simpa [waiting, hb] using this.symm
    rw [hb] at ha
    rcases List.mem_append.1 ha with ha | ha
    · exact h.spent t (List.mem_append_right _ (by simpa [hb] using ha))
    · rw [List.mem_singleton.1 ha]
      exact (Task.waiting_eq_nil_iff last).1 hw

theorem Framed.activate {q : Queue} {t : Task} {rest : List Task} (h : q.Framed)
    (hp : q.pending = t :: rest) (hr : q.ready = []) :
    Framed { activate t q with pending := rest } := by
  have hheld : ({ Queue.activate t q with pending := rest } : Queue).held = q.held := by
    simp [held, flying, Queue.activate, hp]
  have hin : (q.active ++ [t]) ++ rest = q.active ++ q.pending := by simp [hp]
  constructor
  · exact h.numbered.of_map_eq rfl (by rw [hheld])
  · have hfresh := Task.waiting_of_fresh (h.fresh t (by simp [hp]))
    simp [waiting, Queue.activate, hr, hfresh]
  · change ∀ u ∈ q.completed ++ (q.active ++ [t]).dropLast, u.Spent
    rw [List.dropLast_concat]
    exact h.spent_of_ready_nil hr
  · exact fun u hu => h.fresh u (by rw [hp]; exact List.mem_cons_of_mem _ hu)
  · rw [hheld]
    exact h.idle
  · change ∀ u ∈ (q.active ++ [t]) ++ rest, u.LocalsOrdered
    rw [hin]
    exact h.ordered
  · change ∀ u ∈ (q.active ++ [t]) ++ rest, u.GlobalsWaiting
    rw [hin]
    exact h.guarded

theorem promoteFrom_framed (ts : List Task) (q : Queue) (h : Framed { q with pending := ts })
    (hu : q.Unsettled) :
    (promoteFrom ts q).2.Framed ∧ (promoteFrom ts q).2.Unsettled := by
  induction ts generalizing q with
  | nil => exact ⟨h, hu⟩
  | cons t rest ih =>
    rw [promoteFrom]
    split
    · rename_i hr
      have hready : q.ready = [] := by simpa using hr
      have framed := settleFences_framed (q := { activate t q with pending := rest })
        (h.activate rfl hready)
      have same : settleFences { activate t q with pending := rest } =
          { settleFences (activate t q) with pending := rest } := settleFrom_pending _ _ _
      rw [same] at framed
      exact ih _ framed.1 framed.2
    · exact ⟨h, hu⟩

theorem promote_framed {q : Queue} (h : q.Framed) (hu : q.Unsettled) :
    q.promote.2.Framed ∧ q.promote.2.Unsettled :=
  promoteFrom_framed q.pending q h hu

end Promoting

section Dispatching

variable {q : Queue}

theorem Framed.entryAt?_ready (h : q.Framed) {p : Place} {rest : List Place}
    (hr : q.ready = p :: rest) : ∃ t ∈ q.active, t.number = p.task ∧
      t.waiting = p :: rest ∧ ∃ e, t.entries[p.index]? = some e ∧ e.isPending = true ∧
        q.entryAt? p = some e := by
  obtain ⟨before, t, hb, hn, hw, e, he, hp⟩ := h.ready_cons hr
  have ha : t ∈ q.active := by simp [hb]
  refine ⟨t, ha, hn, hw, e, he, hp, ?_⟩
  rw [entryAt?, h.numbered.task?_eq_some_iff.2 ⟨mem_flying_of_active ha, hn⟩]
  exact he

theorem Framed.handOut (h : q.Framed) {p : Place} {rest : List Place} {e : Entry}
    (hr : q.ready = p :: rest) (he : q.entryAt? p = some e) (hk : e.kind.isFence = false) :
    Framed { q.alterEntry p Entry.activate with ready := rest } ∧
      Unsettled { q.alterEntry p Entry.activate with ready := rest } := by
  obtain ⟨t, ha, hn, hw, d, hd, hp, hq⟩ := h.entryAt?_ready hr
  have hde : d = e := by rw [he] at hq; exact (Option.some.inj hq).symm
  subst hde
  have hf := mem_flying_of_active ha
  have hin : t ∈ q.active ++ q.pending := List.mem_append_left _ ha
  have framed : Framed { q.alterEntry p Entry.activate with ready := rest } := by
    refine h.alter hf hn (h.waiting_alter_head hr fun _ => rfl).symm ?_ ?_ ?_ ?_
    · intro hspent
      exact Task.forall_mem_alterEntry hspent fun _ _ => rfl
    · refine Task.forall_mem_alterEntry (h.idle t (mem_held_of_flying hf)) fun d' hd' hfence => ?_
      rw [hd] at hd'
      cases hd'
      exact absurd hfence (by simpa [Entry.kind, Entry.activate] using hk)
    · exact fun _ => Task.locals_ordered_activate hd (h.ordered t hin) hp
    · intro _
      refine Task.forall_mem_alterEntry (h.guarded t hin) fun d' hd' hg => ?_
      rw [hd] at hd'
      cases hd'
      have hg' : d.kind = .globalFence := hg
      simp [hg', Descriptor.Kind.isFence] at hk
  refine ⟨framed, ?_⟩
  -- What was handed out just now is not completed, and it stands before all that is ready.
  intro r hrest
  have hmem : r ∈ rest := List.mem_of_mem_head? hrest
  have hlt := (Task.waiting_cons hw).2 r hmem
  have htask : r.task = t.number := by
    refine (Task.waiting_subset (t := t) (p := r) ?_).1
    rw [hw]
    exact List.mem_cons_of_mem _ hmem
  have hf' : t.alterEntry p.index Entry.activate ∈
      ({ q.alterEntry p Entry.activate with ready := rest } : Queue).flying := by
    change _ ∈ (q.alterEntry p Entry.activate).flying
    rw [flying_alterEntry]
    exact List.mem_map.2 ⟨t, hf, touch_of_eq hn⟩
  apply Bool.eq_false_iff.2
  intro settled
  obtain ⟨-, hbefore⟩ := (framed.numbered.isSettledFence_iff hf' htask.symm).1 settled
  have := (Task.completedBefore_iff _ _).1 hbefore p.index hlt d.activate
    (by rw [Task.getElem?_alterEntry, if_pos rfl, hd]; rfl)
  simp [Entry.isCompleted, Entry.activate] at this

theorem dispatch_framed (h : q.Framed) (hu : q.Unsettled) :
    q.dispatch.2.Framed ∧ q.dispatch.2.Unsettled := by
  unfold dispatch
  split
  · exact ⟨h, hu⟩
  · rename_i p rest hr
    split
    · exact ⟨h, hu⟩
    · rename_i e he
      split
      · exact ⟨h, hu⟩
      · exact h.handOut hr he (Bool.eq_false_iff.2 (by assumption))

end Dispatching

section Finishing

variable {q : Queue}

theorem withdraw_completed (numbers : List UInt64) (q : Queue) (ts : List Task) :
    withdraw numbers { q with completed := ts } = { withdraw numbers q with completed := ts } := by
  unfold withdraw
  split <;> rfl

/-- What is taken off the front: completed tasks first, and active ones only if no completed task
is left. -/
theorem takeFinished_cases (q : Queue) : ∃ gone done ended rest : List Task,
    gone ++ done = q.completed ∧ ended ++ rest = q.active ∧ (done = [] ∨ ended = []) ∧
      (∀ t ∈ gone ++ ended, t.isDrained = true) ∧
      (∀ t ∈ done.head?, t.isDrained = false) ∧
      (done = [] → ∀ t ∈ rest.head?, t.isDrained = false) ∧
      q.takeFinished = ((gone ++ ended).map Task.ticket,
        { withdraw (ended.map Task.number) q with completed := done, active := rest }) := by
  have drained : ∀ l : List Task, ∀ t ∈ l.takeWhile Task.isDrained, t.isDrained = true :=
    fun l t ht => List.mem_takeWhile_imp ht
  have front : ∀ l : List Task, ∀ t ∈ (l.dropWhile Task.isDrained).head?, t.isDrained = false := by
    intro l t ht
    have := List.head?_dropWhile_not Task.isDrained l
    rw [Option.mem_def.1 ht] at this
    simpa using this
  cases hc : q.completed.dropWhile Task.isDrained with
  | nil =>
    refine ⟨q.completed.takeWhile Task.isDrained, [], q.active.takeWhile Task.isDrained,
      q.active.dropWhile Task.isDrained, ?_, List.takeWhile_append_dropWhile, .inl rfl, ?_, by simp,
      fun _ => front _, ?_⟩
    · rw [← hc, List.takeWhile_append_dropWhile]
    · intro t ht
      rcases List.mem_append.1 ht with ht | ht <;> exact drained _ t ht
    · simp only [takeFinished, List.span_eq_takeWhile_dropWhile, hc, List.isEmpty_nil, ↓reduceIte]
      rw [withdraw_completed]
  | cons t ts =>
    refine ⟨q.completed.takeWhile Task.isDrained, t :: ts, [], q.active, ?_, rfl, .inr rfl, ?_, ?_,
      by simp, ?_⟩
    · rw [← hc, List.takeWhile_append_dropWhile]
    · simpa using drained q.completed
    · rw [← hc]
      exact front _
    · simp [takeFinished, List.span_eq_takeWhile_dropWhile, hc, withdraw]

theorem Framed.not_ended (h : q.Framed) {ended rest : List Task} (ha : ended ++ rest = q.active)
    (hd : ∀ t ∈ ended, t.isDrained = true) {p : Place} (hp : p ∈ q.ready) :
    p.task ∉ ended.map Task.number := by
  intro hmem
  obtain ⟨u, hu, hun⟩ := List.mem_map.1 hmem
  obtain ⟨first, others, hr⟩ := List.exists_cons_of_ne_nil (List.ne_nil_of_mem hp)
  obtain ⟨before, t, hb, -, hw, -⟩ := h.ready_cons hr
  have hpt : p.task = t.number := (Task.waiting_subset (by rw [hw, ← hr]; exact hp)).1
  have hua : u ∈ q.active := by rw [← ha]; exact List.mem_append_left _ hu
  have hut : u = t := h.numbered.eq_of_number (mem_held_of_active hua)
    (mem_held_of_active (by simp [hb])) (hun.trans hpt)
  have := (Task.waiting_eq_nil_iff t).2 (Task.spent_of_isDrained (hut ▸ hd u hu))
  simp [hw] at this

theorem Framed.withdraw_eq (h : q.Framed) {ended rest : List Task} (ha : ended ++ rest = q.active)
    (hd : ∀ t ∈ ended, t.isDrained = true) : withdraw (ended.map Task.number) q = q := by
  unfold withdraw
  split
  · rfl
  · have : q.ready.filter (fun p => !(ended.map Task.number).contains p.task) = q.ready := by
      apply List.filter_eq_self.2
      intro p hp
      simpa using h.not_ended ha hd hp
    rw [this]

/-- Tasks may leave from the front once they are drained. -/
theorem Framed.leave (h : q.Framed) {gone done ended rest : List Task}
    (hc : gone ++ done = q.completed) (ha : ended ++ rest = q.active)
    (hf : done = [] ∨ ended = []) (hd : ∀ t ∈ ended, t.isDrained = true) :
    Framed { q with completed := done, active := rest } := by
  have hheld : (gone ++ ended) ++ ({ q with completed := done, active := rest } : Queue).held =
      q.held := by
    simp only [held, flying, ← hc, ← ha]
    rcases hf with rfl | rfl <;> simp
  have hin : ∀ t ∈ rest ++ q.pending, t ∈ q.active ++ q.pending := by
    intro t ht
    rw [← ha, List.append_assoc]
    exact List.mem_append_right _ ht
  constructor
  · exact h.numbered.of_suffix rfl hheld
  · rw [h.ready_eq]
    change (q.active.getLast?.map Task.waiting).getD [] = (rest.getLast?.map Task.waiting).getD []
    rcases List.eq_nil_or_concat' rest with rfl | ⟨before, t, rfl⟩
    · rw [List.append_nil] at ha
      cases hl : q.active.getLast? with
      | none => rfl
      | some t =>
        have ht : t ∈ ended := by rw [ha]; exact List.mem_of_getLast? hl
        simpa using (Task.waiting_eq_nil_iff t).2 (Task.spent_of_isDrained (hd t ht))
    · rw [← ha, ← List.append_assoc, List.getLast?_concat, List.getLast?_concat]
  · intro t ht
    apply h.spent t
    rcases List.mem_append.1 ht with ht | ht
    · exact List.mem_append_left _ (by rw [← hc]; exact List.mem_append_right _ ht)
    · refine List.mem_append_right _ ?_
      have hne : rest ≠ [] := fun hnil => by simp [hnil] at ht
      rw [← ha, List.dropLast_append_of_ne_nil hne]
      exact List.mem_append_right _ ht
  · exact h.fresh
  · exact fun t ht => h.idle t (by rw [← hheld]; exact List.mem_append_right _ ht)
  · exact fun t ht => h.ordered t (hin t ht)
  · exact fun t ht => h.guarded t (hin t ht)

theorem Unsettled.of_framed {r : Queue} (hu : q.Unsettled) (h : q.Framed) (hr : r.Framed)
    (hp : ∀ p ∈ r.ready.head?, p ∈ q.ready.head?) (ha : ∀ t ∈ r.active, t ∈ q.active) :
    r.Unsettled := by
  intro p hhead
  obtain ⟨rest, hready⟩ := List.head?_eq_some_iff.1 hhead
  obtain ⟨before, t, hb, hn, -⟩ := hr.ready_cons hready
  have htr : t ∈ r.active := by simp [hb]
  have same := hu p (hp p hhead)
  apply Bool.eq_false_iff.2
  rw [Ne, hr.numbered.isSettledFence_iff (mem_flying_of_active htr) hn,
    ← h.numbered.isSettledFence_iff (mem_flying_of_active (ha t htr)) hn, same]
  simp

theorem takeFinished_sound (h : q.Framed) (hu : q.Unsettled) : q.takeFinished.2.Sound := by
  obtain ⟨gone, done, ended, rest, hc, ha, hf, hd, hdone, hrest, heq⟩ := takeFinished_cases q
  have hended : ∀ t ∈ ended, t.isDrained = true := fun t ht => hd t (List.mem_append_right _ ht)
  rw [heq, h.withdraw_eq ha hended]
  have framed := h.leave hc ha hf hended
  refine ⟨framed, hu.of_framed h framed (fun _ hp => hp) ?_, hdone, hrest⟩
  intro t ht
  rw [← ha]
  exact List.mem_append_right _ ht

end Finishing

end TensorQueue.Queue
