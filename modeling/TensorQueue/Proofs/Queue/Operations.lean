import TensorQueue.Proofs.Queue.Preservation

/-!
# Operations keep the queue sound

For each operation of the queue, what it comes to when it is accepted, and that
a sound queue stays sound. Numbers do not run out as long as the count of
submissions fits a word.
-/

set_option autoImplicit false

namespace TensorQueue

section NewTask

variable {n : UInt64} {ticket : Ticket} {ds : List Descriptor}

theorem Task.fresh_new : (Task.new n ticket ds).Fresh := by
  intro e he
  obtain ⟨d, -, rfl⟩ := List.mem_map.1 (List.mem_toArray.1 he)
  rfl

theorem Task.Fresh.fences_idle {t : Task} (h : t.Fresh) : t.FencesIdle := by
  intro e he _
  have := h e he
  simp_all [Entry.isPending, Entry.isActive]

theorem Task.Fresh.locals_ordered {t : Task} (h : t.Fresh) : t.LocalsOrdered := by
  intro i e he _ hc
  have := h e ((Task.mem_entries_iff t e).2 ⟨i, he⟩)
  simp_all [Entry.isPending, Entry.isCompleted]

theorem Task.Fresh.globals_waiting {t : Task} (h : t.Fresh) : t.GlobalsWaiting :=
  fun e he _ => h e he

end NewTask

section Completion

variable {t : Task}

theorem Task.getElem?_completePending (i : Nat) : t.completePending.entries[i]? =
    t.entries[i]?.map fun e => if e.isPending then e.complete else e := by
  simp [Task.completePending]

theorem Task.spent_completePending : t.completePending.Spent := by
  intro e he
  obtain ⟨i, hi⟩ := (Task.mem_entries_iff _ e).1 he
  rw [Task.getElem?_completePending] at hi
  obtain ⟨old, -, rfl⟩ := Option.map_eq_some_iff.1 hi
  split
  · rfl
  · exact Bool.eq_false_iff.2 (by assumption)

theorem Task.idle_completePending (h : t.FencesIdle) : t.completePending.FencesIdle := by
  intro e he hk
  obtain ⟨i, hi⟩ := (Task.mem_entries_iff _ e).1 he
  rw [Task.getElem?_completePending] at hi
  obtain ⟨old, ho, rfl⟩ := Option.map_eq_some_iff.1 hi
  by_cases hp : old.isPending = true
  · rw [if_pos hp]
    rfl
  · rw [if_neg hp] at hk ⊢
    exact h old ((Task.mem_entries_iff t old).2 ⟨i, ho⟩) hk

end Completion

namespace Queue

variable {q r : Queue}

theorem Unsettled.of_same (hu : q.Unsettled) (hready : r.ready = q.ready)
    (hflying : r.flying = q.flying) : r.Unsettled := by
  intro p hp
  rw [isSettledFence_congr hflying]
  exact hu p (hready ▸ hp)

theorem Sound.of_same (h : q.Sound) (hf : r.Framed) (hready : r.ready = q.ready)
    (hactive : r.active = q.active) (hcompleted : r.completed = q.completed) : r.Sound where
  toFramed := hf
  unsettled := h.unsettled.of_same hready (by rw [flying, flying, hactive, hcompleted])
  completed_front := by
    rw [hcompleted]
    exact h.completed_front
  active_front := by
    rw [hcompleted, hactive]
    exact h.active_front

theorem new_sound : Queue.new.Sound where
  numbered := ⟨.nil, by simp [held, flying, Queue.new]⟩
  ready_eq := rfl
  spent := by simp [Queue.new]
  fresh := by simp [Queue.new]
  idle := by simp [held, flying, Queue.new]
  ordered := by simp [Queue.new]
  guarded := by simp [Queue.new]
  unsettled := by simp [Unsettled, Queue.new]
  completed_front := by simp [Queue.new]
  active_front := by simp [Queue.new]

theorem openUp_eq_ok_iff : q.openUp = .ok r ↔ q.isOpen = false ∧ r = { q with isOpen := true } := by
  unfold openUp
  cases ho : q.isOpen with
  | true => simp
  | false => simpa using eq_comm

theorem shut_eq_ok_iff : q.shut = .ok r ↔ q.isOpen = true ∧ r = { q with isOpen := false } := by
  unfold shut
  cases ho : q.isOpen with
  | true => simpa using eq_comm
  | false => simp

theorem Framed.setOpen (h : q.Framed) (b : Bool) : Framed { q with isOpen := b } :=
  ⟨h.numbered.of_map_eq rfl rfl, h.ready_eq, h.spent, h.fresh, h.idle, h.ordered, h.guarded⟩

theorem Sound.setOpen (h : q.Sound) (b : Bool) : Sound { q with isOpen := b } :=
  h.of_same (h.toFramed.setOpen b) rfl rfl rfl

theorem openUp_sound (h : q.Sound) (ho : q.openUp = .ok r) : r.Sound := by
  rw [(openUp_eq_ok_iff.1 ho).2]
  exact h.setOpen true

theorem shut_sound (h : q.Sound) (hs : q.shut = .ok r) : r.Sound := by
  rw [(shut_eq_ok_iff.1 hs).2]
  exact h.setOpen false

theorem drain_sound : q.drain.2.Sound where
  numbered := ⟨.nil, by simp [held, flying, drain]⟩
  ready_eq := rfl
  spent := by simp [drain]
  fresh := by simp [drain]
  idle := by simp [held, flying, drain]
  ordered := by simp [drain]
  guarded := by simp [drain]
  unsettled := by simp [Unsettled, drain]
  completed_front := by simp [drain]
  active_front := by simp [drain]

section Submission

variable {ticket : Ticket} {ds : List Descriptor}

theorem submit_eq_ok_iff : q.submit ticket ds = .ok r ↔
    checkDescriptors ticket.id ds = .ok () ∧ q.isOpen = true ∧
      r = { q with nextTask := q.nextTask + 1
                   pending := q.pending ++ [Task.new q.nextTask ticket ds] } := by
  unfold submit
  cases hc : checkDescriptors ticket.id ds with
  | error cause => simp [bind, Except.bind]
  | ok u =>
    cases u
    by_cases ho : q.isOpen = true
    · simp [bind, Except.bind, ho, eq_comm]
    · simp [bind, Except.bind, ho]

theorem toNat_number_succ {n : UInt64} (hb : n.toNat + 1 < UInt64.size) :
    (n + 1).toNat = n.toNat + 1 := by
  rw [UInt64.toNat_add]
  exact Nat.mod_eq_of_lt hb

theorem Numbered.push (h : q.Numbered) (hb : q.nextTask.toNat + 1 < UInt64.size) :
    Numbered { q with nextTask := q.nextTask + 1
                      pending := q.pending ++ [Task.new q.nextTask ticket ds] } := by
  have hheld : ({ q with nextTask := q.nextTask + 1
                         pending := q.pending ++ [Task.new q.nextTask ticket ds] } : Queue).held =
      q.held ++ [Task.new q.nextTask ticket ds] := by
    simp [held, flying]
  constructor
  · rw [hheld, List.pairwise_append]
    refine ⟨h.ascending, List.pairwise_singleton _ _, fun t ht u hu => ?_⟩
    rw [List.mem_singleton.1 hu]
    exact h.below t ht
  · rw [hheld, toNat_number_succ hb]
    intro t ht
    rcases List.mem_append.1 ht with ht | ht
    · exact Nat.lt_succ_of_lt (h.below t ht)
    · rw [List.mem_singleton.1 ht]
      exact Nat.lt_succ_self _

/-- A number is given out and nobody gets it. -/
theorem Framed.skip (h : q.Framed) (hb : q.nextTask.toNat + 1 < UInt64.size) :
    Framed { q with nextTask := q.nextTask + 1 } := by
  refine ⟨⟨h.numbered.ascending, fun t ht => ?_⟩, h.ready_eq, h.spent, h.fresh, h.idle, h.ordered,
    h.guarded⟩
  rw [toNat_number_succ hb]
  exact Nat.lt_succ_of_lt (h.numbered.below t ht)

theorem Sound.skip (h : q.Sound) (hb : q.nextTask.toNat + 1 < UInt64.size) :
    Sound { q with nextTask := q.nextTask + 1 } :=
  h.of_same (h.toFramed.skip hb) rfl rfl rfl

theorem Framed.push (h : q.Framed) (hb : q.nextTask.toNat + 1 < UInt64.size) :
    Framed { q with nextTask := q.nextTask + 1
                    pending := q.pending ++ [Task.new q.nextTask ticket ds] } := by
  have fresh : (Task.new q.nextTask ticket ds).Fresh := Task.fresh_new
  refine ⟨h.numbered.push hb, h.ready_eq, h.spent, ?_, ?_, ?_, ?_⟩
  · intro t ht
    rcases List.mem_append.1 ht with ht | ht
    · exact h.fresh t ht
    · exact List.mem_singleton.1 ht ▸ fresh
  · intro t ht
    rw [held, ← List.append_assoc] at ht
    rcases List.mem_append.1 ht with ht | ht
    · exact h.idle t ht
    · exact List.mem_singleton.1 ht ▸ fresh.fences_idle
  · intro t ht
    rw [← List.append_assoc] at ht
    rcases List.mem_append.1 ht with ht | ht
    · exact h.ordered t ht
    · exact List.mem_singleton.1 ht ▸ fresh.locals_ordered
  · intro t ht
    rw [← List.append_assoc] at ht
    rcases List.mem_append.1 ht with ht | ht
    · exact h.guarded t ht
    · exact List.mem_singleton.1 ht ▸ fresh.globals_waiting

theorem submit_sound (h : q.Sound) (hb : q.nextTask.toNat + 1 < UInt64.size)
    (hs : q.submit ticket ds = .ok r) : r.Sound := by
  obtain ⟨-, -, rfl⟩ := submit_eq_ok_iff.1 hs
  exact h.of_same (h.toFramed.push hb) rfl rfl rfl

end Submission

theorem next_of_open (ho : q.isOpen = true) : q.next =
    ⟨q.promote.1, q.promote.2.dispatch.1, q.promote.2.dispatch.2.takeFinished.1,
      q.promote.2.dispatch.2.takeFinished.2⟩ := by
  simp [next, ho]

theorem next_of_shut (ho : q.isOpen = false) : q.next = ⟨[], none, [], q⟩ := by
  simp [next, ho]

theorem Framed.next_sound (h : q.Framed) (hu : q.Unsettled) (ho : q.isOpen = true) :
    q.next.queue.Sound := by
  rw [next_of_open ho]
  have promoted := promote_framed h hu
  have dispatched := dispatch_framed promoted.1 promoted.2
  exact takeFinished_sound dispatched.1 dispatched.2

theorem next_sound (h : q.Sound) : q.next.queue.Sound := by
  cases ho : q.isOpen with
  | false =>
    rw [next_of_shut ho]
    exact h
  | true => exact h.toFramed.next_sound h.unsettled ho

section Completing

variable {hd : Handle} {tickets : List Ticket}

theorem complete_eq_ok_iff : q.complete hd = .ok (tickets, r) ↔
    ∃ t e, q.task? hd.task = some t ∧ t.entries[hd.index]? = some e ∧ e.isActive = true ∧
      (tickets, r) =
        takeFinished (settleFences (q.alterEntry ⟨hd.task, hd.index⟩ Entry.complete)) := by
  unfold complete
  cases ht : q.task? hd.task with
  | none => simp
  | some t =>
    cases he : t.entries[hd.index]? with
    | none => simp [he]
    | some e =>
      by_cases ha : e.isActive = true
      · simpa [he, ha] using eq_comm
      · simp [he, ha]

theorem Framed.takeBack (h : q.Framed) {p : Place} {t : Task} {e : Entry}
    (ht : q.task? p.task = some t) (he : t.entries[p.index]? = some e) (ha : e.isActive = true) :
    Framed (q.alterEntry p Entry.complete) := by
  obtain ⟨hf, hn⟩ := h.numbered.task?_eq_some_iff.1 ht
  have hidle := h.idle t (mem_held_of_flying hf)
  have hpending : e.isPending = false := by
    simp_all [Entry.isActive, Entry.isPending]
  have hfence : e.kind.isFence = false := by
    apply Bool.eq_false_iff.2
    intro hk
    have := hidle e ((Task.mem_entries_iff t e).2 ⟨_, he⟩) hk
    simp [ha] at this
  have hready : q.ready = (q.alterEntry p Entry.complete).waiting := by
    rw [h.ready_eq, waiting, waiting, active_alterEntry, List.getLast?_map, Option.map_map]
    cases hl : q.active.getLast? with
    | none => rfl
    | some u =>
      simp only [Option.map_some, Option.getD_some, Function.comp_apply]
      by_cases hu : u.number = p.task
      · have hut : u = t := h.numbered.eq_of_number
          (mem_held_of_active (List.mem_of_getLast? hl)) (mem_held_of_flying hf) (hu.trans hn.symm)
        rw [touch_of_eq hu, hut, Task.waiting_alterEntry_of_not_pending he hpending rfl]
      · rw [touch, if_neg hu]
  refine h.alter hf hn hready ?_ ?_ ?_ ?_
  · exact fun hspent => Task.forall_mem_alterEntry hspent fun _ _ => rfl
  · exact Task.forall_mem_alterEntry hidle fun _ _ _ => rfl
  · intro hactive
    refine Task.locals_ordered_complete he (h.ordered t (List.mem_append_left _ hactive)) ?_
    intro hk
    simp [hk, Descriptor.Kind.isFence] at hfence
  · intro hactive
    refine Task.forall_mem_alterEntry (h.guarded t (List.mem_append_left _ hactive)) ?_
    intro d hd' hg
    rw [he] at hd'
    cases hd'
    have hg' : e.kind = .globalFence := hg
    simp [hg', Descriptor.Kind.isFence] at hfence

theorem Framed.complete_sound (h : q.Framed) (hc : q.complete hd = .ok (tickets, r)) :
    r.Sound := by
  obtain ⟨t, e, ht, he, ha, heq⟩ := complete_eq_ok_iff.1 hc
  have settled := settleFences_framed (h.takeBack (p := ⟨hd.task, hd.index⟩) ht he ha)
  have sound := takeFinished_sound settled.1 settled.2
  rw [← heq] at sound
  exact sound

theorem complete_sound (h : q.Sound) (hc : q.complete hd = .ok (tickets, r)) : r.Sound :=
  h.toFramed.complete_sound hc

end Completing

section FinishingRequest

variable {tickets : List Ticket}

/-- The oldest active task comes to rest among the completed ones. -/
def rest (t : Task) (others : List Task) (q : Queue) : Queue :=
  { q with ready := q.ready.filter fun p => p.task ≠ t.number
           active := others
           completed := q.completed ++ [t.completePending] }

theorem finishRequest_eq_ok_iff : q.finishRequest = .ok (tickets, r) ↔
    ∃ t others, q.active = t :: others ∧ t.hasPendingTransfers = false ∧
      (tickets, r) = takeFinished (rest t others q) := by
  unfold finishRequest
  cases ha : q.active with
  | nil => simp
  | cons t others =>
    cases hp : t.hasPendingTransfers with
    | true => simp [hp]
    | false =>
      simp only [hp, Bool.false_eq_true, ↓reduceIte, Except.ok.injEq]
      constructor
      · intro heq
        exact ⟨t, others, rfl, hp, heq.symm⟩
      · rintro ⟨u, us, hu, -, heq⟩
        cases hu
        exact heq.symm

theorem Framed.rest (h : q.Framed) {t : Task} {others : List Task} (ha : q.active = t :: others) :
    Framed (rest t others q) ∧
      ((rest t others q).ready = [] ∨ (rest t others q).ready = q.ready) := by
  have hin : ∀ u ∈ others ++ q.pending, u ∈ q.active ++ q.pending := by
    intro u hu
    rw [ha]
    exact List.mem_cons_of_mem _ hu
  have hnum : (Queue.rest t others q).held.map Task.number = q.held.map Task.number := by
    simp [held, flying, Queue.rest, ha, Task.completePending]
  have hready : (Queue.rest t others q).ready = (Queue.rest t others q).waiting ∧
      ((Queue.rest t others q).ready = [] ∨ (Queue.rest t others q).ready = q.ready) := by
    have hw : q.ready = ((t :: others).getLast?.map Task.waiting).getD [] := by
      rw [← ha]
      exact h.ready_eq
    rcases List.eq_nil_or_concat' others with rfl | ⟨before, last, rfl⟩
    · have hnil : (Queue.rest t [] q).ready = [] := by
        apply List.filter_eq_nil_iff.2
        intro p hp
        rw [hw] at hp
        simpa using (Task.waiting_subset hp).1
      exact ⟨hnil, .inl hnil⟩
    · rw [← List.cons_append, List.getLast?_concat, Option.map_some, Option.getD_some] at hw
      have hne : last.number ≠ t.number := by
        have hn := h.numbered.nodup
        simp only [held, flying, ha, List.map_append, List.map_cons] at hn
        have := (List.nodup_append.1 (List.nodup_append.1 hn).1).2.1
        have := (List.nodup_cons.1 this).1
        simp only [List.mem_append, List.map_nil, List.mem_singleton, not_or] at this
        exact fun he => this.2 he.symm
      have hsame : (Queue.rest t (before ++ [last]) q).ready = q.ready := by
        apply List.filter_eq_self.2
        intro p hp
        rw [hw] at hp
        have := (Task.waiting_subset hp).1
        simpa [this] using hne
      refine ⟨?_, .inr hsame⟩
      rw [hsame, hw, waiting, Queue.rest, List.getLast?_concat]
      rfl
  refine ⟨⟨h.numbered.of_map_eq rfl hnum, hready.1, ?_, h.fresh, ?_, ?_, ?_⟩, hready.2⟩
  · intro u hu
    change u ∈ (q.completed ++ [t.completePending]) ++ others.dropLast at hu
    rcases List.mem_append.1 hu with hu | hu
    · rcases List.mem_append.1 hu with hu | hu
      · exact h.spent u (List.mem_append_left _ hu)
      · exact List.mem_singleton.1 hu ▸ Task.spent_completePending
    · have hne : others ≠ [] := fun hnil => by simp [hnil] at hu
      refine h.spent u (List.mem_append_right _ ?_)
      rw [ha, List.dropLast_cons_of_ne_nil hne]
      exact List.mem_cons_of_mem _ hu
  · intro u hu
    have hu' : u ∈ ((q.completed ++ [t.completePending]) ++ others) ++ q.pending := hu
    simp only [List.mem_append, List.mem_singleton] at hu'
    rcases hu' with ((hu' | rfl) | hu') | hu'
    · exact h.idle u (mem_held_of_flying (List.mem_append_left _ hu'))
    · exact Task.idle_completePending (h.idle t (mem_held_of_active (by simp [ha])))
    · exact h.idle u (mem_held_of_active (by simp [ha, hu']))
    · exact h.idle u (List.mem_append_right _ hu')
  · exact fun u hu => h.ordered u (hin u hu)
  · exact fun u hu => h.guarded u (hin u hu)

theorem Framed.finishRequest_sound (h : q.Framed) (hu : q.Unsettled)
    (hf : q.finishRequest = .ok (tickets, r)) : r.Sound := by
  obtain ⟨t, others, ha, -, heq⟩ := finishRequest_eq_ok_iff.1 hf
  obtain ⟨framed, hready⟩ := h.rest ha
  have unsettled : (Queue.rest t others q).Unsettled := by
    refine hu.of_framed h framed ?_ ?_
    · intro p hp
      rcases hready with hr | hr
      · simp [hr] at hp
      · rwa [hr] at hp
    · intro u hu
      rw [ha]
      exact List.mem_cons_of_mem _ hu
  have sound := takeFinished_sound framed unsettled
  rw [← heq] at sound
  exact sound

theorem finishRequest_sound (h : q.Sound) (hf : q.finishRequest = .ok (tickets, r)) :
    r.Sound :=
  h.toFramed.finishRequest_sound h.unsettled hf

end FinishingRequest

section Entrance

/-- What a submission meets: whether the queue is open, and the number of the next task. -/
def entrance (q : Queue) : Bool × UInt64 := (q.isOpen, q.nextTask)

@[simp] theorem entrance_settleFrom (l : List Place) (q : Queue) :
    (settleFrom l q).entrance = q.entrance := by
  induction l generalizing q with
  | nil => rfl
  | cons p rest ih =>
    rw [settleFrom]
    split
    · exact ih _
    · rfl

@[simp] theorem entrance_promoteFrom (ts : List Task) (q : Queue) :
    (promoteFrom ts q).2.entrance = q.entrance := by
  induction ts generalizing q with
  | nil => rfl
  | cons t rest ih =>
    rw [promoteFrom]
    split
    · exact (ih _).trans (entrance_settleFrom _ _)
    · rfl

@[simp] theorem entrance_dispatch (q : Queue) : q.dispatch.2.entrance = q.entrance := by
  unfold dispatch
  repeat' split
  all_goals rfl

@[simp] theorem entrance_takeFinished (q : Queue) : q.takeFinished.2.entrance = q.entrance := by
  obtain ⟨gone, done, ended, rest, -, -, -, -, -, -, heq⟩ := takeFinished_cases q
  rw [heq]
  unfold withdraw
  split <;> rfl

theorem entrance_next (q : Queue) : q.next.queue.entrance = q.entrance := by
  cases ho : q.isOpen with
  | false => rw [next_of_shut ho]
  | true => simp [next_of_open ho, promote]

theorem entrance_of_complete {h : Handle} {ts : List Ticket} (hc : q.complete h = .ok (ts, r)) :
    r.entrance = q.entrance := by
  obtain ⟨t, e, -, -, -, heq⟩ := complete_eq_ok_iff.1 hc
  have hr := congrArg (fun out => out.2.entrance) heq
  simp only [entrance_takeFinished] at hr
  exact hr.trans (entrance_settleFrom _ _)

theorem entrance_of_finishRequest {ts : List Ticket} (hf : q.finishRequest = .ok (ts, r)) :
    r.entrance = q.entrance := by
  obtain ⟨t, others, -, -, heq⟩ := finishRequest_eq_ok_iff.1 hf
  have hr := congrArg (fun out => out.2.entrance) heq
  simp only [entrance_takeFinished] at hr
  exact hr

theorem nextTask_promote (q : Queue) : q.promote.2.nextTask = q.nextTask :=
  congrArg Prod.snd (entrance_promoteFrom q.pending q)

theorem nextTask_next (q : Queue) : q.next.queue.nextTask = q.nextTask :=
  congrArg Prod.snd (entrance_next q)

@[simp] theorem nextTask_drain (q : Queue) : q.drain.2.nextTask = q.nextTask := rfl

theorem nextTask_of_complete {h : Handle} {ts : List Ticket} (hc : q.complete h = .ok (ts, r)) :
    r.nextTask = q.nextTask :=
  congrArg Prod.snd (entrance_of_complete hc)

theorem nextTask_of_finishRequest {ts : List Ticket} (hf : q.finishRequest = .ok (ts, r)) :
    r.nextTask = q.nextTask :=
  congrArg Prod.snd (entrance_of_finishRequest hf)

theorem isOpen_next (q : Queue) : q.next.queue.isOpen = q.isOpen :=
  congrArg Prod.fst (entrance_next q)

theorem isOpen_of_complete {h : Handle} {ts : List Ticket} (hc : q.complete h = .ok (ts, r)) :
    r.isOpen = q.isOpen :=
  congrArg Prod.fst (entrance_of_complete hc)

end Entrance
end Queue

end TensorQueue
