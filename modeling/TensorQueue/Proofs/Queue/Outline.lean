import TensorQueue.Proofs.Queue.Operations

/-!
# Outlines

Of a fence the hardware side never hears, so an outline leaves out what became
of the fences. Settling fences, activating tasks and putting a finished task to
rest keep the outlines of all tasks held. Only handing a descriptor out and
taking it back change one, in one place, and tasks leave from the front only.
-/

set_option autoImplicit false

namespace TensorQueue

/-- The entry as the hardware side knows it: nothing ever happens to a fence. -/
def Entry.outline (e : Entry) : Entry := if e.kind.isFence then .new e.descriptor else e

def Task.outline (t : Task) : Task := { t with entries := t.entries.map Entry.outline }

section Tasks

variable {t : Task} {i : Nat} {f : Entry → Entry}

theorem Entry.outline_complete {e : Entry} (h : e.kind.isFence = true) :
    e.complete.outline = e.outline := by
  have hc : e.complete.kind.isFence = true := h
  rw [outline, outline, if_pos h, if_pos hc]
  rfl

theorem Entry.outline_of_not_fence {e : Entry} (h : e.kind.isFence = false) : e.outline = e := by
  simp [outline, h]

theorem Entry.outline_of_pending {e : Entry} (h : e.isPending = true) : e.outline = e := by
  obtain ⟨d, progress⟩ := e
  simp only [isPending, decide_eq_true_eq] at h
  subst h
  simp [outline, Entry.new]

@[simp] theorem Entry.descriptor_outline (e : Entry) : e.outline.descriptor = e.descriptor := by
  unfold outline
  split <;> rfl

@[simp] theorem Entry.kind_outline (e : Entry) : e.outline.kind = e.kind :=
  congrArg Descriptor.kind e.descriptor_outline

@[simp] theorem Task.number_outline : t.outline.number = t.number := rfl

@[simp] theorem Task.ticket_outline : t.outline.ticket = t.ticket := rfl

theorem Task.getElem?_outline (j : Nat) :
    t.outline.entries[j]? = t.entries[j]?.map Entry.outline := by
  simp [outline]

theorem Task.eq_of_entries {u : Task} (hn : t.number = u.number) (ht : t.ticket = u.ticket)
    (he : ∀ j : Nat, t.entries[j]? = u.entries[j]?) : t = u := by
  obtain ⟨n, k, es⟩ := t
  obtain ⟨m, l, fs⟩ := u
  have entries : es = fs := Array.ext_getElem? he
  simp only at hn ht
  rw [hn, ht, entries]

theorem Task.outline_alterEntry_same
    (h : ∀ e, t.entries[i]? = some e → (f e).outline = e.outline) :
    (t.alterEntry i f).outline = t.outline := by
  refine eq_of_entries rfl rfl fun j => ?_
  rw [getElem?_outline, getElem?_outline, getElem?_alterEntry]
  split
  · rename_i hij
    subst hij
    cases he : t.entries[i]? with
    | none => rfl
    | some e => simp [h e he]
  · rfl

theorem Task.outline_alterEntry
    (h : ∀ e, t.entries[i]? = some e → (f e).outline = f e.outline) :
    (t.alterEntry i f).outline = t.outline.alterEntry i f := by
  refine eq_of_entries rfl rfl fun j => ?_
  rw [getElem?_outline, getElem?_alterEntry, getElem?_alterEntry, getElem?_outline]
  split
  · rename_i hij
    subst hij
    cases he : t.entries[i]? with
    | none => rfl
    | some e => simp [h e he]
  · rfl

theorem Task.outline_completePending (h : t.hasPendingTransfers = false) :
    t.completePending.outline = t.outline := by
  refine eq_of_entries rfl rfl fun j => ?_
  rw [getElem?_outline, getElem?_outline, getElem?_completePending]
  cases he : t.entries[j]? with
  | none => rfl
  | some e =>
    have hmem := (mem_entries_iff t e).2 ⟨j, he⟩
    by_cases hp : e.isPending = true
    · have hfence : e.kind.isFence = true := by
        by_contra hk
        have := Array.any_eq_false'.1 h e hmem
        simp_all
      simp [hp, Entry.outline_complete hfence]
    · simp [hp]

theorem Task.Fresh.outline_eq_self (h : t.Fresh) : t.outline = t := by
  refine eq_of_entries rfl rfl fun j => ?_
  rw [getElem?_outline]
  cases he : t.entries[j]? with
  | none => rfl
  | some e => simp [Entry.outline_of_pending (h e ((mem_entries_iff t e).2 ⟨j, he⟩))]

end Tasks

namespace Queue

variable {q r : Queue} {p : Place} {f : Entry → Entry}

/-- What the hardware side knows of the tasks held. -/
def outlines (q : Queue) : List Task := q.held.map Task.outline

theorem number_outlines : q.outlines.map Task.number = q.held.map Task.number := by
  simp [outlines]

section Alter

theorem map_touch_of_not_mem {ts : List Task} (h : p.task ∉ ts.map Task.number) :
    ts.map (touch p f) = ts := by
  induction ts with
  | nil => rfl
  | cons t rest ih =>
    rw [List.map_cons, List.mem_cons, not_or] at h
    rw [List.map_cons, ih h.2, touch, if_neg fun heq => h.1 heq.symm]

theorem Numbered.held_alterEntry (h : q.Numbered) {t : Task} (ht : t ∈ q.flying)
    (hn : t.number = p.task) : (q.alterEntry p f).held = q.held.map (touch p f) := by
  have others : q.pending.map (touch p f) = q.pending := by
    have hnodup := h.nodup
    rw [held, List.map_append] at hnodup
    have apart := (List.nodup_append.1 hnodup).2.2
    apply map_touch_of_not_mem
    intro hmem
    exact apart _ (List.mem_map_of_mem ht) _ hmem hn
  rw [held, flying_alterEntry, held, List.map_append, others]
  rfl

theorem Numbered.held_alterEntry_split (h : q.Numbered) {t : Task} {front back : List Task}
    (hs : q.held = front ++ t :: back) (ht : t ∈ q.flying) (hn : t.number = p.task) :
    (q.alterEntry p f).held = front ++ t.alterEntry p.index f :: back := by
  have hnodup := h.nodup
  rw [hs, List.map_append, List.map_cons, hn] at hnodup
  obtain ⟨-, hback, hapart⟩ := List.nodup_append.1 hnodup
  have hfront : front.map (touch p f) = front :=
    map_touch_of_not_mem fun hmem => hapart _ hmem _ List.mem_cons_self rfl
  rw [h.held_alterEntry ht hn, hs, List.map_append, List.map_cons, hfront, touch_of_eq hn,
    map_touch_of_not_mem (List.nodup_cons.1 hback).1]

theorem Numbered.outlines_alterEntry_same (h : q.Numbered) {t : Task} (ht : t ∈ q.flying)
    (hn : t.number = p.task) (hf : ∀ e, t.entries[p.index]? = some e → (f e).outline = e.outline) :
    (q.alterEntry p f).outlines = q.outlines := by
  rw [outlines, h.held_alterEntry ht hn, List.map_map, outlines]
  apply List.map_congr_left
  intro u hu
  rw [Function.comp_apply, touch]
  split
  · rename_i hp
    cases h.eq_of_number hu (mem_held_of_flying ht) (hp.trans hn.symm)
    exact Task.outline_alterEntry_same hf
  · rfl

theorem Numbered.outlines_alterEntry (h : q.Numbered) {t : Task} (ht : t ∈ q.flying)
    (hn : t.number = p.task) (hf : ∀ e, t.entries[p.index]? = some e → (f e).outline = f e.outline) :
    (q.alterEntry p f).outlines = q.outlines.map (touch p f) := by
  rw [outlines, h.held_alterEntry ht hn, List.map_map, outlines, List.map_map]
  apply List.map_congr_left
  intro u hu
  rw [Function.comp_apply, Function.comp_apply, touch, touch, Task.number_outline]
  by_cases hp : u.number = p.task
  · rw [if_pos hp, if_pos hp]
    cases h.eq_of_number hu (mem_held_of_flying ht) (hp.trans hn.symm)
    exact Task.outline_alterEntry hf
  · rw [if_neg hp, if_neg hp]

end Alter

section Settling

theorem Framed.outlines_settle (h : q.Framed) {rest : List Place} (hr : q.ready = p :: rest)
    (hs : q.isSettledFence p = true) : (q.alterEntry p Entry.complete).outlines = q.outlines := by
  obtain ⟨before, t, hb, hn, -, e, he, -⟩ := h.ready_cons hr
  have hf : t ∈ q.flying := mem_flying_of_active (by simp [hb])
  have hk := ((h.numbered.isSettledFence_iff hf hn).1 hs).1
  apply h.numbered.outlines_alterEntry_same hf hn
  intro d hd
  rw [he] at hd hk
  cases hd
  apply Entry.outline_complete
  simp only [Option.map_some, Option.some.injEq] at hk
  rw [hk]
  rfl

theorem settleFrom_outlines (l : List Place) (q : Queue) (h : Framed { q with ready := l }) :
    (settleFrom l q).outlines = q.outlines := by
  induction l generalizing q with
  | nil => rfl
  | cons p rest ih =>
    rw [settleFrom]
    split
    · rename_i hs
      exact (ih (q.alterEntry p Entry.complete) (h.settle rfl hs)).trans (h.outlines_settle rfl hs)
    · rfl

theorem settleFences_outlines (h : q.Framed) : q.settleFences.outlines = q.outlines :=
  settleFrom_outlines q.ready q h

theorem promoteFrom_outlines (ts : List Task) (q : Queue) (h : Framed { q with pending := ts }) :
    (promoteFrom ts q).2.outlines = ({ q with pending := ts } : Queue).outlines := by
  induction ts generalizing q with
  | nil => rfl
  | cons t rest ih =>
    rw [promoteFrom]
    split
    · rename_i hr
      have activated : Framed { activate t q with pending := rest } :=
        h.activate rfl (by simpa using hr)
      have same : settleFences { activate t q with pending := rest } =
          { settleFences (activate t q) with pending := rest } := settleFrom_pending _ _ _
      have settled := (settleFences_framed activated).1
      rw [same] at settled
      have outlines := settleFences_outlines activated
      rw [same] at outlines
      refine (ih _ settled).trans (outlines.trans ?_)
      simp [Queue.outlines, held, flying, activate]
    · rfl

theorem promote_outlines (h : q.Framed) : q.promote.2.outlines = q.outlines :=
  promoteFrom_outlines q.pending q h

end Settling

section Numbers

@[simp] theorem completed_numbers_alterEntry :
    (q.alterEntry p f).completed.map Task.number = q.completed.map Task.number := by
  rw [completed_alterEntry, List.map_map]
  exact List.map_congr_left fun t _ => number_touch t

@[simp] theorem completed_numbers_settleFrom (l : List Place) (q : Queue) :
    (settleFrom l q).completed.map Task.number = q.completed.map Task.number := by
  induction l generalizing q with
  | nil => rfl
  | cons p rest ih =>
    rw [settleFrom]
    split
    · exact (ih _).trans completed_numbers_alterEntry
    · rfl

@[simp] theorem completed_numbers_promoteFrom (ts : List Task) (q : Queue) :
    (promoteFrom ts q).2.completed.map Task.number = q.completed.map Task.number := by
  induction ts generalizing q with
  | nil => rfl
  | cons t rest ih =>
    rw [promoteFrom]
    split
    · exact (ih _).trans (completed_numbers_settleFrom _ _)
    · rfl

end Numbers

section Leaving

/-- Drained tasks leave the first queue from the front, with these tickets, and the second one is
left. -/
def Leaves (q : Queue) (tickets : List Ticket) (r : Queue) : Prop :=
  ∃ gone : List Task, gone ++ r.held = q.held ∧ tickets = gone.map Task.ticket ∧
    (∀ t ∈ gone, t.isDrained = true ∧ (t ∈ q.completed ∨ t ∈ q.active)) ∧
    (∀ t ∈ r.completed, t ∈ q.completed) ∧
    ∀ t ∈ q.active ++ q.pending, t ∈ gone ∧ t ∈ q.active ∨ t ∈ r.active ++ r.pending

theorem leaves_refl (q : Queue) : q.Leaves [] q :=
  ⟨[], rfl, rfl, by simp, fun _ ht => ht, fun _ ht => .inr ht⟩

theorem takeFinished_leaves (q : Queue) : q.Leaves q.takeFinished.1 q.takeFinished.2 := by
  obtain ⟨gone, done, ended, rest, hc, ha, hf, hd, -, -, heq⟩ := takeFinished_cases q
  have pending : (withdraw (ended.map Task.number) q).pending = q.pending := by
    unfold withdraw
    split <;> rfl
  rw [heq]
  refine ⟨gone ++ ended, ?_, rfl, ?_, ?_, ?_⟩
  · simp only [held, flying, ← hc, ← ha, pending]
    rcases hf with rfl | rfl <;> simp
  · intro t ht
    refine ⟨hd t ht, ?_⟩
    rw [← hc, ← ha]
    rcases List.mem_append.1 ht with hg | he
    · exact .inl (List.mem_append_left _ hg)
    · exact .inr (List.mem_append_left _ he)
  · intro t ht
    rw [← hc]
    exact List.mem_append_right _ ht
  · simp only [← ha, pending, List.append_assoc]
    intro t ht
    rcases List.mem_append.1 ht with he | hr
    · exact .inl ⟨List.mem_append_right _ he, List.mem_append_left _ he⟩
    · exact .inr hr

end Leaving

section Dispatching

/-- Either nothing is handed out, or the first of what is ready is, which is not a fence. -/
theorem dispatch_cases (q : Queue) : q.dispatch = (none, q) ∨
    ∃ p rest e, q.ready = p :: rest ∧ q.entryAt? p = some e ∧ e.kind.isFence = false ∧
      q.dispatch = (some ⟨p.task, p.index, e.descriptor⟩,
        { q.alterEntry p Entry.activate with ready := rest }) := by
  unfold dispatch
  split
  · exact .inl rfl
  · rename_i p rest hr
    split
    · exact .inl rfl
    · rename_i e he
      split
      · exact .inl rfl
      · rename_i hk
        exact .inr ⟨p, rest, e, hr, he, Bool.eq_false_iff.2 hk, rfl⟩

/-- Where the hardware side finds a descriptor, and how far it has come. -/
def Stands (ts : List Task) (p : Place) (e : Entry) : Prop :=
  ∃ t ∈ ts, t.number = p.task ∧ t.entries[p.index]? = some e

theorem stands_outlines {t : Task} {e : Entry} (ht : t ∈ q.held) (hn : t.number = p.task)
    (he : t.entries[p.index]? = some e) (hk : e.kind.isFence = false) :
    Stands q.outlines p e := by
  refine ⟨t.outline, List.mem_map_of_mem ht, hn, ?_⟩
  rw [Task.getElem?_outline, he, Option.map_some, Entry.outline_of_not_fence hk]

/-- Looking for work that hands nothing out shows in no outline, but finished tasks may leave. -/
theorem Sound.next_idle (h : q.Sound) (hn : q.next.handle = none) : ∃ m : Queue, m.Framed ∧
    m.outlines = q.outlines ∧ m.completed.map Task.number = q.completed.map Task.number ∧
      m.Leaves q.next.finished q.next.queue := by
  cases ho : q.isOpen with
  | false =>
    rw [next_of_shut ho]
    exact ⟨q, h.toFramed, rfl, rfl, leaves_refl q⟩
  | true =>
    rw [next_of_open ho] at hn ⊢
    rcases dispatch_cases q.promote.2 with hd | ⟨p, rest, e, -, -, -, hd⟩
    · rw [hd]
      exact ⟨q.promote.2, (promote_framed h.toFramed h.unsettled).1, promote_outlines h.toFramed,
        completed_numbers_promoteFrom _ _, takeFinished_leaves _⟩
    · rw [hd] at hn
      cases hn

/-- A descriptor that is handed out was pending, and is active in the outline of its task then. -/
theorem Sound.next_handOut (h : q.Sound) {k : Handle} (hn : q.next.handle = some k) :
    (∃ e, Stands q.outlines ⟨k.task, k.index⟩ e ∧ e.isPending = true ∧
      e.kind.isFence = false ∧ e.descriptor = k.descriptor) ∧
    ∃ m : Queue, m.Framed ∧
      m.outlines = q.outlines.map (touch ⟨k.task, k.index⟩ Entry.activate) ∧
      m.completed.map Task.number = q.completed.map Task.number ∧
        m.Leaves q.next.finished q.next.queue := by
  cases ho : q.isOpen with
  | false =>
    rw [next_of_shut ho] at hn
    cases hn
  | true =>
    rw [next_of_open ho] at hn ⊢
    have promoted := promote_framed h.toFramed h.unsettled
    rcases dispatch_cases q.promote.2 with hd | ⟨p, rest, e, hr, he, hk, hd⟩
    · rw [hd] at hn
      cases hn
    · rw [hd] at hn ⊢
      cases hn
      obtain ⟨t, ha, hnum, -, d, hentry, hp, hq⟩ := promoted.1.entryAt?_ready hr
      rw [he] at hq
      cases hq
      have hf := mem_flying_of_active ha
      constructor
      · refine ⟨e, ?_, hp, hk, rfl⟩
        rw [← promote_outlines h.toFramed]
        exact stands_outlines (mem_held_of_flying hf) hnum hentry hk
      · refine ⟨_, (promoted.1.handOut hr he hk).1, ?_, ?_, takeFinished_leaves _⟩
        · rw [← promote_outlines h.toFramed]
          apply promoted.1.numbered.outlines_alterEntry hf hnum
          intro d hd'
          rw [hentry] at hd'
          cases hd'
          rw [Entry.outline_of_not_fence hk]
          exact Entry.outline_of_not_fence hk
        · exact completed_numbers_alterEntry.trans (completed_numbers_promoteFrom _ _)

end Dispatching

section Finishing

variable {ts : List Ticket}

theorem Sound.complete_outlines (h : q.Sound) {k : Handle} (hc : q.complete k = .ok (ts, r)) :
    (∃ e, Stands q.outlines ⟨k.task, k.index⟩ e ∧ e.isActive = true) ∧
    ∃ m : Queue, m.Framed ∧
      m.outlines = q.outlines.map (touch ⟨k.task, k.index⟩ Entry.complete) ∧
      m.completed.map Task.number = q.completed.map Task.number ∧ m.Leaves ts r := by
  obtain ⟨t, e, ht, he, ha, heq⟩ := complete_eq_ok_iff.1 hc
  obtain ⟨hf, hn⟩ := h.numbered.task?_eq_some_iff.1 ht
  have hk : e.kind.isFence = false := by
    apply Bool.eq_false_iff.2
    intro hfence
    have := h.idle t (mem_held_of_flying hf) e ((Task.mem_entries_iff t e).2 ⟨_, he⟩) hfence
    simp [ha] at this
  have back := h.takeBack (p := ⟨k.task, k.index⟩) ht he ha
  constructor
  · exact ⟨e, stands_outlines (mem_held_of_flying hf) hn he hk, ha⟩
  · refine ⟨_, (settleFences_framed back).1, ?_, ?_, ?_⟩
    · rw [settleFences_outlines back]
      apply h.numbered.outlines_alterEntry hf hn
      intro d hd
      rw [he] at hd
      cases hd
      rw [Entry.outline_of_not_fence hk]
      exact Entry.outline_of_not_fence hk
    · exact (completed_numbers_settleFrom _ _).trans completed_numbers_alterEntry
    · have leaves := takeFinished_leaves
        (settleFences (q.alterEntry ⟨k.task, k.index⟩ Entry.complete))
      rw [← heq] at leaves
      exact leaves

theorem Sound.finishRequest_outlines (h : q.Sound) {t : Task} (ht : q.active.head? = some t)
    (hf : q.finishRequest = .ok (ts, r)) : ∃ m : Queue, m.Framed ∧ m.outlines = q.outlines ∧
      m.completed.map Task.number = q.completed.map Task.number ++ [t.number] ∧ m.Leaves ts r := by
  obtain ⟨first, others, ha, hp, heq⟩ := finishRequest_eq_ok_iff.1 hf
  rw [ha] at ht
  cases ht
  refine ⟨rest t others q, (h.toFramed.rest ha).1, ?_, ?_, ?_⟩
  · simp [outlines, held, flying, rest, ha, Task.outline_completePending hp]
  · simp [rest, Task.completePending]
  · have leaves := takeFinished_leaves (rest t others q)
    rw [← heq] at leaves
    exact leaves

theorem drain_leaves_nothing (q : Queue) :
    q.drain.1 = q.held.map Task.ticket ∧ q.drain.2.held = [] := ⟨rfl, rfl⟩

end Finishing

end Queue

end TensorQueue
