import TensorQueue.Proofs.Queue.Custody

/-!
# Descriptors are handed out in order

The transfers of a task are its descriptors but the fences. Those handed out
since the last drain, followed by those that the tasks held still have to hand
out, are the transfers of the tasks accepted since then. So they are handed out
in the order of submission, none twice and none left out. A transfer is not
handed out past a local fence with work before it, nor past a global fence of
its own task or of an older one that was not reported to be done.
-/

set_option autoImplicit false

namespace TensorQueue

open History

namespace Task

variable {t : Task} {p : Place} {f : Entry → Entry}

/-- The handle of a descriptor that is not a fence. -/
def transfer? (t : Task) (p : Place) : Option Handle :=
  match t.entries[p.index]? with
  | none => none
  | some e => if e.kind.isFence then none else some ⟨p.task, p.index, e.descriptor⟩

/-- The handles of all descriptors but the fences, in list order. -/
def transfers (t : Task) : List Handle := t.places.filterMap t.transfer?

def upcoming (t : Task) : List Handle := t.waiting.filterMap t.transfer?

theorem transfer?_congr {u : Task} (h : t.entries[p.index]?.map Entry.descriptor =
    u.entries[p.index]?.map Entry.descriptor) : t.transfer? p = u.transfer? p := by
  have kind : ∀ e d : Entry, e.descriptor = d.descriptor → e.kind = d.kind :=
    fun e d h => congrArg Descriptor.kind h
  unfold transfer?
  cases ht : t.entries[p.index]? with
  | none =>
    cases hu : u.entries[p.index]? with
    | none => rfl
    | some d => simp [ht, hu] at h
  | some e =>
    cases hu : u.entries[p.index]? with
    | none => simp [ht, hu] at h
    | some d =>
      have he : e.descriptor = d.descriptor := by simpa [ht, hu] using h
      simp only [kind e d he, he]

theorem upcoming_of_fresh (h : t.Fresh) : t.upcoming = t.transfers := by
  rw [upcoming, waiting_of_fresh h, transfers]

theorem upcoming_of_spent (h : t.Spent) : t.upcoming = [] := by
  rw [upcoming, (waiting_eq_nil_iff t).2 h]
  rfl

@[simp] theorem upcoming_outline : t.outline.upcoming = t.upcoming := by
  have places : t.outline.places = t.places := by simp [Task.places, outline]
  have same : ∀ p, t.outline.transfer? p = t.transfer? p := by
    intro p
    apply transfer?_congr
    rw [getElem?_outline, Option.map_map]
    congr 1
    funext e
    exact Entry.descriptor_outline e
  rw [upcoming, upcoming, waiting, waiting, places, List.filterMap_filter, List.filterMap_filter]
  apply List.filterMap_congr
  intro p _
  rw [same]
  cases he : t.entries[p.index]? with
  | none => simp [transfer?, he]
  | some e =>
    by_cases hk : e.kind.isFence = true
    · simp [transfer?, he, hk]
    · have hk' : e.kind.isFence = false := Bool.eq_false_iff.2 hk
      have hp : t.outline.isPendingAt p.index = t.isPendingAt p.index := by
        rw [isPendingAt_of_some he, isPendingAt, getElem?_outline, he, Option.map_some,
          Entry.outline_of_not_fence hk']
        rfl
      rw [hp]

theorem transfer?_alterEntry {i : Nat} (hf : ∀ e, (f e).descriptor = e.descriptor) :
    (t.alterEntry i f).transfer? p = t.transfer? p := by
  apply transfer?_congr
  rw [getElem?_alterEntry]
  split
  · rw [Option.map_map]
    congr 1
    funext e
    exact hf e
  · rfl

theorem upcoming_of_waiting_cons {rest : List Place} {e : Entry} (h : t.waiting = p :: rest)
    (he : t.entries[p.index]? = some e) (hk : e.kind.isFence = false)
    (hf : ∀ e, (f e).isPending = false) (hd : ∀ e, (f e).descriptor = e.descriptor) :
    t.upcoming = ⟨p.task, p.index, e.descriptor⟩ :: (t.alterEntry p.index f).upcoming := by
  have here : t.transfer? p = some ⟨p.task, p.index, e.descriptor⟩ := by
    simp [transfer?, he, hk]
  rw [upcoming, upcoming, waiting_alterEntry_head h hf, h, List.filterMap_cons_some here]
  congr 1
  exact List.filterMap_congr fun r _ => (transfer?_alterEntry hd).symm

theorem upcoming_alterEntry_of_not_pending {i : Nat} {e : Entry} (he : t.entries[i]? = some e)
    (hp : e.isPending = false) (hf : (f e).isPending = false)
    (hd : ∀ e, (f e).descriptor = e.descriptor) :
    (t.alterEntry i f).upcoming = t.upcoming := by
  rw [upcoming, upcoming, waiting_alterEntry_of_not_pending he hp hf]
  exact List.filterMap_congr fun r _ => transfer?_alterEntry hd

end Task

namespace Queue

variable {q r : Queue} {p : Place} {f : Entry → Entry}

/-- The transfers that the tasks held still have to hand out, in order. -/
def upcoming (q : Queue) : List Handle := q.held.flatMap Task.upcoming

theorem upcoming_eq_outlines : q.upcoming = q.outlines.flatMap Task.upcoming := by
  rw [outlines, List.flatMap_map]
  simp [upcoming]

theorem upcoming_congr (h : r.outlines = q.outlines) : r.upcoming = q.upcoming := by
  rw [upcoming_eq_outlines, h, ← upcoming_eq_outlines]

theorem Leaves.upcoming {ts : List Ticket} (h : q.Leaves ts r) : r.upcoming = q.upcoming := by
  obtain ⟨gone, hheld, -, hdrained, -⟩ := h
  have nothing : gone.flatMap Task.upcoming = [] := by
    apply List.flatMap_eq_nil_iff.2
    intro t ht
    exact Task.upcoming_of_spent (Task.spent_of_isDrained (hdrained t ht).1)
  rw [Queue.upcoming, Queue.upcoming, ← hheld, List.flatMap_append, nothing, List.nil_append]

theorem Framed.upcoming_handOut (h : q.Framed) {rest : List Place} {e : Entry}
    (hr : q.ready = p :: rest) (he : q.entryAt? p = some e) (hk : e.kind.isFence = false) :
    q.upcoming = ⟨p.task, p.index, e.descriptor⟩ ::
      ({ q.alterEntry p Entry.activate with ready := rest } : Queue).upcoming := by
  obtain ⟨before, t, hb, hn, hw, d, hd, -⟩ := h.ready_cons hr
  have ht : t ∈ q.flying := mem_flying_of_active (by simp [hb])
  have hde : d = e := by
    rw [entryAt?, h.numbered.task?_eq_some_iff.2 ⟨ht, hn⟩, Option.bind_some, hd] at he
    exact Option.some.inj he
  subst hde
  obtain ⟨front, hfront⟩ : ∃ front, front = q.completed ++ before := ⟨_, rfl⟩
  have hheld : q.held = front ++ t :: q.pending := by
    simp [held, flying, hb, hfront]
  have hspent : front.flatMap Task.upcoming = [] := by
    apply List.flatMap_eq_nil_iff.2
    intro u hu
    apply Task.upcoming_of_spent
    apply h.spent u
    rwa [hb, List.dropLast_concat, ← hfront]
  have hafter : ({ q.alterEntry p Entry.activate with ready := rest } : Queue).held =
      front ++ t.alterEntry p.index Entry.activate :: q.pending :=
    h.numbered.held_alterEntry_split hheld ht hn
  rw [upcoming, upcoming, hheld, hafter, List.flatMap_append, List.flatMap_append, hspent,
    List.flatMap_cons, List.flatMap_cons, List.nil_append, List.nil_append,
    Task.upcoming_of_waiting_cons (f := Entry.activate) hw hd hk (fun _ => rfl) (fun _ => rfl),
    List.cons_append]

theorem Sound.next_upcoming (h : q.Sound) : q.upcoming =
    q.next.handle.toList ++ q.next.queue.upcoming := by
  cases hn : q.next.handle with
  | none =>
    obtain ⟨m, -, outlines, -, leaves⟩ := h.next_idle hn
    rw [leaves.upcoming, upcoming_congr outlines]
    rfl
  | some k =>
    cases ho : q.isOpen with
    | false =>
      rw [next_of_shut ho] at hn
      cases hn
    | true =>
      rw [next_of_open ho] at hn ⊢
      have promoted := promote_framed h.toFramed h.unsettled
      rcases dispatch_cases q.promote.2 with hd | ⟨p, rest, e, hr, he, hk, hd⟩
      · rw [hd] at hn
        cases hn
      · rw [hd] at hn ⊢
        cases hn
        rw [(takeFinished_leaves _).upcoming, ← upcoming_congr (promote_outlines h.toFramed)]
        exact promoted.1.upcoming_handOut hr he hk

theorem Sound.complete_upcoming (h : q.Sound) {k : Handle} {ts : List Ticket}
    (hc : q.complete k = .ok (ts, r)) : r.upcoming = q.upcoming := by
  obtain ⟨⟨e, ⟨u, hu, hun, hue⟩, ha⟩, m, -, outlines, -, leaves⟩ := h.complete_outlines hc
  have hp : e.isPending = false := by
    simp_all [Entry.isActive, Entry.isPending]
  have hnodup : (q.outlines.map Task.number).Nodup := by
    rw [number_outlines]
    exact h.numbered.nodup
  rw [leaves.upcoming, upcoming_eq_outlines, outlines, List.flatMap_map, upcoming_eq_outlines]
  apply List.flatMap_congr
  intro v hv
  rw [touch]
  split
  · rename_i hvn
    have hvu : v = u := List.inj_on_of_nodup_map hnodup hv hu (hvn.trans hun.symm)
    subst hvu
    exact Task.upcoming_alterEntry_of_not_pending hue hp rfl fun _ => rfl
  · rfl

theorem Sound.finishRequest_upcoming (h : q.Sound) {t : Task} {ts : List Ticket}
    (ht : q.active.head? = some t) (hf : q.finishRequest = .ok (ts, r)) :
    r.upcoming = q.upcoming := by
  obtain ⟨m, -, outlines, -, leaves⟩ := h.finishRequest_outlines ht hf
  rw [leaves.upcoming, upcoming_congr outlines]

section Fences

/-- Nothing holds the descriptor with this index back: all in front of an earlier local fence is
completed, and no global fence is earlier. -/
structure Cleared (t : Task) (index : Nat) : Prop where
  locals_passed : ∀ i < index, ∀ e, t.entries[i]? = some e → e.kind = .localFence →
    t.completedBefore i = true
  no_global : ∀ i < index, ∀ e, t.entries[i]? = some e → e.kind ≠ .globalFence

/-- A descriptor that is handed out is the first of its task that was still pending. -/
theorem Sound.next_active (h : q.Sound) {k : Handle} (hn : q.next.handle = some k) :
    ∃ t ∈ q.next.queue.active, t.number = k.task ∧
      t.entries[k.index]? = some ⟨k.descriptor, .active⟩ ∧ k.descriptor.kind.isFence = false ∧
      ∀ i < k.index, ∀ e, t.entries[i]? = some e → e.isPending = false := by
  cases ho : q.isOpen with
  | false =>
    rw [next_of_shut ho] at hn
    cases hn
  | true =>
    rw [next_of_open ho] at hn ⊢
    have promoted := promote_framed h.toFramed h.unsettled
    rcases dispatch_cases q.promote.2 with hd | ⟨p, rest, e, hr, he, hk, hd⟩
    · rw [hd] at hn
      cases hn
    · rw [hd] at hn ⊢
      cases hn
      obtain ⟨t, ha, hnum, hw, d, hentry, -, hq⟩ := promoted.1.entryAt?_ready hr
      rw [he] at hq
      cases hq
      have changed : (t.alterEntry p.index Entry.activate).entries[p.index]? =
          some ⟨e.descriptor, .active⟩ := by
        rw [Task.getElem?_alterEntry, if_pos rfl, hentry]
        rfl
      have flies : t.alterEntry p.index Entry.activate ∈
          (q.promote.2.alterEntry p Entry.activate).active := by
        rw [active_alterEntry]
        exact List.mem_map.2 ⟨t, ha, touch_of_eq hnum⟩
      refine ⟨t.alterEntry p.index Entry.activate, ?_, hnum, changed, hk, ?_⟩
      · obtain ⟨gone, done, ended, others, -, hactive, -, hdrained, -, -, heq⟩ := takeFinished_cases
          { q.promote.2.alterEntry p Entry.activate with ready := rest }
        rw [heq]
        rw [show (q.promote.2.alterEntry p Entry.activate).active = ended ++ others from
          hactive.symm] at flies
        rcases List.mem_append.1 flies with hended | hothers
        · have hc := (Task.isDrained_iff _).1 (hdrained _ (List.mem_append_right _ hended)) _
            ((Task.mem_entries_iff _ _).2 ⟨_, changed⟩)
          cases hc
        · exact hothers
      · intro i hi d hd'
        rw [Task.getElem?_alterEntry_of_ne (Nat.ne_of_gt hi)] at hd'
        exact (Task.waiting_cons hw).1 i hi d hd'

theorem Framed.cleared (h : q.Framed) {t : Task} {index : Nat} (ht : t ∈ q.active)
    (hp : ∀ i < index, ∀ e, t.entries[i]? = some e → e.isPending = false) :
    Cleared t index where
  locals_passed := by
    intro i hi e he hk
    have hidle := h.idle t (mem_held_of_active ht) e ((Task.mem_entries_iff t e).2 ⟨i, he⟩)
      (by rw [hk]; rfl)
    have hpending := hp i hi e he
    have hc : e.isCompleted = true := by
      cases hprogress : e.progress with
      | pending => simp [Entry.isPending, hprogress] at hpending
      | active => simp [Entry.isActive, hprogress] at hidle
      | completed => simp [Entry.isCompleted, hprogress]
    exact h.ordered t (List.mem_append_left _ ht) i e he hk hc
  no_global := by
    intro i hi e he hk
    have hpending := h.guarded t (List.mem_append_left _ ht) e
      ((Task.mem_entries_iff t e).2 ⟨i, he⟩) hk
    rw [hp i hi e he] at hpending
    cases hpending

/-- In front of a task that has been begun no active one holds a global fence, and none waits. -/
theorem Framed.older_unfenced (h : q.Framed) {t u : Task} (ht : t ∈ q.active)
    (hu : u ∈ q.active ++ q.pending) (hlt : u.number.toNat < t.number.toNat) :
    ∀ e ∈ u.entries, e.kind ≠ .globalFence := by
  have sorted := h.numbered.ascending
  rcases List.eq_nil_or_concat' q.active with hnil | ⟨before, last, hb⟩
  · simp [hnil] at ht
  · have hheld : q.held = (q.completed ++ before) ++ last :: q.pending := by
      simp [held, flying, hb]
    rw [hheld] at sorted
    obtain ⟨-, sortedBack, between⟩ := List.pairwise_append.1 sorted
    have behind := (List.pairwise_cons.1 sortedBack).1
    -- Everything up to the task drained last is older than the tasks that wait.
    have bound : t.number.toNat ≤ last.number.toNat := by
      rw [hb] at ht
      rcases List.mem_append.1 ht with hbefore | hlast
      · exact Nat.le_of_lt (between t (List.mem_append_right _ hbefore) last List.mem_cons_self)
      · rw [List.mem_singleton.1 hlast]
    have spent : u.Spent := by
      apply h.spent
      rw [hb, List.dropLast_concat]
      rw [hb, List.append_assoc] at hu
      rcases List.mem_append.1 hu with hbefore | hrest
      · exact List.mem_append_right _ hbefore
      · rcases List.mem_cons.1 hrest with rfl | hpending
        · omega
        · have := behind u hpending
          omega
    intro e he hk
    have hpending := h.guarded u hu e he hk
    rw [spent e he] at hpending
    cases hpending

end Fences

end Queue

namespace Chronicle

open Queue

/-- What was handed out in this stretch are the first transfers of what was accepted in it. -/
def InOrder (part : List Passage) : Prop :=
  handed part <+: (accepted part).flatMap Task.transfers

def HasGlobalFence (t : Task) : Prop := ∃ e ∈ t.entries, e.kind = .globalFence

theorem hasGlobalFence_of_restored {t : Task} (h : HasGlobalFence t.restored) :
    HasGlobalFence t := by
  obtain ⟨e, he, hk⟩ := h
  obtain ⟨i, hi⟩ := (Task.mem_entries_iff _ e).1 he
  rw [Task.getElem?_restored] at hi
  obtain ⟨d, hd, rfl⟩ := Option.map_eq_some_iff.1 hi
  exact ⟨d, (Task.mem_entries_iff t d).2 ⟨i, hd⟩, hk⟩

structure Procession (log : List Passage) (q : Queue) : Prop where
  abreast : handed (window log) ++ q.upcoming = (accepted (window log)).flatMap Task.transfers
  past : ∀ part, Stretch log part → InOrder part
  fenced : ∀ u ∈ accepted (window log), HasGlobalFence u →
    .reported u.number ∈ log ∨ u.number ∈ (q.active ++ q.pending).map Task.number

section Procession

variable {log : List Passage} {owed : List Notice} {q r : Queue} {x : Passage}

theorem past_concat (h : ∀ part, Stretch log part → InOrder part) {rest : List Handle}
    (hw : handed (window (log ++ [x])) ++ rest =
      (accepted (window (log ++ [x]))).flatMap Task.transfers) :
    ∀ part, Stretch (log ++ [x]) part → InOrder part := by
  intro part hp
  rcases stretch_concat hp with hp | rfl
  · exact h part hp
  · exact ⟨rest, hw⟩

theorem Procession.start : Procession [] Queue.new where
  abreast := rfl
  past := by
    rintro part ⟨before, after, hlog, -, -⟩
    have hpart : part = [] := by
      have := List.append_eq_nil_iff.1 hlog.symm
      exact (List.append_eq_nil_iff.1 this.1).2
    rw [hpart]
    exact List.nil_prefix
  fenced := by simp [window, accepted]

theorem unrested_split (q : Queue) : q.outlines.map Task.number =
    q.completed.map Task.number ++ (q.active ++ q.pending).map Task.number := by
  rw [number_outlines, ← List.map_append, ← List.append_assoc]
  rfl

theorem unrested_numbers (ho : r.outlines.map Task.number = q.outlines.map Task.number)
    (hc : r.completed.map Task.number = q.completed.map Task.number) :
    (r.active ++ r.pending).map Task.number = (q.active ++ q.pending).map Task.number := by
  rw [unrested_split, unrested_split, hc] at ho
  exact List.append_cancel_left ho

theorem reported_or_waits {m : Queue} {t : Task} {n : UInt64} (ho : m.outlines = q.outlines)
    (hc : m.completed.map Task.number = q.completed.map Task.number ++ [t.number])
    (hn : n ∈ (q.active ++ q.pending).map Task.number) :
    n = t.number ∨ n ∈ (m.active ++ m.pending).map Task.number := by
  have split := unrested_split m
  rw [ho, unrested_split q, hc, List.append_assoc] at split
  rw [List.append_cancel_left split, List.singleton_append, List.mem_cons] at hn
  exact hn

/-- A task with a global fence never leaves from the active ones. -/
theorem fenced_of_leaves {m : Queue} {ts : List Ticket} (hl : Ledger log [] q) (hm : m.Framed)
    (hheld : m.held.map Task.restored = q.held.map Task.restored) (hr : m.Leaves ts r) {u : Task}
    (hu : u ∈ accepted log) (hg : HasGlobalFence u)
    (hn : u.number ∈ (m.active ++ m.pending).map Task.number) :
    u.number ∈ (r.active ++ r.pending).map Task.number := by
  obtain ⟨t, ht, htn⟩ := List.mem_map.1 hn
  obtain ⟨gone, hgone, -, hdrained, -, hstays⟩ := hr
  rcases hstays t ht with ⟨hleft, hactive⟩ | hstay
  · exfalso
    obtain ⟨left, hsplit, -⟩ := hl.split
    have hmem : t.restored ∈ accepted log := by
      rw [← hsplit, ← hheld, ← hgone, List.map_append]
      exact List.mem_append_right _ (List.mem_append_left _ (List.mem_map_of_mem hleft))
    rw [← hl.restored_eq hmem hu htn] at hg
    obtain ⟨e, he, hk⟩ := hasGlobalFence_of_restored hg
    have hp := hm.guarded t (List.mem_append_left _ hactive) e he hk
    rw [Task.spent_of_isDrained (hdrained t hleft).1 e he] at hp
    cases hp
  · rw [← htn]
    exact List.mem_map_of_mem hstay

/-- Where the same tasks are at rest, every global fence is still waited for. -/
theorem Procession.fenced_after {m : Queue} {ts : List Ticket} (h : Procession log q)
    (hl : Ledger log [] q) (hm : m.Framed)
    (hheld : m.held.map Task.restored = q.held.map Task.restored)
    (hn : m.outlines.map Task.number = q.outlines.map Task.number)
    (hc : m.completed.map Task.number = q.completed.map Task.number) (hr : m.Leaves ts r) :
    ∀ u ∈ accepted (window log), HasGlobalFence u →
      .reported u.number ∈ log ∨ u.number ∈ (r.active ++ r.pending).map Task.number := by
  intro u hu hg
  rcases h.fenced u hu hg with hreported | hwaits
  · exact .inl hreported
  · right
    rw [← unrested_numbers hn hc] at hwaits
    exact fenced_of_leaves hl hm hheld hr (accepted_window_subset hu) hg hwaits

theorem touched_numbers {p : Place} {f : Entry → Entry}
    (ho : r.outlines = q.outlines.map (touch p f)) :
    r.outlines.map Task.number = q.outlines.map Task.number := by
  rw [ho, List.map_map]
  exact List.map_congr_left fun t _ => number_touch t

theorem Procession.same (h : Procession log q) (hu : r.upcoming = q.upcoming)
    (hf : ∀ u ∈ accepted (window log), HasGlobalFence u → .reported u.number ∈ log ∨
      u.number ∈ (r.active ++ r.pending).map Task.number) : Procession log r where
  abreast := by
    rw [hu]
    exact h.abreast
  past := h.past
  fenced := hf

theorem Procession.concat (h : Procession log q) (hx : x.isDrain = false)
    (hw : (x.handle?.toList ++ r.upcoming) = q.upcoming ++ x.task?.toList.flatMap Task.transfers)
    (hf : ∀ u ∈ accepted (window log) ++ x.task?.toList, HasGlobalFence u →
      .reported u.number ∈ log ++ [x] ∨ u.number ∈ (r.active ++ r.pending).map Task.number) :
    Procession (log ++ [x]) r := by
  have abreast : handed (window (log ++ [x])) ++ r.upcoming =
      (accepted (window (log ++ [x]))).flatMap Task.transfers := by
    rw [window_concat hx, handed_concat, accepted_concat, List.append_assoc, hw,
      ← List.append_assoc, h.abreast, List.flatMap_append]
  constructor
  case abreast => exact abreast
  case past => exact past_concat h.past abreast
  case fenced =>
    rw [window_concat hx, accepted_concat]
    exact hf

/-- What passes accepts nothing, and no global fence is reported by it. -/
theorem Procession.pass (h : Procession log q) (hx : x.isDrain = false) (hn : x.task? = none)
    (hw : x.handle?.toList ++ r.upcoming = q.upcoming)
    (hf : ∀ u ∈ accepted (window log), HasGlobalFence u → .reported u.number ∈ log ∨
      u.number ∈ (r.active ++ r.pending).map Task.number) : Procession (log ++ [x]) r := by
  apply h.concat hx
  · rw [hw, hn]
    simp
  · intro u hu hg
    rw [hn, Option.toList_none, List.append_nil] at hu
    rcases hf u hu hg with hr | hm
    · exact .inl (List.mem_append_left _ hr)
    · exact .inr hm

theorem procession_of_beat {y z : Moment} (h : Beat y z) (hs : Steady y)
    (hl : Ledger y.log y.owed y.queue) (hp : Procession y.log y.queue) :
    Procession z.log z.queue := by
  obtain ⟨sound, -⟩ := hs
  cases h with
  | openUp ho =>
    rw [(openUp_eq_ok_iff.1 ho).2]
    exact hp.same rfl hp.fenced
  | shut hs =>
    rw [(shut_eq_ok_iff.1 hs).2]
    exact hp.same rfl hp.fenced
  | @submit q r owed log ticket ds hs =>
    obtain ⟨-, -, rfl⟩ := submit_eq_ok_iff.1 hs
    have fresh : (Task.new q.nextTask ticket ds).Fresh := Task.fresh_new
    apply hp.concat rfl
    · simp [upcoming, held, flying, Passage.handle?, Passage.task?, Task.upcoming_of_fresh fresh]
    · intro u hu hg
      rcases List.mem_append.1 hu with hu | hu
      · rcases hp.fenced u hu hg with hr | hm
        · exact .inl (List.mem_append_left _ hr)
        · rw [← List.append_assoc, List.map_append]
          exact .inr (List.mem_append_left _ hm)
      · cases List.mem_singleton.1 hu
        exact .inr (by simp)
  | idle hn =>
    obtain ⟨m, framed, outlines, numbers, leaves⟩ := sound.next_idle hn
    have restored := (restored_outlines m).symm.trans
      ((congrArg _ outlines).trans (restored_outlines _))
    apply hp.same
    · rw [leaves.upcoming, upcoming_congr outlines]
    · exact hp.fenced_after hl framed restored (congrArg _ outlines) numbers leaves
  | @handOut q log k hn =>
    obtain ⟨-, m, framed, outlines, numbers, leaves⟩ := sound.next_handOut hn
    have restored := restored_of_touch outlines fun _ => rfl
    have upcoming := sound.next_upcoming
    rw [hn] at upcoming
    apply hp.pass rfl rfl
    · simpa [Passage.handle?] using upcoming.symm
    · exact hp.fenced_after hl framed restored (touched_numbers outlines) numbers leaves
  | @takeBack q r log k ts hc =>
    obtain ⟨-, m, framed, outlines, numbers, leaves⟩ := sound.complete_outlines hc
    have restored := restored_of_touch outlines fun _ => rfl
    apply hp.pass rfl rfl
    · simpa [Passage.handle?, Passage.task?] using sound.complete_upcoming hc
    · exact hp.fenced_after hl framed restored (touched_numbers outlines) numbers leaves
  | @report q r log ts t ha hf =>
    obtain ⟨m, framed, outlines, numbers, leaves⟩ := sound.finishRequest_outlines ha hf
    have restored := (restored_outlines m).symm.trans
      ((congrArg _ outlines).trans (restored_outlines q))
    apply hp.concat rfl
    · simpa [Passage.handle?, Passage.task?] using sound.finishRequest_upcoming ha hf
    · intro u hu hg
      have hw : u ∈ accepted (window log) := by simpa [Passage.task?] using hu
      rcases hp.fenced u hw hg with hr | hm
      · exact .inl (List.mem_append_left _ hr)
      · rcases reported_or_waits outlines numbers hm with heq | hm
        · rw [heq]
          exact .inl (List.mem_append_right _ List.mem_cons_self)
        · exact .inr (fenced_of_leaves hl framed restored leaves (accepted_window_subset hw) hg hm)
  | @drain q log =>
    constructor
    case abreast => rw [window_drained]; rfl
    case past => exact past_concat (x := .drained) hp.past (by rw [window_drained]; rfl)
    case fenced =>
      rw [window_drained]
      simp [accepted]
  | notify => exact hp.pass rfl rfl rfl hp.fenced

end Procession

section Runs

variable {W : Type} [Watchdog W] {w : W} {ts : List Turn} {c d : Chronicle W}

/-- All that every run keeps. -/
structure Kept (x : Moment) : Prop where
  steady : Steady x
  ledger : Ledger x.log x.owed x.queue
  procession : Procession x.log x.queue

theorem kept_of_beat {x y : Moment} (h : Beat x y) (hb : Bounded y.log) (hx : Kept x) : Kept y :=
  ⟨steady_of_beat h hb hx.steady, ledger_of_beat h hx.steady hx.ledger,
    procession_of_beat h hx.steady hx.ledger hx.procession⟩

theorem run_kept (h : run ts (begin w) = some c) (hb : Bounded c.passages) : Kept (c.moment []) :=
  run_keeps ⟨steady_begin, Ledger.start, Procession.start⟩ kept_of_beat h hb

/-- This handle is in the hands of the hardware, and everything that it had to wait for is past. -/
structure Released (log : List Passage) (q : Queue) (k : Handle) : Prop where
  held : ∃ t ∈ q.active, t.number = k.task ∧ t.entries[k.index]? = some ⟨k.descriptor, .active⟩ ∧
    k.descriptor.kind.isFence = false ∧ Cleared t k.index
  older : ∀ u ∈ accepted (window log), u.number.toNat < k.task.toNat → HasGlobalFence u →
    .reported u.number ∈ log ∧ ∀ t ∈ q.active, t.number ≠ u.number

theorem Kept.released {log : List Passage} {owed : List Notice} {q : Queue} {k : Handle} {t : Task}
    (h : Kept ⟨q, owed, log⟩) (ht : t ∈ q.active) (hn : t.number = k.task)
    (he : t.entries[k.index]? = some ⟨k.descriptor, .active⟩)
    (hk : k.descriptor.kind.isFence = false)
    (hfirst : ∀ i < k.index, ∀ e, t.entries[i]? = some e → e.isPending = false) :
    Released log q k := by
  have framed : q.Framed := h.steady.sound.toFramed
  constructor
  case held => exact ⟨t, ht, hn, he, hk, framed.cleared ht hfirst⟩
  case older =>
    intro u hu hlt hg
    have gone : u.number ∉ (q.active ++ q.pending).map Task.number := by
      intro hmem
      obtain ⟨v, hv, hvn⟩ := List.mem_map.1 hmem
      have hheld : v ∈ q.held := by
        rw [held, flying, List.append_assoc]
        exact List.mem_append_right _ hv
      have same := h.ledger.restored_eq (h.ledger.restored_mem hheld)
        (accepted_window_subset hu) hvn
      rw [← same] at hg
      obtain ⟨e, hmem, hglobal⟩ := hasGlobalFence_of_restored hg
      have hlt' : v.number.toNat < t.number.toNat := by
        rw [hvn, hn]
        exact hlt
      exact framed.older_unfenced ht hv hlt' e hmem hglobal
    constructor
    · exact (h.procession.fenced u hu hg).resolve_right gone
    · intro v hv hvn
      apply gone
      rw [← hvn]
      exact List.mem_map_of_mem (List.mem_append_left _ hv)

/-- In every run, from one drain to the next, the descriptors handed out are the first transfers of
the tasks accepted, in order; and when one is handed out, all that it has to wait for is past. Tasks
are told apart by their numbers, so fewer are accepted than there are numbers. -/
theorem descriptors_handed_out_in_order (h : run ts (begin w) = some c)
    (hb : Bounded c.passages) :
    (∀ part, Stretch c.passages part → InOrder part) ∧
      ∀ inside k d, turn ⟨.next, inside⟩ c = some (some k, d) → Bounded d.passages →
        Released d.passages d.scheduler.queue k := by
  have kept := run_kept h hb
  constructor
  · exact kept.procession.past
  · intro inside k d ht hbd
    have after : Kept (d.moment []) := beats_keep kept_of_beat (turn_beats ht) hbd kept
    obtain ⟨⟨reply, e⟩, he, hd⟩ := Option.bind_eq_some_iff.1 ht
    obtain ⟨f, hf, hout⟩ := Option.map_eq_some_iff.1 hd
    obtain ⟨hk, rfl⟩ := Prod.mk.inj hout
    obtain ⟨handle, queue, -⟩ := next_beat he
    obtain ⟨t, hactive, hn, hentry, hfence, hfirst⟩ :=
      kept.steady.sound.next_active (handle.symm.trans hk)
    have hflies : t ∈ f.scheduler.queue.active := by
      rw [answer_active _ _ hf]
      change t ∈ e.scheduler.queue.active
      rw [queue]
      exact hactive
    exact after.released hflies hn hentry hfence hfirst

/-- Two requests behind each other, the first one with a local fence and a global one. A descriptor is
asked for five times, three of them while a fence has to wait. -/
def procession : List Turn :=
  [⟨.openUp, []⟩,
    ⟨.submit ⟨default, .ok [⟨.instruction, 0, 64⟩, Descriptor.marker .localFence,
      ⟨.outputActivation, 64, 64⟩, Descriptor.marker .globalFence]⟩, []⟩,
    ⟨.submit ⟨default, .ok [⟨.instruction, 128, 64⟩]⟩, []⟩,
    ⟨.next, []⟩, ⟨.next, []⟩, ⟨.complete ⟨0, 0, ⟨.instruction, 0, 64⟩⟩, []⟩,
    ⟨.next, []⟩, ⟨.next, []⟩, ⟨.complete ⟨0, 2, ⟨.outputActivation, 64, 64⟩⟩, []⟩,
    ⟨.next, []⟩, ⟨.finishRequest, []⟩]

/-- The local fence has held back the second transfer until the first one was taken back, and the
global fence has held back the second request until the first one was reported to be done. -/
theorem procession_handed_out_in_order : ∃ c : Chronicle Watchdog.Idle,
    run procession (begin ⟨⟩) = some c ∧ Bounded c.passages ∧
      c.passages.drop 2 = [.handedOut ⟨0, 0, ⟨.instruction, 0, 64⟩⟩, .takenBack ⟨0, 0⟩,
        .handedOut ⟨0, 2, ⟨.outputActivation, 64, 64⟩⟩, .takenBack ⟨0, 2⟩, .reported 0,
        .notified ⟨default, .finished⟩] ∧
      (∀ part, Stretch c.passages part → InOrder part) ∧
      ∃ d, turn ⟨.next, []⟩ c = some (some ⟨1, 0, ⟨.instruction, 128, 64⟩⟩, d) ∧
        Bounded d.passages ∧
        Released d.passages d.scheduler.queue ⟨1, 0, ⟨.instruction, 128, 64⟩⟩ := by
  have seen : (run procession (begin Watchdog.Idle.mk)).map (fun c =>
      ((accepted c.passages).length, c.passages.drop 2, (turn ⟨.next, []⟩ c).map fun out =>
        (out.1, (accepted out.2.passages).length))) =
      some (2, [.handedOut ⟨0, 0, ⟨.instruction, 0, 64⟩⟩, .takenBack ⟨0, 0⟩,
        .handedOut ⟨0, 2, ⟨.outputActivation, 64, 64⟩⟩, .takenBack ⟨0, 2⟩, .reported 0,
        .notified ⟨default, .finished⟩], some (some ⟨1, 0, ⟨.instruction, 128, 64⟩⟩, 2)) := by
    decide +kernel
  obtain ⟨c, h, hc⟩ := Option.map_eq_some_iff.1 seen
  obtain ⟨two, hc⟩ := Prod.mk.inj hc
  obtain ⟨passed, hturn⟩ := Prod.mk.inj hc
  obtain ⟨⟨handle, d⟩, ht, hd⟩ := Option.map_eq_some_iff.1 hturn
  obtain ⟨rfl, two'⟩ := Prod.mk.inj hd
  have hb : Bounded c.passages := by
    rw [Bounded, two]
    decide
  have hbd : Bounded d.passages := by
    rw [Bounded, two']
    decide
  have result := descriptors_handed_out_in_order h hb
  exact ⟨c, h, hb, passed, result.1, d, ht, hbd, result.2 _ _ _ ht hbd⟩

end Runs

end Chronicle

end TensorQueue
