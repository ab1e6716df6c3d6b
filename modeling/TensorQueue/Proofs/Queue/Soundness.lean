import TensorQueue.Queue.Basic
import TensorQueue.Proofs.Queue.Task
import Mathlib.Data.List.Nodup
import Mathlib.Data.List.Range

/-!
# Soundness of the queue

How the four lists of a queue fit together. The tasks held are in the order of
their numbers, only the active task drained last has anything left to hand out,
and the ready places are what it has left. `Framed` holds at every moment, also
in the middle of an operation; `Sound` holds between operations, once settled
fences and finished tasks are out of the way. Every operation on a sound queue
leaves a sound queue behind. The numbers are also `Consecutive` unless a
submission was aborted after it had taken one.
-/

set_option autoImplicit false

namespace TensorQueue.Queue

/-- All tasks of the queue, the oldest first. -/
def held (q : Queue) : List Task := q.flying ++ q.pending

/-- The tasks held are in the order of their numbers, and these have been given out. -/
structure Numbered (q : Queue) : Prop where
  ascending : q.held.Pairwise fun t u => t.number.toNat < u.number.toNat
  below : ∀ t ∈ q.held, t.number.toNat < q.nextTask.toNat

/-- The numbers of the tasks held are consecutive and end below the next one. -/
def Consecutive (q : Queue) : Prop :=
  q.held.length ≤ q.nextTask.toNat ∧
    q.held.map (fun t => t.number.toNat) =
      List.range' (q.nextTask.toNat - q.held.length) q.held.length

/-- What is left to hand out of the task drained last. -/
def waiting (q : Queue) : List Place := (q.active.getLast?.map Task.waiting).getD []

def Unsettled (q : Queue) : Prop := ∀ p ∈ q.ready.head?, q.isSettledFence p = false

structure Framed (q : Queue) : Prop where
  numbered : q.Numbered
  ready_eq : q.ready = q.waiting
  spent : ∀ t ∈ q.completed ++ q.active.dropLast, t.Spent
  fresh : ∀ t ∈ q.pending, t.Fresh
  idle : ∀ t ∈ q.held, t.FencesIdle
  ordered : ∀ t ∈ q.active ++ q.pending, t.LocalsOrdered
  guarded : ∀ t ∈ q.active ++ q.pending, t.GlobalsWaiting

structure Sound (q : Queue) : Prop extends Framed q where
  unsettled : q.Unsettled
  completed_front : ∀ t ∈ q.completed.head?, t.isDrained = false
  active_front : q.completed = [] → ∀ t ∈ q.active.head?, t.isDrained = false

section Numbers

variable {q : Queue}

theorem Numbered.nodup (h : q.Numbered) : (q.held.map Task.number).Nodup := by
  refine List.Pairwise.map _ (fun t u lt same => ?_) h.ascending
  rw [same] at lt
  exact Nat.lt_irrefl _ lt

theorem Numbered.eq_of_number (h : q.Numbered) {t u : Task} (ht : t ∈ q.held) (hu : u ∈ q.held)
    (hn : t.number = u.number) : t = u :=
  List.inj_on_of_nodup_map h.nodup ht hu hn

theorem mem_held_of_flying {t : Task} (h : t ∈ q.flying) : t ∈ q.held :=
  List.mem_append_left _ h

theorem mem_flying_of_active {t : Task} (h : t ∈ q.active) : t ∈ q.flying :=
  List.mem_append_right _ h

theorem mem_held_of_active {t : Task} (h : t ∈ q.active) : t ∈ q.held :=
  mem_held_of_flying (mem_flying_of_active h)

theorem Numbered.task?_eq_some_iff (h : q.Numbered) {n : UInt64} {t : Task} :
    q.task? n = some t ↔ t ∈ q.flying ∧ t.number = n := by
  constructor
  · intro found
    exact ⟨List.mem_of_find?_eq_some found, by simpa using List.find?_some found⟩
  · rintro ⟨ht, hn⟩
    cases found : q.task? n with
    | none => simpa [hn] using List.find?_eq_none.1 found t ht
    | some u =>
      have hu := List.mem_of_find?_eq_some found
      have hun : u.number = n := by simpa using List.find?_some found
      rw [h.eq_of_number (mem_held_of_flying hu) (mem_held_of_flying ht) (hun.trans hn.symm)]

theorem Numbered.isSettledFence_iff (h : q.Numbered) {p : Place} {t : Task} (ht : t ∈ q.flying)
    (hn : t.number = p.task) : q.isSettledFence p = true ↔
      (t.entries[p.index]?.map Entry.kind) = some .localFence ∧
        t.completedBefore p.index = true := by
  rw [isSettledFence, h.task?_eq_some_iff.2 ⟨ht, hn⟩]
  simp

theorem Numbered.of_sublist {r : Queue} (h : q.Numbered) (hn : r.nextTask = q.nextTask)
    (hs : (r.held.map Task.number).Sublist (q.held.map Task.number)) : r.Numbered := by
  have ascending : (q.held.map Task.number).Pairwise fun m n => m.toNat < n.toNat :=
    List.pairwise_map.2 h.ascending
  have below : ∀ n ∈ q.held.map Task.number, n.toNat < q.nextTask.toNat :=
    List.forall_mem_map.2 h.below
  constructor
  · have kept := ascending.sublist hs
    rw [List.pairwise_map] at kept
    exact kept
  · intro t ht
    rw [hn]
    exact below t.number (hs.subset (List.mem_map_of_mem ht))

theorem Numbered.of_map_eq {r : Queue} (h : q.Numbered) (hn : r.nextTask = q.nextTask)
    (hm : r.held.map Task.number = q.held.map Task.number) : r.Numbered :=
  h.of_sublist hn (hm ▸ List.Sublist.refl _)

theorem Numbered.of_suffix {r : Queue} (h : q.Numbered) (hn : r.nextTask = q.nextTask)
    {gone : List Task} (hm : gone ++ r.held = q.held) : r.Numbered := by
  apply h.of_sublist hn
  rw [← hm]
  exact (List.sublist_append_right gone r.held).map _

end Numbers

section Alter

variable {q : Queue} {p : Place} {f : Entry → Entry}

/-- The task with one of its descriptors changed, if the place is one of its own. -/
def touch (p : Place) (f : Entry → Entry) (t : Task) : Task :=
  if t.number = p.task then t.alterEntry p.index f else t

theorem active_alterEntry : (q.alterEntry p f).active = q.active.map (touch p f) := rfl

theorem completed_alterEntry : (q.alterEntry p f).completed = q.completed.map (touch p f) := rfl

theorem flying_alterEntry : (q.alterEntry p f).flying = q.flying.map (touch p f) := by
  simp [flying, active_alterEntry, completed_alterEntry]

@[simp] theorem number_touch (t : Task) : (touch p f t).number = t.number := by
  unfold touch
  split <;> rfl

theorem touch_of_eq {t : Task} (h : t.number = p.task) :
    touch p f t = t.alterEntry p.index f := if_pos h

theorem forall_touch {P : Task → Prop} {ts : List Task} (h : ∀ t ∈ ts, P t)
    (ht : ∀ t ∈ ts, t.number = p.task → P (t.alterEntry p.index f)) :
    ∀ t ∈ ts.map (touch p f), P t := by
  intro t hm
  obtain ⟨u, hu, rfl⟩ := List.mem_map.1 hm
  unfold touch
  split
  · exact ht u hu (by assumption)
  · exact h u hu

theorem forall_touch_append {P : Task → Prop} {ts rest : List Task} (h : ∀ t ∈ ts ++ rest, P t)
    (ht : ∀ t ∈ ts, t.number = p.task → P (t.alterEntry p.index f)) :
    ∀ t ∈ ts.map (touch p f) ++ rest, P t := by
  intro t hm
  rcases List.mem_append.1 hm with hm | hm
  · exact forall_touch (fun u hu => h u (List.mem_append_left _ hu)) ht t hm
  · exact h t (List.mem_append_right _ hm)

/-- One descriptor of one task in flight may move on, as long as its task stays in order. -/
theorem Framed.alter (h : q.Framed) {t : Task} (ht : t ∈ q.flying) (hn : t.number = p.task)
    {ready : List Place} (hr : ready = (q.alterEntry p f).waiting)
    (spent : t.Spent → (t.alterEntry p.index f).Spent)
    (idle : (t.alterEntry p.index f).FencesIdle)
    (ordered : t ∈ q.active → (t.alterEntry p.index f).LocalsOrdered)
    (guarded : t ∈ q.active → (t.alterEntry p.index f).GlobalsWaiting) :
    Framed { q.alterEntry p f with ready := ready } := by
  have only : ∀ u ∈ q.flying, u.number = p.task → u = t := fun u hu hp =>
    h.numbered.eq_of_number (mem_held_of_flying hu) (mem_held_of_flying ht) (hp.trans hn.symm)
  have heldMap : (q.alterEntry p f).held.map Task.number = q.held.map Task.number := by
    simp only [held, flying_alterEntry, List.map_append, List.map_map]
    congr 1
    exact List.map_congr_left fun u _ => number_touch u
  constructor
  · exact h.numbered.of_map_eq rfl heldMap
  · exact hr
  · change ∀ u ∈ q.completed.map (touch p f) ++ (q.active.map (touch p f)).dropLast, u.Spent
    rw [← List.map_dropLast, ← List.map_append]
    apply forall_touch h.spent
    intro u hu hp
    have hf : u ∈ q.flying := by
      rcases List.mem_append.1 hu with hc | ha
      · exact List.mem_append_left _ hc
      · exact List.mem_append_right _ (List.dropLast_subset _ ha)
    cases only u hf hp
    exact spent (h.spent _ hu)
  · exact h.fresh
  · change ∀ u ∈ (q.alterEntry p f).flying ++ q.pending, u.FencesIdle
    rw [flying_alterEntry]
    apply forall_touch_append h.idle
    intro u hu hp
    cases only u hu hp
    exact idle
  · apply forall_touch_append h.ordered
    intro u hu hp
    cases only u (mem_flying_of_active hu) hp
    exact ordered hu
  · apply forall_touch_append h.guarded
    intro u hu hp
    cases only u (mem_flying_of_active hu) hp
    exact guarded hu

theorem Framed.ready_cons (h : q.Framed) {rest : List Place} (hr : q.ready = p :: rest) :
    ∃ before t, q.active = before ++ [t] ∧ t.number = p.task ∧ t.waiting = p :: rest ∧
      ∃ e, t.entries[p.index]? = some e ∧ e.isPending = true := by
  have hw : q.waiting = p :: rest := h.ready_eq.symm.trans hr
  unfold waiting at hw
  cases hl : q.active.getLast? with
  | none => simp [hl] at hw
  | some t =>
    simp only [hl, Option.map_some, Option.getD_some] at hw
    obtain ⟨before, hb⟩ := List.getLast?_eq_some_iff.1 hl
    obtain ⟨hn, e, he, hp⟩ := Task.waiting_subset (t := t) (p := p) (by rw [hw]; simp)
    exact ⟨before, t, hb, hn.symm, hw, e, he, hp⟩

theorem Framed.waiting_alter_head (h : q.Framed) {rest : List Place} (hr : q.ready = p :: rest)
    (hf : ∀ e, (f e).isPending = false) : (q.alterEntry p f).waiting = rest := by
  obtain ⟨before, t, hb, hn, hw, -⟩ := h.ready_cons hr
  simp only [waiting, active_alterEntry, hb, List.map_append, List.map_cons, List.map_nil,
    List.getLast?_concat, Option.map_some, Option.getD_some, touch_of_eq hn]
  exact Task.waiting_alterEntry_head hw hf

end Alter

end TensorQueue.Queue
