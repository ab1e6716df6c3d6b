import TensorQueue.Queue.Task
import Mathlib.Data.List.Basic

/-!
# Progress inside a task

What is true of a task by itself while its descriptors move from pending to
active to completed. The places that still wait are listed in index order, so
the first of them is the next to be handed out. A task in flight keeps two
rules: a local fence is completed only behind completed descriptors, and a
global fence is not completed at all before the task leaves the active ones.
-/

set_option autoImplicit false

namespace TensorQueue

namespace Task

def isPendingAt (t : Task) (index : Nat) : Bool := t.entries[index]?.any Entry.isPending

/-- The places whose descriptors are pending, in index order. -/
def waiting (t : Task) : List Place := t.places.filter fun p => t.isPendingAt p.index

/-- Nothing of the task is left to be handed out. -/
def Spent (t : Task) : Prop := ∀ e ∈ t.entries, e.isPending = false

/-- Nothing of the task has been handed out. -/
def Fresh (t : Task) : Prop := ∀ e ∈ t.entries, e.isPending = true

/-- No fence is with the hardware. -/
def FencesIdle (t : Task) : Prop := ∀ e ∈ t.entries, e.kind.isFence = true → e.isActive = false

/-- A completed local fence stands behind completed descriptors only. -/
def LocalsOrdered (t : Task) : Prop := ∀ (i : Nat) (e : Entry), t.entries[i]? = some e →
  e.kind = .localFence → e.isCompleted = true → t.completedBefore i = true

/-- No global fence has been passed. -/
def GlobalsWaiting (t : Task) : Prop :=
  ∀ e ∈ t.entries, e.kind = .globalFence → e.isPending = true

theorem mem_entries_iff (t : Task) (e : Entry) : e ∈ t.entries ↔ ∃ i : Nat, t.entries[i]? = some e :=
  Array.mem_iff_getElem?

theorem isPendingAt_of_some {t : Task} {i : Nat} {e : Entry} (h : t.entries[i]? = some e) :
    t.isPendingAt i = e.isPending := by
  simp [isPendingAt, h]

theorem isDrained_iff (t : Task) :
    t.isDrained = true ↔ ∀ e ∈ t.entries, e.isCompleted = true :=
  Array.all_eq_true_iff_forall_mem

theorem completedBefore_iff (t : Task) (i : Nat) : t.completedBefore i = true ↔
    ∀ j < i, ∀ e, t.entries[j]? = some e → e.isCompleted = true := by
  simp only [completedBefore, List.all_eq_true]
  constructor
  · intro h j hj e he
    refine h e (List.mem_iff_getElem?.2 ⟨j, ?_⟩)
    rw [List.getElem?_take_of_lt hj]
    simpa using he
  · intro h e he
    obtain ⟨j, hj⟩ := List.mem_iff_getElem?.1 he
    rw [List.getElem?_take] at hj
    split at hj
    · exact h j (by assumption) e (by simpa using hj)
    · cases hj

theorem spent_of_isDrained {t : Task} (h : t.isDrained = true) : t.Spent := by
  intro e he
  have hc := (isDrained_iff t).1 h e he
  simp only [Entry.isCompleted, decide_eq_true_eq] at hc
  simp [Entry.isPending, hc]

section Places

theorem mem_places (t : Task) (p : Place) :
    p ∈ t.places ↔ p.task = t.number ∧ p.index < t.entries.size := by
  simp only [places, List.mem_map, List.mem_range]
  constructor
  · rintro ⟨i, hi, rfl⟩
    exact ⟨rfl, hi⟩
  · rintro ⟨hn, hi⟩
    exact ⟨p.index, hi, by rw [← hn]⟩

theorem places_sorted (t : Task) : t.places.Pairwise fun a b => a.index < b.index := by
  simp only [places, List.pairwise_map]
  exact List.pairwise_lt_range

theorem waiting_subset {t : Task} {p : Place} (h : p ∈ t.waiting) :
    p.task = t.number ∧ ∃ e, t.entries[p.index]? = some e ∧ e.isPending = true := by
  obtain ⟨hp, hw⟩ := List.mem_filter.1 h
  refine ⟨((mem_places t p).1 hp).1, ?_⟩
  simpa [isPendingAt, Option.any_eq_true] using hw

theorem mem_waiting {t : Task} {p : Place} {e : Entry} (hn : p.task = t.number)
    (he : t.entries[p.index]? = some e) (hp : e.isPending = true) : p ∈ t.waiting := by
  refine List.mem_filter.2 ⟨(mem_places t p).2 ⟨hn, ?_⟩, by simp [isPendingAt, he, hp]⟩
  exact (Array.getElem?_eq_some_iff.1 he).1

theorem waiting_eq_nil_iff (t : Task) : t.waiting = [] ↔ t.Spent := by
  constructor
  · intro h e he
    obtain ⟨i, hi⟩ := (mem_entries_iff t e).1 he
    by_contra hp
    have : (⟨t.number, i⟩ : Place) ∈ t.waiting := mem_waiting rfl hi (by simpa using hp)
    simp [h] at this
  · intro h
    apply List.eq_nil_iff_forall_not_mem.2
    intro p hp
    obtain ⟨-, e, he, hw⟩ := waiting_subset hp
    simp [h e ((mem_entries_iff t e).2 ⟨_, he⟩)] at hw

theorem waiting_of_fresh {t : Task} (h : t.Fresh) : t.waiting = t.places := by
  apply List.filter_eq_self.2
  intro p hp
  have hi := ((mem_places t p).1 hp).2
  have he : t.entries[p.index]? = some t.entries[p.index] := Array.getElem?_eq_getElem hi
  rw [isPendingAt_of_some he]
  exact h _ (Array.getElem_mem hi)

/-- In front of the first place that waits nothing is pending, and those behind it stand further
back in the task. -/
theorem waiting_cons {t : Task} {p : Place} {rest : List Place} (h : t.waiting = p :: rest) :
    (∀ j < p.index, ∀ e, t.entries[j]? = some e → e.isPending = false) ∧
      ∀ r ∈ rest, p.index < r.index := by
  obtain ⟨front, back, split, passed, -, rfl⟩ := List.filter_eq_cons_iff.1 h
  have sorted := t.places_sorted
  rw [split] at sorted
  have behind := (List.pairwise_cons.1 (List.pairwise_append.1 sorted).2.1).1
  refine ⟨?_, fun r hr => behind r (List.mem_of_mem_filter hr)⟩
  intro j hj e he
  have hmem : (⟨t.number, j⟩ : Place) ∈ front ++ p :: back := by
    rw [← split]
    exact (mem_places t _).2 ⟨rfl, (Array.getElem?_eq_some_iff.1 he).1⟩
  have hfront : (⟨t.number, j⟩ : Place) ∈ front := by
    rcases List.mem_append.1 hmem with hf | hb
    · exact hf
    · rcases List.mem_cons.1 hb with rfl | hb
      · exact absurd hj (Nat.lt_irrefl _)
      · exact absurd (behind _ hb) (by simp only; omega)
  have := passed _ hfront
  simpa [isPendingAt, he] using this

end Places

section Alter

variable {t : Task} {i : Nat} {f : Entry → Entry}

@[simp] theorem number_alterEntry : (t.alterEntry i f).number = t.number := rfl

@[simp] theorem ticket_alterEntry : (t.alterEntry i f).ticket = t.ticket := rfl

theorem getElem?_alterEntry (j : Nat) : (t.alterEntry i f).entries[j]? =
    if i = j then t.entries[j]?.map f else t.entries[j]? := by
  simp [alterEntry, Array.getElem?_modify]

theorem getElem?_alterEntry_of_ne {j : Nat} (h : i ≠ j) :
    (t.alterEntry i f).entries[j]? = t.entries[j]? := by
  rw [getElem?_alterEntry, if_neg h]

@[simp] theorem places_alterEntry : (t.alterEntry i f).places = t.places := by
  simp [places, alterEntry]

theorem isPendingAt_alterEntry_of_ne {j : Nat} (h : i ≠ j) :
    (t.alterEntry i f).isPendingAt j = t.isPendingAt j := by
  simp only [isPendingAt, getElem?_alterEntry_of_ne h]

theorem forall_mem_alterEntry {P : Entry → Prop} (h : ∀ e ∈ t.entries, P e)
    (hf : ∀ e, t.entries[i]? = some e → P (f e)) : ∀ e ∈ (t.alterEntry i f).entries, P e := by
  intro e he
  obtain ⟨j, hj⟩ := (mem_entries_iff _ e).1 he
  rw [getElem?_alterEntry] at hj
  split at hj
  · rename_i hij
    subst hij
    obtain ⟨old, ho, rfl⟩ := Option.map_eq_some_iff.1 hj
    exact hf old ho
  · exact h e ((mem_entries_iff t e).2 ⟨j, hj⟩)

theorem waiting_alterEntry_head {p : Place} {rest : List Place} (h : t.waiting = p :: rest)
    (hf : ∀ e, (f e).isPending = false) : (t.alterEntry p.index f).waiting = rest := by
  obtain ⟨front, back, split, passed, -, rfl⟩ := List.filter_eq_cons_iff.1 h
  have sorted := t.places_sorted
  rw [split] at sorted
  obtain ⟨-, sortedBack, between⟩ := List.pairwise_append.1 sorted
  have behind := (List.pairwise_cons.1 sortedBack).1
  have here : (t.alterEntry p.index f).isPendingAt p.index = false := by
    cases he : t.entries[p.index]? <;> simp [isPendingAt, getElem?_alterEntry, he, hf]
  rw [waiting, places_alterEntry, split, List.filter_append, List.filter_cons_of_neg (by simp [here])]
  have hfront : front.filter (fun r => (t.alterEntry p.index f).isPendingAt r.index) = [] := by
    apply List.filter_eq_nil_iff.2
    intro r hr
    have := between r hr p (by simp)
    rw [isPendingAt_alterEntry_of_ne (by omega)]
    exact passed r hr
  have hback : back.filter (fun r => (t.alterEntry p.index f).isPendingAt r.index) =
      back.filter fun r => t.isPendingAt r.index := by
    apply List.filter_congr
    intro r hr
    have := behind r hr
    rw [isPendingAt_alterEntry_of_ne (by omega)]
  rw [hfront, hback, List.nil_append]

theorem waiting_alterEntry_of_not_pending {e : Entry} (he : t.entries[i]? = some e)
    (hp : e.isPending = false) (hf : (f e).isPending = false) :
    (t.alterEntry i f).waiting = t.waiting := by
  rw [waiting, waiting, places_alterEntry]
  apply List.filter_congr
  intro r _
  by_cases hr : i = r.index
  · subst hr
    simp [isPendingAt, getElem?_alterEntry, he, hp, hf]
  · rw [isPendingAt_alterEntry_of_ne hr]

theorem completedBefore_alterEntry_complete {j : Nat} (h : t.completedBefore j = true) :
    (t.alterEntry i Entry.complete).completedBefore j = true := by
  rw [completedBefore_iff] at h ⊢
  intro k hk e he
  rw [getElem?_alterEntry] at he
  split at he
  · obtain ⟨old, -, rfl⟩ := Option.map_eq_some_iff.1 he
    rfl
  · exact h k hk e he

theorem locals_ordered_complete {e : Entry} (he : t.entries[i]? = some e) (h : t.LocalsOrdered)
    (hl : e.kind = .localFence → t.completedBefore i = true) :
    (t.alterEntry i Entry.complete).LocalsOrdered := by
  intro j d hd hk hc
  apply completedBefore_alterEntry_complete
  rw [getElem?_alterEntry] at hd
  split at hd
  · rename_i hij
    subst hij
    obtain ⟨old, ho, rfl⟩ := Option.map_eq_some_iff.1 hd
    rw [he] at ho
    cases ho
    exact hl hk
  · exact h j d hd hk hc

theorem locals_ordered_activate {e : Entry} (he : t.entries[i]? = some e) (h : t.LocalsOrdered)
    (hp : e.isPending = true) : (t.alterEntry i Entry.activate).LocalsOrdered := by
  intro j d hd hk hc
  rw [getElem?_alterEntry] at hd
  split at hd
  · obtain ⟨old, -, rfl⟩ := Option.map_eq_some_iff.1 hd
    simp [Entry.isCompleted, Entry.activate] at hc
  · have before := (completedBefore_iff _ _).1 (h j d hd hk hc)
    rw [completedBefore_iff]
    intro k hk e' he'
    rw [getElem?_alterEntry] at he'
    split at he'
    · rename_i hik
      subst hik
      have := before _ hk e he
      simp_all [Entry.isCompleted, Entry.isPending]
    · exact before k hk e' he'

end Alter

end Task

end TensorQueue
