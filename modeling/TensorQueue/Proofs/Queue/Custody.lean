import TensorQueue.Proofs.Queue.Outline
import TensorQueue.Proofs.Queue.Reachable
import Mathlib.Data.List.Forall2

/-!
# Every request is let go once, in order, and not too early

A ledger keeps the history of a queue against its tasks. The accepted tasks are
those let go so far, each of which has its notice, and after them those still
held. What the log has to say of a descriptor is what its entry shows, so a
task that leaves as finished has had each of its transfers handed out and taken
back once.
-/

set_option autoImplicit false

namespace TensorQueue

open History

/-- What the log says of a descriptor that has come so far. -/
def Entry.dealings (p : Place) (e : Entry) : List Passage :=
  match e.progress with
  | .pending => []
  | .active => [.handedOut ⟨p.task, p.index, e.descriptor⟩]
  | .completed => [.handedOut ⟨p.task, p.index, e.descriptor⟩, .takenBack p]

theorem Entry.dealings_activate {p : Place} {e : Entry} (h : e.isPending = true) :
    e.activate.dealings p = e.dealings p ++ [.handedOut ⟨p.task, p.index, e.descriptor⟩] := by
  simp only [isPending, decide_eq_true_eq] at h
  simp [dealings, activate, h]

theorem Entry.dealings_complete {p : Place} {e : Entry} (h : e.isActive = true) :
    e.complete.dealings p = e.dealings p ++ [.takenBack p] := by
  simp only [isActive, decide_eq_true_eq] at h
  simp [dealings, complete, h]

/-- The task as it was accepted. -/
def Task.restored (t : Task) : Task := { t with entries := t.entries.map fun e => .new e.descriptor }

namespace History

/-- Every descriptor of the task but the fences was handed out once and then taken back once, and
the end of the task was reported if a global fence waits for it. -/
structure Served (log : List Passage) (t : Task) : Prop where
  dealt : ∀ (i : Nat) (e : Entry), t.entries[i]? = some e → e.kind.isFence = false →
    dealings log ⟨t.number, i⟩ =
      [.handedOut ⟨t.number, i, e.descriptor⟩, .takenBack ⟨t.number, i⟩]
  reported : ∀ e ∈ t.entries, e.kind = .globalFence → .reported t.number ∈ log

/-- The notice is for this task, and calls it finished only if it was served. -/
def Settles (log : List Passage) (n : Notice) (t : Task) : Prop :=
  n.ticket = t.ticket ∧ (n.ending = .finished → Served log t)

theorem Served.concat {log : List Passage} {x : Passage} {t : Task} (h : Served log t)
    (hx : ∀ i, x.concerns ⟨t.number, i⟩ = false) : Served (log ++ [x]) t where
  dealt i e he hk := by
    rw [dealings_concat_of_not (hx i)]
    exact h.dealt i e he hk
  reported e he hk := List.mem_append_left _ (h.reported e he hk)

end History

section Restored

variable {t : Task}

@[simp] theorem Task.number_restored : t.restored.number = t.number := rfl

@[simp] theorem Task.ticket_restored : t.restored.ticket = t.ticket := rfl

theorem Task.getElem?_restored (j : Nat) :
    t.restored.entries[j]? = t.entries[j]?.map fun e => .new e.descriptor := by
  simp [restored]

@[simp] theorem Task.restored_outline : t.outline.restored = t.restored := by
  simp [restored, outline]

theorem Task.restored_new {n : UInt64} {ticket : Ticket} {ds : List Descriptor} :
    (Task.new n ticket ds).restored = Task.new n ticket ds := by
  simp [restored, new, Entry.new]

theorem Task.restored_touch {p : Place} {f : Entry → Entry}
    (hf : ∀ e, (f e).descriptor = e.descriptor) : (Queue.touch p f t).restored = t.restored := by
  refine eq_of_entries (Queue.number_touch t) ?_ fun j => ?_
  · unfold Queue.touch
    split <;> rfl
  · rw [getElem?_restored, getElem?_restored, Queue.touch]
    split
    · rw [getElem?_alterEntry]
      split
      · rw [Option.map_map]
        congr 1
        funext e
        simp [hf]
      · rfl
    · rfl

end Restored

namespace Chronicle

structure Ledger (log : List Passage) (owed : List Notice) (q : Queue) : Prop where
  numbered : (accepted log).map (fun t => t.number.toNat) = List.range (accepted log).length
  split : ∃ gone, gone ++ q.held.map Task.restored = accepted log ∧
    List.Forall₂ (Settles log) (notices log ++ owed) gone
  dealt : ∀ t ∈ q.outlines, ∀ (i : Nat) (e : Entry), t.entries[i]? = some e →
    dealings log ⟨t.number, i⟩ = e.dealings ⟨t.number, i⟩
  unborn : ∀ p : Place, (accepted log).length ≤ p.task.toNat → dealings log p = []
  rested : ∀ t ∈ q.completed, .reported t.number ∈ log

section Ledger

variable {log : List Passage} {owed : List Notice} {q r : Queue} {x : Passage}

theorem restored_outlines (q : Queue) :
    q.outlines.map Task.restored = q.held.map Task.restored := by
  rw [Queue.outlines, List.map_map]
  exact List.map_congr_left fun _ _ => Task.restored_outline

theorem restored_of_touch {p : Place} {f : Entry → Entry}
    (ho : r.outlines = q.outlines.map (Queue.touch p f))
    (hf : ∀ e, (f e).descriptor = e.descriptor) :
    r.held.map Task.restored = q.held.map Task.restored := by
  rw [← restored_outlines, ho, List.map_map, ← restored_outlines]
  exact List.map_congr_left fun t _ => Task.restored_touch hf

theorem settles_mono {more : List Passage} {ns : List Notice} {ts : List Task}
    (h : List.Forall₂ (Settles log) ns ts) (keep : ∀ t ∈ ts, Served log t → Served more t) :
    List.Forall₂ (Settles more) ns ts := by
  induction h with
  | nil => exact .nil
  | @cons n t ns ts hs _ ih =>
    refine .cons ⟨hs.1, fun hf => ?_⟩ (ih fun u hu => keep u (List.mem_cons_of_mem _ hu))
    exact keep t List.mem_cons_self (hs.2 hf)

theorem rested_of_numbers {more : List Passage} (h : ∀ t ∈ q.completed, .reported t.number ∈ log)
    (hc : r.completed.map Task.number = q.completed.map Task.number)
    (hp : log <+: more) : ∀ t ∈ r.completed, .reported t.number ∈ more := by
  have numbers : ∀ n ∈ r.completed.map Task.number, .reported n ∈ more := by
    rw [hc]
    intro n hn
    obtain ⟨t, ht, rfl⟩ := List.mem_map.1 hn
    exact hp.subset (h t ht)
  exact fun t ht => numbers _ (List.mem_map_of_mem ht)

theorem Ledger.start : Ledger [] [] Queue.new where
  numbered := rfl
  split := ⟨[], rfl, .nil⟩
  dealt := by simp [Queue.outlines, Queue.held, Queue.flying, Queue.new]
  unborn _ _ := rfl
  rested := by simp [Queue.new]

theorem Ledger.of_outlines (h : Ledger log owed q) (ho : r.outlines = q.outlines)
    (hr : ∀ t ∈ r.completed, .reported t.number ∈ log) : Ledger log owed r where
  numbered := h.numbered
  split := by
    rw [← restored_outlines, ho, restored_outlines]
    exact h.split
  dealt := by
    rw [ho]
    exact h.dealt
  unborn := h.unborn
  rested := hr

theorem Ledger.number_nodup (h : Ledger log owed q) :
    ((accepted log).map Task.number).Nodup := by
  have hnat : ((accepted log).map fun t => t.number.toNat).Nodup := by
    rw [h.numbered]
    exact List.nodup_range
  rw [show (fun t : Task => t.number.toNat) = UInt64.toNat ∘ Task.number from rfl,
    ← List.map_map] at hnat
  exact hnat.of_map _

/-- Those let go are the first of the accepted tasks, so the numbers of those held are the last. -/
theorem Ledger.consecutive (h : Ledger log owed q)
    (counted : (accepted log).length = q.nextTask.toNat) : q.Consecutive := by
  obtain ⟨gone, hgone, -⟩ := h.split
  have numbers : (q.held.map Task.restored).map (fun t => t.number.toNat) =
      q.held.map fun t => t.number.toNat := by
    rw [List.map_map]
    rfl
  have total := congrArg List.length hgone
  simp only [List.length_append, List.length_map] at total
  have all := h.numbered
  rw [← hgone, List.map_append, numbers, hgone, List.range_eq_range'] at all
  obtain ⟨k, hk, hfront, hback⟩ := List.range'_eq_append_iff.1 all.symm
  have front : k = gone.length := by simpa using (congrArg List.length hfront).symm
  refine ⟨by omega, ?_⟩
  rw [hback, front]
  congr 1 <;> omega

theorem Ledger.restored_mem (h : Ledger log owed q) {t : Task} (ht : t ∈ q.held) :
    t.restored ∈ accepted log := by
  obtain ⟨gone, hgone, -⟩ := h.split
  rw [← hgone]
  exact List.mem_append_right _ (List.mem_map_of_mem ht)

theorem Ledger.restored_eq (h : Ledger log owed q) {t u : Task} (ht : t.restored ∈ accepted log)
    (hu : u ∈ accepted log) (hn : t.number = u.number) : t.restored = u :=
  List.inj_on_of_nodup_map h.number_nodup ht hu hn

/-- Every task has a number of its own, and those held have not left. -/
theorem Ledger.apart (h : Ledger log owed q) {gone : List Task}
    (hs : gone ++ q.held.map Task.restored = accepted log) :
    (∀ t ∈ gone, ∀ u ∈ q.outlines, t.number ≠ u.number) ∧
      (q.outlines.map Task.number).Nodup ∧
      ∀ u ∈ q.outlines, u.number.toNat < (accepted log).length := by
  have hnodup := h.number_nodup
  rw [← restored_outlines] at hs
  have hall : gone.map Task.number ++ q.outlines.map Task.number =
      (accepted log).map Task.number := by
    rw [← hs, List.map_append, List.map_map]
    rfl
  rw [← hall] at hnodup
  obtain ⟨-, hheld, hapart⟩ := List.nodup_append.1 hnodup
  refine ⟨?_, hheld, ?_⟩
  · intro t ht u hu
    exact hapart _ (List.mem_map_of_mem ht) _ (List.mem_map_of_mem hu)
  · intro u hu
    have hmem : u.restored ∈ accepted log := by
      rw [← hs]
      exact List.mem_append_right _ (List.mem_map_of_mem hu)
    have hrange : u.number.toNat ∈ List.range (accepted log).length := by
      rw [← h.numbered]
      exact List.mem_map.2 ⟨u.restored, hmem, rfl⟩
    exact List.mem_range.1 hrange

section Deal

variable {p : Place} {f : Entry → Entry} {e : Entry}

theorem dealings_other (hx : ∀ a, x.concerns a = true ↔ a = p) {a : Place} (ha : a ≠ p) :
    dealings (log ++ [x]) a = dealings log a :=
  dealings_concat_of_not (Bool.eq_false_iff.2 fun hxa => ha ((hx a).1 hxa))

theorem Ledger.dealt_touch (h : Ledger log owed q) (hs : Queue.Stands q.outlines p e)
    (hnodup : (q.outlines.map Task.number).Nodup) (hx : ∀ a, x.concerns a = true ↔ a = p)
    (he : (f e).dealings p = e.dealings p ++ [x]) :
    ∀ t ∈ q.outlines.map (Queue.touch p f), ∀ (i : Nat) (d : Entry), t.entries[i]? = some d →
      dealings (log ++ [x]) ⟨t.number, i⟩ = d.dealings ⟨t.number, i⟩ := by
  obtain ⟨u, hu, hun, hue⟩ := hs
  intro t hmem i d hd
  obtain ⟨v, hv, rfl⟩ := List.mem_map.1 hmem
  rw [Queue.number_touch]
  rw [Queue.touch] at hd
  by_cases hvn : v.number = p.task
  · have hvu : v = u := List.inj_on_of_nodup_map hnodup hv hu (hvn.trans hun.symm)
    subst hvu
    rw [if_pos hvn, Task.getElem?_alterEntry] at hd
    by_cases hi : p.index = i
    · subst hi
      have hp : (⟨v.number, p.index⟩ : Place) = p := by rw [hvn]
      have hold := h.dealt v hv _ _ hue
      rw [if_pos rfl, hue] at hd
      cases hd
      rw [hp] at hold ⊢
      rw [he, dealings_concat ((hx p).2 rfl), hold]
    · rw [if_neg hi] at hd
      rw [dealings_other hx fun ha => hi (congrArg Place.index ha).symm]
      exact h.dealt v hv i d hd
  · rw [if_neg hvn] at hd
    rw [dealings_other hx fun ha => hvn (congrArg Place.task ha)]
    exact h.dealt v hv i d hd

/-- A descriptor moves on by one passage, and the log tells of it. -/
theorem Ledger.deal (h : Ledger log owed q) (hs : Queue.Stands q.outlines p e)
    (ho : r.outlines = q.outlines.map (Queue.touch p f))
    (hc : r.completed.map Task.number = q.completed.map Task.number)
    (hx : ∀ a, x.concerns a = true ↔ a = p) (ht : x.task? = none) (hn : x.notice? = none)
    (hf : ∀ e, (f e).descriptor = e.descriptor)
    (he : (f e).dealings p = e.dealings p ++ [x]) : Ledger (log ++ [x]) owed r := by
  have same : accepted (log ++ [x]) = accepted log := by simp [accepted_concat, ht]
  have restored := restored_of_touch ho hf
  obtain ⟨gone, hgone, hsettles⟩ := h.split
  obtain ⟨hapart, hnodup, hlt⟩ := h.apart hgone
  obtain ⟨u, hu, hun, -⟩ := id hs
  constructor
  case numbered =>
    rw [same]
    exact h.numbered
  case split =>
    refine ⟨gone, by rw [same, restored, hgone], ?_⟩
    rw [notices_concat, hn, Option.toList_none, List.append_nil]
    refine settles_mono hsettles fun t hmem hserved => hserved.concat fun i => ?_
    refine Bool.eq_false_iff.2 fun hxa => hapart t hmem u hu ?_
    exact (congrArg Place.task ((hx _).1 hxa)).trans hun.symm
  case dealt =>
    rw [ho]
    exact h.dealt_touch hs hnodup hx he
  case unborn =>
    intro a ha
    rw [same] at ha
    have hne : a ≠ p := by
      rintro rfl
      have := hlt u hu
      rw [hun] at this
      omega
    rw [dealings_other hx hne]
    exact h.unborn a ha
  case rested => exact rested_of_numbers h.rested hc (List.prefix_append _ _)

end Deal

theorem Ledger.pass (h : Ledger log owed q) {left : List Notice} (ht : x.task? = none)
    (hx : ∀ a, x.concerns a = false) (hn : x.notice?.toList ++ left = owed) :
    Ledger (log ++ [x]) left q := by
  have same : accepted (log ++ [x]) = accepted log := by simp [accepted_concat, ht]
  obtain ⟨gone, hgone, hsettles⟩ := h.split
  constructor
  case numbered =>
    rw [same]
    exact h.numbered
  case split =>
    refine ⟨gone, by rw [same, hgone], ?_⟩
    rw [notices_concat, List.append_assoc, hn]
    exact settles_mono hsettles fun t _ hserved => hserved.concat fun i => hx _
  case dealt =>
    intro t hmem i e he
    rw [dealings_concat_of_not (hx _)]
    exact h.dealt t hmem i e he
  case unborn =>
    intro a ha
    rw [same] at ha
    rw [dealings_concat_of_not (hx a)]
    exact h.unborn a ha
  case rested => exact fun t hmem => List.mem_append_left _ (h.rested t hmem)

/-- A drained task has been served: it came to rest after a report, or no global fence is in it. -/
theorem Ledger.served (h : Ledger log owed q) (hq : q.Framed) {t : Task} (hm : t ∈ q.held)
    (hd : t.isDrained = true) (hw : t ∈ q.completed ∨ t ∈ q.active) : Served log t.restored where
  dealt := by
    intro i e he hk
    rw [Task.getElem?_restored] at he
    obtain ⟨d, hentry, rfl⟩ := Option.map_eq_some_iff.1 he
    have hc := (Task.isDrained_iff t).1 hd d ((Task.mem_entries_iff t d).2 ⟨i, hentry⟩)
    have houtline : t.outline.entries[i]? = some d := by
      rw [Task.getElem?_outline, hentry, Option.map_some, Entry.outline_of_not_fence (e := d) hk]
    have := h.dealt t.outline (List.mem_map_of_mem hm) i d houtline
    simp only [Entry.isCompleted, decide_eq_true_eq] at hc
    simpa [Entry.dealings, hc, Entry.new] using this
  reported := by
    intro e he hk
    obtain ⟨i, hi⟩ := (Task.mem_entries_iff _ e).1 he
    rw [Task.getElem?_restored] at hi
    obtain ⟨d, hentry, rfl⟩ := Option.map_eq_some_iff.1 hi
    have hmem := (Task.mem_entries_iff t d).2 ⟨i, hentry⟩
    rcases hw with hw | hw
    · exact h.rested t hw
    · have hp := hq.guarded t (List.mem_append_left _ hw) d hmem hk
      have hc := (Task.isDrained_iff t).1 hd d hmem
      simp only [Entry.isCompleted, Entry.isPending, decide_eq_true_eq] at hc hp
      rw [hc] at hp
      cases hp

theorem Ledger.leave (h : Ledger log [] q) (hq : q.Framed) {ts : List Ticket}
    (hl : q.Leaves ts r) : Ledger log (finished ts) r := by
  obtain ⟨leaving, hheld, rfl, hdrained, hcompleted, -⟩ := hl
  obtain ⟨gone, hgone, hsettles⟩ := h.split
  constructor
  case numbered => exact h.numbered
  case split =>
    refine ⟨gone ++ leaving.map Task.restored, ?_, ?_⟩
    · rw [List.append_assoc, ← List.map_append, hheld, hgone]
    · rw [List.append_nil] at hsettles
      refine List.rel_append hsettles ?_
      rw [finished, List.map_map, List.forall₂_map_left_iff, List.forall₂_map_right_iff,
        List.forall₂_same]
      intro t ht
      have hm : t ∈ q.held := by
        rw [← hheld]
        exact List.mem_append_left _ ht
      exact ⟨rfl, fun _ => h.served hq hm (hdrained t ht).1 (hdrained t ht).2⟩
  case dealt =>
    intro t ht
    apply h.dealt t
    rw [Queue.outlines, ← hheld, List.map_append]
    exact List.mem_append_right _ ht
  case unborn => exact h.unborn
  case rested => exact fun t ht => h.rested t (hcompleted t ht)

theorem Ledger.drain (h : Ledger log [] q) :
    Ledger (log ++ [.drained]) (cancelled q.drain.1) q.drain.2 := by
  have passed : Ledger (log ++ [.drained]) [] q := h.pass rfl (fun _ => rfl) rfl
  obtain ⟨gone, hgone, hsettles⟩ := passed.split
  constructor
  case numbered => exact passed.numbered
  case split =>
    refine ⟨gone ++ q.held.map Task.restored, by rw [hgone]; exact List.append_nil _, ?_⟩
    rw [List.append_nil] at hsettles
    refine List.rel_append hsettles ?_
    rw [(Queue.drain_leaves_nothing q).1, cancelled, List.map_map, List.forall₂_map_left_iff,
      List.forall₂_map_right_iff, List.forall₂_same]
    intro t _
    exact ⟨rfl, fun hf => by cases hf⟩
  case dealt => simp [Queue.outlines, (Queue.drain_leaves_nothing q).2]
  case unborn => exact passed.unborn
  case rested => simp [Queue.drain]

theorem Ledger.accept (h : Ledger log owed q) {ticket : Ticket} {ds : List Descriptor}
    (hn : q.nextTask.toNat = (accepted log).length) (hs : q.submit ticket ds = .ok r) :
    Ledger (log ++ [.accepted ⟨q.nextTask, ticket, ds⟩]) owed r := by
  obtain ⟨-, -, rfl⟩ := Queue.submit_eq_ok_iff.1 hs
  obtain ⟨gone, hgone, hsettles⟩ := h.split
  have grown : accepted (log ++ [.accepted ⟨q.nextTask, ticket, ds⟩]) =
      accepted log ++ [Task.new q.nextTask ticket ds] := accepted_concat
  have same : ∀ a, dealings (log ++ [.accepted ⟨q.nextTask, ticket, ds⟩]) a =
      dealings log a := fun _ => dealings_concat_of_not rfl
  have fresh : (Task.new q.nextTask ticket ds).Fresh := Task.fresh_new
  constructor
  case numbered =>
    rw [grown, List.map_append, h.numbered, List.length_append, List.length_singleton,
      List.range_succ, ← hn]
    rfl
  case split =>
    refine ⟨gone, ?_, ?_⟩
    · rw [grown, ← hgone]
      simp [Queue.held, Queue.flying, Task.restored_new]
    · have told : notices (log ++ [.accepted ⟨q.nextTask, ticket, ds⟩]) = notices log := by
        simp [notices_concat, Passage.notice?]
      rw [told]
      exact settles_mono hsettles fun t _ hserved => hserved.concat fun _ => rfl
  case dealt =>
    intro t ht i e he
    rw [same]
    have ht' : t ∈ q.outlines ++ [(Task.new q.nextTask ticket ds).outline] := by
      simpa [Queue.outlines, Queue.held, Queue.flying] using ht
    rcases List.mem_append.1 ht' with ht' | ht'
    · exact h.dealt t ht' i e he
    · rw [List.mem_singleton.1 ht', fresh.outline_eq_self] at he ⊢
      have hp := fresh e ((Task.mem_entries_iff _ e).2 ⟨i, he⟩)
      rw [h.unborn]
      · simp only [Entry.isPending, decide_eq_true_eq] at hp
        rw [Entry.dealings, hp]
      · exact Nat.le_of_eq hn.symm
  case unborn =>
    intro a ha
    rw [grown, List.length_append, List.length_singleton] at ha
    rw [same]
    exact h.unborn a (by omega)
  case rested => exact fun t ht => List.mem_append_left _ (h.rested t ht)

theorem ledger_of_beat {x y : Moment} (h : Beat x y) (hs : Steady x)
    (hl : Ledger x.log x.owed x.queue) : Ledger y.log y.owed y.queue := by
  obtain ⟨sound, counted⟩ := hs
  cases h with
  | openUp ho =>
    rw [(Queue.openUp_eq_ok_iff.1 ho).2]
    exact hl.of_outlines rfl hl.rested
  | shut hs =>
    rw [(Queue.shut_eq_ok_iff.1 hs).2]
    exact hl.of_outlines rfl hl.rested
  | submit hs => exact hl.accept counted.symm hs
  | idle hn =>
    obtain ⟨m, framed, outlines, numbers, leaves⟩ := sound.next_idle hn
    have rested := rested_of_numbers hl.rested numbers List.prefix_rfl
    exact (hl.of_outlines outlines rested).leave framed leaves
  | @handOut q log k hn =>
    obtain ⟨⟨e, stands, hp, -, hd⟩, m, framed, outlines, numbers, leaves⟩ := sound.next_handOut hn
    have moves : e.activate.dealings ⟨k.task, k.index⟩ =
        e.dealings ⟨k.task, k.index⟩ ++ [.handedOut k] := by
      rw [Entry.dealings_activate hp, hd]
    exact (hl.deal stands outlines numbers Passage.concerns_handedOut rfl rfl (fun _ => rfl)
      moves).leave framed leaves
  | @takeBack q r log k ts hc =>
    obtain ⟨⟨e, stands, ha⟩, m, framed, outlines, numbers, leaves⟩ := sound.complete_outlines hc
    exact (hl.deal stands outlines numbers Passage.concerns_takenBack rfl rfl (fun _ => rfl)
      (Entry.dealings_complete ha)).leave framed leaves
  | @report q r log ts t ha hf =>
    obtain ⟨m, framed, outlines, numbers, leaves⟩ := sound.finishRequest_outlines ha hf
    have passed : Ledger (log ++ [.reported t.number]) [] q := hl.pass rfl (fun _ => rfl) rfl
    refine (passed.of_outlines outlines fun u hu => ?_).leave framed leaves
    have hmem := List.mem_map_of_mem (f := Task.number) hu
    rw [numbers, List.mem_append, List.mem_singleton] at hmem
    rcases hmem with hmem | hmem
    · obtain ⟨v, hv, hn⟩ := List.mem_map.1 hmem
      rw [← hn]
      exact passed.rested v hv
    · rw [hmem]
      exact List.mem_append_right _ List.mem_cons_self
  | drain => exact hl.drain
  | notify => exact hl.pass rfl (fun _ => rfl) rfl

end Ledger

section Runs

variable {W : Type} [Watchdog W] {w : W} {ts : List Turn} {c : Chronicle W}

theorem run_ledger (h : run ts (begin w) = some c) (hb : Bounded c.passages) :
    Ledger c.passages [] c.scheduler.queue := by
  have both : Steady (c.moment []) ∧ Ledger c.passages [] c.scheduler.queue := by
    refine run_keeps (P := fun x => Steady x ∧ Ledger x.log x.owed x.queue)
      ⟨steady_begin, Ledger.start⟩ ?_ h hb
    intro x y beat bounded kept
    exact ⟨steady_of_beat beat bounded kept.1, ledger_of_beat beat kept.1 kept.2⟩
  exact both.2

/-- After every run in which no call is aborted the four lists of the queue fit together, and the
numbers of the tasks held are consecutive. -/
theorem queue_sound_of_run (h : run ts (begin w) = some c) (hb : Bounded c.passages) :
    c.scheduler.queue.Sound ∧ c.scheduler.queue.Consecutive :=
  ⟨(run_steady h hb).sound, (run_ledger h hb).consecutive (run_steady h hb).counted⟩

/-- One request with a transfer and a global fence, and another one submitted by its callback. -/
def errand : List Turn :=
  [⟨.openUp, []⟩,
    ⟨.submit ⟨default, .ok [⟨.instruction, 0, 64⟩, Descriptor.marker .globalFence]⟩, []⟩,
    ⟨.next, []⟩, ⟨.finishRequest, []⟩,
    ⟨.complete ⟨0, 0, ⟨.instruction, 0, 64⟩⟩, [[⟨default, .ok [⟨.instruction, 64, 64⟩]⟩]]⟩]

theorem queue_sound_after_errand : ∃ c : Chronicle Watchdog.Idle,
    run errand (begin ⟨⟩) = some c ∧ Bounded c.passages ∧ c.scheduler.queue.Sound ∧
      c.scheduler.queue.Consecutive := by
  have count : (run errand (begin Watchdog.Idle.mk)).map (fun c =>
      (accepted c.passages).length) = some 2 := by
    decide +kernel
  obtain ⟨c, h, hc⟩ := Option.map_eq_some_iff.1 count
  have hb : Bounded c.passages := by
    rw [Bounded, hc]
    decide
  exact ⟨c, h, hb, queue_sound_of_run h hb⟩

/-- After every run the notices given answer, one by one, the first of the accepted tasks, and the
tasks held are the others. A task is called finished only once it was served. -/
theorem requests_settled_in_order (h : run ts (begin w) = some c) (hb : Bounded c.passages) :
    (accepted c.passages).map (fun t => t.number.toNat) =
        List.range (accepted c.passages).length ∧
      ∃ gone, gone ++ c.scheduler.queue.held.map Task.restored = accepted c.passages ∧
        List.Forall₂ (Settles c.passages) (notices c.passages) gone := by
  have ledger := run_ledger h hb
  obtain ⟨gone, hgone, hsettles⟩ := ledger.split
  rw [List.append_nil] at hsettles
  exact ⟨ledger.numbered, gone, hgone, hsettles⟩

theorem errand_settled_in_order : ∃ c : Chronicle Watchdog.Idle,
    run errand (begin ⟨⟩) = some c ∧ Bounded c.passages ∧ (notices c.passages).length = 1 ∧
      ∃ gone, gone ++ c.scheduler.queue.held.map Task.restored = accepted c.passages ∧
        List.Forall₂ (Settles c.passages) (notices c.passages) gone := by
  have counts : (run errand (begin Watchdog.Idle.mk)).map (fun c =>
      ((accepted c.passages).length, (notices c.passages).length)) = some (2, 1) := by
    decide +kernel
  obtain ⟨c, h, hc⟩ := Option.map_eq_some_iff.1 counts
  obtain ⟨entered, told⟩ := Prod.mk.inj hc
  have hb : Bounded c.passages := by
    rw [Bounded, entered]
    decide
  exact ⟨c, h, hb, told, (requests_settled_in_order h hb).2⟩

end Runs

end Chronicle

end TensorQueue
