import TensorQueue.Proofs.Queue.Calm
import TensorQueue.Proofs.Queue.Reachable
import TensorQueue.Proofs.Queue.Stillness

/-!
# An open queue never gets stuck

If looking for work gives nothing, then there is no work, or the hardware still
has some, or the queue has come to a global fence. Callbacks that run before
the call returns may submit; what they submit waits behind all this. A global
fence that is reached while the hardware has nothing belongs to the only task in
flight, and a report that this task is done gets the queue past it.
-/

set_option autoImplicit false

namespace TensorQueue

open Dispatcher History

/-- Of what there was nothing is left. These tasks have come since, and wait. -/
structure Queue.HoldsOnly (q : Queue) (new : List Task) : Prop where
  flying : q.flying = []
  ready : q.ready = []
  pending : q.pending = new

namespace Chronicle

variable {W : Type}

/-- Only submissions lie in between, and these are the tasks that were accepted. -/
structure Joined (c d : Chronicle W) (new : List Task) : Prop where
  queue : ∃ number, d.scheduler.queue =
    { c.scheduler.queue with nextTask := number, pending := c.scheduler.queue.pending ++ new }
  log : accepted d.passages = accepted c.passages ++ new

section Callbacks

variable {c d e : Chronicle W} {new more : List Task}

theorem Joined.refl (c : Chronicle W) : Joined c c [] where
  queue := ⟨c.scheduler.queue.nextTask, by rw [List.append_nil]⟩
  log := (List.append_nil _).symm

theorem Joined.trans (h : Joined c d new) (h' : Joined d e more) : Joined c e (new ++ more) where
  queue := by
    obtain ⟨n, hq⟩ := h.queue
    obtain ⟨m, hq'⟩ := h'.queue
    exact ⟨m, by rw [hq', hq, List.append_assoc]⟩
  log := by rw [h'.log, h.log, List.append_assoc]

theorem note_notified_joined (n : Notice) : Joined c (c.note (.notified n)) [] where
  queue := (Joined.refl c).queue
  log := accepted_concat

variable [Watchdog W]

theorem submit_joined {offer : Offer} {reply : Reply}
    (h : perform (.submit offer) c = some (reply, d)) : ∃ new, Joined c d new := by
  obtain ⟨-, rfl | ⟨ds, q, marks, hq, rfl⟩⟩ := submit_inversion h
  · exact ⟨[], Joined.refl d⟩
  · obtain ⟨-, -, rfl⟩ := Queue.submit_eq_ok_iff.1 hq
    exact ⟨_, ⟨⟨_, rfl⟩, accepted_concat⟩⟩

theorem submitAll_joined (offers : List Offer) : ∀ {c d : Chronicle W},
    submitAll offers c = some d → ∃ new, Joined c d new := by
  induction offers with
  | nil =>
    intro c d h
    cases h
    exact ⟨[], Joined.refl c⟩
  | cons offer rest ih =>
    intro c d h
    obtain ⟨⟨reply, e⟩, he, hd⟩ := Option.bind_eq_some_iff.1 h
    obtain ⟨new, first⟩ := submit_joined he
    obtain ⟨more, others⟩ := ih hd
    exact ⟨new ++ more, first.trans others⟩

theorem answer_joined (told : List Notice) : ∀ (inside : List (List Offer)) {c d : Chronicle W},
    answer told inside c = some d → ∃ new, Joined c d new := by
  induction told with
  | nil =>
    intro inside c d h
    cases h
    exact ⟨[], Joined.refl c⟩
  | cons n rest ih =>
    intro inside c d h
    obtain ⟨e, he, hd⟩ := Option.bind_eq_some_iff.1 h
    obtain ⟨new, first⟩ := submitAll_joined _ he
    obtain ⟨more, others⟩ := ih _ hd
    exact ⟨[] ++ new ++ more, ((note_notified_joined n).trans first).trans others⟩

end Callbacks

variable [Watchdog W]

/-- A report that the oldest task is done ends this task and no other one. Unless the watchdog is
aborted by being disarmed, the call returns. -/
structure Passes (d : Chronicle W) (t : Task) : Prop where
  ends : ∀ reply f, perform .finishRequest d = some (reply, f) →
    reply = ⟨none, finished [t.ticket]⟩ ∧ t :: f.scheduler.queue.held = d.scheduler.queue.held
  returns : (Watchdog.deactivate (W := W)).Answers d.scheduler.watchdog →
    (perform .finishRequest d).isSome = true

section Fence

variable {d : Chronicle W} {t : Task} {p : Place} {rest : List Place}

theorem passes_of_alone (hi : d.scheduler.queue.hasActive = false)
    (ha : d.scheduler.queue.Alone t p rest) (hp : t.hasPendingTransfers = false) : Passes d t where
  ends := by
    have done := ha.finishRequest hi hp
    intro reply f h
    rw [perform] at h
    change attempt (Scheduler.progress Queue.finishRequest) _ d = _ at h
    rcases Scheduler.progress_cases Queue.finishRequest d.scheduler with
      ⟨ts, q, hq, w, marks, hs | ⟨cause, hs⟩⟩ | ⟨cause, hq, -⟩
    · rw [done] at hq
      obtain ⟨rfl, rfl⟩ := Prod.mk.inj (Except.ok.inj hq)
      rw [attempt_of_ok hs] at h
      cases h
      refine ⟨rfl, ?_⟩
      simp only [report, ha.active, List.head?_cons, Option.map_some]
      simp [note, Queue.held, Queue.flying, ha.completed, ha.active]
    · rw [attempt_of_abort hs] at h
      cases h
    · rw [done] at hq
      cases hq
  returns := by
    intro answers
    have done := ha.finishRequest hi hp
    obtain ⟨w, hk⟩ := Scheduler.kick_disarms
      (s := { d.scheduler with queue := { d.scheduler.queue with ready := [], active := [] } })
      (by simp [Queue.inFlight, ha.completed]) answers
    rw [perform]
    change (attempt (Scheduler.progress Queue.finishRequest) _ d).isSome = true
    rw [attempt_of_ok (Scheduler.progress_of_kick done hk)]
    rfl

end Fence

section Runs

variable {w : W} {ts : List Turn} {c d e : Chronicle W}

/-- If an open scheduler finds nothing to hand out, then it is empty, or a descriptor is with the
hardware, or a global fence comes next. Once the callbacks have run, it may instead hold what they
submitted and nothing else. The global fence is then no trap: if nothing is with the hardware, it
belongs to the oldest active task, no completed task waits, and if only fences are behind it, a
report that the task is done ends this task. -/
theorem nothing_to_hand_out {told : List Notice} {inside : List (List Offer)}
    (h : run ts (begin w) = some c) (hb : Bounded c.passages)
    (ho : c.scheduler.queue.isOpen = true) (hn : perform .next c = some (⟨none, told⟩, e))
    (hi : answer told inside e = some d) :
    (e.scheduler.queue.isEmpty = true ∨ e.scheduler.queue.hasActive = true ∨
      e.scheduler.queue.atGlobalFence = true) ∧
    (∃ new, accepted d.passages = accepted c.passages ++ new ∧
      (d.scheduler.queue.HoldsOnly new ∨ d.scheduler.queue.hasActive = true ∨
        d.scheduler.queue.atGlobalFence = true)) ∧
    (d.scheduler.queue.atGlobalFence = true → d.scheduler.queue.hasActive = false →
      ∃ t p rest fence, d.scheduler.queue.Alone t p rest ∧
        t.entries[p.index]? = some fence ∧ fence.kind = .globalFence ∧
        ((∀ j, p.index < j → ∀ x, t.entries[j]? = some x → x.kind.isFence = true) →
          Passes d t)) := by
  have sound : c.scheduler.queue.Sound := (run_steady h hb).sound
  obtain ⟨handle, queue, -⟩ := next_beat hn
  have nothing : c.scheduler.queue.next.handle = none := handle.symm
  have cases := sound.next_none_cases ho nothing
  have after := Queue.next_sound sound
  rw [← queue] at cases after
  obtain ⟨new, ⟨number, hq⟩, log⟩ := answer_joined told inside hi
  have kept : accepted e.passages = accepted c.passages := by
    rcases Scheduler.next_cases c.scheduler with ⟨w, marks, hs⟩ | ⟨cause, q, w, marks, hs, -⟩
    · rw [perform, attempt_of_ok hs, nothing] at hn
      cases hn
      rfl
    · rw [perform, attempt_of_abort hs] at hn
      cases hn
  -- submissions change neither what is in flight nor what is ready
  have active : d.scheduler.queue.hasActive = e.scheduler.queue.hasActive := by rw [hq]; rfl
  have fence : d.scheduler.queue.atGlobalFence = e.scheduler.queue.atGlobalFence := by rw [hq]; rfl
  refine ⟨cases, ⟨new, by rw [log, kept], ?_⟩, fun hf ha => ?_⟩
  · rw [active, fence]
    refine cases.imp_left fun empty => ?_
    obtain ⟨held, ready⟩ := Queue.isEmpty_iff.1 empty
    obtain ⟨flying, pending⟩ := List.append_eq_nil_iff.1 held
    refine ⟨?_, ?_, ?_⟩ <;> rw [hq]
    · exact flying
    · exact ready
    · simp [pending]
  · rw [fence] at hf
    have still := active.symm.trans ha
    rcases after.still_cases still with ⟨-, hready⟩ | ⟨t, p, rest, alone⟩
    · simp [Queue.atGlobalFence, hready] at hf
    · obtain ⟨x, hx, hk⟩ := alone.atGlobalFence_iff.1 hf
      have alone' : d.scheduler.queue.Alone t p rest := by
        rw [hq]
        exact ⟨alone.completed, alone.active, alone.ready, alone.owner, alone.waiting⟩
      refine ⟨t, p, rest, x, alone', hx, hk, fun behind => passes_of_alone ha alone' ?_⟩
      exact Task.no_pending_transfers alone.waiting hx (by rw [hk]; rfl) behind

/-- A transfer in front of a global fence, done by the hardware. -/
def impasse : List Turn :=
  [⟨.openUp, []⟩,
    ⟨.submit ⟨default, .ok [⟨.instruction, 0, 64⟩, Descriptor.marker .globalFence]⟩, []⟩,
    ⟨.next, []⟩, ⟨.complete ⟨0, 0, ⟨.instruction, 0, 64⟩⟩, []⟩]

theorem impasse_passed : ∃ c d e : Chronicle Watchdog.Idle,
    run impasse (begin ⟨⟩) = some c ∧ Bounded c.passages ∧ c.scheduler.queue.isOpen = true ∧
      perform .next c = some (⟨none, []⟩, e) ∧ answer [] [] e = some d ∧
      d.scheduler.queue.hasActive = false ∧ d.scheduler.queue.atGlobalFence = true ∧
      ∃ t, d.scheduler.queue.active = [t] ∧ Passes d t := by
  have seen : (run impasse (begin Watchdog.Idle.mk)).bind (fun c =>
      (perform .next c).map fun out => decide ((accepted c.passages).length = 1 ∧
        c.scheduler.queue.isOpen = true ∧ out.1.handle = none ∧ out.1.notices = [] ∧
        out.2.scheduler.queue.hasActive = false ∧ out.2.scheduler.queue.atGlobalFence = true ∧
        out.2.scheduler.queue.ready.map Place.index = [1] ∧
        out.2.scheduler.queue.active.map (fun t => t.entries.size) = [2])) = some true := by
    decide +kernel
  obtain ⟨c, h, hc⟩ := Option.bind_eq_some_iff.1 seen
  obtain ⟨⟨⟨handle, told⟩, e⟩, hn, he⟩ := Option.map_eq_some_iff.1 hc
  obtain ⟨one, isOpen, rfl, rfl, still, fence, index, size⟩ := of_decide_eq_true he
  have hb : Bounded c.passages := by
    rw [Bounded, one]
    decide
  obtain ⟨-, -, passes⟩ := nothing_to_hand_out h hb isOpen hn (rfl : answer [] [] e = some e)
  obtain ⟨t, p, rest, x, alone, hx, hk, behind⟩ := passes fence still
  refine ⟨c, e, e, h, hb, isOpen, hn, rfl, still, fence, t, alone.active, behind fun j hj y hy => ?_⟩
  rw [alone.ready, List.map_cons, List.cons.injEq] at index
  rw [alone.active, List.map_singleton, List.cons.injEq] at size
  have bound := (Array.getElem?_eq_some_iff.1 hy).1
  omega

/-- The callback of the request found finished submits another one, behind which nothing waits. -/
def afterthought : List Turn :=
  [⟨.openUp, []⟩, ⟨.submit ⟨default, .ok [Descriptor.marker .localFence]⟩, []⟩]

/-- Looking for work may give nothing and still leave work that can be handed out at once, as the
callbacks that run before it returns may submit. -/
theorem work_left_by_callback : ∃ c d : Chronicle Watchdog.Idle,
    run afterthought (begin ⟨⟩) = some c ∧ Bounded c.passages ∧ c.scheduler.queue.isOpen = true ∧
      turn ⟨.next, [[⟨default, .ok [⟨.instruction, 0, 64⟩]⟩]]⟩ c = some (none, d) ∧
      ¬(d.scheduler.queue.isEmpty = true ∨ d.scheduler.queue.hasActive = true ∨
        d.scheduler.queue.atGlobalFence = true) := by
  have seen : (run afterthought (begin Watchdog.Idle.mk)).bind (fun c =>
      (turn ⟨.next, [[⟨default, .ok [⟨.instruction, 0, 64⟩]⟩]]⟩ c).map fun out =>
        ((accepted c.passages).length, c.scheduler.queue.isOpen, out.1,
          out.2.scheduler.queue.isEmpty, out.2.scheduler.queue.hasActive,
          out.2.scheduler.queue.atGlobalFence)) = some (1, true, none, false, false, false) := by
    decide +kernel
  obtain ⟨c, h, hc⟩ := Option.bind_eq_some_iff.1 seen
  obtain ⟨⟨handle, d⟩, hn, hd⟩ := Option.map_eq_some_iff.1 hc
  simp only [Prod.mk.injEq] at hd
  obtain ⟨one, isOpen, rfl, empty, active, fence⟩ := hd
  have hb : Bounded c.passages := by
    rw [Bounded, one]
    decide
  exact ⟨c, d, h, hb, isOpen, hn, by simp [empty, active, fence]⟩

end Runs

end Chronicle

end TensorQueue
