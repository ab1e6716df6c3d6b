import TensorQueue.Proofs.Queue.Chronicle

/-!
# Reachable queues are sound

The count of accepted submissions is the number of the next task as long as it
fits a word. So long every beat keeps the queue sound, and so does every run in
which no call is aborted.
-/

set_option autoImplicit false

namespace TensorQueue.Chronicle

open History

/-- The numbers of tasks have not run out. -/
def Bounded (log : List Passage) : Prop := (accepted log).length < UInt64.size

structure Steady (x : Moment) : Prop where
  sound : x.queue.Sound
  counted : (accepted x.log).length = x.queue.nextTask.toNat

section Beats

variable {x y : Moment}

theorem log_prefix_of_beat (h : Beat x y) : x.log <+: y.log := by
  cases h <;> simp

theorem Bounded.of_prefix {log more : List Passage} (h : Bounded more) (hp : log <+: more) :
    Bounded log := by
  obtain ⟨rest, rfl⟩ := hp
  rw [Bounded, accepted_append, List.length_append] at h
  exact Nat.lt_of_le_of_lt (Nat.le_add_right _ _) h

theorem beats_keep {P : Moment → Prop}
    (keep : ∀ {x y}, Beat x y → Bounded y.log → P x → P y) (h : Beats x y)
    (hb : Bounded y.log) (hx : P x) : P y := by
  induction h with
  | refl => exact hx
  | tail _ beat ih => exact keep beat hb (ih (hb.of_prefix (log_prefix_of_beat beat)))

theorem steady_of_beat (h : Beat x y) (hb : Bounded y.log) (hx : Steady x) : Steady y := by
  obtain ⟨sound, counted⟩ := hx
  cases h with
  | openUp ho =>
    refine ⟨Queue.openUp_sound sound ho, ?_⟩
    rw [(Queue.openUp_eq_ok_iff.1 ho).2]
    exact counted
  | shut hs =>
    refine ⟨Queue.shut_sound sound hs, ?_⟩
    rw [(Queue.shut_eq_ok_iff.1 hs).2]
    exact counted
  | @submit q r owed log ticket ds hs =>
    have room : q.nextTask.toNat + 1 < UInt64.size := by
      have : (accepted log).length = q.nextTask.toNat := counted
      simpa [Bounded, accepted_concat, Passage.task?, ← this] using hb
    refine ⟨Queue.submit_sound sound room hs, ?_⟩
    rw [(Queue.submit_eq_ok_iff.1 hs).2.2]
    simpa [accepted_concat, Passage.task?, Queue.toNat_number_succ room] using counted
  | idle _ => exact ⟨Queue.next_sound sound, by rw [Queue.nextTask_next]; exact counted⟩
  | handOut _ =>
    refine ⟨Queue.next_sound sound, ?_⟩
    rw [Queue.nextTask_next, accepted_concat]
    simpa [Passage.task?] using counted
  | takeBack hc =>
    refine ⟨Queue.complete_sound sound hc, ?_⟩
    rw [Queue.nextTask_of_complete hc, accepted_concat]
    simpa [Passage.task?] using counted
  | report _ hf =>
    refine ⟨Queue.finishRequest_sound sound hf, ?_⟩
    rw [Queue.nextTask_of_finishRequest hf, accepted_concat]
    simpa [Passage.task?] using counted
  | drain =>
    refine ⟨Queue.drain_sound, ?_⟩
    rw [accepted_concat]
    simpa [Passage.task?] using counted
  | notify =>
    refine ⟨sound, ?_⟩
    rw [accepted_concat]
    simpa [Passage.task?] using counted

end Beats

section Runs

variable {W : Type} [Watchdog W] {w : W} {ts : List Turn} {c : Chronicle W}

omit [Watchdog W] in
theorem steady_begin : Steady ((begin w).moment []) := ⟨Queue.new_sound, rfl⟩

/-- What holds at the start and is kept by every beat holds after every run. -/
theorem run_keeps {P : Moment → Prop} (start : P ((begin w).moment []))
    (keep : ∀ {x y}, Beat x y → Bounded y.log → P x → P y) (h : run ts (begin w) = some c)
    (hb : Bounded c.passages) : P (c.moment []) :=
  beats_keep keep (run_beats ts h) hb start

theorem run_steady (h : run ts (begin w) = some c) (hb : Bounded c.passages) :
    Steady (c.moment []) :=
  run_keeps steady_begin steady_of_beat h hb

end Runs

end TensorQueue.Chronicle
