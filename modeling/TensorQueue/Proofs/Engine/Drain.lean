import TensorQueue.Proofs.Engine.Works
import TensorQueue.Proofs.Watchdog.Telling

/-!
# An engine drains its scheduler

If nothing is with the hardware, no task goes on behind a global fence, and
registers and watchdog play along, an engine works off all that is queued. Every
step issues the next transfer or reports the next fenced task, so there are as
many as that, and one more finds the queue empty.
-/

set_option autoImplicit false

namespace TensorQueue.Works

open Engine Registers Chronicle

variable {W R : Type} {good : R → Prop} {value : R → UInt64 → UInt64}
  {calm : W → Prop} {c d : Chronicle W} {retired : UInt64} {stream : List (UInt64 × UInt64)}
  {e : Engine} {s : Attached (Works W R)}

theorem onChronicle_succeeds {α : Type} {act : Act (Chronicle W) α} {a : α}
    (h : act c = (.ok a, d)) : Act.Succeeds (Found good value c retired stream) (onChronicle act)
      fun x w => x = a ∧ Found (R := R) good value d retired stream w := by
  intro w hw
  rw [onChronicle, Act.within, hw.chronicle, h]
  exact ⟨rfl, hw.good, rfl, hw.retired, hw.stream⟩

variable [RegisterFile R] [SystemClock R] [Watchdog W]

/-- A step leads from this chronicle to that one. These descriptors were issued in it and so many
requests were reported, and that is what the work got less by. -/
structure Steps (good : R → Prop) (value : R → UInt64 → UInt64) (calm : W → Prop) (c : Chronicle W)
    (stream : List (UInt64 × UInt64)) (e : Engine) (s t : Attached (Works W R)) (outcome : Outcome)
    (ds : List Descriptor) (requests : Nat) (d : Chronicle W) : Prop where
  step : Engine.step s = (.ok outcome, t)
  serves : Serves c d
  ready : d.Ready calm
  manned : Manned good value d (e.advanced ds requests).issued (stream ++ Engine.stream e.issued ds)
    (e.advanced ds requests) t
  transfers : c.work.1.map Handle.descriptor = ds ++ d.work.1.map Handle.descriptor
  reports : c.work.2 = requests + d.work.2

/-- If nothing is handed out, a step is what it does from there. -/
theorem step_of_nothing {b : Chronicle W} (hstall : e.config.stallAfter = none)
    (hnext : Feed.next c = (.ok none, b)) (final : Outcome → Attached (Works W R) → Prop)
    (h : Act.Succeeds (Manned good value b e.issued stream e)
      (if b.scheduler.queue.peek = some .globalFence then do
        onWorld (raise Interrupt.taskDone)
        onWorld Feed.finishRequest
        count Stats.countRequest
        return .requestCompleted
      else return .idle) final) :
    Act.Succeeds (Manned good value c e.issued stream e) step final := by
  have peeked : Feed.peek b = (.ok b.scheduler.queue.peek, b) := rfl
  unfold step
  refine Act.Meets.read fun s hs => ?_
  have running : s.engine.isStalled = false := by rw [hs.2, isStalled, hstall]
  simp only [running, Bool.false_eq_true, ↓reduceIte]
  refine (onWorld_succeeds (onChronicle_succeeds hnext)).bind (fun x => ?_) s hs
  rintro s ⟨⟨rfl, found⟩, engine⟩
  refine (onWorld_succeeds (onChronicle_succeeds peeked)).bind (fun x => ?_) s ⟨found, engine⟩
  rintro s ⟨⟨rfl, found⟩, engine⟩
  exact h s ⟨found, engine⟩

section Step

variable (hm : Remembers good value) (hw : Watchdog.Calm calm) (h : c.Ready calm)
  (hs : Manned good value c e.issued stream e s) (hstall : e.config.stallAfter = none)

include hm hw h hs hstall

theorem step_transfer {k : Handle}
    (hp : ∀ r, good r → Clock.reaches (SystemClock.now r) e.config.pollTimeout = true)
    (hc : e.Countable (c.work.1.map Handle.descriptor) c.work.2)
    (hn : c.scheduler.queue.next.handle = some k) :
    ∃ d t, Steps good value calm c stream e s t (.dispatched k) [k.descriptor] 0 d := by
  obtain ⟨b, d, next, complete, ready, serves, work⟩ := h.transfer hw hn
  have valid : k.descriptor.kind.isValid = true := by
    refine h.workable.valid_of_upcoming ?_
    have := congrArg Prod.fst work
    simp only [Chronicle.work] at this
    simp [this]
  have room : e.Countable [k.descriptor] 0 := by
    rw [work, List.map_cons] at hc
    have split : e.Countable ([k.descriptor] ++ d.work.1.map Handle.descriptor) (0 + d.work.2) := by
      rwa [Nat.zero_add]
    exact split.front
  have run : Act.Succeeds (Manned good value c e.issued stream e) step fun outcome t =>
      outcome = .dispatched k ∧ Manned good value d (e.issued + 1)
        (stream ++ Engine.stream e.issued [k.descriptor]) (e.advanced [k.descriptor] 0) t := by
    unfold step
    refine Act.Meets.read fun s hs => ?_
    have running : s.engine.isStalled = false := by rw [hs.2, isStalled, hstall]
    simp only [running, Bool.false_eq_true, ↓reduceIte]
    refine (onWorld_succeeds (onChronicle_succeeds next)).bind (fun x => ?_) s hs
    rintro s ⟨⟨rfl, found⟩, engine⟩
    refine (issue_succeeds hm valid hp rfl room).bind (fun _ => ?_) s ⟨found, engine⟩
    refine (onWorld_succeeds (onChronicle_succeeds complete)).bind fun _ => ?_
    exact Act.Meets.value fun _ ht => ⟨rfl, ht.1.2, ht.2⟩
  obtain ⟨outcome, t, hstep, rfl, manned⟩ := (run s hs).exists_value
  exact ⟨d, t, hstep, serves, ready, manned, by simp [work], by simp [work]⟩

/-- With nothing to hand out the engine reports a request, or the queue is empty. -/
theorem step_otherwise (hc : e.Countable (c.work.1.map Handle.descriptor) c.work.2)
    (hn : c.scheduler.queue.next.handle = none) :
    (∃ d t, Steps good value calm c stream e s t .requestCompleted [] 1 d) ∨
      ∃ d t, Steps good value calm c stream e s t .idle [] 0 d ∧
        d.scheduler.queue.isEmpty = true := by
  obtain ⟨b, next, ready, serves, work, cases⟩ := h.nothing hw hn
  rcases cases with empty | fence
  · right
    have run : Act.Succeeds (Manned good value c e.issued stream e) step fun outcome t =>
        outcome = .idle ∧ Manned good value b e.issued stream e t := by
      refine step_of_nothing hstall next _ ?_
      rw [if_neg (by simp [Queue.peek_of_isEmpty empty])]
      exact Act.Meets.value fun _ ht => ⟨rfl, ht⟩
    obtain ⟨outcome, t, hstep, rfl, manned⟩ := (run s hs).exists_value
    refine ⟨b, t, ⟨hstep, serves, ready, ?_, by simp [work], by simp [work]⟩, empty⟩
    simpa [Engine.advanced, Engine.stream] using manned
  · left
    obtain ⟨d, finish, ready', serves', work'⟩ := ready.report hw fence
    have room : e.Countable (d.work.1.map Handle.descriptor) (d.work.2 + 1) := by
      rwa [work, work'] at hc
    have run : Act.Succeeds (Manned good value c e.issued stream e) step fun outcome t =>
        outcome = .requestCompleted ∧
          Manned good value d e.issued stream (e.advanced [] 1) t := by
      refine step_of_nothing hstall next _ ?_
      rw [if_pos (Queue.peek_of_atGlobalFence fence)]
      refine (onWorld_succeeds (raise_succeeds hm _)).bind fun _ => ?_
      refine (onWorld_succeeds (onChronicle_succeeds finish)).bind fun _ s hs => ?_
      refine (count_succeeds room.countRequest).bind (fun _ => ?_) s ⟨hs.1.2, hs.2⟩
      exact Act.Meets.value fun _ ht => ⟨rfl, by simpa [Engine.advanced] using ht⟩
    obtain ⟨outcome, t, hstep, rfl, manned⟩ := (run s hs).exists_value
    refine ⟨d, t, hstep, serves.trans serves', ready', ?_, by simp [work, work'],
      by simp [work, work', Nat.add_comm]⟩
    simpa [Engine.advanced, Engine.stream] using manned

end Step

/-- The run from here ends by itself and has done all the work by then. -/
structure Drains (c : Chronicle W) (stream : List (UInt64 × UInt64)) (e : Engine)
    (s t : Attached (Works W R)) : Prop where
  run : ∀ more, c.work.1.length + c.work.2 < more → runFor more s = (.ok t.engine.stats, t)
  serves : Serves c t.world.chronicle
  empty : t.world.chronicle.scheduler.queue.isEmpty = true
  submissions : t.world.submissions =
    stream ++ Engine.stream e.issued (c.work.1.map Handle.descriptor)
  engine : t.engine = e.advanced (c.work.1.map Handle.descriptor) c.work.2

section Run

variable {s t u : Attached (Works W R)} {o : Outcome} {ds : List Descriptor} {m : Nat}

theorem Steps.length_work (h : Steps good value calm c stream e s u o ds m d) :
    c.work.1.length = ds.length + d.work.1.length := by
  simpa using congrArg List.length h.transfers

/-- A step leaves room for what is left. -/
theorem Steps.countable (h : Steps good value calm c stream e s u o ds m d)
    (hc : e.Countable (c.work.1.map Handle.descriptor) c.work.2) :
    (e.advanced ds m).Countable (d.work.1.map Handle.descriptor) d.work.2 := by
  rw [h.transfers, h.reports] at hc
  exact hc.advanced

/-- What is left after a step that did something is done by the rest of the run. -/
theorem Steps.drains (h : Steps good value calm c stream e s u o ds m d)
    (ho : ∀ more, runFor (more + 1) s = runFor more u) (hd : 0 < ds.length + m)
    (hr : Drains d (stream ++ Engine.stream e.issued ds) (e.advanced ds m) u t) :
    Drains c stream e s t where
  run := by
    intro more hmore
    have less := h.length_work
    have reports := h.reports
    obtain ⟨rest, rfl⟩ := Nat.exists_eq_succ_of_ne_zero (Nat.ne_of_gt (Nat.zero_lt_of_lt hmore))
    exact (ho rest).trans (hr.run rest (by omega))
  serves := h.serves.trans hr.serves
  empty := hr.empty
  submissions := by
    rw [hr.submissions, h.transfers, stream_append, List.append_assoc]
    rfl
  engine := by rw [hr.engine, advanced_advanced, h.transfers, h.reports]

theorem Steps.drains_of_idle (h : Steps good value calm c stream e s t .idle [] 0 d)
    (hd : d.scheduler.queue.isEmpty = true) : Drains c stream e s t := by
  have nothing : d.work = ([], 0) := by
    rw [work, Queue.upcoming_of_isEmpty hd, Queue.fenced_of_isEmpty hd]
  obtain ⟨⟨-, chronicle, -, submissions⟩, engine⟩ := h.manned
  constructor
  case run =>
    intro more hmore
    obtain ⟨rest, rfl⟩ := Nat.exists_eq_succ_of_ne_zero (Nat.ne_of_gt (Nat.zero_lt_of_lt hmore))
    rw [runFor, Act.bind_of_ok h.step]
    rfl
  case serves => exact chronicle ▸ h.serves
  case empty => exact chronicle ▸ hd
  case submissions => rw [submissions, h.transfers, nothing, List.map_nil, List.append_nil]
  case engine => rw [engine, h.transfers, h.reports, nothing, List.map_nil, List.append_nil]; rfl

/-- By induction on the work that is left. -/
theorem exists_drains (hm : Remembers good value) (hw : Watchdog.Calm calm) (n : Nat) :
    ∀ {c : Chronicle W} {stream : List (UInt64 × UInt64)} {e : Engine} {s : Attached (Works W R)},
      c.work.1.length + c.work.2 = n → c.Ready calm → e.config.stallAfter = none →
      (∀ r, good r → Clock.reaches (SystemClock.now r) e.config.pollTimeout = true) →
      e.Countable (c.work.1.map Handle.descriptor) c.work.2 →
      Manned good value c e.issued stream e s → ∃ t, Drains c stream e s t := by
  induction n using Nat.strong_induction_on with
  | _ n ih =>
    intro c stream e s hn h hstall hp hc hs
    cases hk : c.scheduler.queue.next.handle with
    | some k =>
      obtain ⟨d, u, taken⟩ := step_transfer hm hw h hs hstall hp hc hk
      have less := taken.length_work
      have reports := taken.reports
      rw [List.length_singleton] at less
      obtain ⟨t, rest⟩ := ih (d.work.1.length + d.work.2) (by omega)
        (e := e.advanced [k.descriptor] 0) rfl taken.ready hstall hp (taken.countable hc)
        taken.manned
      refine ⟨t, taken.drains (fun more => ?_) (by simp) rest⟩
      rw [runFor, Act.bind_of_ok taken.step]
    | none =>
      rcases step_otherwise hm hw h hs hstall hc hk with ⟨d, u, taken⟩ | ⟨d, t, taken, empty⟩
      · have less := taken.length_work
        have reports := taken.reports
        rw [List.length_nil] at less
        obtain ⟨t, rest⟩ := ih (d.work.1.length + d.work.2) (by omega)
          (e := e.advanced [] 1) rfl taken.ready hstall hp (taken.countable hc) taken.manned
        refine ⟨t, taken.drains (fun more => ?_) (by simp) rest⟩
        rw [runFor, Act.bind_of_ok taken.step]
      · exact ⟨t, taken.drains_of_idle empty⟩

end Run

/-- Everything is there for an engine to drain the scheduler: it is open, nothing is with the
hardware, every task is closed, the watchdog answers, and the engine never stalls and agrees with the
registers on how many descriptors were retired. -/
structure Fit (good : R → Prop) (value : R → UInt64 → UInt64) (calm : W → Prop)
    (s : Attached (Works W R)) : Prop where
  isOpen : s.world.chronicle.scheduler.queue.isOpen = true
  still : s.world.chronicle.scheduler.queue.hasActive = false
  closed : ∀ t ∈ s.world.chronicle.scheduler.queue.held, t.Closed
  calm : calm s.world.chronicle.scheduler.watchdog
  good : good s.world.registers
  in_step : s.engine.issued = value s.world.registers Offset.completedCount
  unstalled : s.engine.config.stallAfter = none

/-- From every state that a run of the scheduler reaches, an engine that is fit for it comes to an
end by itself and has drained it by then, if the clock can always tell the end of its timeout and the
statistics have room for what is left. Everyone who was queued has been told that all is done,
in order. What was submitted by the registers are the transfers that were left, in order, each with
the next number, and the statistics have grown by them and by the tasks with a global fence. -/
theorem engine_drains {ts : List Turn} {w : W} {s : Attached (Works W R)}
    (hm : Remembers good value) (hw : Watchdog.Calm calm)
    (h : run ts (begin w) = some s.world.chronicle) (hb : Bounded s.world.chronicle.passages)
    (hf : Fit good value calm s)
    (ht : ∀ r, good r → Clock.reaches (SystemClock.now r) s.engine.config.pollTimeout = true)
    (hc : s.engine.Countable (s.world.chronicle.scheduler.queue.upcoming.map Handle.descriptor)
      (s.world.chronicle.scheduler.queue.held.countP Task.isFenced)) :
    ∃ t, (∀ more, Feed.effort s.world < more → runFor more s = (.ok t.engine.stats, t)) ∧
      runUntilIdle s = (.ok t.engine.stats, t) ∧
      t.world.chronicle.scheduler.queue.isEmpty = true ∧
      History.notices t.world.chronicle.passages = History.notices s.world.chronicle.passages ++
        finished (s.world.chronicle.scheduler.queue.held.map Task.ticket) ∧
      t.world.submissions = s.world.submissions ++ Engine.stream s.engine.issued
        (s.world.chronicle.scheduler.queue.upcoming.map Handle.descriptor) ∧
      t.engine = s.engine.advanced
        (s.world.chronicle.scheduler.queue.upcoming.map Handle.descriptor)
        (s.world.chronicle.scheduler.queue.held.countP Task.isFenced) := by
  have workable : s.world.chronicle.scheduler.queue.Workable :=
    ⟨(run_steady h hb).sound, hf.isOpen, hf.still,
      fun t ht => ⟨valid_of_run h hb t ht, hf.closed t ht⟩⟩
  obtain ⟨t, drained⟩ := exists_drains hm hw _ rfl ⟨workable, hf.calm⟩ hf.unstalled ht hc
    ⟨⟨hf.good, rfl, hf.in_step.symm, rfl⟩, rfl⟩
  have bound := workable.work_le_effort
  have ends : ∀ more, Feed.effort s.world < more → runFor more s = (.ok t.engine.stats, t) :=
    fun more hmore => drained.run more (Nat.lt_of_le_of_lt bound hmore)
  refine ⟨t, ends, ends _ (Nat.lt_succ_self _), drained.empty, ?_, drained.submissions,
    drained.engine⟩
  exact drained.serves.told_all (run_kept h hb) hb (Queue.isEmpty_iff.1 drained.empty).1

/-- A request with fences of both kinds, and behind it an interrupt. -/
def errands : List Turn :=
  [⟨.openUp, []⟩,
    ⟨.submit ⟨default, .ok [⟨.instruction, 0, 64⟩, .marker .localFence, ⟨.outputActivation, 64, 32⟩,
      .marker .globalFence]⟩, []⟩,
    ⟨.submit ⟨default, .ok [.marker (.coreInterrupt 2)]⟩, []⟩]

/-- A system that has just been started. -/
def started : Tempo := ⟨.zero, ⟨100⟩, .ofMicros 50⟩

/-- A new engine with this timeout, on empty memory. -/
def fresh (timeout : Duration) (c : Chronicle W) : Attached (Works W (Sited Memory)) :=
  ⟨⟨{ Engine.Config.standard with pollTimeout := timeout }, ⟨0, 0, 0⟩, 0⟩,
    ⟨c, ⟨Memory.new none, started⟩, []⟩⟩

/-- The memory has room for the whole map, in a system that has just been started. -/
def Intact (s : Sited Memory) : Prop := s.registers.Whole ∧ s.tempo = started

omit [Watchdog W] in
theorem fit_fresh {c : Chronicle W} {timeout : Duration}
    (ho : c.scheduler.queue.isOpen = true) (hi : c.scheduler.queue.hasActive = false)
    (hc : ∀ t ∈ c.scheduler.queue.held, t.Closed) (hw : calm c.scheduler.watchdog) :
    Fit Intact (fun s => s.registers.value) calm (fresh timeout c) :=
  ⟨ho, hi, hc, hw, ⟨by simp [Memory.Whole, fresh, Memory.new], rfl⟩, rfl, rfl⟩

theorem errands_drained : ∃ w, Escalation.new [.ofMillis 500, .ofMillis 2000]
      (fun _ => .ok (.system .condvar [.zero])) = .ok w ∧
    ∃ (c : Chronicle Escalation) (t : Attached (Works Escalation (Sited Memory))),
      run errands (begin w) = some c ∧ Bounded c.passages ∧
      Fit Intact (fun s => s.registers.value) Escalation.Tells (fresh (.ofMillis 100) c) ∧
      runUntilIdle (fresh (.ofMillis 100) c) = (.ok ⟨3, 96, 1⟩, t) ∧
      t.world.chronicle.scheduler.queue.isEmpty = true ∧
      t.world.submissions = Engine.stream 0
        [⟨.instruction, 0, 64⟩, ⟨.outputActivation, 64, 32⟩, .marker (.coreInterrupt 2)] := by
  obtain ⟨w, hw⟩ : ∃ w, Escalation.new [.ofMillis 500, .ofMillis 2000]
    (fun _ => .ok (.system .condvar [.zero])) = .ok w := ⟨_, rfl⟩
  have seen : (Escalation.new [.ofMillis 500, .ofMillis 2000]
      (fun _ => .ok (.system .condvar [.zero]))).toOption.bind (fun w =>
      (run errands (begin w)).map fun c =>
        decide ((History.accepted c.passages).length = 2 ∧ c.scheduler.queue.isOpen = true ∧
          c.scheduler.queue.hasActive = false ∧ (∀ t ∈ c.scheduler.queue.held, t.Closed) ∧
          c.scheduler.watchdog = w ∧ c.scheduler.queue.upcoming.map Handle.descriptor =
            [⟨.instruction, 0, 64⟩, ⟨.outputActivation, 64, 32⟩, .marker (.coreInterrupt 2)] ∧
          c.scheduler.queue.held.countP Task.isFenced = 1)) = some true := by
    decide +kernel
  rw [hw, Except.toOption, Option.bind_some] at seen
  obtain ⟨c, h, hc⟩ := Option.map_eq_some_iff.1 seen
  obtain ⟨two, isOpen, still, closed, same, upcoming, fenced⟩ := of_decide_eq_true hc
  have hb : Bounded c.passages := by
    rw [Bounded, two]
    decide
  have told : w.Tells := by
    refine Escalation.tells_of_new hw ?_
    rintro level found ⟨⟩ timeout hin moments ⟨⟩
    exact .inr ((by decide : ∀ timeout ∈ [Duration.ofMillis 500, .ofMillis 2000],
      ∀ now ∈ [Duration.zero, .zero], Clock.reaches now timeout = true) timeout hin)
  have fit : Fit Intact (fun s => s.registers.value) Escalation.Tells
      (fresh (.ofMillis 100) c) := fit_fresh isOpen still closed (same ▸ told)
  have timed : ∀ r, Intact r → Clock.reaches (SystemClock.now r) (.ofMillis 100) = true := by
    rintro r ⟨-, found⟩
    rw [show SystemClock.now r = r.tempo.now from rfl, found]
    decide
  have countable : (fresh (.ofMillis 100) c).engine.Countable
      (c.scheduler.queue.upcoming.map Handle.descriptor)
      (c.scheduler.queue.held.countP Task.isFenced) := by
    rw [upcoming, fenced]
    constructor <;> dsimp only [fresh] <;> decide
  obtain ⟨t, -, ends, empty, -, submissions, engine⟩ := engine_drains
    (Sited.remembers started Memory.remembers) Escalation.calm (s := fresh (.ofMillis 100) c)
    h hb fit timed countable
  have stats : t.engine.stats = ⟨3, 96, 1⟩ := by
    rw [engine]
    simp only [fresh, upcoming, fenced]
    decide
  simp only [fresh, upcoming] at submissions
  exact ⟨w, hw, c, t, h, hb, fit, stats ▸ ends, empty, submissions⟩

/-- No clock can tell the moment that is this far ahead. -/
def beyond : Duration := ⟨Clock.signedSeconds * Duration.nsPerSecond⟩

/-- Two transfers of half of what a word can count. -/
def halves : List Turn :=
  [⟨.openUp, []⟩, ⟨.submit ⟨default, .ok [⟨.instruction, 0, 0x8000000000000000⟩,
    ⟨.instruction, 0, 0x8000000000000000⟩]⟩, []⟩]

theorem aborts_of_seen {w : W} {timeout : Duration} {ts : List Turn} {cause : Abort}
    (seen : (run ts (begin w)).map (fun c =>
      decide ((History.accepted c.passages).length < UInt64.size ∧
        c.scheduler.queue.isOpen = true ∧ c.scheduler.queue.hasActive = false ∧
        (∀ t ∈ c.scheduler.queue.held, t.Closed) ∧
        (runUntilIdle (fresh timeout c)).1 = .error (.abort cause))) = some true) :
    ∃ (c : Chronicle W) (t : Attached (Works W (Sited Memory))), run ts (begin w) = some c ∧
      Bounded c.passages ∧
      Fit Intact (fun s => s.registers.value) (fun _ => True) (fresh timeout c) ∧
      runUntilIdle (fresh timeout c) = (.error (.abort cause), t) := by
  obtain ⟨c, h, hc⟩ := Option.map_eq_some_iff.1 seen
  obtain ⟨few, isOpen, still, closed, aborted⟩ := of_decide_eq_true hc
  exact ⟨c, _, h, few, fit_fresh isOpen still closed trivial, Prod.ext aborted rfl⟩

/-- With a timeout that ends beyond all that the clock can tell, or under a watchdog with such a
level, or if the sizes do not add up in a word, the run is aborted, though the engine is fit. -/
theorem drain_aborted :
    (∃ (c : Chronicle Watchdog.Idle) (t : Attached (Works Watchdog.Idle (Sited Memory))),
      run errands (begin ⟨⟩) = some c ∧ Bounded c.passages ∧
        Fit Intact (fun s => s.registers.value) (fun _ => True) (fresh beyond c) ∧
        runUntilIdle (fresh beyond c) = (.error (.abort .instantOverflow), t)) ∧
    (∃ w, Escalation.new [beyond] (fun _ => .ok (.system .condvar [.zero])) = .ok w ∧
      ∃ (c : Chronicle Escalation) (t : Attached (Works Escalation (Sited Memory))),
        run errands (begin w) = some c ∧ Bounded c.passages ∧
          Fit Intact (fun s => s.registers.value) (fun _ => True) (fresh (.ofMillis 100) c) ∧
          runUntilIdle (fresh (.ofMillis 100) c) = (.error (.abort .instantOverflow), t)) ∧
    ∃ (c : Chronicle Watchdog.Idle) (t : Attached (Works Watchdog.Idle (Sited Memory))),
      run halves (begin ⟨⟩) = some c ∧ Bounded c.passages ∧
        Fit Intact (fun s => s.registers.value) (fun _ => True) (fresh (.ofMillis 100) c) ∧
        runUntilIdle (fresh (.ofMillis 100) c) = (.error (.abort .addOverflow), t) :=
  ⟨aborts_of_seen (by decide +kernel), ⟨_, rfl, aborts_of_seen (by decide +kernel)⟩,
    aborts_of_seen (by decide +kernel)⟩

end TensorQueue.Works
