import TensorQueue.Proofs.Watchdog.Rearming

/-!
# The cycles of an alarm

An alarm is called, its countdown runs out, and the jobs of its callback start
and end, all in any order; any setting of the countdown may fail. The countdown
runs just as long as the alarm is armed. Each cycle expires at most once, in
the order of their numbers, and its callback is called at most once, in the
order in which they expired. The alarm barks as long as the job of its present
cycle has not ended: an earlier job cannot bring it to rest, and this one will.
-/

set_option autoImplicit false

namespace TensorQueue

theorem Countdown.set_cases (d : Duration) (c : Countdown) :
    (∃ e : Countdown, set d c = (.ok (), e) ∧ e.armed = !d.isZero) ∨
      ∃ (fault : Fault) (e : Countdown), set d c = (.error fault, e) ∧ e.armed = c.armed := by
  unfold set
  dsimp only
  split
  · exact .inl ⟨_, rfl, rfl⟩
  · exact .inr ⟨_, _, rfl, rfl⟩

namespace Alarm

/-- The jobs that have not ended, in their order: the one that runs and those that wait. -/
def jobs (a : Alarm) : List UInt64 := a.running.toList ++ a.queued

/-- The cycle that expires, and the cycle whose callback is called, when this happens. -/
def expiring (a : Alarm) (m : Move) : List UInt64 := if a.expires m then [a.cycle] else []

def calling (a : Alarm) : Move → List UInt64
  | .beginJob => (a.beginJob.map Prod.fst).toList
  | _ => []

section Calls

variable {a b : Alarm}

/-- What a call can do to an alarm. -/
inductive Turn (a : Alarm) : Alarm → Prop
  | nothing {c : Countdown} : c.armed = a.countdown.armed → Turn a { a with countdown := c }
  | refresh {c : Countdown} : a.phase = .active → c.armed = !a.timeout.isZero →
      Turn a { a with countdown := c }
  | cycle {c : Countdown} : a.phase ≠ .active → c.armed = !a.timeout.isZero →
      Turn a { a with countdown := c, cycle := a.cycle + 1, phase := .active }
  | rest {c : Countdown} : a.phase = .active → c.armed = false →
      Turn a { a with countdown := c, phase := .inactive }
  | timeout {d : Duration} : d.isZero = false → Turn a { a with timeout := d }

/-- A call that fails can at most have been refused by the countdown, which runs on as it did. -/
def Unharmed (a b : Alarm) : Prop :=
  ∃ c : Countdown, c.armed = a.countdown.armed ∧ b = { a with countdown := c }

theorem Unharmed.refl (a : Alarm) : Unharmed a a := ⟨a.countdown, rfl, rfl⟩

/-- Every call takes one of these turns, and one that fails does no harm. -/
def Turns {α : Type} (a : Alarm) (out : Except Fault α × Alarm) : Prop :=
  Turn a out.2 ∧ ∀ fault, out.1 = .error fault → Unharmed a out.2

theorem Turns.of_failure {α : Type} {fault : Fault} {c : Countdown}
    (h : c.armed = a.countdown.armed) :
    Turns (α := α) a (.error fault, { a with countdown := c }) :=
  ⟨.nothing h, fun _ _ => ⟨c, h, rfl⟩⟩

theorem Turns.of_value {α : Type} {x : α} (h : Turn a b) : Turns a (.ok x, b) :=
  ⟨h, fun _ hf => by cases hf⟩

/-- What comes after a setting of the countdown comes only if that was taken. -/
theorem turns_of_setting {α : Type} {d : Duration} {next : Unit → Act Alarm α}
    (h : ∀ c : Countdown, c.armed = !d.isZero → Turns a (next () { a with countdown := c })) :
    Turns a ((onCountdown (Countdown.set d) >>= next) a) := by
  simp only [Act.bind_apply, onCountdown, Act.within]
  rcases Countdown.set_cases d a.countdown with ⟨c, hs, hc⟩ | ⟨fault, c, hs, hc⟩
  · rw [hs]
    exact h c hc
  · rw [hs]
    exact .of_failure hc

theorem turns_activate (a : Alarm) : Turns a (activate a) := by
  unfold activate
  rw [Act.bind_apply, Act.read_apply]
  dsimp only
  by_cases h : a.phase = .active
  · rw [if_pos h]
    exact .of_value (.nothing rfl)
  · rw [if_neg h]
    exact turns_of_setting fun c hc => .of_value (.cycle h hc)

theorem turns_signal (a : Alarm) : Turns a (signal a) := by
  simp only [signal, Act.bind_apply, Act.read_apply]
  cases h : a.phase with
  | active =>
    simp only [onCountdown, Act.within]
    rcases Countdown.set_cases a.timeout a.countdown with ⟨c, hs, hc⟩ | ⟨fault, c, hs, hc⟩
    · rw [hs]
      exact .of_value (.refresh h hc)
    · rw [hs]
      exact .of_failure hc
  | barking => exact .of_value (.nothing rfl)
  | inactive => exact .of_failure rfl

theorem turns_deactivate (a : Alarm) : Turns a (deactivate a) := by
  unfold deactivate
  rw [Act.bind_apply, Act.read_apply]
  dsimp only
  by_cases h : a.phase = .active
  · rw [if_pos h]
    exact turns_of_setting fun c hc => .of_value (.rest h hc)
  · rw [if_neg h]
    exact .of_value (.nothing rfl)

theorem turns_setTimeout (timeout : Duration) (a : Alarm) : Turns a (setTimeout timeout a) := by
  simp only [setTimeout, Act.bind_apply, Watchdog.checkTimeout, Act.settle]
  cases h : timeout.isZero with
  | true => exact .of_failure rfl
  | false => exact .of_value (.timeout h)

/-- The answer of a call is told by what the call gives. -/
theorem Turns.bind_pure {α β : Type} {act : Act Alarm α} {f : α → β} (h : Turns a (act a)) :
    Turns a ((do return f (← act) : Act Alarm β) a) := by
  rw [Act.bind_apply]
  rcases hout : act a with ⟨fault | x, t⟩
  · rw [hout] at h
    exact ⟨h.1, fun _ _ => h.2 fault rfl⟩
  · rw [hout] at h
    exact .of_value h.1

theorem turns_perform (call : Watchdog.Call) (a : Alarm) : Turns a (Watchdog.perform call a) := by
  cases call with
  | activate => exact (turns_activate a).bind_pure
  | signal => exact (turns_signal a).bind_pure
  | deactivate => exact (turns_deactivate a).bind_pure
  | setTimeout timeout => exact (turns_setTimeout timeout a).bind_pure

end Calls

/-- A call on an alarm, or what happens to it besides. -/
inductive Happening where
  | call (call : Watchdog.Call)
  | move (m : Move)
  deriving DecidableEq, Repr, Inhabited

/-- An alarm and its past. -/
structure Diary where
  alarm : Alarm
  /-- How many cycles have begun. -/
  begun : Nat
  /-- The cycles that expired, in order. -/
  expired : List UInt64
  /-- The cycles whose callbacks were called, in order. -/
  called : List UInt64
  deriving DecidableEq, Repr, Inhabited

namespace Diary

def begin (a : Alarm) : Diary := ⟨a, 0, [], []⟩

def note (d : Diary) : Happening → Diary
  | .call call =>
    let a := (Watchdog.perform call d.alarm).2
    { d with alarm := a, begun := if a.cycle = d.alarm.cycle then d.begun else d.begun + 1 }
  | .move m =>
    { d with alarm := d.alarm.after m
             expired := d.expired ++ d.alarm.expiring m
             called := d.called ++ d.alarm.calling m }

def run (hs : List Happening) (d : Diary) : Diary := hs.foldl note d

structure Regular (d : Diary) : Prop where
  timeout : d.alarm.timeout.isZero = false
  begun : d.alarm.cycle.toNat = d.begun
  armed : d.alarm.countdown.armed = true ↔ d.alarm.phase = .active
  /-- What expired was called or waits to be called. -/
  told : d.expired = d.called ++ d.alarm.queued
  /-- The latest call may not have ended. -/
  running : ∀ id, d.alarm.running = some id → ∃ before, d.called = before ++ [id]
  rising : d.expired.Pairwise (· < ·)
  bounded : ∀ id ∈ d.expired, id ≤ d.alarm.cycle
  unexpired : d.alarm.phase = .active → d.alarm.cycle ∉ d.expired
  barking : d.alarm.phase = .barking ↔ d.alarm.cycle ∈ d.alarm.jobs

section Regular

variable {d : Diary} {a : Alarm} {m : Move}

/-- What has not ended is the end of what expired. -/
theorem Regular.jobs_suffix (h : Regular d) : d.alarm.jobs <:+ d.expired := by
  rw [h.told, jobs]
  cases hr : d.alarm.running with
  | none => exact List.suffix_append _ _
  | some id =>
    obtain ⟨before, hb⟩ := h.running id hr
    rw [hb, List.append_assoc]
    exact List.suffix_append _ _

theorem Regular.jobs_rising (h : Regular d) : d.alarm.jobs.Pairwise (· < ·) :=
  h.rising.sublist h.jobs_suffix.sublist

theorem Regular.new_cycle (h : Regular d) (room : d.begun + 1 < UInt64.size) :
    (d.alarm.cycle + 1).toNat = d.begun + 1 ∧ d.alarm.cycle + 1 ∉ d.expired := by
  have next : (d.alarm.cycle + 1).toNat = d.begun + 1 := by
    rw [UInt64.toNat_add, h.begun]
    exact Nat.mod_eq_of_lt room
  refine ⟨next, fun hm => ?_⟩
  have := UInt64.le_iff_toNat_le.1 (h.bounded _ hm)
  have := h.begun
  omega

theorem Regular.of_turn (h : Regular d) {begun : Nat} (ht : Turn d.alarm a)
    (hb : begun = if a.cycle = d.alarm.cycle then d.begun else d.begun + 1)
    (room : begun < UInt64.size) : Regular { d with alarm := a, begun := begun } := by
  cases ht with
  | nothing hc =>
    subst hb
    exact { h with begun := by simpa using h.begun, armed := hc ▸ h.armed }
  | refresh hp hc =>
    subst hb
    exact { h with
      begun := by simpa using h.begun
      armed := ⟨fun _ => hp, fun _ => by simpa [h.timeout] using hc⟩ }
  | cycle hp hc =>
    have differs : d.alarm.cycle + 1 ≠ d.alarm.cycle := by simp
    rw [if_neg differs] at hb
    subst hb
    -- The number is above all that expired, so no job has it.
    obtain ⟨next, fresh⟩ := h.new_cycle room
    have later : d.alarm.cycle < d.alarm.cycle + 1 := by
      rw [UInt64.lt_iff_toNat_lt, next, h.begun]
      exact Nat.lt_succ_self _
    exact { h with
      begun := next
      armed := ⟨fun _ => rfl, fun _ => by simpa [h.timeout] using hc⟩
      bounded := fun id hm => UInt64.le_of_lt (UInt64.lt_of_le_of_lt (h.bounded id hm) later)
      unexpired := fun _ => fresh
      barking := ⟨fun hb => (by cases hb), fun hm => absurd (h.jobs_suffix.subset hm) fresh⟩ }
  | rest hp hc =>
    subst hb
    exact { h with
      begun := by simpa using h.begun
      armed := ⟨fun ha => (by rw [hc] at ha; cases ha), fun ha => (by cases ha)⟩
      unexpired := fun ha => (by cases ha)
      barking := ⟨fun hb => (by cases hb),
        fun hm => absurd (h.jobs_suffix.subset hm) (h.unexpired hp)⟩ }
  | timeout hd =>
    subst hb
    exact { h with timeout := hd, begun := by simpa using h.begun }

theorem regular_begin {timeout : Duration} {source : Countdown.Source}
    (h : Alarm.new timeout source = .ok a) : Regular (.begin a) := by
  have timed := timeout_of_new h
  simp only [new, bind, Except.bind] at h
  split at h
  · cases h
  · cases h
    exact {
      timeout := timed
      begun := rfl
      armed := ⟨fun ha => (by cases ha), fun ha => (by cases ha)⟩
      told := rfl
      running := fun id hr => (by cases hr)
      rising := .nil
      bounded := fun id hm => (by cases hm)
      unexpired := fun ha => (by cases ha)
      barking := ⟨fun hb => (by cases hb), fun hm => (by cases hm)⟩ }

/-- The cycle that expires is the latest, and is above all that expired before. -/
theorem Regular.expire (h : Regular d) (count : UInt64) :
    Regular (d.note (.move (.expire count))) := by
  by_cases hz : count = 0
  · have same : d.note (.move (.expire count)) = d := by
      simp [note, after, Alarm.expire, expiring, expires, takesExpiry, calling, hz]
    rw [same]
    exact h
  · by_cases hp : d.alarm.phase = .active
    · have taken : d.note (.move (.expire count)) = { d with
          alarm := { d.alarm with
            countdown := { d.alarm.countdown with armed := false }
            phase := .barking
            queued := d.alarm.queued ++ [d.alarm.cycle] }
          expired := d.expired ++ [d.alarm.cycle] } := by
        simp [note, after, Alarm.expire, expiring, expires, takesExpiry, calling, hz, hp]
      have below : ∀ id ∈ d.expired, id < d.alarm.cycle := fun id hm =>
        UInt64.lt_of_le_of_ne (h.bounded id hm) fun he => h.unexpired hp (he ▸ hm)
      rw [taken]
      exact { h with
        armed := ⟨fun ha => (by cases ha), fun ha => (by cases ha)⟩
        told := by simp [h.told]
        rising := by
          refine List.pairwise_append.2 ⟨h.rising, List.pairwise_singleton _ _, ?_⟩
          intro id hm later hl
          rw [List.mem_singleton.1 hl]
          exact below id hm
        bounded := fun id hm => (List.mem_append.1 hm).elim (h.bounded id) fun hl =>
          UInt64.le_of_eq (List.mem_singleton.1 hl)
        unexpired := fun ha => (by cases ha)
        barking := ⟨fun _ => by simp [jobs], fun _ => rfl⟩ }
    · have stopped : d.note (.move (.expire count)) = { d with
          alarm := { d.alarm with countdown := { d.alarm.countdown with armed := false } } } := by
        simp [note, after, Alarm.expire, expiring, expires, takesExpiry, calling, hz, hp]
      rw [stopped]
      exact { h with armed := ⟨fun ha => (by cases ha), fun ha => absurd ha hp⟩ }

theorem Regular.beginJob (h : Regular d) : Regular (d.note (.move .beginJob)) := by
  cases hr : d.alarm.running with
  | some id =>
    have same : d.note (.move .beginJob) = d := by
      simp [note, after, Alarm.beginJob, expiring, expires, calling, hr]
    rw [same]
    exact h
  | none =>
    cases hq : d.alarm.queued with
    | nil =>
      have same : d.note (.move .beginJob) = d := by
        simp [note, after, Alarm.beginJob, expiring, expires, calling, hr, hq]
      rw [same]
      exact h
    | cons id rest =>
      have begins : d.note (.move .beginJob) = { d with
          alarm := { d.alarm with running := some id, queued := rest }
          called := d.called ++ [id] } := by
        simp [note, after, Alarm.beginJob, expiring, expires, calling, hr, hq]
      have same : ({ d.alarm with running := some id, queued := rest } : Alarm).jobs
          = d.alarm.jobs := by
        simp [jobs, hr, hq]
      rw [begins]
      exact { h with
        told := by simp [h.told, hq]
        running := fun _ hs => ⟨d.called, by rw [Option.some.inj hs]⟩
        barking := by
          show _ ↔ _ ∈ Alarm.jobs _
          rw [same]
          exact h.barking }

/-- The job that ends is the first of those that have not ended. No other has its number. -/
theorem Regular.finishJob (h : Regular d) : Regular (d.note (.move .finishJob)) := by
  cases hr : d.alarm.running with
  | none =>
    have same : d.note (.move .finishJob) = d := by
      simp [note, after, Alarm.finishJob, expiring, expires, calling, hr]
    rw [same]
    exact h
  | some id =>
    have rising := h.jobs_rising
    have all : d.alarm.jobs = id :: d.alarm.queued := by
      simp [jobs, hr]
    have once : id ∉ d.alarm.queued := fun hm => by
      rw [all] at rising
      exact UInt64.lt_irrefl _ ((List.pairwise_cons.1 rising).1 id hm)
    by_cases own : d.alarm.phase = .barking ∧ d.alarm.cycle = id
    · have ends : d.note (.move .finishJob) = { d with
          alarm := { d.alarm with running := none, phase := .inactive } } := by
        simp [note, after, Alarm.finishJob, expiring, expires, calling, hr, own]
      rw [ends]
      exact { h with
        armed := ⟨fun ha => absurd (h.armed.1 ha) (by simp [own.1]), fun ha => (by cases ha)⟩
        running := fun _ hs => (by cases hs)
        unexpired := fun ha => (by cases ha)
        barking := ⟨fun hb => (by cases hb), fun hm => absurd (own.2 ▸ hm) once⟩ }
    · have ends : d.note (.move .finishJob) = { d with
          alarm := { d.alarm with running := none } } := by
        simp [note, after, Alarm.finishJob, expiring, expires, calling, hr, own]
      rw [ends]
      exact { h with
        running := fun _ hs => (by cases hs)
        barking := by
          refine ⟨fun hb => ?_, fun hm => h.barking.2 (all ▸ List.mem_cons_of_mem _ hm)⟩
          have hm := h.barking.1 hb
          rw [all] at hm
          exact (List.mem_cons.1 hm).resolve_left fun he => own ⟨hb, he⟩ }

theorem Regular.note (h : Regular d) (x : Happening) (room : (d.note x).begun < UInt64.size) :
    Regular (d.note x) := by
  cases x with
  | call call => exact h.of_turn (turns_perform call d.alarm).1 rfl room
  | move m =>
    cases m with
    | expire count => exact h.expire count
    | beginJob => exact h.beginJob
    | finishJob => exact h.finishJob

theorem begun_le_note (d : Diary) (x : Happening) : d.begun ≤ (d.note x).begun := by
  cases x with
  | call call =>
    simp only [Diary.note]
    split <;> omega
  | move m => exact Nat.le_refl _

theorem begun_le_run (hs : List Happening) (d : Diary) : d.begun ≤ (run hs d).begun := by
  induction hs generalizing d with
  | nil => exact Nat.le_refl _
  | cons x hs ih => exact Nat.le_trans (begun_le_note d x) (ih (d.note x))

theorem regular_run (h : Regular d) (hs : List Happening)
    (room : (run hs d).begun < UInt64.size) : Regular (run hs d) := by
  induction hs generalizing d with
  | nil => exact h
  | cons x hs ih =>
    exact ih (h.note x (Nat.lt_of_le_of_lt (begun_le_run hs (d.note x)) room)) room

end Regular

section Lifecycle

variable {timeout : Duration} {source : Countdown.Source} {a : Alarm} {hs : List Happening}
  {d : Diary}

/-- Whatever the countdown refuses, an alarm is armed exactly while its countdown runs, and barks
exactly while one job of its present cycle has not ended. Jobs wait in the order of their cycles, a
cycle is called once at most and only after it expired, and no call that fails changes the phase or
the cycle. -/
theorem keeps_cycles_apart (h : Alarm.new timeout source = .ok a) (hd : run hs (.begin a) = d)
    (room : d.begun < UInt64.size) :
    (d.alarm.countdown.armed = true ↔ d.alarm.phase = .active) ∧
    (d.alarm.phase = .barking ↔ d.alarm.jobs.count d.alarm.cycle = 1) ∧
    (d.alarm.jobs.Pairwise (· < ·) ∧ ∀ id ∈ d.alarm.jobs, id ≤ d.alarm.cycle) ∧
    (d.called.Nodup ∧ d.called <+: d.expired) ∧
    ∀ call fault, (Watchdog.perform call d.alarm).1 = .error fault →
      (Watchdog.perform call d.alarm).2.phase = d.alarm.phase ∧
      (Watchdog.perform call d.alarm).2.cycle = d.alarm.cycle := by
  subst hd
  have regular := regular_run (regular_begin h) hs room
  generalize run hs (.begin a) = d at regular
  have rising := regular.jobs_rising
  have apart : ∀ {ids : List UInt64}, ids.Pairwise (· < ·) → ids.Nodup := fun hp =>
    hp.imp UInt64.ne_of_lt
  have prefixed : d.called <+: d.expired := by
    rw [regular.told]
    exact List.prefix_append _ _
  refine ⟨regular.armed, regular.barking.trans ?_, ⟨rising, fun id hm => ?_⟩, ⟨?_, prefixed⟩, ?_⟩
  · exact ⟨List.count_eq_one_of_mem (apart rising), fun one => List.count_pos_iff.1 (by omega)⟩
  · exact regular.bounded id (regular.jobs_suffix.subset hm)
  · exact apart (regular.rising.sublist prefixed.sublist)
  · intro call fault hf
    obtain ⟨c, -, hc⟩ := (turns_perform call d.alarm).2 fault hf
    rw [hc]
    exact ⟨rfl, rfl⟩

/-- The first setting is refused. The callback of the first cycle begins the second, which expires
before the callback has ended. -/
def overlapping : List Happening :=
  [.call .activate, .call .activate, .move (.expire 1), .move .beginJob, .call .activate,
    .call .signal, .move (.expire 2), .move .finishJob]

/-- The end of the first job leaves the alarm barking for the second. -/
theorem overlapping_barks : ∃ a d, Alarm.new ⟨1000⟩ (.manual [(1, true)]) = .ok a ∧
    run overlapping (.begin a) = d ∧ d.begun = 2 ∧ d.called = [1] ∧ d.alarm.jobs = [2] ∧
      d.alarm.phase = .barking ∧ d.alarm.countdown.armed = false := by
  obtain ⟨a, ha⟩ : ∃ a, Alarm.new ⟨1000⟩ (.manual [(1, true)]) = .ok a := ⟨_, rfl⟩
  have seen : (Alarm.new ⟨1000⟩ (.manual [(1, true)])).toOption.map (fun a =>
      let d := run overlapping (.begin a)
      decide (d.begun = 2 ∧ d.called = [1] ∧ d.alarm.jobs = [2] ∧ d.alarm.cycle = 2)) =
        some true := by
    decide +kernel
  rw [ha] at seen
  obtain ⟨begun, called, jobs, cycle⟩ := of_decide_eq_true (Option.some.inj seen)
  obtain ⟨armed, barks, -⟩ := keeps_cycles_apart ha rfl
    (show (run overlapping (.begin a)).begun < UInt64.size by rw [begun]; decide)
  have barking := barks.2 (by rw [jobs, cycle]; rfl)
  refine ⟨a, _, ha, rfl, begun, called, jobs, barking, ?_⟩
  rw [← Bool.not_eq_true, armed, barking]
  decide

end Lifecycle

end Diary

end Alarm

end TensorQueue
