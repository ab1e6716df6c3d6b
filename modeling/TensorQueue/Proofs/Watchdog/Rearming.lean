import TensorQueue.Proofs.Queue.Patrol
import TensorQueue.Proofs.Watchdog.Alarms

/-!
# Progress arms an alarm again

An alarm that supervises a queue expires in two halves: it barks when its
countdown runs out, and comes to rest later, when its callback has ended. While
work is in flight, activated tasks and reports of the hardware arm it again,
with one exception. A signal that finds the alarm barking is taken for good and
does nothing. So a report between the two halves does not arm the alarm, and
once the callback ends the alarm rests while the hardware still has work.
-/

set_option autoImplicit false

namespace TensorQueue.Alarm

/-- What happens to an alarm besides the calls on it. -/
inductive Move where
  | expire (count : UInt64)
  | beginJob
  | finishJob
  deriving DecidableEq, Repr, Inhabited

def after (a : Alarm) : Move → Alarm
  | .expire count => a.expire count
  | .beginJob => (a.beginJob.map Prod.snd).getD a
  | .finishJob => a.finishJob

def expires (a : Alarm) : Move → Bool
  | .expire count => a.takesExpiry count
  | _ => false

def course : Watchdog.Course Alarm Move := ⟨after, expires⟩

section Course

variable {a : Alarm} {m : Move}

theorem settings_after (a : Alarm) (m : Move) :
    (a.after m).countdown.settings = a.countdown.settings := by
  cases m with
  | expire count =>
    simp only [after, expire]
    repeat' split
    all_goals rfl
  | beginJob =>
    simp only [after, beginJob]
    split <;> rfl
  | finishJob =>
    simp only [after, finishJob]
    repeat' split
    all_goals rfl

theorem continues_after (a : Alarm) (m : Move) : a.Continues (a.after m) := by
  cases m with
  | expire count => exact continues_expire count a
  | beginJob =>
    rw [after]
    cases hb : a.beginJob with
    | none => exact .refl a
    | some job => exact (continues_beginJob hb).1
  | finishJob => exact continues_finishJob a

/-- Only an expiry takes an armed alarm out of its phase. -/
theorem phase_after (h : a.phase = .active) (hm : a.expires m = false) :
    (a.after m).phase = .active := by
  cases m with
  | expire count =>
    have none : count = 0 := by simpa [expires, takesExpiry, h] using hm
    simpa [after, expire, none] using h
  | beginJob =>
    simp only [after, beginJob]
    split <;> exact h
  | finishJob =>
    simp only [after, finishJob, h]
    split <;> simp [h]

end Course

section Demands

variable {a b : Alarm}

/-- None of the settings asked for was refused. -/
def Taken (a : Alarm) : Prop := Countdown.Taken a.countdown.settings

theorem Taken.of_suffix (h : b.Taken) (hs : a.countdown.settings <:+ b.countdown.settings) :
    a.Taken := fun x hx => h x (hs.subset hx)

theorem adds_activated (a : Alarm) :
    a.countdown.settings <:+ (Watchdog.activated a).countdown.settings := by
  show _ <:+ (activate a).2.countdown.settings
  by_cases h : a.phase = .active
  · simp only [activate_of_active h, List.suffix_refl]
  · obtain ⟨refused, hs⟩ := settings_activate h
    rw [hs]
    exact List.suffix_cons _ _

/-- A signal sets the countdown of an armed alarm anew, whatever the countdown says to it. -/
theorem kicked_of_active (h : a.phase = .active) : Watchdog.kicked true a =
    (onCountdown (Countdown.set a.timeout) a).2 := by
  simp only [Watchdog.kicked, ↓reduceIte, Watchdog.signal, signal, Act.bind_apply, Act.read_apply, h]
  have still : (onCountdown (Countdown.set a.timeout) a).2.phase = .active := h
  rcases hs : onCountdown (Countdown.set a.timeout) a with ⟨fault | u, b⟩
  · rw [hs] at still
    cases fault with
    | refusal cause => exact congrArg Prod.snd (activate_of_active still)
    | abort cause => rfl
  · rfl

theorem kicked_of_barking (h : a.phase = .barking) : Watchdog.kicked true a = a := by
  simp only [Watchdog.kicked, ↓reduceIte, Watchdog.signal, signal, Act.bind_apply, Act.read_apply, h]
  rfl

/-- At rest an alarm refuses the signal, and is activated then. -/
theorem kicked_of_inactive (h : a.phase = .inactive) :
    Watchdog.kicked true a = Watchdog.activated a := by
  simp only [Watchdog.kicked, ↓reduceIte, Watchdog.signal, signal, Act.bind_apply, Act.read_apply, h]
  rfl

theorem adds_kicked (a : Alarm) :
    a.countdown.settings <:+ (Watchdog.kicked true a).countdown.settings := by
  cases h : a.phase with
  | active =>
    obtain ⟨refused, hs⟩ := settings_onCountdown a.timeout a
    rw [kicked_of_active h, hs]
    exact List.suffix_cons _ _
  | barking =>
    simp only [kicked_of_barking h, List.suffix_refl]
  | inactive =>
    rw [kicked_of_inactive h]
    exact adds_activated a

theorem active_of_activated (ht : (Watchdog.activated a).Taken) :
    (Watchdog.activated a).phase = .active := by
  show (activate a).2.phase = .active
  by_cases h : a.phase = .active
  · rw [activate_of_active h]
    exact h
  · obtain ⟨c, hc⟩ := activate_of_taken h ht
    rw [hc]

theorem active_of_kicked (ht : (Watchdog.kicked true a).Taken) (h : a.phase ≠ .barking) :
    (Watchdog.kicked true a).phase = .active := by
  cases hp : a.phase with
  | active =>
    rw [kicked_of_active hp]
    exact hp
  | barking => exact absurd hp h
  | inactive =>
    rw [kicked_of_inactive hp] at ht ⊢
    exact active_of_activated ht

theorem heeds : Watchdog.Heeds course (fun _ => True) (fun a => a.Taken → a.phase = .active)
    (fun a => a.Taken → a.phase ≠ .active) (fun a => a.Taken → a.phase ≠ .barking) where
  wakes a _ := ⟨trivial, active_of_activated⟩
  goesOn a _ := ⟨trivial, fun hears ht => active_of_kicked ht (hears (ht.of_suffix (adds_kicked a)))⟩
  rests a _ := by
    refine ⟨trivial, fun ht => ?_⟩
    obtain ⟨c, phase, hd, hphase⟩ := deactivate_of_taken ht
    show (deactivate a).2.phase ≠ .active
    rw [hd]
    exact hphase
  hears a armed taken := by
    rw [armed taken]
    decide
  after a m _ := by
    have same : (a.after m).Taken → a.Taken := fun ht => by
      rw [Taken, settings_after] at ht
      exact ht
    exact ⟨trivial, fun rests ht hp => rests (same ht) ((continues_after a m).phase hp),
      fun armed quiet ht => phase_after (armed (same ht)) quiet⟩

end Demands

section Runs

variable {timeout : Duration} {source : Countdown.Source} {a : Alarm}
  {es : List (Patrol.Event Move)} {p : Patrol Alarm}

/-- An alarm that supervises a queue is not armed while nothing is in flight. While something is, it
is armed as long as it has not expired since the latest activation of tasks or report of the
hardware, unless that report found it barking. -/
theorem progress_arms (h : Alarm.new timeout source = .ok a)
    (hp : Patrol.run course es (.begin a) = p) (ht : p.watchdog.Taken) :
    (p.scheduler.queue.inFlight = false → p.watchdog.phase ≠ .active) ∧
    (p.scheduler.queue.inFlight = true → p.latest ≠ some .expiry →
      (∀ found, p.latest = some (.completion found) → found.phase ≠ .barking) →
        p.watchdog.phase = .active) := by
  subst hp
  have resting : a.Taken → a.phase ≠ .active := fun _ => by
    rw [(fresh_of_new h).1.1]
    decide
  obtain ⟨-, rests, armed⟩ :=
    Patrol.attended_run heeds (Patrol.attended_begin trivial resting) es
  refine ⟨fun idle => rests idle ht, fun busy unexpired heard => armed busy ?_ ht⟩
  cases hl : (Patrol.run course es (.begin a)).latest with
  | none => exact trivial
  | some sign =>
    cases sign with
    | promotion => exact trivial
    | completion found => exact fun _ => heard found hl
    | expiry => exact absurd hl unexpired

/-- Two transfers are with the hardware when the countdown runs out. -/
def overdue : List (Patrol.Event Move) :=
  [.call .openUp, .call (.submit ⟨default, .ok [⟨.instruction, 0, 64⟩, ⟨.instruction, 64, 64⟩]⟩),
    .call .next, .call .next, .move (.expire 1), .move .beginJob]

/-- The hardware comes back with the first of them. -/
def firstBack : Patrol.Event Move := .call (.complete ⟨0, 0, ⟨.instruction, 0, 64⟩⟩)

theorem report_after_bark_arms : ∃ a p, Alarm.new ⟨1000⟩ (.manual []) = .ok a ∧
    Patrol.run course (overdue ++ [.move .finishJob, firstBack]) (.begin a) = p ∧
      p.scheduler.queue.inFlight = true ∧ p.latest ≠ some .expiry ∧ p.watchdog.phase = .active := by
  obtain ⟨a, ha⟩ : ∃ a, Alarm.new ⟨1000⟩ (.manual []) = .ok a := ⟨_, rfl⟩
  have seen : (Alarm.new ⟨1000⟩ (.manual [])).toOption.map (fun a =>
      let p := Patrol.run course (overdue ++ [.move .finishJob, firstBack]) (.begin a)
      decide ((∀ x ∈ p.watchdog.countdown.settings, x.refused = false) ∧
        p.scheduler.queue.inFlight = true ∧ p.latest ≠ some .expiry ∧
        p.latest.all (fun
          | .completion found => found.phase ≠ .barking
          | _ => true) = true)) = some true := by
    decide +kernel
  rw [ha] at seen
  obtain ⟨taken, busy, unexpired, heard⟩ := of_decide_eq_true (Option.some.inj seen)
  refine ⟨a, _, ha, rfl, busy, unexpired, (progress_arms ha rfl taken).2 busy unexpired ?_⟩
  intro found hf
  rw [hf] at heard
  simpa using heard

/-- If it comes back between the two halves of the expiry, the alarm is at rest in the end, with a
transfer still with the hardware and nobody to arm it. -/
theorem report_while_barking_is_lost : ∃ a p, Alarm.new ⟨1000⟩ (.manual []) = .ok a ∧
    Patrol.run course (overdue ++ [firstBack, .move .finishJob]) (.begin a) = p ∧
      p.watchdog.Taken ∧ p.scheduler.queue.inFlight = true ∧
      (∃ found, p.latest = some (.completion found) ∧ found.phase = .barking) ∧
      p.watchdog.phase = .inactive := by
  obtain ⟨a, ha⟩ : ∃ a, Alarm.new ⟨1000⟩ (.manual []) = .ok a := ⟨_, rfl⟩
  have seen : (Alarm.new ⟨1000⟩ (.manual [])).toOption.map (fun a =>
      let p := Patrol.run course (overdue ++ [firstBack, .move .finishJob]) (.begin a)
      decide ((∀ x ∈ p.watchdog.countdown.settings, x.refused = false) ∧
        p.scheduler.queue.inFlight = true ∧
        p.latest.any (fun
          | .completion found => found.phase = .barking
          | _ => false) = true ∧ p.watchdog.phase = .inactive)) = some true := by
    decide +kernel
  rw [ha] at seen
  obtain ⟨taken, busy, completed, rests⟩ := of_decide_eq_true (Option.some.inj seen)
  refine ⟨a, _, ha, rfl, taken, busy, ?_, rests⟩
  obtain ⟨sign, hl, hs⟩ := (Option.any_eq_true _ _).1 completed
  cases sign with
  | completion found => exact ⟨found, hl, of_decide_eq_true hs⟩
  | promotion => cases hs
  | expiry => cases hs

end Runs

end TensorQueue.Alarm
