import TensorQueue.Proofs.Admission.Deadlines
import TensorQueue.Proofs.Admission.Runs
import TensorQueue.Queue.Scheduler

/-!
# A periodic executable keeps its frames

An executable comes once in each of its frames. Whatever else is submitted in
between, with whatever contracts, is admitted only if it is finished by the next
time at which the executable must be able to start. So the hardware is never
booked further when the executable comes again, over any number of frames, and
each of its runs that is admitted is finished within a frame.
-/

set_option autoImplicit false

namespace TensorQueue.RealTime

open Dispatcher

variable {S : Type}

/-- Real-time mode is on, and the executable has this contract. -/
structure Standing (executable : ExecutableId) (c : Contract) (s : RealTime S) : Prop where
  enabled : s.desk.enabled = true
  contract : s.desk.contracts.get? executable = some c

instance (executable : ExecutableId) (c : Contract) (s : RealTime S) :
    Decidable (Standing executable c s) :=
  decidable_of_iff (s.desk.enabled = true ∧ s.desk.contracts.get? executable = some c)
    ⟨fun h => ⟨h.1, h.2⟩, fun h => ⟨h.enabled, h.contract⟩⟩

def Call.submits (executable : ExecutableId) : Call → Bool
  | .submit offer => offer.ticket.executable = executable
  | _ => false

/-- The executable came at this time, and nothing is booked past the end of its tolerance after it
comes next. -/
structure Ahead (executable : ExecutableId) (c : Contract) (frame : Duration) (time : Nat)
    (s : RealTime S) : Prop where
  multiple : 0 < s.desk.multiple.toNat
  arrival : s.desk.arrivals.get? executable = some ⟨time⟩
  booked : s.desk.busyUntil.ns ≤ time + frame.ns + c.tolerance.ns

variable [Dispatcher S]

/-- The calls come before this time. None of them submits the executable, which keeps its standing
all along. -/
def Quiet (executable : ExecutableId) (c : Contract) (bound : Nat) :
    List Call → RealTime S → Prop
  | [], s => Standing executable c s
  | call :: rest, s => Standing executable c s ∧ s.clock.ns < bound ∧
      call.submits executable = false ∧ Quiet executable c bound rest (s.after call)

instance Quiet.decidable (executable : ExecutableId) (c : Contract) (bound : Nat) :
    (calls : List Call) → (s : RealTime S) → Decidable (Quiet executable c bound calls s)
  | [], s => inferInstanceAs (Decidable (Standing executable c s))
  | call :: rest, s =>
    have := Quiet.decidable executable c bound rest (s.after call)
    inferInstanceAs (Decidable (Standing executable c s ∧ s.clock.ns < bound ∧
      call.submits executable = false ∧ Quiet executable c bound rest (s.after call)))

section Frame

variable {executable : ExecutableId} {c : Contract} {frame : Duration} {time : Nat}
  {s : RealTime S} {offer : Offer}

theorem Quiet.standing_after {bound : Nat} {calls : List Call}
    (h : Quiet executable c bound calls s) : Standing executable c (run calls s) := by
  induction calls generalizing s with
  | nil => exact h
  | cons call rest ih => exact ih h.2.2.2

/-- The executable's own submission is noted. It is booked behind what was booked already, or turned
away. -/
theorem own_submission (hs : Standing executable c s)
    (he : offer.ticket.executable = executable) : ∃ outcome busy backing,
      Dispatcher.submit offer s = (outcome,
        { s with desk := { s.noted offer.ticket with busyUntil := busy }, backing := backing }) ∧
      (s.noted offer.ticket).arrivals.get? executable = some s.clock ∧
      (outcome ≠ .ok () ∧ busy = s.desk.busyUntil ∨
        busy.ns = max s.desk.busyUntil.ns s.clock.ns + c.execution.ns) := by
  have arrival : (s.noted offer.ticket).arrivals.get? executable = some s.clock := by
    rw [RealTime.noted, Desk.noteArrival, Table.get?_put, if_pos he]
  rcases submit_cases offer hs.enabled with ⟨fault, -, h⟩ | ⟨finish, hd, outcome, backing, -, h⟩
  · exact ⟨_, _, _, h, arrival, .inl ⟨by simp, rfl⟩⟩
  · have contract : (s.noted offer.ticket).contracts.get? offer.ticket.executable = some c := by
      rw [he]
      exact hs.contract
    obtain ⟨-, hsum, -⟩ := Desk.decide_eq_ok_iff.1 hd
    rw [contract, Option.getD_some] at hsum
    have finished : finish.ns = max s.desk.busyUntil.ns s.clock.ns + c.execution.ns := by
      rw [(Desk.sum_eq_ok_iff.1 hsum).2, Duration.ns_later]
      rfl
    refine ⟨_, _, _, h, arrival, ?_⟩
    unfold booking
    split
    · exact .inl ⟨by simp, rfl⟩
    · exact .inr finished

/-- A submission of another executable is booked before the executable comes next, or not at all. -/
theorem Ahead.other_submission (h : Ahead executable c frame time s)
    (hs : Standing executable c s) (hf : c.frame? = some frame) (hr : c.isRealTime = true)
    (ht : s.clock.ns < time + frame.ns) (he : offer.ticket.executable ≠ executable) :
    Ahead executable c frame time (s.after (.submit offer)) := by
  have arrival : (s.noted offer.ticket).arrivals.get? executable = some ⟨time⟩ := by
    rw [noted, Desk.noteArrival, Table.get?_put, if_neg he]
    exact h.arrival
  rw [after]
  rcases submit_cases offer hs.enabled with ⟨fault, -, hc⟩ | ⟨finish, hd, outcome, backing, -, hc⟩
  · rw [hc]
    exact ⟨h.multiple, arrival, h.booked⟩
  · have within := Desk.decide_within hd h.multiple hs.contract hf hr arrival he.symm ht
    rw [hc]
    refine ⟨h.multiple, arrival, ?_⟩
    show (booking s.desk.busyUntil finish outcome).ns ≤ _
    rcases booking_cases s.desk.busyUntil finish outcome with hb | hb <;> rw [hb]
    · exact h.booked
    · exact within

theorem Ahead.after (h : Ahead executable c frame time s) (hs : Standing executable c s)
    (hf : c.frame? = some frame) (hr : c.isRealTime = true) (ht : s.clock.ns < time + frame.ns)
    {call : Call} (hc : call.submits executable = false) :
    Ahead executable c frame time (s.after call) := by
  by_cases submits : ∃ offer, call = .submit offer
  · obtain ⟨offer, rfl⟩ := submits
    exact h.other_submission hs hf hr ht (of_decide_eq_false hc)
  · obtain ⟨on, contracts, hd⟩ := desk_after (fun offer e => submits ⟨offer, e⟩) s
    exact ⟨hd ▸ h.multiple, hd ▸ h.arrival, hd ▸ h.booked⟩

theorem Ahead.run (hf : c.frame? = some frame) (hr : c.isRealTime = true) {calls : List Call} :
    ∀ {s : RealTime S}, Ahead executable c frame time s →
      Quiet executable c (time + frame.ns) calls s →
      Ahead executable c frame time (run calls s) := by
  induction calls with
  | nil => exact fun h _ => h
  | cons call rest ih =>
    intro s h hq
    obtain ⟨hs, ht, hc, later⟩ := hq
    exact ih (h.after hs hf hr ht hc) later

end Frame

/-- The submissions of one executable, and what happens between one and the next. -/
structure Timetable where
  offer : Nat → Offer
  between : Nat → List Call

namespace Timetable

/-- The state in which the submission of this number comes. -/
def before (p : Timetable) (s : RealTime S) : Nat → RealTime S
  | 0 => s
  | k + 1 => run (p.between k) ((before p s k).after (.submit (p.offer k)))

def behind (p : Timetable) (s : RealTime S) (k : Nat) : RealTime S :=
  (p.before s k).after (.submit (p.offer k))

/-- For so many frames the executable comes once in each, a frame after it came before. Between its
submissions it keeps its standing, and all that happens is earlier than its next one. -/
structure Periodic (p : Timetable) (s : RealTime S) (e : ExecutableId) (c : Contract)
    (frame : Duration) (frames : Nat) : Prop where
  submits : ∀ k ≤ frames, (p.offer k).ticket.executable = e
  clock : ∀ k ≤ frames, (p.before s k).clock.ns = s.clock.ns + k * frame.ns
  quiet : ∀ k < frames, Quiet e c (s.clock.ns + (k + 1) * frame.ns) (p.between k) (p.behind s k)

section Frames

variable {p : Timetable} {s : RealTime S} {e : ExecutableId} {c : Contract} {frame : Duration}
  {frames : Nat}

theorem Periodic.standing (hp : p.Periodic s e c frame frames) (hs : Standing e c s) {k : Nat}
    (hk : k ≤ frames) : Standing e c (p.before s k) := by
  cases k with
  | zero => exact hs
  | succ k => exact (hp.quiet k hk).standing_after

/-- Once the bookings behind one submission leave room, they do so until the next one comes. -/
theorem Periodic.ahead (hp : p.Periodic s e c frame frames) (hs : Standing e c s)
    (hv : c.check e = .ok ()) (hf : c.frame? = some frame) {k : Nat} (hk : k < frames)
    (hm : 0 < (p.before s k).desk.multiple.toNat)
    (hb : (p.behind s k).desk.busyUntil.ns ≤
      s.clock.ns + k * frame.ns + c.tolerance.ns + c.execution.ns) :
    Ahead e c frame (s.clock.ns + k * frame.ns) (p.before s (k + 1)) := by
  obtain ⟨outcome, busy, backing, submitted, arrival, -⟩ :=
    own_submission (hp.standing hs (Nat.le_of_lt hk)) (hp.submits k (Nat.le_of_lt hk))
  have state : p.behind s k = _ := congrArg Prod.snd submitted
  have fits := (Contract.fits_of_check hv hf).2
  have ahead : Ahead e c frame (s.clock.ns + k * frame.ns) (p.behind s k) := by
    refine ⟨?_, ?_, by omega⟩
    · rw [state]
      exact hm
    · rw [state, ← hp.clock k (Nat.le_of_lt hk)]
      exact arrival
  have quiet := hp.quiet k hk
  rw [Nat.succ_mul, ← Nat.add_assoc] at quiet
  exact ahead.run hf (Contract.isRealTime_of_check hv hf) quiet

/-- What is booked behind a submission is booked by it, or was before it came. -/
theorem Periodic.behind_cases (hp : p.Periodic s e c frame frames) (hs : Standing e c s) {k : Nat}
    (hk : k ≤ frames) : ∃ outcome, (Dispatcher.submit (p.offer k) (p.before s k)).1 = outcome ∧
      (outcome ≠ .ok () ∧ (p.behind s k).desk.busyUntil = (p.before s k).desk.busyUntil ∨
        (p.behind s k).desk.busyUntil.ns =
          max (p.before s k).desk.busyUntil.ns (s.clock.ns + k * frame.ns) + c.execution.ns) := by
  obtain ⟨outcome, busy, backing, submitted, -, booked⟩ :=
    own_submission (hp.standing hs hk) (hp.submits k hk)
  have state : p.behind s k = _ := congrArg Prod.snd submitted
  rw [hp.clock k hk] at booked
  exact ⟨outcome, congrArg Prod.fst submitted, by rw [state]; exact booked⟩

/-- Whatever others do, when a periodic executable comes again the hardware is booked no further
than its tolerance, and behind its submission no further than that and its execution. What is
admitted of it is booked for its execution behind all else and ends within a frame. -/
theorem frames_isolated (hs : Standing e c s) (hv : c.check e = .ok ())
    (hf : c.frame? = some frame) (hm : 0 < s.desk.multiple.toNat)
    (hp : p.Periodic s e c frame frames)
    (hb : (p.behind s 0).desk.busyUntil.ns ≤ s.clock.ns + c.tolerance.ns + c.execution.ns) :
    (∀ k < frames,
      (p.before s (k + 1)).desk.busyUntil.ns ≤
        s.clock.ns + (k + 1) * frame.ns + c.tolerance.ns ∧
      (p.behind s (k + 1)).desk.busyUntil.ns ≤
        s.clock.ns + (k + 1) * frame.ns + c.tolerance.ns + c.execution.ns) ∧
    ∀ k ≤ frames, (Dispatcher.submit (p.offer k) (p.before s k)).1 = .ok () →
      (p.behind s k).desk.busyUntil.ns =
        max (p.before s k).desk.busyUntil.ns (s.clock.ns + k * frame.ns) + c.execution.ns ∧
      (p.behind s k).desk.busyUntil.ns ≤ s.clock.ns + k * frame.ns + frame.ns := by
  -- by induction on the frame; the bound behind one submission gives the one before the next
  have bounds : ∀ k ≤ frames, 0 < (p.before s k).desk.multiple.toNat ∧
      (0 < k → (p.before s k).desk.busyUntil.ns ≤ s.clock.ns + k * frame.ns + c.tolerance.ns) ∧
      (p.behind s k).desk.busyUntil.ns ≤
        s.clock.ns + k * frame.ns + c.tolerance.ns + c.execution.ns := by
    intro k hk
    induction k with
    | zero => exact ⟨hm, fun h => absurd h (Nat.lt_irrefl 0), by omega⟩
    | succ k ih =>
      obtain ⟨multiple, -, behind⟩ := ih (Nat.le_of_lt hk)
      have ahead := hp.ahead hs hv hf hk multiple behind
      have before := ahead.booked
      have step : (k + 1) * frame.ns = k * frame.ns + frame.ns := Nat.succ_mul _ _
      refine ⟨ahead.multiple, fun _ => by omega, ?_⟩
      obtain ⟨outcome, -, ⟨-, same⟩ | booked⟩ := hp.behind_cases hs hk
      · rw [same]
        omega
      · omega
  have fits := (Contract.fits_of_check hv hf).2
  refine ⟨fun k hk => ?_, fun k hk admitted => ?_⟩
  · exact ⟨(bounds (k + 1) hk).2.1 (Nat.succ_pos k), (bounds (k + 1) hk).2.2⟩
  · have bound := (bounds k hk).2.2
    obtain ⟨outcome, houtcome, ⟨refused, -⟩ | booked⟩ := hp.behind_cases hs hk
    · exact absurd (houtcome.symm.trans admitted) refused
    · exact ⟨booked, by omega⟩

end Frames

section Camera

/-- A hundred frames a second. -/
def camera : Contract := ⟨100, ⟨4000000⟩, ⟨2000000⟩⟩

def cameraDesk : RealTime (Scheduler Watchdog.Idle) :=
  ⟨⟨true, [(⟨1⟩, camera)], [], .zero, 2⟩, .zero,
    { Scheduler.new ⟨⟩ with queue := { Queue.new with isOpen := true } }⟩

/-- In each frame a detector at fifty frames a second gets its contract and is submitted twice. -/
def cameraFrames : Timetable where
  offer _ := ⟨⟨0, 0, ⟨1⟩, 0⟩, .ok [⟨.instruction, 0, 64⟩]⟩
  between k :=
    [.setContract ⟨2⟩ ⟨some 50, some ⟨5000000⟩, none⟩,
      .submit ⟨⟨0, 1, ⟨2⟩, 0⟩, .ok [⟨.instruction, 0, 64⟩]⟩,
      .submit ⟨⟨0, 2, ⟨2⟩, 0⟩, .ok [⟨.instruction, 0, 64⟩]⟩,
      .moveClock (.set ⟨(k + 1) * 10000000⟩)]

theorem camera_frames_isolated :
    (∀ k < 2, (cameraFrames.before cameraDesk (k + 1)).desk.busyUntil.ns ≤
        (k + 1) * 10000000 + 2000000 ∧
      (cameraFrames.behind cameraDesk (k + 1)).desk.busyUntil.ns ≤
        (k + 1) * 10000000 + 2000000 + 4000000) ∧
    ∀ k ≤ 2, (Dispatcher.submit (cameraFrames.offer k) (cameraFrames.before cameraDesk k)).1 =
        .ok () ∧
      (cameraFrames.behind cameraDesk k).desk.busyUntil.ns ≤ k * 10000000 + 10000000 := by
  have frame : camera.frame? = some ⟨10000000⟩ := rfl
  have numbers : ∀ k ≤ 2, k = 0 ∨ k = 1 ∨ k = 2 := by omega
  have periodic : cameraFrames.Periodic cameraDesk ⟨1⟩ camera ⟨10000000⟩ 2 := by
    refine ⟨fun _ _ => rfl, fun k hk => ?_, fun k hk => ?_⟩
    · rcases numbers k hk with rfl | rfl | rfl <;> decide +kernel
    · rcases numbers k (Nat.le_of_lt hk) with rfl | rfl | rfl
      · decide +kernel
      · decide +kernel
      · omega
  have admitted : ∀ k ≤ 2,
      (Dispatcher.submit (cameraFrames.offer k) (cameraFrames.before cameraDesk k)).1 = .ok () := by
    intro k hk
    rcases numbers k hk with rfl | rfl | rfl <;> rfl
  have start : cameraDesk.clock.ns = 0 := rfl
  have execution : camera.execution.ns = 4000000 := rfl
  have tolerance : camera.tolerance.ns = 2000000 := rfl
  have isolated := frames_isolated (s := cameraDesk) (by decide) (by rfl) frame (by decide) periodic
    (by decide +kernel)
  simp only [start, execution, tolerance, Nat.zero_add] at isolated
  exact ⟨isolated.1, fun k hk => ⟨admitted k hk, (isolated.2 k hk (admitted k hk)).2⟩⟩

end Camera

end Timetable

end TensorQueue.RealTime
