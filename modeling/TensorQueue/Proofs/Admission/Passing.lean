import TensorQueue.Proofs.Admission.Runs
import TensorQueue.Queue.Scheduler

/-!
# What passes the desk

The desk stands between those who submit and the dispatcher behind it. It turns
some submissions away. Everything else that is asked goes through as it is, and
the answer comes back as it is. So whatever is said to the desk meanwhile, the
dispatcher behind it goes through the same states as if it were alone and were
asked for all but what was turned away. A submission that is refused, by the
desk or behind it, leaves nothing at the desk but the time at which it came.
-/

set_option autoImplicit false

namespace TensorQueue

namespace Dispatcher

/-- What a dispatcher is asked to do. -/
inductive Demand where
  | openUp
  | close (mode : CloseMode)
  | finishClose
  | submit (offer : Offer)
  | next
  | complete (h : Handle)
  | finishRequest

inductive Answer where
  | done
  | closing (closing : Closing)
  | handedOut (handle : Option Handle) (finished : List Ticket)
  | finished (tickets : List Ticket)

/-- What can be seen of a dispatcher at any time. Whoever waits for it looks whether anything is in
flight. -/
structure View where
  peek : Option Descriptor.Kind
  remainingCycles : UInt64
  oldest : Option Ticket
  isEmpty : Bool
  inFlight : Bool

/-- An answer is made of what an action gives, and of nothing else. -/
theorem answer_apply {σ α : Type} (act : Act σ α) (f : α → Answer) (s : σ) :
    (do return f (← act) : Act σ Answer) s = ((act s).1.map f, (act s).2) := by
  rw [Act.bind_apply]
  rcases act s with ⟨fault | a, t⟩
  · rfl
  · rfl

section Demands

variable {S : Type} [Dispatcher S]

def view (s : S) : View :=
  ⟨Dispatcher.peek s, Dispatcher.remainingCycles s, Dispatcher.oldest s, Dispatcher.isEmpty s,
    Dispatcher.inFlight s⟩

namespace Demand

def perform : Demand → Act S Answer
  | .openUp => do Dispatcher.openUp; return .done
  | .close mode => do return .closing (← Dispatcher.close mode)
  | .finishClose => do return .closing (← Dispatcher.finishClose)
  | .submit offer => do Dispatcher.submit offer; return .done
  | .next => do
    let out ← Dispatcher.next
    return .handedOut out.1 out.2
  | .complete h => do return .finished (← Dispatcher.complete h)
  | .finishRequest => do return .finished (← Dispatcher.finishRequest)

def run (demands : List Demand) (s : S) : S := demands.foldl (fun s d => (d.perform s).2) s

/-- How the demands are answered, one after the other. -/
def outcomes : List Demand → S → List (Except Fault Answer)
  | [], _ => []
  | d :: rest, s => (d.perform s).1 :: outcomes rest (d.perform s).2

end Demand

end Demands

/-- A dispatcher with a record of what it was asked for, in order. -/
structure Recorder (S : Type) where
  dispatcher : S
  demands : List Demand

namespace Recorder

variable {S : Type}

def record {α : Type} (d : Demand) (act : Act S α) : Act (Recorder S) α := fun r =>
  ((act r.dispatcher).1, ⟨(act r.dispatcher).2, r.demands ++ [d]⟩)

instance [Dispatcher S] : Dispatcher (Recorder S) where
  openUp := record .openUp Dispatcher.openUp
  close mode := record (.close mode) (Dispatcher.close mode)
  finishClose := record .finishClose Dispatcher.finishClose
  submit offer := record (.submit offer) (Dispatcher.submit offer)
  next := record .next Dispatcher.next
  complete h := record (.complete h) (Dispatcher.complete h)
  finishRequest := record .finishRequest Dispatcher.finishRequest
  peek r := Dispatcher.peek r.dispatcher
  remainingCycles r := Dispatcher.remainingCycles r.dispatcher
  oldest r := Dispatcher.oldest r.dispatcher
  isEmpty r := Dispatcher.isEmpty r.dispatcher
  inFlight r := Dispatcher.inFlight r.dispatcher
  effort r := Dispatcher.effort r.dispatcher
  takeMarks r :=
    let (marks, dispatcher) := Dispatcher.takeMarks r.dispatcher
    (marks, { r with dispatcher := dispatcher })

end Recorder

end Dispatcher

namespace RealTime

open Dispatcher

variable {S : Type}

/-- What the dispatcher is asked for by a call, if it is not a call on the desk or the clock. -/
def Call.demand? : Call → Option Demand
  | .openUp => some .openUp
  | .close mode => some (.close mode)
  | .finishClose => some .finishClose
  | .submit offer => some (.submit offer)
  | .next => some .next
  | .complete h => some (.complete h)
  | .finishRequest => some .finishRequest
  | .setEnabled _ | .setContract _ _ | .removeContract _ | .moveClock _ => none

/-- The desk does not admit this submission. -/
def turnsAway (s : RealTime S) : Call → Bool
  | .submit offer => s.desk.enabled &&
      !((s.noted offer.ticket).decide offer.ticket.id offer.ticket.executable s.clock).isOk
  | _ => false

/-- What the dispatcher is asked for by the calls that are not turned away. -/
def passes (s : RealTime S) (call : Call) : Option Demand :=
  if s.turnsAway call then none else call.demand?

variable [Dispatcher S]

def passed : List Call → RealTime S → List Demand
  | [], _ => []
  | call :: rest, s => (s.passes call).toList ++ passed rest (s.after call)

/-- How the calls that ask something of the dispatcher are answered, but for those that are turned
away. -/
def outcomes : List Call → RealTime S → List (Except Fault Answer)
  | [], _ => []
  | call :: rest, s =>
    ((s.passes call).map fun d => (d.perform s).1).toList ++ outcomes rest (s.after call)

section Steps

variable {s : RealTime S} {call : Call} {offer : Offer} {d : Demand}

/-- A submission that is not turned away is answered by the dispatcher, in either mode. -/
theorem submit_passed (h : s.turnsAway (.submit offer) = false) :
    (Dispatcher.submit offer s).1 = (Dispatcher.submit offer s.backing).1 ∧
      (Dispatcher.submit offer s).2.backing = (Dispatcher.submit offer s.backing).2 := by
  cases he : s.desk.enabled with
  | true =>
    rcases submit_cases offer he with ⟨fault, hd, -⟩ | ⟨finish, -, outcome, backing, hb, hs⟩
    · simp [turnsAway, he, hd, Except.isOk, Except.toBool] at h
    · rw [hs, hb]
      exact ⟨rfl, rfl⟩
  | false =>
    rw [submit_of_disabled offer he]
    exact ⟨rfl, rfl⟩

/-- What is turned away does not reach the dispatcher. -/
theorem submit_turnedAway (h : s.turnsAway (.submit offer) = true) :
    (Dispatcher.submit offer s).2.backing = s.backing := by
  obtain ⟨he, hd⟩ := Bool.and_eq_true_iff.1 h
  rcases submit_cases offer he with ⟨fault, -, hs⟩ | ⟨finish, ok, -⟩
  · rw [hs]
  · simp [ok, Except.isOk, Except.toBool] at hd

omit [Dispatcher S] in
theorem backing_changeDesk (f : Desk → Except Error Desk) (s : RealTime S) :
    (changeDesk f s).2.backing = s.backing := by
  rcases changeDesk_cases f s with ⟨d, -, h⟩ | ⟨cause, -, h⟩ <;> rw [h]

theorem backing_of_passes_none (h : s.passes call = none) : (s.after call).backing = s.backing := by
  unfold passes at h
  split at h
  · rename_i away
    cases call with
    | submit offer => exact submit_turnedAway away
    | _ => cases away
  · cases call with
    | setContract executable terms => exact backing_changeDesk _ s
    | removeContract executable => exact backing_changeDesk _ s
    | setEnabled on => rfl
    | moveClock m => rfl
    | _ => cases h

theorem perform_passed (h : s.passes call = some d) :
    (d.perform s).1 = (d.perform s.backing).1 ∧
      (s.after call).backing = (d.perform s.backing).2 := by
  -- what an action on the dispatcher gives is what it gives behind the desk
  have through : ∀ {α : Type} (act : Act S α) (f : α → Answer),
      ((do return f (← onBacking act) : Act (RealTime S) Answer) s).1 =
          ((do return f (← act) : Act S Answer) s.backing).1 ∧
        (onBacking act s).2.backing = ((do return f (← act) : Act S Answer) s.backing).2 := by
    intro α act f
    rw [answer_apply, answer_apply]
    exact ⟨rfl, rfl⟩
  unfold passes at h
  split at h
  · cases h
  · rename_i stays
    cases call with
    | submit offer =>
      cases h
      obtain ⟨answer, state⟩ := submit_passed (Bool.eq_false_iff.2 stays)
      show ((do return (fun _ => .done) (← Dispatcher.submit offer) : Act (RealTime S) Answer) s).1 =
          ((do return (fun _ => .done) (← Dispatcher.submit offer) : Act S Answer) s.backing).1 ∧
        (Dispatcher.submit offer s).2.backing =
          ((do return (fun _ => .done) (← Dispatcher.submit offer) : Act S Answer) s.backing).2
      rw [answer_apply, answer_apply, answer, state]
      exact ⟨rfl, rfl⟩
    | openUp =>
      cases h
      exact through Dispatcher.openUp fun _ => .done
    | close mode =>
      cases h
      exact through (Dispatcher.close mode) .closing
    | finishClose =>
      cases h
      exact through Dispatcher.finishClose .closing
    | next =>
      cases h
      exact through Dispatcher.next fun out => .handedOut out.1 out.2
    | complete handle =>
      cases h
      exact through (Dispatcher.complete handle) .finished
    | finishRequest =>
      cases h
      exact through Dispatcher.finishRequest .finished
    | _ => cases h

/-- What a refusal leaves at the desk: the time at which the submission came. -/
theorem desk_of_refusal {cause : Error} (he : s.desk.enabled = true)
    (hr : (Dispatcher.submit offer s).1 = .error (.refusal cause)) :
    (Dispatcher.submit offer s).2.desk = s.noted offer.ticket := by
  rcases submit_cases offer he with ⟨fault, -, h⟩ | ⟨finish, -, outcome, backing, -, h⟩
  · rw [h]
  · rw [h] at hr ⊢
    cases hr
    rfl

end Steps

section Recorded

variable {s : RealTime S} {call : Call} {demands : List Demand}

/-- The same desk, with a record kept of what the dispatcher behind it is asked for. -/
def recording (demands : List Demand) (s : RealTime S) : RealTime (Recorder S) :=
  ⟨s.desk, s.clock, ⟨s.backing, demands⟩⟩

omit [Dispatcher S] in
theorem recording_changeDesk (f : Desk → Except Error Desk) (demands : List Demand)
    (s : RealTime S) : (changeDesk f (s.recording demands)).2 =
      (changeDesk f s).2.recording (demands ++ []) := by
  rcases changeDesk_cases f s with ⟨d, hd, h⟩ | ⟨cause, hd, h⟩
  all_goals
    rcases changeDesk_cases f (s.recording demands) with ⟨d', hd', h'⟩ | ⟨cause', hd', h'⟩
  · cases hd.symm.trans hd'
    rw [h, h', List.append_nil]
    rfl
  · cases hd.symm.trans hd'
  · cases hd.symm.trans hd'
  · rw [h, h', List.append_nil]

theorem submit_recording (he : s.desk.enabled = true) (offer : Offer) :
    (s.recording demands).after (.submit offer) =
      (s.after (.submit offer)).recording (demands ++ (s.passes (.submit offer)).toList) := by
  simp only [after, passes, turnsAway, he]
  rcases submit_cases offer he with ⟨fault, hd, h⟩ | ⟨finish, hd, outcome, backing, hb, h⟩
  · rcases submit_cases (s := s.recording demands) offer he with ⟨other, -, h'⟩ | ⟨finish, ok, -⟩
    · rw [h, h', hd]
      simp [recording, noted, Except.isOk, Except.toBool]
    · cases hd.symm.trans ok
  · rcases submit_cases (s := s.recording demands) offer he with
      ⟨other, refused, -⟩ | ⟨finish', hd', outcome', backing', hb', h'⟩
    · cases hd.symm.trans refused
    · cases hd.symm.trans hd'
      have recorded : Dispatcher.submit offer (s.recording demands).backing =
          (outcome, ⟨backing, demands ++ [.submit offer]⟩) := by
        show Recorder.record _ (Dispatcher.submit offer) ⟨s.backing, demands⟩ = _
        rw [Recorder.record, hb]
      cases recorded.symm.trans hb'
      rw [h, h', hd]
      rfl

/-- The record grows by what passes the desk, and nothing else depends on it. -/
theorem after_recording (demands : List Demand) (s : RealTime S) (call : Call) :
    (s.recording demands).after call =
      (s.after call).recording (demands ++ (s.passes call).toList) := by
  cases call with
  | submit offer =>
    cases he : s.desk.enabled with
    | true => exact submit_recording he offer
    | false =>
      have disabled : (s.recording demands).desk.enabled = false := he
      simp only [after, passes, turnsAway, he, submit_of_disabled offer he,
        submit_of_disabled offer disabled]
      rfl
  | setContract executable terms => exact recording_changeDesk _ demands s
  | removeContract executable => exact recording_changeDesk _ demands s
  | setEnabled on => simp [after, recording, passes, turnsAway, Call.demand?, onDesk]
  | moveClock m => simp [after, recording, passes, turnsAway, Call.demand?, onClock, Act.within]
  | _ => rfl

theorem run_recording (calls : List Call) : ∀ (demands : List Demand) (s : RealTime S),
    run calls (s.recording demands) = (run calls s).recording (demands ++ passed calls s) := by
  induction calls with
  | nil =>
    intro demands s
    simp [run, passed]
  | cons call rest ih =>
    intro demands s
    show run rest ((s.recording demands).after call) = _
    rw [after_recording, ih, passed, List.append_assoc]
    rfl

end Recorded

section Runs

theorem run_passed (calls : List Call) : ∀ s : RealTime S,
    (run calls s).backing = Demand.run (passed calls s) s.backing ∧
      outcomes calls s = Demand.outcomes (passed calls s) s.backing := by
  induction calls with
  | nil => exact fun _ => ⟨rfl, rfl⟩
  | cons call rest ih =>
    intro s
    obtain ⟨state, answers⟩ := ih (s.after call)
    rw [run, List.foldl_cons, ← run, state, outcomes, answers, passed]
    cases hp : s.passes call with
    | none =>
      rw [backing_of_passes_none hp]
      exact ⟨rfl, rfl⟩
    | some d =>
      obtain ⟨answer, backing⟩ := perform_passed hp
      rw [backing, Option.map_some, answer]
      exact ⟨rfl, rfl⟩

/-- Whatever is called in whatever order, the dispatcher behind the desk is asked for what passes
it, answers and can be seen as if it were alone and asked for just that. A submission that is
refused in real-time mode changes nothing at the desk but when its own executable came last. -/
theorem desk_only_filters (calls : List Call) (s : RealTime S) :
    (run calls s).backing = Demand.run (passed calls s) s.backing ∧
    outcomes calls s = Demand.outcomes (passed calls s) s.backing ∧
    view (run calls s) = view (Demand.run (passed calls s) s.backing) ∧
    (run calls (s.recording [])).backing = ⟨(run calls s).backing, passed calls s⟩ ∧
    ∀ offer cause, (run calls s).desk.enabled = true →
      (Dispatcher.submit offer (run calls s)).1 = .error (.refusal cause) →
      let before := (run calls s).desk
      let after := (Dispatcher.submit offer (run calls s)).2.desk
      after.enabled = before.enabled ∧ after.contracts = before.contracts ∧
        after.busyUntil = before.busyUntil ∧
        ∀ other, other ≠ offer.ticket.executable →
          after.arrivals.get? other = before.arrivals.get? other := by
  obtain ⟨state, answers⟩ := run_passed calls s
  refine ⟨state, answers, by rw [← state]; rfl, by rw [run_recording]; rfl, ?_⟩
  intro offer cause he hr before after
  have left : after = (run calls s).noted offer.ticket := desk_of_refusal he hr
  rw [left]
  refine ⟨rfl, rfl, rfl, fun other hne => ?_⟩
  rw [noted, Desk.noteArrival, Table.get?_put, if_neg (Ne.symm hne)]

section Gate

/-- One executable has a contract. The queue is shut. -/
def gate : RealTime (Scheduler Watchdog.Idle) :=
  ⟨{ Desk.new 2 with enabled := true, contracts := [(⟨1⟩, ⟨100, ⟨4000000⟩, .zero⟩)] }, .zero,
    Scheduler.new ⟨⟩⟩

def offerOf (executable : ExecutableId) : Offer :=
  ⟨⟨0, 0, executable, 0⟩, .ok [⟨.instruction, 0, 64⟩]⟩

/-- Another executable is turned away. -/
def gateCalls : List Call :=
  [.openUp, .submit (offerOf ⟨2⟩), .submit (offerOf ⟨1⟩), .close .asap]

theorem gate_only_filters :
    (run gateCalls gate).backing =
      Demand.run [.openUp, .submit (offerOf ⟨1⟩), .close .asap] gate.backing ∧
    (Dispatcher.submit (offerOf ⟨1⟩) (run gateCalls gate)).1 = .error (.refusal .queueNotOpen) ∧
    (Dispatcher.submit (offerOf ⟨1⟩) (run gateCalls gate)).2.desk.busyUntil = ⟨4000000⟩ := by
  obtain ⟨state, -, -, -, refusals⟩ := desk_only_filters gateCalls gate
  have passed : passed gateCalls gate = [.openUp, .submit (offerOf ⟨1⟩), .close .asap] := rfl
  have refused : (Dispatcher.submit (offerOf ⟨1⟩) (run gateCalls gate)).1 =
      .error (.refusal .queueNotOpen) := rfl
  obtain ⟨-, -, booked, -⟩ := refusals (offerOf ⟨1⟩) .queueNotOpen rfl refused
  rw [passed] at state
  exact ⟨state, refused, booked⟩

end Gate

end Runs

end RealTime

end TensorQueue
