import TensorQueue.Admission.RealTime
import TensorQueue.Clock

/-!
# Runs in real-time mode

A scheduler behind a desk is called, the desk is told of contracts, and the
clock moves on. A call that is refused or aborted leaves a state too, and the
run goes on from there. The desk is touched by submissions and by what is said
to it, not by the calls that go to the scheduler behind it.
-/

set_option autoImplicit false

namespace TensorQueue

section Contracts

variable {d e : Desk} {executable : ExecutableId}

theorem Desk.setContract_contracts {terms : Contract.Update}
    (h : d.setContract executable terms = .ok e) :
    ∃ contracts, e = { d with contracts := contracts } := by
  simp only [setContract, bind, Except.bind] at h
  split at h
  · cases h
  · split at h
    · cases h
    · exact ⟨_, (Except.ok.inj h).symm⟩

theorem Desk.removeContract_contracts (h : d.removeContract executable = .ok e) :
    ∃ contracts, e = { d with contracts := contracts } := by
  simp only [removeContract, bind, Except.bind] at h
  split at h
  · cases h
  · exact ⟨_, (Except.ok.inj h).symm⟩

end Contracts

namespace RealTime

open Dispatcher

inductive Call where
  | openUp
  | close (mode : CloseMode)
  | finishClose
  | submit (offer : Offer)
  | next
  | complete (h : Handle)
  | finishRequest
  | setEnabled (on : Bool)
  | setContract (executable : ExecutableId) (terms : Contract.Update)
  | removeContract (executable : ExecutableId)
  | moveClock (m : Clock.Move)

variable {S : Type}

/-- A change of the contracts, made as a whole or refused as a whole. -/
def changeDesk (f : Desk → Except Error Desk) : Act (RealTime S) Unit :=
  Act.change fun s => do
    let desk ← f s.desk
    .ok { s with desk := desk }

def onClock (m : Clock.Move) : Act (RealTime S) Duration :=
  Act.within (fun s => ⟨s.clock⟩) (fun s c => { s with clock := c.now }) (Clock.move m)

/-- The desk once it has noted that this request came. -/
def noted (s : RealTime S) (ticket : Ticket) : Desk := s.desk.noteArrival ticket.executable s.clock

/-- Up to when the hardware is booked after the scheduler behind has answered to a submission. -/
def booking (before finish : Duration) : Except Fault Unit → Duration
  | .error (.refusal _) => before
  | _ => finish

theorem booking_cases (before finish : Duration) (outcome : Except Fault Unit) :
    booking before finish outcome = before ∨ booking before finish outcome = finish := by
  unfold booking
  split
  · exact .inl rfl
  · exact .inr rfl

section Calls

variable [Dispatcher S]

/-- What a call leaves, however it ends. -/
def after (s : RealTime S) : Call → RealTime S
  | .openUp => (Dispatcher.openUp s).2
  | .close mode => (Dispatcher.close mode s).2
  | .finishClose => (Dispatcher.finishClose s).2
  | .submit offer => (Dispatcher.submit offer s).2
  | .next => (Dispatcher.next s).2
  | .complete h => (Dispatcher.complete h s).2
  | .finishRequest => (Dispatcher.finishRequest s).2
  | .setEnabled on => (onDesk (fun d => { d with enabled := on }) s).2
  | .setContract executable terms => (changeDesk (Desk.setContract executable terms) s).2
  | .removeContract executable => (changeDesk (Desk.removeContract executable) s).2
  | .moveClock m => (onClock m s).2

def run (calls : List Call) (s : RealTime S) : RealTime S := calls.foldl after s

omit [Dispatcher S] in
theorem changeDesk_cases (f : Desk → Except Error Desk) (s : RealTime S) :
    (∃ d, f s.desk = .ok d ∧ changeDesk f s = (.ok (), { s with desk := d })) ∨
      ∃ cause, f s.desk = .error cause ∧ changeDesk f s = (.error (.refusal cause), s) := by
  simp only [changeDesk, Act.change]
  cases h : f s.desk with
  | ok d => exact .inl ⟨d, rfl, rfl⟩
  | error cause => exact .inr ⟨cause, rfl, rfl⟩

/-- All but a submission leaves the bookings and the arrivals alone. -/
theorem desk_after {call : Call} (h : ∀ offer, call ≠ .submit offer) (s : RealTime S) :
    ∃ on contracts, (s.after call).desk = { s.desk with enabled := on, contracts := contracts } := by
  cases call with
  | submit offer => exact absurd rfl (h offer)
  | setContract executable terms =>
    rcases changeDesk_cases (Desk.setContract executable terms) s with
      ⟨d, hd, hs⟩ | ⟨cause, -, hs⟩
    · obtain ⟨contracts, rfl⟩ := Desk.setContract_contracts hd
      exact ⟨_, contracts, by rw [after, hs]⟩
    · exact ⟨_, _, by rw [after, hs]⟩
  | removeContract executable =>
    rcases changeDesk_cases (Desk.removeContract executable) s with ⟨d, hd, hs⟩ | ⟨cause, -, hs⟩
    · obtain ⟨contracts, rfl⟩ := Desk.removeContract_contracts hd
      exact ⟨_, contracts, by rw [after, hs]⟩
    · exact ⟨_, _, by rw [after, hs]⟩
  | _ => exact ⟨_, _, rfl⟩

omit [Dispatcher S] in
theorem reserve_apply (ticket : Ticket) (s : RealTime S) : reserve ticket s =
    ((s.noted ticket).decide ticket.id ticket.executable s.clock,
      { s with desk := s.noted ticket }) := rfl

/-- In real-time mode a submission is turned away by the desk, or it is booked and goes to the
scheduler behind. If that refuses it, the booking is taken back. -/
theorem submit_cases (offer : Offer) {s : RealTime S} (h : s.desk.enabled = true) :
    (∃ fault, (s.noted offer.ticket).decide offer.ticket.id offer.ticket.executable s.clock =
        .error fault ∧
      Dispatcher.submit offer s = (.error fault, { s with desk := s.noted offer.ticket })) ∨
    ∃ finish, (s.noted offer.ticket).decide offer.ticket.id offer.ticket.executable s.clock =
        .ok finish ∧
      ∃ outcome backing, Dispatcher.submit offer s.backing = (outcome, backing) ∧
        Dispatcher.submit offer s = (outcome,
          { s with
            desk := { s.noted offer.ticket with
              busyUntil := booking s.desk.busyUntil finish outcome }
            backing := backing }) := by
  simp only [Dispatcher.submit, submit, Act.bind_apply, Act.read_apply, h, if_true, reserve_apply]
  cases hd : (s.noted offer.ticket).decide offer.ticket.id offer.ticket.executable s.clock with
  | error fault => exact .inl ⟨fault, rfl, rfl⟩
  | ok finish =>
    refine .inr ⟨finish, rfl, ?_⟩
    simp only [book, onDesk, Act.modify_apply, Act.attempt, onBacking, Act.within]
    rcases Dispatcher.submit offer s.backing with ⟨fault | _, backing⟩
    · cases fault with
      | refusal cause => exact ⟨_, _, rfl, rfl⟩
      | abort cause => exact ⟨_, _, rfl, rfl⟩
    · exact ⟨_, _, rfl, rfl⟩

/-- Without real-time mode the desk is passed by. -/
theorem submit_of_disabled (offer : Offer) {s : RealTime S} (h : s.desk.enabled = false) :
    Dispatcher.submit offer s = onBacking (Dispatcher.submit offer) s := by
  simp only [Dispatcher.submit, submit, Act.bind_apply, Act.read_apply, h]
  rfl

end Calls

end RealTime

end TensorQueue
