import TensorQueue.Proofs.Admission.Deadlines
import TensorQueue.Proofs.Admission.Runs
import TensorQueue.Queue.Scheduler

/-!
# Bookings

What is admitted is booked for the execution time that its contract allows,
behind all that was booked before, and not before it has come. The hardware is
booked further by nothing else: not by what is turned away, not by what the
scheduler behind the desk refuses, and not by any other call. So in every run
the bookings follow one another in the order of admission.
-/

set_option autoImplicit false

namespace TensorQueue.RealTime

open Dispatcher

variable {S : Type}

/-- The hardware time that is booked for one request. -/
structure Booking where
  /-- When the request came. -/
  arrival : Duration
  /-- The execution time in force at that moment. -/
  execution : Duration
  finish : Duration
  deriving DecidableEq, Repr, Inhabited

/-- Where the booked time begins. -/
def Booking.start (b : Booking) : Nat := b.finish.ns - b.execution.ns

/-- Each booking begins as soon as its request has come and the hardware is free, which it is from
this time on and then when the booking before ends. -/
def Consecutive : Duration → List Booking → Prop
  | _, [] => True
  | free, b :: rest => 0 < b.execution.ns ∧ b.finish.ns = b.start + b.execution.ns ∧
      b.start = max b.arrival.ns free.ns ∧ Consecutive b.finish rest

variable [Dispatcher S]

/-- The booking that a call makes: that of a submission in real-time mode, if it is accepted. -/
def booked (s : RealTime S) : Call → Option Booking
  | .submit offer =>
    if s.desk.enabled && (Dispatcher.submit offer s).1.isOk then
      some ⟨s.clock, ((s.desk.contracts.get? offer.ticket.executable).getD .none).execution,
        (s.after (.submit offer)).desk.busyUntil⟩
    else none
  | _ => none

/-- The bookings of a run, in the order of admission. -/
def bookings : List Call → RealTime S → List Booking
  | [], _ => []
  | call :: rest, s => (s.booked call).toList ++ bookings rest (s.after call)

/-- The scheduler behind the desk accepts or refuses what is submitted; it does not break off. -/
def answers (s : RealTime S) : Call → Bool
  | .submit offer =>
    match (Dispatcher.submit offer s.backing).1 with
    | .error (.abort _) => false
    | _ => true
  | _ => true

def Answering : List Call → RealTime S → Prop
  | [], _ => True
  | call :: rest, s => s.answers call = true ∧ Answering rest (s.after call)

section Steps

variable {s : RealTime S} {call : Call} {offer : Offer}

/-- The booking takes the hardware from where it was free, or from where its request came, and
leaves it free at its end. -/
structure Booking.Behind (b : Booking) (free now : Duration) : Prop where
  now : now = b.finish
  positive : 0 < b.execution.ns
  finish : b.finish.ns = max b.arrival.ns free.ns + b.execution.ns

/-- In real-time mode a submission that is accepted is booked. Any other books nothing. -/
theorem submission_booked (he : s.desk.enabled = true) (ha : s.answers (.submit offer) = true) :
    (∃ b, s.booked (.submit offer) = some b ∧
      b.Behind s.desk.busyUntil (s.after (.submit offer)).desk.busyUntil) ∨
    s.booked (.submit offer) = none ∧
      (s.after (.submit offer)).desk.busyUntil = s.desk.busyUntil := by
  rcases submit_cases offer he with ⟨fault, -, h⟩ | ⟨finish, hd, outcome, backing, hb, h⟩
  · right
    simp only [booked, after, h]
    exact ⟨by simp [Except.isOk, Except.toBool], rfl⟩
  · obtain ⟨hz, hsum, -⟩ := Desk.decide_eq_ok_iff.1 hd
    have positive := of_decide_eq_false hz
    have finished := (Desk.sum_eq_ok_iff.1 hsum).2
    rw [Duration.ns_later, Nat.max_comm] at finished
    simp only [booked, after, h, he]
    simp only [answers, hb] at ha
    rcases outcome with fault | _
    · cases fault with
      | abort cause => cases ha
      | refusal cause => exact .inr ⟨by simp [Except.isOk, Except.toBool], rfl⟩
    · exact .inl ⟨_, rfl, rfl, Nat.pos_of_ne_zero positive, finished⟩

/-- Without real-time mode the desk is passed by. -/
theorem submission_unbooked (offer : Offer) (he : s.desk.enabled = false) :
    s.booked (.submit offer) = none ∧ (s.after (.submit offer)).desk = s.desk := by
  constructor
  · simp [booked, he]
  · rw [after, submit_of_disabled offer he]
    rfl

theorem call_booked (ha : s.answers call = true) :
    (∃ b, s.booked call = some b ∧ b.Behind s.desk.busyUntil (s.after call).desk.busyUntil) ∨
    s.booked call = none ∧ (s.after call).desk.busyUntil = s.desk.busyUntil := by
  by_cases submits : ∃ offer, call = .submit offer
  · obtain ⟨offer, rfl⟩ := submits
    cases he : s.desk.enabled with
    | true => exact submission_booked he ha
    | false =>
      obtain ⟨hb, hd⟩ := submission_unbooked offer he
      exact .inr ⟨hb, congrArg Desk.busyUntil hd⟩
  · obtain ⟨on, contracts, hd⟩ := desk_after (fun offer e => submits ⟨offer, e⟩) s
    refine .inr ⟨?_, by rw [hd]⟩
    cases call with
    | submit offer => exact absurd ⟨offer, rfl⟩ submits
    | _ => rfl

/-- Whoever books has submitted in real-time mode, and was accepted. -/
theorem submits_of_booked {b : Booking} (h : s.booked call = some b) : ∃ offer,
    call = .submit offer ∧ s.desk.enabled = true ∧ (Dispatcher.submit offer s).1 = .ok () := by
  cases call with
  | submit offer =>
    refine ⟨offer, rfl, ?_⟩
    simp only [booked] at h
    split at h
    · rename_i accepted
      obtain ⟨he, hok⟩ := Bool.and_eq_true_iff.1 accepted
      refine ⟨he, ?_⟩
      rcases hs : (Dispatcher.submit offer s).1 with fault | _
      · rw [hs] at hok
        cases hok
      · rfl
    · cases h
  | _ => cases h

end Steps

section Runs

variable {s : RealTime S} {calls : List Call} {free now : Duration} {bs : List Booking}

theorem Consecutive.cons {b : Booking} (h : b.Behind free now) (hb : Consecutive now bs) :
    Consecutive free (b :: bs) := by
  have finish := h.finish
  have start : b.start = max b.arrival.ns free.ns := by
    rw [Booking.start]
    omega
  refine ⟨h.positive, by omega, start, ?_⟩
  rw [← h.now]
  exact hb

theorem Consecutive.free_le (h : Consecutive free bs) : ∀ b ∈ bs, free.ns ≤ b.start := by
  induction bs generalizing free with
  | nil => simp
  | cons b rest ih =>
    obtain ⟨-, finish, start, later⟩ := h
    refine List.forall_mem_cons.2 ⟨by omega, fun c hc => ?_⟩
    have := ih later c hc
    omega

theorem Consecutive.disjoint (h : Consecutive free bs) :
    bs.Pairwise fun b c => b.finish.ns ≤ c.start := by
  induction bs generalizing free with
  | nil => exact .nil
  | cons b rest ih =>
    obtain ⟨-, -, -, later⟩ := h
    exact .cons later.free_le (ih later)

theorem Consecutive.arrival_le (h : Consecutive free bs) : ∀ b ∈ bs, b.arrival.ns ≤ b.start := by
  induction bs generalizing free with
  | nil => simp
  | cons b rest ih =>
    obtain ⟨-, -, start, later⟩ := h
    exact List.forall_mem_cons.2 ⟨by omega, ih later⟩

theorem Answering.of_append {before rest : List Call} (h : Answering (before ++ rest) s) :
    Answering rest (run before s) := by
  induction before generalizing s with
  | nil => exact h
  | cons call before ih => exact ih h.2

theorem bookings_consecutive (h : Answering calls s) :
    Consecutive s.desk.busyUntil (bookings calls s) := by
  induction calls generalizing s with
  | nil => trivial
  | cons call rest ih =>
    have later := ih h.2
    rw [bookings]
    rcases call_booked h.1 with ⟨b, hb, behind⟩ | ⟨hb, same⟩ <;> rw [hb]
    · exact .cons behind later
    · rw [same] at later
      exact later

/-- In every run the bookings are moved on by the submissions alone that are accepted in real-time
mode. Each of them books its execution time from the moment at which it came or at which the one
before it ends, whichever is later; so no two of them share any hardware time. -/
theorem bookings_disjoint (h : Answering calls s) :
    (∀ before call rest, calls = before ++ call :: rest →
      let t := run before s
      t.desk.busyUntil.ns ≤ (t.after call).desk.busyUntil.ns ∧
      ((t.after call).desk.busyUntil ≠ t.desk.busyUntil → ∃ offer, call = .submit offer ∧
        t.desk.enabled = true ∧ (Dispatcher.submit offer t).1 = .ok ())) ∧
    Consecutive s.desk.busyUntil (bookings calls s) ∧
    (bookings calls s).Pairwise (fun b c => b.finish.ns ≤ c.start) ∧
    ∀ b ∈ bookings calls s, b.arrival.ns ≤ b.start := by
  have consecutive := bookings_consecutive h
  refine ⟨?_, consecutive, consecutive.disjoint, consecutive.arrival_le⟩
  rintro before call rest rfl t
  rcases call_booked h.of_append.1 with ⟨b, hb, behind⟩ | ⟨-, same⟩
  · have finish : b.finish.ns = max b.arrival.ns t.desk.busyUntil.ns + b.execution.ns :=
      behind.finish
    refine ⟨?_, fun _ => submits_of_booked hb⟩
    rw [behind.now]
    omega
  · exact ⟨Nat.le_of_eq (congrArg Duration.ns same.symm), fun moved => absurd same moved⟩

end Runs

section Evening

/-- Two cameras behind one desk, with a queue that is open. -/
def evening : RealTime (Scheduler Watchdog.Idle) :=
  ⟨{ Desk.new 2 with enabled := true }, .zero,
    { Scheduler.new ⟨⟩ with queue := { Queue.new with isOpen := true } }⟩

def frameOf (executable : ExecutableId) : Call :=
  .submit ⟨⟨0, 0, executable, 0⟩, .ok [⟨.instruction, 0, 64⟩]⟩

/-- The second camera is turned away until its contract is cut. The queue refuses a frame while it
is closed, and one goes by without real-time mode. -/
def eveningCalls : List Call :=
  [.setContract ⟨1⟩ ⟨some 100, some ⟨4000000⟩, none⟩,
    .setContract ⟨2⟩ ⟨some 50, some ⟨7000000⟩, none⟩, frameOf ⟨1⟩, frameOf ⟨2⟩,
    .setContract ⟨2⟩ ⟨none, some ⟨5000000⟩, none⟩, frameOf ⟨2⟩, .close .asap, frameOf ⟨1⟩, .openUp,
    .setEnabled false, frameOf ⟨1⟩, .setEnabled true, .moveClock (.advance ⟨12000000⟩), frameOf ⟨1⟩]

theorem evening_disjoint : Answering eveningCalls evening ∧
    (bookings eveningCalls evening).map (fun b => (b.start, b.finish.ns)) =
      [(0, 4000000), (4000000, 9000000), (12000000, 16000000)] ∧
    (bookings eveningCalls evening).Pairwise (fun b c => b.finish.ns ≤ c.start) := by
  have answering : Answering eveningCalls evening := by
    simp only [eveningCalls, Answering]
    decide +kernel
  exact ⟨answering, by decide +kernel, (bookings_disjoint answering).2.2.1⟩

end Evening

end TensorQueue.RealTime
