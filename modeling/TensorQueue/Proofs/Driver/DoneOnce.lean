import TensorQueue.Proofs.Driver.Runs
import TensorQueue.Registers.Memory

/-!
# The done callback of a submitted request

A request of which all parts are made by submissions is told once that it is
done, however the run goes on and whatever done callbacks do: after the last of
its parts, and with the first failure among them. It has been told when the
dispatcher is empty, unless a call was aborted on the way. An abort is not
undone: whom the dispatcher had let go by then is never told.
-/

set_option autoImplicit false

namespace TensorQueue

/-- The first failure in a list in order of time. -/
def Status.firstFailure (answers : List Status) : Status := (answers.find? (· ≠ .ok)).getD .ok

theorem Status.firstFailure_eq_ok_iff {answers : List Status} :
    firstFailure answers = .ok ↔ ∀ answer ∈ answers, answer = .ok := by
  unfold firstFailure
  cases hf : answers.find? (· ≠ .ok) with
  | none => simpa using hf
  | some answer =>
    have failed : answer ≠ .ok := by simpa using List.find?_some hf
    have mem := List.mem_of_find?_eq_some hf
    constructor
    · intro h
      exact absurd h failed
    · intro h
      exact absurd (h answer mem) failed

theorem Standing.overall_eq (answers : List Status) :
    overall answers = Status.firstFailure answers.reverse := by
  induction answers with
  | nil => rfl
  | cons status before ih =>
    rw [overall, ih, Status.firstFailure, Status.firstFailure, List.reverse_cons, List.find?_append]
    cases hf : before.reverse.find? (· ≠ .ok) with
    | none => cases status <;> rfl
    | some failure =>
      have failed : failure ≠ .ok := by simpa using List.find?_some hf
      cases failure with
      | ok => exact absurd rfl failed
      | failed cause => rfl

namespace Rig

variable {R : Type} {number : Nat} {rig : Rig R}

/-- What the done callback of a request was fired with. -/
def dones (number : Nat) (rig : Rig R) : List Status :=
  (rig.driver.fired.filter fun x => x.1 = number).map Prod.snd

/-- What the parts of a request have told, in order. -/
def answers (number : Nat) (rig : Rig R) : List Status :=
  ((rig.driver.reports.filter fun x => x.request = number).map Driver.Report.status).reverse

/-- The request may be there already, and may be prepared, but none of its parts has been made. -/
def Unbegun (number : Nat) (rig : Rig R) : Prop :=
  (∀ r ∈ rig.driver.requests[number]?,
    r.phase = .initial ∨ r.phase = .prepared ∧ r.prepared = 0) ∧
  some number ∉ rig.driver.claims ∧ ∀ x ∈ rig.driver.reports, x.request ≠ number

/-- All parts of the request have been made, and each is outstanding or has told of its end. -/
def FullyCut (number : Nat) (rig : Rig R) : Prop :=
  ∃ r ∈ rig.driver.requests[number]?, r.phase ≠ .initial ∧ r.prepared = r.required ∧
    rig.driver.claims.count (some number) + (rig.answers number).length = r.required

instance (number : Nat) (rig : Rig R) : Decidable (Unbegun number rig) :=
  inferInstanceAs (Decidable (_ ∧ _ ∧ _))

instance (number : Nat) (rig : Rig R) : Decidable (FullyCut number rig) :=
  inferInstanceAs (Decidable (∃ r ∈ rig.driver.requests[number]?, _ ∧ _ ∧ _))

def isEmpty (rig : Rig R) : Bool := Dispatcher.isEmpty rig.driver.dispatcher

section Start

theorem new_of_build {c : Config} {clock : Duration} {moments : Nat → List Duration}
    {stack : Stack} (h : Stack.build c clock moments = .ok stack) :
    ∃ s, stack = Driver.new s := by
  obtain ⟨-, -, h⟩ := exists_of_except_bind h
  obtain ⟨watchdog, -, h⟩ := exists_of_except_bind h
  cases h
  exact ⟨_, rfl⟩

theorem begin_prior {c : Config} {clock : Duration} {moments : Nat → List Duration}
    {stack : Stack} (registers : R) (tempo : Tempo)
    (h : Stack.build c clock moments = .ok stack) :
    ((begin stack registers tempo).books.standing number).Prior := by
  obtain ⟨s, rfl⟩ := new_of_build h
  constructor
  · intro _
    exact ⟨rfl, rfl, rfl⟩
  · intro r hr
    cases hr

/-- The tally of a request holds before its first part is made. -/
theorem Unbegun.accounted (h : rig.Unbegun number) (hp : (rig.books.standing number).Prior) :
    (rig.books.standing number).Accounted := by
  obtain ⟨hrequest, hclaims, hreports⟩ := h
  cases hr : rig.driver.requests[number]? with
  | none =>
    apply Standing.Accounted.untouched
    intro r hs
    cases hr.symm.trans hs
  | some r =>
    rcases hrequest r hr with hi | ⟨hphase, unprepared⟩
    · apply Standing.Accounted.untouched
      intro q hs
      cases hr.symm.trans hs
      exact hi
    · have none_told : rig.driver.reports.filter (fun x => x.request = number) = [] := by
        simpa using hreports
      apply Standing.Accounted.tallied
      apply (hp.known r hr).ready hphase unprepared
      · exact List.count_eq_zero.2 hclaims
      · show (rig.driver.reports.filter fun x => x.request = number).map Driver.Report.status = []
        rw [none_told]
        rfl

theorem Unbegun.safe (h : rig.Unbegun number) : rig.books.Safe number := by
  intro key hkey
  exact absurd (List.mem_of_getElem? hkey) h.2.1

/-- If all parts are made and none is left over, the tally holds. -/
theorem FullyCut.cut (h : rig.FullyCut number) (ha : (rig.books.standing number).Accounted) :
    rig.books.Cut number := by
  obtain ⟨r, hr, begun, complete, counted⟩ := h
  have hlength : (rig.books.answers number).length = (rig.answers number).length :=
    List.length_reverse.symm
  cases ha with
  | untouched initial => exact absurd (initial r hr) begun
  | tallied hq =>
    cases hq.request.symm.trans hr
    exact ⟨r, hq, complete⟩
  | overdrawn hq more =>
    cases hq.symm.trans hr
    have more : r.prepared < rig.books.parts number + (rig.books.answers number).length := more
    have parts : rig.books.parts number = rig.driver.claims.count (some number) := rfl
    omega

end Start

section After

theorem books_held_of_isEmpty (h : rig.isEmpty = true) : rig.books.held = [] :=
  Queue.keys_of_isEmpty h

/-- Of a request whose parts are all made, either nothing has been told yet and an answer is
missing, or all answers are there and the done callback was fired with what they come to. -/
theorem course_of_cut (h : rig.books.Cut number) : ∃ r ∈ rig.driver.requests[number]?,
    (rig.dones number = [] ∧ (rig.answers number).length < r.required) ∨
      (rig.dones number = [Status.firstFailure (rig.answers number)] ∧
        (rig.answers number).length = r.required) := by
  obtain ⟨r, hr, hcourse⟩ := h.course
  have hlength : (rig.books.answers number).length = (rig.answers number).length :=
    List.length_reverse.symm
  have hfirst : Standing.overall (rig.books.answers number) =
      Status.firstFailure (rig.answers number) := Standing.overall_eq _
  have hdones : rig.books.dones number = rig.dones number := rfl
  rw [hlength, hfirst, hdones] at hcourse
  exact ⟨r, hr, hcourse⟩

variable [RegisterFile R] {callbacks : Callbacks}

theorem run_append (before after : List (Deed R)) (rig : Rig R) :
    run callbacks (before ++ after) rig = run callbacks after (run callbacks before rig) :=
  List.foldl_append

theorem run_prior (hc : @Driver.Heedful Escalation callbacks) {c : Config} {clock : Duration}
    {moments : Nat → List Duration} {stack : Stack} (registers : R) (tempo : Tempo)
    (h : Stack.build c clock moments = .ok stack) (deeds : List (Deed R)) :
    ((run callbacks deeds (begin stack registers tempo)).books.standing number).Prior :=
  run_standing hc (fun _ _ hp => hp.prior) (fun _ _ ht => ht.prior) deeds _
    (begin_prior registers tempo h)

end After

open Driver (Chore)
open Registers (Memory)

/-- Requests of this model take one hardware batch for each batch element. -/
def narrow : Executable := ⟨⟨1⟩, "net", 1, [⟨"in", 64, 64⟩], [], 0, 128⟩

/-- A model without layers runs once. -/
def bare : Executable := ⟨⟨1⟩, "net", 1, [], [], 0, 128⟩

/-- A request of this number that is to be submitted. -/
def bareRequest (number : Nat) : List Chore :=
  [.newRequest 1 bare, .changeRequest number .setDone, .changeRequest number .prepare]

/-- When the first request is done, whatever its status, another one is submitted. -/
def followed : Nat → Status → List Chore
  | 0, _ => bareRequest 1 ++ [.submitRequest 1]
  | _, _ => []

/-- A request of two batch elements, of which the hardware has done both when everything is
cancelled. -/
def twoBatches : List (Deed Memory) :=
  List.map Deed.chore [.newRequest 1 narrow, .changeRequest 0 (.addBuffer .input "in" (.host 0 64)),
    .changeRequest 0 (.addBuffer .input "in" (.host 64 64)), .changeRequest 0 .setDone,
    .changeRequest 0 .prepare, .submitRequest 0, .next, .next,
    .complete ⟨0, 0, .marker .instruction⟩, .complete ⟨0, 1, .marker .inputActivation⟩,
    .finishRequest, .next, .next, .complete ⟨1, 0, .marker .instruction⟩,
    .complete ⟨1, 1, .marker .inputActivation⟩, .finishRequest, .shutDown .asap []]

/-- Under a watchdog with a level that the clock cannot tell every activation is aborted. -/
def boundless : Config := { Config.standard with levels := [⟨Clock.signedSeconds * 1000000000⟩] }

/-- The first request is taken off the queue while the second one is in flight, and the abort of
the watchdog comes before the first one is told. -/
def unheard : List (Deed Memory) :=
  List.map Deed.chore (bareRequest 0 ++ [.submitRequest 0] ++ bareRequest 1 ++ [.submitRequest 1,
    .next, .next, .finishRequest, .next, .complete ⟨0, 0, .marker .instruction⟩,
    .shutDown .asap []])

end Rig

end TensorQueue
