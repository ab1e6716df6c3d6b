import TensorQueue.Proofs.Admission.Runs
import TensorQueue.Proofs.Driver.Submission
import TensorQueue.Proofs.Queue.Operations

/-!
# A request that is accepted in part

On a stack the dispatcher is a queue behind a desk. What it accepts stands at
the end of the queue, in the order in which it was offered, and what it refuses
leaves no trace in it. So after a submission the queue holds the parts before
the first that was refused, whatever the desk has made of the offers, and of
its new parts the request waits for these alone.
-/

set_option autoImplicit false

namespace TensorQueue

open Dispatcher

namespace RealTime

/-- A submission is turned away by the desk, or it is what the dispatcher behind makes of it. -/
theorem submit_behind {S : Type} [Dispatcher S] (offer : Offer) (s : RealTime S) :
    (∃ fault desk, Dispatcher.submit offer s = (.error fault, { s with desk := desk })) ∨
      ∃ outcome backing desk, Dispatcher.submit offer s.backing = (outcome, backing) ∧
        Dispatcher.submit offer s = (outcome, { s with desk := desk, backing := backing }) := by
  cases he : s.desk.enabled with
  | true =>
    rcases submit_cases offer he with ⟨fault, -, hs⟩ | ⟨finish, -, outcome, backing, hb, hs⟩
    · exact .inl ⟨fault, _, hs⟩
    · exact .inr ⟨outcome, backing, _, hb, hs⟩
  | false =>
    rcases hb : Dispatcher.submit offer s.backing with ⟨outcome, backing⟩
    refine .inr ⟨outcome, backing, s.desk, rfl, ?_⟩
    rw [submit_of_disabled offer he]
    simp only [onBacking, Act.within, hb]

variable {W : Type} [Watchdog W] {s t : RealTime (Scheduler W)} {offer : Offer}

/-- What is accepted becomes the last task of the queue. -/
theorem queue_of_accepted {ds : List Descriptor} (hd : offer.descriptors = .ok ds)
    (h : Dispatcher.submit offer s = (.ok (), t)) : t.backing.queue =
      { s.backing.queue with
        nextTask := s.backing.queue.nextTask + 1
        pending := s.backing.queue.pending ++
          [Task.new s.backing.queue.nextTask offer.ticket ds] } := by
  rcases submit_behind offer s with ⟨fault, desk, hs⟩ | ⟨outcome, backing, desk, hb, hs⟩
  · cases hs.symm.trans h
  · cases hs.symm.trans h
    rcases Scheduler.submit_cases offer s.backing with
      ⟨listed, q, marks, hl, hq, hc⟩ | ⟨_, hc, -⟩ | ⟨_, _, _, hc, -⟩
    · cases hl.symm.trans hd
      cases hc.symm.trans hb
      exact (Queue.submit_eq_ok_iff.1 hq).2.2
    · cases hc.symm.trans hb
    · cases hc.symm.trans hb

/-- What is refused is not in the queue, whoever refused it. -/
theorem queue_of_refused {cause : Error}
    (h : Dispatcher.submit offer s = (.error (.refusal cause), t)) :
    t.backing.queue = s.backing.queue := by
  rcases submit_behind offer s with ⟨fault, desk, hs⟩ | ⟨outcome, backing, desk, hb, hs⟩
  · cases hs.symm.trans h
    rfl
  · cases hs.symm.trans h
    rcases Scheduler.submit_cases offer s.backing with
      ⟨_, _, _, -, -, hc⟩ | ⟨_, hc, -⟩ | ⟨_, _, _, hc, -⟩
    · cases hc.symm.trans hb
    · cases hc.symm.trans hb
      rfl
    · cases hc.symm.trans hb

end RealTime

namespace Driver

variable {W : Type} {d : Site W} {number k : Nat} {r : Request} {s t : RealTime (Scheduler W)}

/-- The task that a part becomes, if those before it became tasks too. -/
def task (number : Nat) (r : Request) (d : Site W) (i : Nat) : Task :=
  Task.new (d.dispatcher.backing.queue.nextTask + .ofNat i) (d.offered number r i).ticket
    (Request.listing r.executable (d.part number r i))

/-- So many parts stand at the end of the queue, and nothing else has changed in it. -/
def Queued (number k : Nat) (r : Request) (d : Site W) (s : RealTime (Scheduler W)) : Prop :=
  s.backing.queue = { d.dispatcher.backing.queue with
    nextTask := d.dispatcher.backing.queue.nextTask + .ofNat k
    pending := d.dispatcher.backing.queue.pending ++ (List.range k).map (d.task number r) }

theorem Queued.start : Queued number 0 r d d.dispatcher := by
  have same : d.dispatcher.backing.queue.nextTask + .ofNat 0 =
      d.dispatcher.backing.queue.nextTask := UInt64.add_zero _
  rw [Queued, same, List.range_zero, List.map_nil, List.append_nil]

variable [Watchdog W]

theorem Queued.accept (sound : r.executable.Sound) (roomy : r.executable.Roomy)
    (h : Queued number k r d s)
    (ht : Dispatcher.submit (d.offered number r k) s = (.ok (), t)) :
    Queued number (k + 1) r d t := by
  have listed : (d.offered number r k).descriptors =
      .ok (Request.listing r.executable (d.part number r k)) :=
    Request.descriptors_nextBatch (r := r.past (r.prepared + k)) sound roomy _ _
  rw [Queued, RealTime.queue_of_accepted listed ht, h, List.range_succ, List.map_append,
    List.map_singleton, List.append_assoc, next_id]
  rfl

theorem Queued.accepts (sound : r.executable.Sound) (roomy : r.executable.Roomy) (m : Nat)
    (h : Queued number k r d s) (taken : Accepts s ((List.range' k m).map (d.offered number r)) t) :
    Queued number (k + m) r d t := by
  induction m generalizing k s with
  | zero =>
    cases taken
    exact h
  | succ m ih =>
    obtain _ | ⟨first, others⟩ := taken
    have one_more : Queued number (k + 1) r d _ := h.accept sound roomy first
    have all := ih (s := (takeMarks _).2) one_more others
    rwa [Nat.add_right_comm k 1 m] at all

end Driver

namespace Rig

open Driver (Accepts Disposed Queued)

variable {R : Type} [RegisterFile R] {number : Nat} {d : Stack} {r : Request}

/-- A prepared request on a stack is as its submission needs it, if there is room. -/
theorem submittable_of_run (plans : Nat → Status → List Driver.Chore) (depth : Nat) {c : Config}
    {clock : Duration} {moments : Nat → List Duration} {stack : Stack} (registers : R)
    (tempo : Tempo) (built : Stack.build c clock moments = .ok stack) (deeds : List (Deed R))
    (hd : (run (Driver.callbacks plans depth) deeds (begin stack registers tempo)).driver = d)
    (hr : d.requests[number]? = some r) (prepared : r.phase = .prepared)
    (roomy : r.executable.Roomy) : Driver.Submittable number d r := by
  have counted : Standing.Counted r _ :=
    run_counted (Driver.heedful_callbacks plans depth) registers tempo built deeds (by rw [hd, hr])
  have reckons := counted.prepared prepared roomy
  refine ⟨hr, prepared, reckons.callback, reckons.bounded, reckons.positive, ?_, counted.sound,
    roomy⟩
  rw [reckons.outstanding]
  exact Nat.le_add_left _ _

/-- A prepared request with room for the lists of its parts is submitted on a stack, after whatever
else has been done there, also by done callbacks. Every part that it lacks is made. If none is
refused, all of them stand at the end of the queue. If one is refused, those before it stand there,
and that one and those after it, which are never offered, have ended with the error of the refusal,
which is the answer. The request has heard of those that have ended, and its done callback, which
does nothing, has been fired if it waits for no others. -/
theorem every_part_disposed_of (plans : Nat → Status → List Driver.Chore) (depth : Nat)
    {c : Config} {clock : Duration} {moments : Nat → List Duration} {stack : Stack} (registers : R)
    (tempo : Tempo) (built : Stack.build c clock moments = .ok stack) (deeds : List (Deed R))
    (hd : (run (Driver.callbacks plans depth) deeds (begin stack registers tempo)).driver = d)
    (hr : d.requests[number]? = some r) (prepared : r.phase = .prepared)
    (roomy : r.executable.Roomy) :
    (∀ giveUp, Driver.submitPartsOr giveUp number 0 none r.remaining d =
      Driver.submitRequest number d) ∧
    (∀ s, Accepts d.dispatcher ((List.range r.remaining).map (d.offered number r)) s →
      ∃ e q, Driver.submitRequest number d = (.ok r.remaining, e) ∧ q.remaining = 0 ∧
        Disposed number r.remaining 0 .ok d e r q ∧ e.dispatcher = s ∧
        Queued number r.remaining r d e.dispatcher) ∧
    ∀ k s cause t, k < r.remaining →
      Accepts d.dispatcher ((List.range k).map (d.offered number r)) s →
      Dispatcher.submit (d.offered number r k) s = (.error (.refusal cause), t) →
      ∃ e q, Driver.submitRequest number d = (.error (.refusal cause), e) ∧ q.remaining = 0 ∧
        Disposed number k (r.remaining - k) (.failed cause) d e r q ∧
        e.dispatcher = (takeMarks t).2 ∧ Queued number k r d e.dispatcher := by
  have ready : Driver.Submittable number d r :=
    submittable_of_run plans depth registers tempo built deeds hd hr prepared roomy
  have none_yet : Queued number 0 r d d.dispatcher := .start
  refine ⟨fun giveUp => ?_, fun s taken => ?_, fun k s cause t missing taken refused => ?_⟩
  · rw [Driver.submitRequest_eq ready]
    exact Driver.submitPartsOr_congr giveUp ready (Driver.abandon number) r.remaining 0 none
      (by omega) (ready.disposed .ok) (.inl ⟨rfl, rfl⟩)
  · obtain ⟨e, q, answer, reached, disposed⟩ := Driver.submitRequest_accepted ready taken
    refine ⟨e, q, answer, disposed.remaining ready rfl, disposed, reached, ?_⟩
    rw [List.range_eq_range'] at taken
    have queued := none_yet.accepts ready.sound roomy r.remaining taken
    rwa [Nat.zero_add, ← reached] at queued
  · obtain ⟨e, q, answer, reached, disposed⟩ :=
      Driver.submitRequest_refused ready missing taken refused
    refine ⟨e, q, answer, disposed.remaining ready (by omega), disposed, reached, ?_⟩
    rw [List.range_eq_range'] at taken
    have queued := none_yet.accepts ready.sound roomy k taken
    have kept : t.backing.queue = s.backing.queue := RealTime.queue_of_refused refused
    have untouched : e.dispatcher.backing.queue = s.backing.queue := by
      rw [reached]
      exact kept
    rw [Nat.zero_add] at queued
    exact untouched.trans queued

section Late

open Registers (Memory)

/-- A request of three parts. -/
def threeParts : List (Deed Memory) :=
  List.map Deed.chore [.newRequest 1 narrow, .changeRequest 0 (.addBuffer .input "in" (.host 0 64)),
    .changeRequest 0 (.addBuffer .input "in" (.host 64 64)),
    .changeRequest 0 (.addBuffer .input "in" (.host 128 64)), .changeRequest 0 .setDone,
    .changeRequest 0 .prepare]

/-- From now on the desk is asked. The other model is due after 33 ms, and each part takes 20 ms. -/
def twoModels : Deed Memory :=
  .meanwhile id id (fun desk => { desk with
    enabled := true
    contracts := [(⟨1⟩, ⟨30, ⟨20000000⟩, .zero⟩), (⟨2⟩, ⟨30, ⟨10000000⟩, .zero⟩)]
    arrivals := [(⟨2⟩, .zero)] }) id id

/-- The second part would be finished too late. The first one is queued, and the third one ends
with it. -/
theorem second_of_three_refused :
    ∃ stack, Stack.build Config.standard .zero (fun _ => []) = .ok stack ∧
      ∃ (e : Stack) (q : Request),
        let late : Error := .deadlineMissed 1 ⟨1⟩ ⟨40000000⟩ ⟨33333333⟩
        Driver.submitRequest 0 (run (Driver.callbacks followed 1) (threeParts ++ [twoModels])
            (begin stack (Memory.new none) ⟨.zero, .zero, .zero⟩)).driver =
          (.error (.refusal late), e) ∧
        e.requests[0]? = some q ∧ q.outstanding = 1 ∧ q.remaining = 0 ∧ e.fired = [] ∧
        e.reports = [⟨0, .failed late⟩, ⟨0, .failed late⟩] ∧
        e.dispatcher.backing.queue.pending.map (fun t => t.ticket.key) = [0] := by
  have built : Stack.build Config.standard .zero (fun _ => []) = .ok _ := rfl
  refine ⟨_, built, ?_⟩
  generalize hd : (run (Driver.callbacks followed 1) (threeParts ++ [twoModels])
    (begin _ (Memory.new none) ⟨.zero, .zero, .zero⟩)).driver = d
  have fresh : d.reports = [] ∧ d.fired = [] ∧ d.hardware = #[] ∧
      d.dispatcher.backing.queue.pending = [] := by
    rw [← hd]
    decide +kernel
  have seen : d.requests[0]?.any (fun r => decide (
      r.phase = .prepared ∧ r.remaining = 3 ∧ r.outstanding = 3 ∧ r.executable.Roomy ∧
      (Dispatcher.submit (d.offered 0 r 0) d.dispatcher).1 = .ok () ∧
      (Dispatcher.submit (d.offered 0 r 1)
        (takeMarks (Dispatcher.submit (d.offered 0 r 0) d.dispatcher).2).2).1 =
          .error (.refusal (.deadlineMissed 1 ⟨1⟩ ⟨40000000⟩ ⟨33333333⟩)))) = true := by
    rw [← hd]
    decide +kernel
  obtain ⟨unheard, silent, unmade, empty⟩ := fresh
  obtain ⟨r, hr, seen⟩ := (Option.any_eq_true _ _).1 seen
  obtain ⟨prepared, lacking, waiting, roomy, first, second⟩ := of_decide_eq_true seen
  obtain ⟨-, -, refused⟩ := every_part_disposed_of followed 1 (Memory.new none)
    ⟨.zero, .zero, .zero⟩ built (threeParts ++ [twoModels]) hd hr prepared roomy
  obtain ⟨e, q, answer, complete, disposed, -, queued⟩ := refused 1 _ _ _ (by omega)
    (.next (Prod.ext first rfl) (.nothing _)) (Prod.ext second rfl)
  have outstanding := disposed.left.outstanding
  refine ⟨e, q, answer, disposed.request hr, ?_, complete, ?_, ?_, ?_⟩
  · omega
  · rw [disposed.fired, silent, if_neg (by omega)]
    rfl
  · rw [disposed.reports, unheard, lacking]
    rfl
  · rw [queued, empty]
    show [d.hardware.size] = [0]
    rw [unmade]
    rfl

/-- So many buffers do not lie in one block. -/
def spacious : Executable := { narrow with hardwareBatch := 230584300921369396 }

/-- With no room for a hardware batch a submission that nobody refuses is aborted. -/
theorem submission_without_room :
    ∃ stack, Stack.build Config.standard .zero (fun _ => []) = .ok stack ∧
      let deeds : List (Deed Memory) := List.map Deed.chore
        [.newRequest 1 spacious, .changeRequest 0 (.addBuffer .input "in" (.host 0 64)),
          .changeRequest 0 .setDone, .changeRequest 0 .prepare]
      let d := (run Driver.silent deeds (begin stack (Memory.new none) ⟨.zero, .zero, .zero⟩)).driver
      (d.requests[0]?.map fun r => (r.phase, r.hasDone, r.remaining, r.outstanding)) =
          some (.prepared, true, 1, 1) ∧
        (Driver.submitRequest 0 d).1 = .error (.abort .capacityOverflow) ∧
        ((Driver.submitRequest 0 d).2.requests[0]?.map Request.remaining) = some 1 := by
  refine ⟨_, rfl, ?_⟩
  decide +kernel

end Late

end Rig

end TensorQueue
