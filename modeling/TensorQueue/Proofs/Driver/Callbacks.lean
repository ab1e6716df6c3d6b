import TensorQueue.Proofs.Driver.Parts

/-!
# Done callbacks that call back

A chore is a call on the driver that anybody may make, also from inside the
done callback of a request: it may make further requests, submit them, report
completions of its own or close the dispatcher. What a callback does is planned
for each request and status, and the requests that end on account of it have
callbacks again. Whatever is planned, the callbacks do nothing to the books but
postings.
-/

set_option autoImplicit false

namespace TensorQueue

open Dispatcher Books

/-- The calls that change a request. -/
inductive Request.Change where
  | addBuffer (direction : Direction) (layer : String) (buffer : Buffer)
  | setPriority (priority : Int)
  | setDone
  | prepare

def Request.Change.apply (r : Request) : Change → Except Error Request
  | .addBuffer direction layer buffer => r.addBuffer direction layer buffer
  | .setPriority priority => r.setPriority priority
  | .setDone => r.setDone
  | .prepare => r.prepare

/-- The calls that change a hardware request short of its end. -/
inductive HardwareRequest.Change where
  | setBuffers (direction : Direction) (layer : String) (buffers : List Buffer)
  | setSource (source : Source)
  | setReport (plans : List Plan)
  | markSubmitted
  | markActive

def HardwareRequest.Change.apply (r : HardwareRequest) : Change → Except Error HardwareRequest
  | .setBuffers direction layer buffers => .ok (r.setBuffers direction layer buffers)
  | .setSource source => .ok { r with source := source }
  | .setReport plans => r.setCallback (.report plans)
  | .markSubmitted => .ok r.markSubmitted
  | .markActive => .ok r.markActive

namespace Driver

inductive Chore where
  | newRequest (id : UInt64) (executable : Executable)
  | changeRequest (number : Nat) (change : Request.Change)
  | submitRequest (number : Nat)
  | newHardware (id : UInt64) (executable : Executable)
  | changeHardware (key : Nat) (change : HardwareRequest.Change)
  | submitHardware (key : Nat)
  | notify (key : Nat) (status : Status)
  | openUp
  | next
  | complete (h : Handle)
  | finishRequest
  /-- A close, with what others do while it waits for the hardware. -/
  | shutDown (mode : CloseMode) (meanwhile : List Chore)

section Chores

variable {S : Type}

/-- A hardware request changed as a whole, or refused as a whole. -/
def changeHardware (key : Nat) (f : HardwareRequest → Except Error HardwareRequest) :
    Act (Driver S) Unit :=
  Act.change fun d => do
    match d.hardware[key]? with
    | none => .ok d
    | some r =>
      let changed ← f r
      .ok (alterHardware key (fun _ => changed) d)

variable [Dispatcher S]

mutual

def Chore.perform [DoneCallbacks S] : Chore → Act (Driver S) Unit
  | .newRequest id executable => do
    let executable ← Act.settle executable.build
    let _ ← addRequest (.new id executable)
  | .changeRequest number change => Driver.changeRequest number change.apply
  | .submitRequest number => do
    let _ ← Driver.submitRequest number
  | .newHardware id executable => do
    let _ ← addHardware (.new id executable)
  | .changeHardware key change => Driver.changeHardware key change.apply
  | .submitHardware key => Driver.submitHardware key
  | .notify key status => completeHardware key status
  | .openUp => Driver.openUp
  | .next => do
    let _ ← Driver.next
  | .complete h => Driver.complete h
  | .finishRequest => Driver.finishRequest
  | .shutDown mode meanwhile => do
    if ← close mode then return ()
    else
      performAll meanwhile
      let _ ← finishClose

/-- One chore after the other. A refusal ends only the chore that it meets. -/
def performAll [DoneCallbacks S] : List Chore → Act (Driver S) Unit
  | [] => return ()
  | chore :: rest => do
    let _ ← Act.attempt chore.perform
    performAll rest

end

/-- The done callbacks as planned. They nest as deep as this: in the innermost ones, no callback
does anything. -/
@[reducible] def callbacks (plans : Nat → Status → List Chore) : Nat → DoneCallbacks S
  | 0 => silent
  | depth + 1 =>
    let _ : DoneCallbacks S := callbacks plans depth
    ⟨fun number status => performAll (plans number status)⟩

end Chores

end Driver

section Changes

variable {r s : Request}

theorem Request.of_expect {α : Type} {phase : Phase} {call : Call} {next : Unit → Except Error α}
    {a : α} (h : r.expect phase call >>= next = .ok a) : r.phase = phase ∧ next () = .ok a := by
  unfold expect at h
  split at h
  · rename_i hp
    exact ⟨hp, h⟩
  · cases h

theorem Executable.batch_pos_of_build {e built : Executable} (h : e.build = .ok built) :
    0 < built.hardwareBatch := by
  unfold build at h
  split at h
  · cases h
  · rename_i hb
    cases hi : e.checkNames .input with
    | error cause =>
      rw [hi] at h
      cases h
    | ok u =>
      cases ho : e.checkNames .output with
      | error cause =>
        rw [hi, ho] at h
        cases h
      | ok u =>
        rw [hi, ho] at h
        cases h
        exact Nat.pos_of_ne_zero hb

theorem Executable.sound_of_build {e built : Executable} (h : e.build = .ok built) :
    built.Sound := by
  refine ⟨batch_pos_of_build h, ?_⟩
  unfold build at h
  split at h
  · cases h
  · obtain ⟨⟨⟩, inputs, h⟩ := exists_of_except_bind h
    obtain ⟨⟨⟩, outputs, h⟩ := exists_of_except_bind h
    cases h
    intro direction
    cases direction with
    | input => exact checkNames_eq_ok_iff.1 inputs
    | output => exact checkNames_eq_ok_iff.1 outputs

theorem Request.commonBatch_pos {batch : Nat} (h : r.commonBatch = .ok batch) : 0 < batch := by
  unfold commonBatch at h
  split at h
  · cases h
  · split at h
    · cases h
    · split at h
      · cases h
      · cases h
        omega

theorem Request.required_pos {batch required : Nat} (hb : 0 < r.executable.hardwareBatch)
    (h : r.cut = .ok (batch, required)) : 0 < required := by
  unfold cut at h
  split at h
  · cases h
    exact Nat.one_pos
  · cases hc : r.commonBatch with
    | error cause =>
      rw [hc] at h
      cases h
    | ok n =>
      rw [hc] at h
      cases h
      have := commonBatch_pos hc
      apply Nat.div_pos
      · omega
      · exact hb

theorem Request.Change.configured {change : Change} (h : change.apply r = .ok s) :
    r.phase = .initial ∧ Configured r s := by
  cases change with
  | addBuffer direction layer buffer =>
    simp only [apply, Request.addBuffer] at h
    split at h
    · cases h
    · obtain ⟨hp, h⟩ := of_expect h
      split at h
      · cases h
        cases direction <;> exact ⟨hp, ⟨rfl, rfl, rfl, .inl hp⟩⟩
      · cases h
  | setPriority priority =>
    simp only [apply, Request.setPriority] at h
    split at h
    · cases h
    · obtain ⟨hp, h⟩ := of_expect h
      cases h
      exact ⟨hp, ⟨rfl, rfl, rfl, .inl hp⟩⟩
  | setDone =>
    obtain ⟨hp, h⟩ := of_expect h
    split at h
    · cases h
    · cases h
      exact ⟨hp, ⟨rfl, rfl, rfl, .inl hp⟩⟩
  | prepare =>
    obtain ⟨hp, h⟩ := of_expect h
    split at h
    · rename_i hcallback
      cases hc : r.cut with
      | error cause =>
        rw [hc] at h
        cases h
      | ok cut =>
        rw [hc] at h
        cases h
        refine ⟨hp, ⟨rfl, rfl, rfl, .inr ⟨rfl, hcallback, rfl, fun hb => ?_⟩⟩⟩
        exact required_pos hb hc
    · cases h

theorem HardwareRequest.Change.claim_apply {change : Change} {r s : HardwareRequest}
    (h : change.apply r = .ok s) : s.claim = r.claim := by
  cases change with
  | setBuffers direction layer buffers =>
    cases h
    exact claim_setBuffers r direction layer buffers
  | setReport plans =>
    obtain ⟨-, hfree, rfl⟩ := setCallback_eq_ok_iff.1 h
    simp [claim, hfree]
  | _ =>
    cases h
    rfl

end Changes

namespace Driver

variable {W : Type} {b : Books}

section Owners

theorem newRequest_keeps (id : UInt64) (executable : Executable) : Keeps (W := W) b (do
    let executable ← Act.settle executable.build
    let _ ← addRequest (.new id executable)) := by
  intro owed d hd
  cases hbuilt : executable.build with
  | error cause => exact hd
  | ok built => exact hd.post (.enlist id (Executable.sound_of_build hbuilt))

theorem changeRequest_keeps (number : Nat) (change : Request.Change) :
    Keeps (W := W) b (changeRequest number change.apply) := by
  intro owed d hd
  apply Act.Ends.change
  · intro e he
    cases hr : d.requests[number]? with
    | none =>
      simp only [hr] at he
      cases he
      exact hd
    | some r =>
      simp only [hr] at he
      obtain ⟨s, hs, he⟩ := exists_of_except_bind he
      cases he
      obtain ⟨hp, configured⟩ := Request.Change.configured hs
      exact hd.post (.configure hr hp configured)
  · exact hd

theorem changeHardware_keeps (key : Nat) (change : HardwareRequest.Change) :
    Keeps (W := W) b (changeHardware key change.apply) := by
  intro owed d hd
  apply Act.Ends.change
  · intro e he
    cases hr : d.hardware[key]? with
    | none =>
      simp only [hr] at he
      cases he
      exact hd
    | some r =>
      simp only [hr] at he
      obtain ⟨s, hs, he⟩ := exists_of_except_bind he
      cases he
      exact hd.of_books (books_alterHardware hr (HardwareRequest.Change.claim_apply hs))
  · exact hd

theorem newHardware_keeps (id : UInt64) (executable : Executable) :
    Keeps (W := W) b (do let _ ← addHardware (.new id executable)) := by
  intro owed
  apply (addHardware_keeps rfl).of_unrefused.bind
  intro _
  exact Act.Meets.value fun _ h => h.1

end Owners

theorem Keeps.discard {α : Type} {act : Act (Site W) α} (h : Keeps b act) :
    Keeps b (do let _ ← act) :=
  fun owed => (h owed).bind fun _ => Act.Meets.value fun _ hd => hd

variable [Watchdog W] [DoneCallbacks (RealTime (Scheduler W))]

mutual

theorem Chore.keeps (hc : Heedful W) : ∀ chore : Chore, Keeps (W := W) b chore.perform
  | .newRequest id executable => newRequest_keeps id executable
  | .changeRequest number change => changeRequest_keeps number change
  | .submitRequest number => (submitRequest_keeps hc number).discard
  | .newHardware id executable => newHardware_keeps id executable
  | .changeHardware key change => changeHardware_keeps key change
  | .submitHardware _ => fun _ => submitHardware_keeps_all
  | .notify key status => notify_keeps hc key status
  | .openUp => openUp_keeps
  | .next => (next_keeps hc).discard
  | .complete h => complete_keeps hc h
  | .finishRequest => finishRequest_keeps hc
  | .shutDown mode meanwhile => by
    intro owed
    apply (close_keeps hc mode owed).bind
    intro closed
    cases closed with
    | true => exact Act.Meets.value fun _ hd => hd
    | false =>
      apply (performAll_keeps hc meanwhile owed).of_unrefused.bind
      intro _
      exact (finishClose_keeps hc).discard owed

theorem performAll_keeps (hc : Heedful W) : ∀ (chores : List Chore) (owed : List Nat),
    Act.Meets (Kept b owed) (performAll chores) (fun _ => Kept (W := W) b owed) (fun _ => False)
      (Broken b)
  | [], _ => Act.Meets.value fun _ hd => hd
  | chore :: rest, owed =>
    ((Chore.keeps hc chore owed).attempt_both).bind fun _ => performAll_keeps hc rest owed

end

omit [DoneCallbacks (RealTime (Scheduler W))] in
/-- However the callbacks are planned and however deep they nest, they heed the books. -/
theorem heedful_callbacks (plans : Nat → Status → List Chore) (depth : Nat) :
    @Heedful W (callbacks plans depth) := by
  induction depth with
  | zero => exact heedful_silent
  | succ depth ih =>
    intro b owed number status
    exact @performAll_keeps W b _ (callbacks plans depth) ih (plans number status) owed

end Driver

end TensorQueue
