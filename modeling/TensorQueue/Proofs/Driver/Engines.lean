import TensorQueue.Driver.Machine
import TensorQueue.Proofs.Driver.Bookkeeping

/-!
# Engines at work

An engine works on registers and on the driver. The registers may refuse and
abort as they like: that stops the engine, and the driver does not notice. What
the engine does to the driver is posting after posting.
-/

set_option autoImplicit false

namespace TensorQueue

open Registers

section Registers

variable {σ γ : Type} [RegisterFile σ] {view : σ → γ}

/-- Access to the registers leaves this view of the world alone. -/
structure Aside (view : σ → γ) : Prop where
  read : ∀ offset, Act.Spares view (RegisterFile.read offset)
  write : ∀ offset value, Act.Spares view (RegisterFile.write offset value)

theorem Aside.pollFor (h : Aside view) (offset expected : UInt64) (timeout : Duration) (more : Nat) :
    Act.Spares view (pollFor offset expected timeout more) := by
  induction more with
  | zero =>
    unfold Registers.pollFor
    apply (h.read offset).bind
    intro value
    split
    · exact Act.Spares.value _
    · exact Act.Spares.refuse _
  | succ more ih =>
    unfold Registers.pollFor
    apply (h.read offset).bind
    intro value
    split
    · exact Act.Spares.value _
    · exact ih

theorem Aside.poll [SystemClock σ] (h : Aside view) (offset expected : UInt64)
    (timeout : Duration) : Act.Spares view (poll offset expected timeout) := by
  unfold Registers.poll
  apply Act.Spares.read.bind
  intro s
  split
  · exact h.pollFor offset expected timeout _
  · exact Act.Spares.abort _

theorem Aside.start (h : Aside view) (config : Engine.Config) :
    Act.Spares view (Engine.start config) := by
  unfold Engine.start
  repeat
    apply (h.write _ _).bind
    intro _
  exact Act.Spares.value _

theorem Aside.raise (h : Aside view) (bit : UInt64) : Act.Spares view (Engine.raise bit) := by
  unfold Engine.raise
  apply (h.read _).bind
  intro status
  apply (h.write _ _).bind
  intro _
  apply (h.write _ _).bind
  intro _
  exact h.write _ _

theorem Aside.execute (h : Aside view) (kind : Descriptor.Kind) :
    Act.Spares view (Engine.execute kind) := by
  have line : Act.Spares view (Engine.raiseLine kind) := by
    cases kind with
    | coreInterrupt n =>
      cases hc : Interrupt.core? n with
      | some bit =>
        simp only [Engine.raiseLine, hc]
        exact h.raise bit
      | none =>
        simp only [Engine.raiseLine, hc]
        exact Act.Spares.refuse _
    | _ => exact Act.Spares.value _
  unfold Engine.execute
  apply line.bind
  intro _
  apply (h.read _).bind
  intro retired
  exact h.write _ _

theorem Aside.halt (h : Aside view) : Act.Spares view Engine.halt := by
  unfold Engine.halt
  apply (h.read _).bind
  intro status
  split
  · exact Act.Spares.value _
  · exact h.write _ _

omit [RegisterFile σ] in
theorem Aside.onWorld {α : Type} {act : Act σ α} (h : Act.Spares view act) :
    Act.Spares (fun s => view s.world) (Engine.onWorld act) :=
  h.of_part fun _ _ => rfl

omit [RegisterFile σ] in
theorem Aside.count (f : Engine.Stats → Except Abort Engine.Stats) :
    Act.Spares (fun s : Engine.Attached σ => view s.world) (Engine.count f) := by
  intro s
  unfold Engine.count
  split <;> rfl

theorem Aside.issue [SystemClock σ] (h : Aside view) (d : Descriptor) :
    Act.Spares (fun s => view s.world) (Engine.issue d) := by
  have update : ∀ f, Act.Spares (fun s : Engine.Attached σ => view s.world) (Engine.update f) :=
    fun f => Act.Spares.modify fun _ => rfl
  unfold Engine.issue
  repeat
    apply (Aside.onWorld (h.write _ _)).bind
    intro _
  apply (update _).bind
  intro _
  apply Act.Spares.read.bind
  intro s
  repeat
    apply (Aside.onWorld (h.write _ _)).bind
    intro _
  apply (Aside.onWorld (h.execute d.kind)).bind
  intro _
  apply (Aside.onWorld (h.poll _ _ _)).bind
  intro _
  repeat
    apply (Aside.onWorld (h.write _ _)).bind
    intro _
  apply (Aside.count _).bind
  intro _
  exact Aside.count _

end Registers

namespace Machine

variable {W R α : Type} [RegisterFile R] {b : Books}

/-- The books of the driver as they were have come to these by postings. -/
def Kept (b : Books) (m : Machine (RealTime (Scheduler W)) R) : Prop := Driver.Kept b [] m.driver

def Broken (b : Books) (m : Machine (RealTime (Scheduler W)) R) : Prop := Driver.Broken b m.driver

def Keeps (b : Books) (act : Act (Machine (RealTime (Scheduler W)) R) α) : Prop :=
  Act.Meets (Kept b) act (fun _ => Kept b) (Kept b) (Broken b)

theorem aside : Aside (Machine.driver : Machine (RealTime (Scheduler W)) R → Site W) where
  read _ := Act.Spares.within fun _ _ => rfl
  write _ _ := Act.Spares.within fun _ _ => rfl

omit [RegisterFile R] in
theorem keeps_of_spares {act : Act (Machine (RealTime (Scheduler W)) R) α}
    (h : Act.Spares Machine.driver act) : Keeps b act :=
  (h.meets (Driver.Kept b [])).weaken (fun _ _ hm => hm) (fun _ hm => hm) fun _ hm => hm.broken

omit [RegisterFile R] in
theorem onDriver_keeps {act : Act (Site W) α} (h : Driver.Keeps b act) :
    Keeps (R := R) b (onDriver act) :=
  fun m hm => Act.Ends.within (h [] m.driver hm)

end Machine

namespace Engine

variable {W R α : Type} [RegisterFile R] [Watchdog W] [DoneCallbacks (RealTime (Scheduler W))]
  {b : Books}

open Machine

def Kept (b : Books) (s : Attached (Machine (RealTime (Scheduler W)) R)) : Prop :=
  Machine.Kept b s.world

def Broken (b : Books) (s : Attached (Machine (RealTime (Scheduler W)) R)) : Prop :=
  Machine.Broken b s.world

def Keeps (b : Books) (act : Act (Attached (Machine (RealTime (Scheduler W)) R)) α) : Prop :=
  Act.Meets (Kept b) act (fun _ => Kept b) (Kept b) (Broken b)

omit [RegisterFile R] [Watchdog W] [DoneCallbacks (RealTime (Scheduler W))] in
theorem onWorld_keeps {act : Act (Machine (RealTime (Scheduler W)) R) α}
    (h : Machine.Keeps b act) : Keeps b (onWorld act) :=
  fun s hs => Act.Ends.within (h s.world hs)

omit [Watchdog W] [DoneCallbacks (RealTime (Scheduler W))] in
theorem issue_keeps (d : Descriptor) : Keeps (W := W) (R := R) b (issue d) :=
  ((aside.issue d).meets (Driver.Kept b [])).weaken (fun _ _ hs => hs) (fun _ hs => hs)
    fun _ hs => Driver.Kept.broken hs

theorem peek_keeps : Driver.Keeps b (Feed.peek : Act (Site W) _) := fun _ _ hd => hd

omit [RegisterFile R] [Watchdog W] [DoneCallbacks (RealTime (Scheduler W))] in
theorem count_keeps (f : Stats → Except Abort Stats) : Keeps (W := W) (R := R) b (count f) :=
  ((Aside.count f).meets (Driver.Kept b [])).weaken (fun _ _ hs => hs) (fun _ hs => hs)
    fun _ hs => Driver.Kept.broken hs

theorem step_keeps (hc : Driver.Heedful W) : Keeps (W := W) (R := R) b step := by
  unfold step
  apply Act.Meets.read
  intro s hs
  by_cases hstalled : s.engine.isStalled = true
  · simp only [hstalled, if_true]
    apply ((onWorld_keeps (keeps_of_spares aside.halt)).bind fun _ => ?_) s hs
    exact Act.Meets.value fun _ ht => ht
  · simp only [hstalled]
    apply ((onWorld_keeps (onDriver_keeps (Driver.next_keeps hc))).bind fun handle => ?_) s hs
    cases handle with
    | some handle =>
      apply (issue_keeps handle.descriptor).bind
      intro _
      apply (onWorld_keeps (onDriver_keeps (Driver.complete_keeps hc handle))).bind
      intro _
      exact Act.Meets.value fun _ ht => ht
    | none =>
      apply (onWorld_keeps (onDriver_keeps peek_keeps)).bind
      intro coming
      by_cases hcoming : coming = some .globalFence
      · simp only [hcoming, if_true]
        apply (onWorld_keeps (keeps_of_spares (aside.raise Interrupt.taskDone))).bind
        intro _
        apply (onWorld_keeps (onDriver_keeps (Driver.finishRequest_keeps hc))).bind
        intro _
        apply (count_keeps _).bind
        intro _
        exact Act.Meets.value fun _ ht => ht
      · simp only [hcoming, if_false]
        exact Act.Meets.value fun _ ht => ht

theorem runFor_keeps (hc : Driver.Heedful W) (more : Nat) : Keeps (W := W) (R := R) b (runFor more) := by
  induction more with
  | zero => exact Act.Meets.read fun _ hs => hs
  | succ more ih =>
    apply (step_keeps hc).bind
    intro outcome
    cases outcome with
    | idle => exact Act.Meets.read fun _ hs => hs
    | stalled => exact Act.Meets.read fun _ hs => hs
    | dispatched handle => exact ih
    | requestCompleted => exact ih

end Engine

end TensorQueue
