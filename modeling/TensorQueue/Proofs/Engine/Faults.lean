import TensorQueue.Proofs.Driver.Engines
import TensorQueue.Proofs.Engine.Works
import TensorQueue.Queue.Scheduler
import TensorQueue.Registers.Faulty

/-!
# An engine whose registers fail now and then

The engine counts a descriptor as issued before it rings the doorbell, and the
hardware counts it as retired when it has carried it out. An access that is
refused in between cuts the step short. The engine does not take its count back,
so it is one ahead of the hardware from then on, and one more with every further
step that is cut short. What it issues later is retired, but the engine waits in
vain for its own count and does not report it. A fault at any other access leaves
the two counts as they were to each other.
-/

set_option autoImplicit false

namespace TensorQueue

namespace Registers

/-- How to look at registers without an access: which states there are, what the registers hold, and
how many accesses were refused. -/
structure Gauge (R : Type) where
  sane : R → Prop
  holds : R → UInt64 → UInt64
  refusals : R → Nat

structure Gauge.Shows {R : Type} (g : Gauge R) (held : UInt64 → UInt64) (refused : Nat) (r : R) :
    Prop where
  sane : g.sane r
  holds : g.holds r = held
  refusals : g.refusals r = refused

/-- The registers are memory, but that an access may be refused. Such an access has no effect, and is
counted. -/
structure Gauge.Lapses {R : Type} [RegisterFile R] (g : Gauge R) : Prop where
  read : ∀ held n, ∀ a ∈ Offset.all, Act.Meets (g.Shows held n) (RegisterFile.read a)
    (fun v r => v = held a ∧ g.Shows held n r) (g.Shows held (n + 1)) fun _ => False
  write : ∀ held n, ∀ a ∈ Offset.all, ∀ v, Act.Meets (g.Shows held n) (RegisterFile.write a v)
    (fun _ => g.Shows (Function.update held a v) n) (g.Shows held (n + 1)) fun _ => False

namespace Faulty

variable {held : UInt64 → UInt64} {n : Nat}

/-- No register is stuck, and a fault that has fired stands for the access that it refused. -/
def gauge : Gauge Faulty where
  sane f := f.stuck = [] ∧ f.memory.Whole
  holds f := f.memory.value
  refusals f := f.faults.countP fun p => p.left = 0

theorem countP_strike (access : AccessKind) (offset : UInt64) (faults : List PlannedFault) :
    (strike access offset faults).2.countP (fun p => p.left = 0) =
      faults.countP (fun p => p.left = 0) + (strike access offset faults).1.isSome.toNat := by
  induction faults with
  | nil => rfl
  | cons p rest ih =>
    rw [strike]
    split
    · rename_i seen
      split
      · rename_i last
        simp [last]
      · rename_i more
        have left : p.left - 1 ≠ 0 := by omega
        simpa [List.countP_cons, left, seen.2.2] using ih
    · simp only [List.countP_cons, ih]
      omega

theorem survive_meets (access : AccessKind) (offset : UInt64) :
    Act.Meets (gauge.Shows held n) (survive access offset) (fun _ => gauge.Shows held n)
      (gauge.Shows held (n + 1)) fun _ => False := by
  rintro f ⟨sane, rfl, rfl⟩
  have counted := countP_strike access offset f.faults
  unfold survive
  rcases hs : strike access offset f.faults with ⟨cause | cause, faults⟩
  all_goals
    rw [hs] at counted
    exact ⟨sane, rfl, counted⟩

/-- Memory with planned faults is memory with lapses. -/
theorem lapses : gauge.Lapses := by
  constructor
  case read =>
    intro held n a ha
    refine (survive_meets .read a).bind fun _ f hf => ?_
    have value := Memory.remembers.read f.memory hf.sane.2 a ha
    have run : onMemory (RegisterFile.read a) f = (.ok (f.memory.value a), f) := by
      rw [onMemory, Act.within, value]
    rw [run]
    exact ⟨congrFun hf.holds a, hf⟩
  case write =>
    intro held n a ha v
    refine (survive_meets .write a).bind fun _ => Act.Meets.read fun f hf => ?_
    have free : a ∉ f.stuck := by simp [hf.sane.1]
    have run : onMemory (RegisterFile.write a v) f =
        (.ok (), { f with memory := f.memory.put a v }) := by
      simp [onMemory, Act.within, RegisterFile.write, Act.bind_apply, hf.sane.2.check_of_mem ha]
    rw [if_neg free, run]
    refine ⟨hf.sane, funext fun b => ?_, hf.refusals⟩
    rw [← hf.holds, Function.update_apply]
    show (Table.get? (f.memory.values.put a v) b).getD 0 = _
    rw [Table.get?_put]
    by_cases hb : b = a
    · simp [hb]
    · simp [hb, Ne.symm hb, gauge, Memory.value]

end Faulty

end Registers

theorem Act.bind_assoc {σ α β γ : Type} (act : Act σ α) (f : α → Act σ β) (g : β → Act σ γ) :
    act >>= f >>= g = act >>= fun a => f a >>= g := by
  funext s
  simp only [Act.bind_apply]
  rcases act s with ⟨fault | a, t⟩ <;> rfl

/-- What is never aborted ends with a value or with a refusal. -/
theorem Act.Ends.unaborted_cases {σ α : Type} {after : α → σ → Prop} {refused : σ → Prop}
    {out : Except Fault α × σ} (h : Act.Ends after refused (fun _ => False) out) :
    (∃ a t, out = (.ok a, t) ∧ after a t) ∨
      ∃ cause t, out = (.error (.refusal cause), t) ∧ refused t := by
  rcases out with ⟨fault | a, t⟩
  · cases fault with
    | refusal cause => exact .inr ⟨cause, t, rfl, h⟩
    | abort cause => exact h.elim
  · exact .inl ⟨a, t, rfl, h⟩

namespace Engine

open Registers

section Parts

variable {σ : Type} [RegisterFile σ]

/-- The registers are told of a descriptor, which does not count yet. -/
def announce (d : Descriptor) : Act σ Unit := do
  RegisterFile.write Offset.descriptorAddress d.address
  RegisterFile.write Offset.descriptorSize d.size
  RegisterFile.write Offset.descriptorTag d.kind.tag

/-- The doorbell is rung with the count of descriptors issued, and the hardware does its part. -/
def ring (kind : Descriptor.Kind) (issued : UInt64) : Act σ Unit := do
  RegisterFile.write Offset.doorbell issued
  RegisterFile.write Offset.queueStatus Status.running
  execute kind

/-- The hardware's own watchdog is kicked, and the queue is shown as idle. -/
def standDown : Act σ Unit := do
  RegisterFile.write Offset.watchdogKick 1
  RegisterFile.write Offset.queueStatus Status.idle

/-- Once the hardware has caught up with this engine, the descriptor enters the statistics. -/
def conclude [SystemClock σ] (e : Engine) (d : Descriptor) : Act (Attached σ) Unit := do
  onWorld (poll Offset.completedCount e.issued e.config.pollTimeout)
  onWorld standDown
  tally d

omit [RegisterFile σ] in
theorem onWorld_bind {α β : Type} (act : Act σ α) (next : α → Act σ β) :
    onWorld (act >>= next) = onWorld act >>= fun a => onWorld (next a) := by
  funext s
  simp only [onWorld, Act.within, Act.bind_apply]
  rcases act s.world with ⟨fault | a, w⟩ <;> rfl

/-- The count of descriptors issued moves before the doorbell is rung. -/
def counted (e : Engine) : Engine := { e with issued := e.issued + 1 }

theorem issue_eq [SystemClock σ] (d : Descriptor) : issue d = (do
    onWorld (announce d)
    update counted
    let s ← Act.read
    onWorld (ring d.kind s.engine.issued)
    conclude s.engine d : Act (Attached σ) Unit) := by
  simp only [announce, ring, conclude, standDown, tally, onWorld_bind, Act.bind_assoc]
  rfl

omit [RegisterFile σ] in
theorem count_spares (f : Stats → Except Abort Stats) :
    Act.Spares (fun s : Attached σ => (s.world, s.engine.issued)) (count f) := by
  intro s
  unfold count
  split <;> rfl

omit [RegisterFile σ] in
/-- The statistics are all that changes, and they may have no room. -/
theorem tally_spares (d : Descriptor) :
    Act.Spares (fun s : Attached σ => (s.world, s.engine.issued)) (tally d) :=
  (count_spares _).bind fun _ => count_spares _

end Parts

section Accesses

variable {S R : Type} {g : Gauge R} {retired : UInt64} {n : Nat} {w : Machine S R}

/-- So many descriptors count as retired, so many accesses were refused, and apart from the registers
the machine is as this one. -/
structure Stands (g : Gauge R) (retired : UInt64) (n : Nat) (w m : Machine S R) : Prop where
  sane : g.sane m.registers
  retired : g.holds m.registers Offset.completedCount = retired
  refusals : g.refusals m.registers = n
  driver : m.driver = w.driver
  tempo : m.tempo = w.tempo

/-- Nothing becomes of this but that an access may be refused. -/
def Passes (g : Gauge R) {α : Type} (act : Act (Machine S R) α) : Prop :=
  ∀ retired n w, Act.Meets (Stands g retired n w) act (fun _ => Stands g retired n w)
    (Stands g retired (n + 1) w) fun _ => False

theorem Passes.bind {α β : Type} {act : Act (Machine S R) α} {next : α → Act (Machine S R) β}
    (h : Passes g act) (hn : ∀ a, Passes g (next a)) : Passes g (act >>= next) :=
  fun retired n w => (h retired n w).bind fun a => hn a retired n w

theorem passes_value {α : Type} (a : α) : Passes g (pure a : Act (Machine S R) α) :=
  fun _ _ _ => Act.Meets.value fun _ h => h

variable [RegisterFile R] (hl : g.Lapses)

include hl

theorem read_meets {a : UInt64} (ha : a ∈ Offset.all) :
    Act.Meets (Stands g retired n w) (RegisterFile.read a)
      (fun v m => (a = Offset.completedCount → v = retired) ∧ Stands g retired n w m)
      (Stands g retired (n + 1) w) fun _ => False := by
  rintro m ⟨sane, rfl, rfl, driver, tempo⟩
  show Act.Ends _ _ _ (Machine.onRegisters (RegisterFile.read a) m)
  refine Act.Ends.within
    ((hl.read _ _ a ha m.registers ⟨sane, rfl, rfl⟩).weaken ?_ ?_ fun _ => False.elim)
  · rintro v r ⟨rfl, shows⟩
    exact ⟨fun h => by rw [h], shows.sane, congrFun shows.holds _, shows.refusals, driver, tempo⟩
  · intro r shows
    exact ⟨shows.sane, congrFun shows.holds _, shows.refusals, driver, tempo⟩

theorem write_meets {a : UInt64} (ha : a ∈ Offset.all) (v : UInt64) :
    Act.Meets (Stands g retired n w) (RegisterFile.write a v)
      (fun _ => Stands g (if Offset.completedCount = a then v else retired) n w)
      (Stands g retired (n + 1) w) fun _ => False := by
  rintro m ⟨sane, rfl, rfl, driver, tempo⟩
  show Act.Ends _ _ _ (Machine.onRegisters (RegisterFile.write a v) m)
  refine Act.Ends.within
    ((hl.write _ _ a ha v m.registers ⟨sane, rfl, rfl⟩).weaken ?_ ?_ fun _ => False.elim)
  · intro _ r shows
    refine ⟨shows.sane, ?_, shows.refusals, driver, tempo⟩
    exact (congrFun shows.holds _).trans (Function.update_apply _ _ _ _)
  · intro r shows
    exact ⟨shows.sane, congrFun shows.holds _, shows.refusals, driver, tempo⟩

theorem write_passes {a : UInt64} (ha : a ∈ Offset.all) (hc : Offset.completedCount ≠ a)
    (v : UInt64) : Passes g (RegisterFile.write a v : Act (Machine S R) Unit) := by
  intro retired n w
  refine (write_meets hl ha v).weaken (fun _ m hm => ?_) (fun _ => id) fun _ => id
  rwa [if_neg hc] at hm

theorem read_passes {a : UInt64} (ha : a ∈ Offset.all) :
    Passes g (RegisterFile.read a : Act (Machine S R) UInt64) :=
  fun _ _ _ => (read_meets hl ha).weaken (fun _ _ hm => hm.2) (fun _ => id) fun _ => id

theorem announce_passes (desc : Descriptor) :
    Passes g (announce desc : Act (Machine S R) Unit) := by
  unfold announce
  refine (write_passes hl (by decide) (by decide) _).bind fun _ => ?_
  refine (write_passes hl (by decide) (by decide) _).bind fun _ => ?_
  exact write_passes hl (by decide) (by decide) _

theorem standDown_passes : Passes g (standDown : Act (Machine S R) Unit) := by
  unfold standDown
  refine (write_passes hl (by decide) (by decide) _).bind fun _ => ?_
  exact write_passes hl (by decide) (by decide) _

theorem halt_passes : Passes g (halt : Act (Machine S R) Unit) := by
  unfold halt
  refine (read_passes hl (by decide)).bind fun status => ?_
  split
  · exact passes_value ()
  · exact write_passes hl (by decide) (by decide) _

theorem raise_passes (bit : UInt64) : Passes g (raise bit : Act (Machine S R) Unit) := by
  unfold raise
  refine (read_passes hl (by decide)).bind fun status => ?_
  refine (write_passes hl (by decide) (by decide) _).bind fun _ => ?_
  refine (write_passes hl (by decide) (by decide) _).bind fun _ => ?_
  exact write_passes hl (by decide) (by decide) _

/-- With an access refused, or for a line that there is not. -/
def Fails (g : Gauge R) (kind : Descriptor.Kind) (retired : UInt64) (n : Nat)
    (w m : Machine S R) : Prop :=
  Stands g retired (n + 1) w m ∨ kind.isValid = false ∧ Stands g retired n w m

theorem raiseLine_meets (kind : Descriptor.Kind) :
    Act.Meets (Stands g retired n w) (raiseLine kind) (fun _ => Stands g retired n w)
      (Fails g kind retired n w) fun _ => False := by
  cases kind with
  | coreInterrupt line =>
    by_cases present : line < Descriptor.coreInterruptLines
    · have bit : Interrupt.core? line = some (1 <<< line.toUInt64) := if_pos present
      simp only [raiseLine, bit]
      exact (raise_passes hl _ _ _ _).weaken (fun _ _ => id) (fun _ => .inl) fun _ => id
    · have none : Interrupt.core? line = none := if_neg present
      simp only [raiseLine, none]
      exact Act.Meets.refuse fun m hm =>
        .inr ⟨by simpa [Descriptor.Kind.isValid] using present, hm⟩
  | _ => exact Act.Meets.value fun _ h => h

/-- If it fails, nothing was retired. -/
theorem execute_meets (kind : Descriptor.Kind) :
    Act.Meets (Stands g retired n w) (execute kind) (fun _ => Stands g (retired + 1) n w)
      (Fails g kind retired n w) fun _ => False := by
  unfold execute
  refine (raiseLine_meets hl kind).bind fun _ => ?_
  refine ((read_meets hl (by decide)).weaken (fun _ _ => id) (fun _ => .inl) fun _ => id).bind
    fun count m hm => ?_
  rw [hm.1 rfl]
  exact ((write_meets hl (by decide) _) m hm.2).weaken
    (fun _ t ht => by rwa [if_pos rfl] at ht) (fun _ => .inl) fun _ => id

theorem ring_meets (kind : Descriptor.Kind) (issued : UInt64) :
    Act.Meets (Stands g retired n w) (ring kind issued) (fun _ => Stands g (retired + 1) n w)
      (Fails g kind retired n w) fun _ => False := by
  unfold ring
  refine ((write_passes hl (by decide) (by decide) _ _ _ _).weaken (fun _ _ => id) (fun _ => .inl)
    fun _ => id).bind fun _ => ?_
  refine ((write_passes hl (by decide) (by decide) _ _ _ _).weaken (fun _ _ => id) (fun _ => .inl)
    fun _ => id).bind fun _ => ?_
  exact execute_meets hl kind

end Accesses

section Waiting

variable {S R : Type} {g : Gauge R} {retired issued : UInt64} {n : Nat}
  {w m : Machine S R}

theorem Passes.cases {α : Type} {act : Act (Machine S R) α} (h : Passes g act)
    (hm : Stands g retired n w m) : (∃ a t, act m = (.ok a, t) ∧ Stands g retired n w t) ∨
      ∃ cause t, act m = (.error (.refusal cause), t) ∧ Stands g retired (n + 1) w t :=
  (h retired n w m hm).unaborted_cases

theorem onWorld_of {σ α : Type} {act : Act σ α} {s : Attached σ} {t : σ} {out : Except Fault α}
    (h : act s.world = (out, t)) : onWorld act s = (out, ⟨s.engine, t⟩) := by
  rw [onWorld, Act.within, h]

variable [RegisterFile R] (hl : g.Lapses)

include hl

/-- One look at the count: it is there, or the access is refused, or what comes next has to tell. -/
theorem look_cases {next : UInt64 → Act (Machine S R) Unit} (hm : Stands g retired n w m) :
    let look : Act (Machine S R) Unit := do
      let value ← RegisterFile.read Offset.completedCount
      if value = issued then return () else next value
    (∃ t, look m = (.ok (), t) ∧ issued = retired ∧ Stands g retired n w t) ∨
      (∃ cause t, look m = (.error (.refusal cause), t) ∧ Stands g retired (n + 1) w t) ∨
      ∃ t, look m = next retired t ∧ issued ≠ retired ∧ Stands g retired n w t := by
  have known : Offset.completedCount ∈ Offset.all := by decide
  rcases (read_meets hl known m hm).unaborted_cases with
    ⟨v, t, hr, hv, ht⟩ | ⟨cause, t, hr, ht⟩
  · obtain rfl : v = retired := hv rfl
    by_cases hi : issued = v
    · refine .inl ⟨t, ?_, hi, ht⟩
      rw [Act.bind_of_ok hr, if_pos hi.symm]
      rfl
    · refine .inr (.inr ⟨t, ?_, hi, ht⟩)
      rw [Act.bind_of_ok hr, if_neg (Ne.symm hi)]
  · exact .inr (.inl ⟨cause, t, Act.bind_of_error hr, ht⟩)

/-- The count does not move while it is waited for. So it is there at once or never. -/
theorem pollFor_cases (timeout : Duration) (more : Nat) (hm : Stands g retired n w m) :
    (∃ t, pollFor Offset.completedCount issued timeout more m = (.ok (), t) ∧ issued = retired ∧
        Stands g retired n w t) ∨
      (∃ cause t, pollFor Offset.completedCount issued timeout more m =
        (.error (.refusal cause), t) ∧ Stands g retired (n + 1) w t) ∨
      ∃ t, pollFor Offset.completedCount issued timeout more m =
          (.error (.refusal (.registerPollTimedOut Offset.completedCount retired issued timeout)), t) ∧
        issued ≠ retired ∧ Stands g retired n w t := by
  induction more generalizing m with
  | zero => exact look_cases hl hm
  | succ more ih =>
    rcases look_cases hl hm with there | refused | ⟨t, later, -, ht⟩
    · exact .inl there
    · exact .inr (.inl refused)
    · rw [pollFor, later]
      exact ih ht

/-- However the wait ends, both counts stay. If no access is refused, the clock can tell the end of
the wait and the statistics have room, it ends well if and only if the counts agree. -/
theorem conclude_cases (e : Engine) (desc : Descriptor) {s : Attached (Machine S R)}
    (hs : Stands g retired n w s.world) : ∃ k, Stands g retired k w (conclude e desc s).2.world ∧
      (conclude e desc s).2.engine.issued = s.engine.issued ∧
      (k = n → Clock.reaches w.tempo.now e.config.pollTimeout = true →
        s.engine.Countable [desc] 0 → (conclude e desc s).1 =
          if e.issued = retired then .ok ()
          else .error (.refusal (.registerPollTimedOut Offset.completedCount retired e.issued
            e.config.pollTimeout))) := by
  unfold conclude
  by_cases time : Clock.reaches s.world.tempo.now e.config.pollTimeout = true
  · rcases pollFor_cases hl e.config.pollTimeout (s.world.tempo.pauses e.config.pollTimeout) hs
      with ⟨t, hp, hi, ht⟩ | ⟨cause, t, hp, ht⟩ | ⟨t, hp, hi, ht⟩
    all_goals
      have polled : poll Offset.completedCount e.issued e.config.pollTimeout s.world = _ :=
        (congrFun (if_pos time) _).trans hp
    · rw [Act.bind_of_ok (onWorld_of polled)]
      rcases (standDown_passes hl).cases ht with ⟨_, u, hk, hu⟩ | ⟨cause, u, hk, hu⟩
      · rw [Act.bind_of_ok (onWorld_of hk)]
        obtain ⟨world, issued⟩ := Prod.mk.inj (tally_spares desc ⟨s.engine, u⟩)
        refine ⟨n, by rwa [world], issued, fun _ _ room => ?_⟩
        have counted := tally_of_countable (s := ⟨s.engine, u⟩) room
        exact (congrArg Prod.fst counted).trans (if_pos hi).symm
      · rw [Act.bind_of_error (onWorld_of hk)]
        exact ⟨n + 1, hu, rfl, fun h => by omega⟩
    · rw [Act.bind_of_error (onWorld_of polled)]
      exact ⟨n + 1, ht, rfl, fun h => by omega⟩
    · rw [Act.bind_of_error (onWorld_of polled)]
      exact ⟨n, ht, rfl, fun _ _ _ => (if_neg hi).symm⟩
  · have aborted : poll Offset.completedCount e.issued e.config.pollTimeout s.world =
        (.error (.abort .instantOverflow), s.world) := congrFun (if_neg time) _
    rw [Act.bind_of_error (onWorld_of aborted)]
    exact ⟨n, hs, rfl, fun _ told => absurd (hs.tempo ▸ told) time⟩

end Waiting

section Issuing

variable {S R : Type} [RegisterFile R] {g : Gauge R} {retired : UInt64} {n k : Nat}
  {w : Machine S R}

/-- Whether the engine counts this descriptor as issued and then fails to have it retired. -/
def slips {σ : Type} [RegisterFile σ] (desc : Descriptor) (s : Attached σ) : Bool :=
  match announce desc s.world with
  | (.ok _, w) => !(ring desc.kind s.engine.counted.issued w).1.isOk
  | (.error _, _) => false

/-- A descriptor is refused before it counts, or it slips, or it is retired and all that is left is
to wait for it. -/
theorem issue_cases (hl : g.Lapses) (desc : Descriptor) {s : Attached (Machine S R)}
    (hs : Stands g retired n w s.world) :
    (∃ cause t, issue desc s = (.error (.refusal cause), ⟨s.engine, t⟩) ∧
        Stands g retired (n + 1) w t ∧ slips desc s = false) ∨
      (∃ cause t, issue desc s = (.error (.refusal cause), ⟨s.engine.counted, t⟩) ∧
        Fails g desc.kind retired n w t ∧ slips desc s = true) ∨
      ∃ t, issue desc s = conclude s.engine.counted desc ⟨s.engine.counted, t⟩ ∧
        Stands g (retired + 1) n w t ∧ slips desc s = false := by
  rcases (announce_passes hl desc).cases hs with ⟨_, t, ha, ht⟩ | ⟨cause, t, ha, ht⟩
  · have rung : issue desc s = (do
        onWorld (ring desc.kind s.engine.counted.issued)
        conclude s.engine.counted desc : Act _ Unit) ⟨s.engine.counted, t⟩ := by
      rw [issue_eq, Act.bind_of_ok (onWorld_of ha)]
      rfl
    have slipping : slips desc s = !(ring desc.kind s.engine.counted.issued t).1.isOk := by
      rw [slips, ha]
    rcases (ring_meets hl desc.kind s.engine.counted.issued t ht).unaborted_cases with
      ⟨_, u, hr, hu⟩ | ⟨cause, u, hr, hu⟩
    · refine .inr (.inr ⟨u, ?_, hu, by rw [slipping, hr]; rfl⟩)
      rw [rung, Act.bind_of_ok (onWorld_of hr)]
    · refine .inr (.inl ⟨cause, u, ?_, hu, by rw [slipping, hr]; rfl⟩)
      rw [rung, Act.bind_of_error (onWorld_of hr)]
  · refine .inl ⟨cause, t, ?_, ht, by rw [slips, ha]⟩
    rw [issue_eq, Act.bind_of_error (onWorld_of ha)]

end Issuing

section Levels

variable {S R : Type} {g : Gauge R} {α β : Type}

/-- So many descriptors count as retired, and so many as issued. -/
structure Level (g : Gauge R) (retired issued : UInt64) (s : Attached (Machine S R)) : Prop where
  sane : g.sane s.world.registers
  retired : g.holds s.world.registers Offset.completedCount = retired
  issued : s.engine.issued = issued

/-- However it ends, both counts stay. -/
def Levels (g : Gauge R) (act : Act (Attached (Machine S R)) α) : Prop :=
  ∀ ⦃retired issued s⦄, Level g retired issued s → Level g retired issued (act s).2

theorem Levels.bind {act : Act (Attached (Machine S R)) α}
    {next : α → Act (Attached (Machine S R)) β} (h : Levels g act) (hn : ∀ a, Levels g (next a)) :
    Levels g (act >>= next) := by
  intro retired issued s hs
  have first := h hs
  rw [Act.bind_apply]
  rcases hact : act s with ⟨fault | a, t⟩
  · rw [hact] at first
    exact first
  · rw [hact] at first
    exact hn a first

theorem levels_value (a : α) : Levels g (pure a : Act (Attached (Machine S R)) α) :=
  fun _ _ _ hs => hs

theorem count_levels (f : Stats → Except Abort Stats) :
    Levels g (count f : Act (Attached (Machine S R)) Unit) := by
  intro retired issued s hs
  obtain ⟨world, same⟩ := Prod.mk.inj (count_spares f s)
  exact ⟨world ▸ hs.sane, world ▸ hs.retired, same.trans hs.issued⟩

theorem driver_levels (act : Act (Driver S) α) :
    Levels (R := R) g (onWorld (Machine.onDriver act)) :=
  fun _ _ _ hs => ⟨hs.sane, hs.retired, hs.issued⟩

theorem Passes.levels {act : Act (Machine S R) α} (h : Passes g act) : Levels g (onWorld act) := by
  intro retired issued s hs
  rcases h.cases ⟨hs.sane, hs.retired, rfl, rfl, rfl⟩ with ⟨a, t, ha, ht⟩ | ⟨cause, t, ha, ht⟩
  all_goals
    rw [onWorld_of ha]
    exact ⟨ht.sane, ht.retired, hs.issued⟩

variable [RegisterFile R] (hl : g.Lapses)

include hl

theorem conclude_levels (e : Engine) (desc : Descriptor) :
    Levels (S := S) g (conclude e desc) := by
  intro retired issued s hs
  obtain ⟨k, stands, same, -⟩ := conclude_cases hl e desc ⟨hs.sane, hs.retired, rfl, rfl, rfl⟩
  exact ⟨stands.sane, stands.retired, same.trans hs.issued⟩

end Levels

section Steps

variable {S R : Type} {g : Gauge R} {s : Attached (Machine S R)} {m : Machine S R} {h : Handle}
  {k : Nat}

/-- The engine has counted so many more descriptors as issued than count as retired. -/
structure Ahead (g : Gauge R) (k : Nat) (s : Attached (Machine S R)) : Prop where
  sane : g.sane s.world.registers
  issued : s.engine.issued = g.holds s.world.registers Offset.completedCount + UInt64.ofNat k

theorem Level.ahead {retired : UInt64} (level : Level g retired (retired + UInt64.ofNat k) s) :
    Ahead g k s :=
  ⟨level.sane, by rw [level.retired, level.issued]⟩

theorem Ahead.level (h : Ahead g k s) :
    ∃ retired, Level g retired (retired + UInt64.ofNat k) s :=
  ⟨_, h.sane, rfl, h.issued⟩

variable [Dispatcher S] [DoneCallbacks S] [RegisterFile R]

/-- Whether a step is cut short: the engine counts what it is handed as issued, and then fails to
have it retired. -/
def cutShort {σ : Type} [RegisterFile σ] [Feed σ] (s : Attached σ) : Bool :=
  if s.engine.isStalled then false
  else
    match Feed.next s.world with
    | (.ok (some h), w) => slips h.descriptor ⟨s.engine, w⟩
    | _ => false

theorem step_of_stalled (hs : s.engine.isStalled = true) :
    step s = (do onWorld halt; return .stalled : Act _ Outcome) s := by
  unfold step
  rw [Act.bind_of_ok (Act.read_apply s), if_pos hs]

theorem step_of_handle (hs : s.engine.isStalled = false)
    (hn : Feed.next s.world = (.ok (some h), m)) : step s = (do
      issue h.descriptor
      onWorld (Feed.complete h)
      return .dispatched h : Act _ Outcome) ⟨s.engine, m⟩ := by
  unfold step
  rw [Act.bind_of_ok (Act.read_apply s), if_neg (by simp [hs]), Act.bind_of_ok (onWorld_of hn)]

theorem cutShort_of_handle (hs : s.engine.isStalled = false)
    (hn : Feed.next s.world = (.ok (some h), m)) :
    cutShort s = slips h.descriptor ⟨s.engine, m⟩ := by
  rw [cutShort, if_neg (by simp [hs]), hn]

omit [RegisterFile R] in
/-- Asking for work does not touch the registers. -/
theorem Level.handed {retired issued : UInt64} {out : Except Fault (Option Handle)}
    (level : Level g retired issued s) (hn : Feed.next s.world = (out, m)) :
    Level g retired issued ⟨s.engine, m⟩ := by
  have asked := driver_levels (Feed.next : Act (Driver S) _) level
  rwa [show onWorld (Machine.onDriver Feed.next) s = _ from onWorld_of hn] at asked

variable (hl : g.Lapses)

include hl

/-- With nothing to hand out, a step leaves both counts alone. -/
theorem level_of_nothing {retired issued : UInt64} (hs : s.engine.isStalled = false)
    (hn : ∀ h m, Feed.next s.world ≠ (.ok (some h), m)) (level : Level g retired issued s) :
    Level g retired issued (step s).2 := by
  unfold step
  rw [Act.bind_of_ok (Act.read_apply s), if_neg (by simp [hs])]
  rcases hf : Feed.next s.world with ⟨fault | _ | h, m⟩
  · rw [Act.bind_of_error (onWorld_of hf)]
    exact level.handed hf
  · rw [Act.bind_of_ok (onWorld_of hf)]
    refine (driver_levels Feed.peek).bind (fun coming => ?_) (level.handed hf)
    by_cases fence : coming = some .globalFence
    · rw [if_pos fence]
      refine (raise_passes hl _).levels.bind fun _ => ?_
      refine (driver_levels Feed.finishRequest).bind fun _ => ?_
      exact (count_levels _).bind fun _ => levels_value _
    · rw [if_neg fence]
      exact levels_value _
  · exact absurd hf (hn h m)

theorem ahead_of_handle (hs : s.engine.isStalled = false)
    (hn : Feed.next s.world = (.ok (some h), m)) (ha : Ahead g k s) :
    Ahead g (k + (cutShort s).toNat) (step s).2 := by
  obtain ⟨retired, level⟩ := ha.level
  have handed := level.handed hn
  rw [cutShort_of_handle hs hn, step_of_handle hs hn]
  rcases issue_cases hl h.descriptor ⟨handed.sane, handed.retired, rfl, rfl, rfl⟩ with
    ⟨cause, t, hi, ht, slip⟩ | ⟨cause, t, hi, ht, slip⟩ | ⟨t, hi, ht, slip⟩
  · rw [Act.bind_of_error hi, slip]
    exact Level.ahead ⟨ht.sane, ht.retired, handed.issued⟩
  -- The count of those issued has moved, and the other one has not.
  · have lost : UInt64.ofNat (k + true.toNat) = UInt64.ofNat k + 1 := UInt64.ofNat_add _ _
    have count : retired + UInt64.ofNat k + 1 = retired + UInt64.ofNat (k + true.toNat) := by
      rw [lost, UInt64.add_assoc]
    rw [Act.bind_of_error hi, slip]
    obtain ⟨-, -, issued⟩ := handed
    rcases ht with ht | ⟨-, ht⟩
    all_goals
      exact Level.ahead ⟨ht.sane, ht.retired, (congrArg (· + 1) issued).trans count⟩
  -- Both have moved, whatever becomes of the rest of the step.
  · have count : retired + UInt64.ofNat k + 1 = retired + 1 + UInt64.ofNat k := by ac_rfl
    have after : Level g (retired + 1) (retired + 1 + UInt64.ofNat k)
        (⟨s.engine.counted, t⟩ : Attached (Machine S R)) :=
      ⟨ht.sane, ht.retired, (congrArg (· + 1) handed.issued).trans count⟩
    have rest : Levels g (do
        conclude s.engine.counted h.descriptor
        onWorld (Feed.complete h)
        return .dispatched h : Act (Attached (Machine S R)) Outcome) :=
      (conclude_levels hl _ _).bind fun _ => (driver_levels (Feed.complete h)).bind fun _ =>
        levels_value _
    rw [slip, Act.bind_apply, hi]
    exact (rest after).ahead

/-- A step puts the engine one further ahead if it is cut short, and leaves its lead otherwise. -/
theorem Ahead.step (ha : Ahead g k s) : Ahead g (k + (cutShort s).toNat) (step s).2 := by
  obtain ⟨retired, level⟩ := ha.level
  by_cases hs : s.engine.isStalled = true
  · rw [cutShort, if_pos hs, step_of_stalled hs]
    exact (((halt_passes hl).levels.bind fun _ => levels_value _) level).ahead
  · have running := Bool.eq_false_iff.2 hs
    rcases hf : Feed.next s.world with ⟨fault | _ | h, m⟩
    · rw [cutShort, if_neg hs, hf]
      exact (level_of_nothing hl running (by simp [hf]) level).ahead
    · rw [cutShort, if_neg hs, hf]
      exact (level_of_nothing hl running (by simp [hf]) level).ahead
    · exact ahead_of_handle hl running hf ha

/-- What becomes of a descriptor that a step is handed, of the driver as it was left by that, when no
access is refused. It is retired in any case. If the counts agreed it is reported and dispatched;
otherwise the engine waits in vain and the driver does not hear of it. -/
structure Carried (g : Gauge R) (s : Attached (Machine S R)) (h : Handle) (d : Driver S) : Prop where
  whole : cutShort s = false
  retired : g.holds (step s).2.world.registers Offset.completedCount =
    g.holds s.world.registers Offset.completedCount + 1
  agreed : s.engine.issued = g.holds s.world.registers Offset.completedCount →
    (step s).1 = ((Feed.complete h d).1.map fun _ => .dispatched h) ∧
      (step s).2.world.driver = (Feed.complete h d).2
  ahead : s.engine.issued ≠ g.holds s.world.registers Offset.completedCount →
    (step s).1 = .error (.refusal (.registerPollTimedOut Offset.completedCount
      (g.holds s.world.registers Offset.completedCount + 1) (s.engine.issued + 1)
      s.engine.config.pollTimeout)) ∧ (step s).2.world.driver = d

omit [RegisterFile R] hl in
/-- The report of a descriptor concerns the driver alone. -/
theorem report_apply (h : Handle) (s : Attached (Machine S R)) :
    (do onWorld (Feed.complete h); return .dispatched h : Act (Attached (Machine S R)) Outcome) s =
      ((Feed.complete h s.world.driver).1.map fun _ => .dispatched h,
        ⟨s.engine, { s.world with driver := (Feed.complete h s.world.driver).2 }⟩) := by
  have reported : (Feed.complete h : Act (Machine S R) Unit) s.world =
      ((Feed.complete h s.world.driver).1,
        { s.world with driver := (Feed.complete h s.world.driver).2 }) := rfl
  rw [Act.bind_apply, onWorld_of reported]
  cases (Feed.complete h s.world.driver).1 <;> rfl

/-- When no access is refused the descriptor is retired, and all that is left is to wait for it. -/
theorem issue_of_unrefused (hs : s.engine.isStalled = false)
    (hn : Feed.next s.world = (.ok (some h), m)) (valid : h.descriptor.kind.isValid = true)
    {retired : UInt64} {n : Nat} (stands : Stands g retired n m m)
    (same : g.refusals (step s).2.world.registers = n) : ∃ t,
      issue h.descriptor ⟨s.engine, m⟩ = conclude s.engine.counted h.descriptor
        ⟨s.engine.counted, t⟩ ∧ Stands g (retired + 1) n m t ∧ cutShort s = false := by
  rw [step_of_handle hs hn] at same
  rw [cutShort_of_handle hs hn]
  rcases issue_cases hl h.descriptor (s := ⟨s.engine, m⟩) stands with
    ⟨cause, t, hi, ht, -⟩ | ⟨cause, t, hi, ht, -⟩ | issued
  · rw [Act.bind_of_error hi, ht.refusals] at same
    omega
  · rcases ht with ht | ⟨invalid, -⟩
    · rw [Act.bind_of_error hi, ht.refusals] at same
      omega
    · rw [valid] at invalid
      cases invalid
  · exact issued

theorem carried_of_unrefused (hg : g.sane s.world.registers) (hs : s.engine.isStalled = false)
    (hn : Feed.next s.world = (.ok (some h), m)) (valid : h.descriptor.kind.isValid = true)
    (time : Clock.reaches s.world.tempo.now s.engine.config.pollTimeout = true)
    (room : s.engine.Countable [h.descriptor] 0)
    (same : g.refusals (step s).2.world.registers = g.refusals s.world.registers) :
    Carried g s h m.driver := by
  have registers : m.registers = s.world.registers :=
    (congrArg (fun out => out.2.registers) hn).symm
  have told : Clock.reaches m.tempo.now s.engine.config.pollTimeout = true :=
    (congrArg (fun out => out.2.tempo) hn) ▸ time
  have stands : Stands g (g.holds s.world.registers Offset.completedCount)
      (g.refusals s.world.registers) m m := by
    rw [← registers]
    exact ⟨registers ▸ hg, rfl, rfl, rfl, rfl⟩
  obtain ⟨t, hi, ht, whole⟩ := issue_of_unrefused hl hs hn valid stands same
  obtain ⟨k, hk, -, verdict⟩ :=
    conclude_cases hl s.engine.counted h.descriptor (s := ⟨s.engine.counted, t⟩) ht
  have handed := step_of_handle hs hn
  have counts : s.engine.counted.issued = g.holds s.world.registers Offset.completedCount + 1 ↔
      s.engine.issued = g.holds s.world.registers Offset.completedCount :=
    UInt64.add_left_inj 1
  rcases hc : conclude s.engine.counted h.descriptor ⟨s.engine.counted, t⟩ with ⟨fault | a, u⟩
  all_goals rw [hc] at hi hk verdict
  -- With no access refused, only the counts decide how the wait ends.
  · rw [Act.bind_of_error hi] at handed
    rw [handed] at same
    have waited := verdict (hk.refusals.symm.trans same) told
      ⟨room.descriptors, room.bytes, room.requests⟩
    refine ⟨whole, by rw [handed]; exact hk.retired, fun agreed => ?_, fun apart => ?_⟩
    · rw [if_pos (counts.2 agreed)] at waited
      cases waited
    · rw [if_neg (mt counts.1 apart)] at waited
      have cause := Except.error.inj waited
      rw [handed, hk.driver, cause]
      exact ⟨rfl, rfl⟩
  · rw [Act.bind_of_ok hi, report_apply] at handed
    rw [handed] at same
    have waited := verdict (hk.refusals.symm.trans same) told
      ⟨room.descriptors, room.bytes, room.requests⟩
    have agreed : s.engine.issued = g.holds s.world.registers Offset.completedCount := by
      by_contra apart
      rw [if_neg (mt counts.1 apart)] at waited
      cases waited
    refine ⟨whole, by rw [handed]; exact hk.retired, fun _ => ?_, fun apart => absurd agreed apart⟩
    rw [handed, hk.driver]
    exact ⟨rfl, rfl⟩

end Steps

section Runs

variable {S R : Type} [Dispatcher S] [DoneCallbacks S] [RegisterFile R]

/-- A step of the engine, or whatever else happens to the driver between two steps, while time goes
by. -/
inductive Move (S : Type) where
  | step
  | meanwhile (change : Driver S → Driver S) (tempo : Tempo)

def move (s : Attached (Machine S R)) : Move S → Attached (Machine S R)
  | .step => (step s).2
  | .meanwhile change tempo =>
    { s with world := { s.world with driver := change s.world.driver, tempo } }

def run (ms : List (Move S)) (s : Attached (Machine S R)) : Attached (Machine S R) := ms.foldl move s

/-- How many of the steps are cut short. -/
def cuts : List (Move S) → Attached (Machine S R) → Nat
  | [], _ => 0
  | .step :: ms, s => (cutShort s).toNat + cuts ms (move s .step)
  | .meanwhile change tempo :: ms, s => cuts ms (move s (.meanwhile change tempo))

variable {g : Gauge R} {s : Attached (Machine S R)} {m m' : Machine S R} {e : Engine} {k : Nat}

theorem Ahead.run (hl : g.Lapses) (ms : List (Move S)) (ha : Ahead g k s) :
    Ahead g (k + cuts ms s) (run ms s) := by
  induction ms generalizing s k with
  | nil => exact ha
  | cons x ms ih =>
    cases x with
    | step =>
      rw [cuts, ← Nat.add_assoc]
      exact ih (ha.step hl)
    | meanwhile change tempo =>
      exact ih (s := move s (.meanwhile change tempo)) ⟨ha.sane, ha.issued⟩

omit [Dispatcher S] [DoneCallbacks S] in
/-- A new engine and the registers begin to count at the same number. -/
theorem ahead_start (hl : g.Lapses) {config : Config} (hg : g.sane m.registers)
    (hs : start config m = (.ok e, m')) : Ahead g 0 ⟨e, m'⟩ := by
  have ready : Act.Meets (Stands g (g.holds m.registers Offset.completedCount)
      (g.refusals m.registers) m) (start config)
      (fun e t => e.issued = 0 ∧ Stands g 0 (g.refusals m.registers) m t) (fun _ => True)
      fun _ => False := by
    have passes : ∀ {a v retired} (_ : a ∈ Offset.all) (_ : Offset.completedCount ≠ a),
        Act.Meets (Stands g retired (g.refusals m.registers) m) (RegisterFile.write a v)
          (fun _ => Stands g retired (g.refusals m.registers) m) (fun _ => True)
          fun _ => False :=
      fun known other => (write_passes hl known other _ _ _ _).weaken (fun _ _ => id)
        (fun _ _ => trivial) fun _ => id
    unfold start
    refine (passes (by decide) (by decide)).bind fun _ => ?_
    refine (passes (by decide) (by decide)).bind fun _ => ?_
    refine ((write_meets hl (by decide) 0).weaken (fun _ _ => id) (fun _ _ => trivial)
      fun _ => id).bind fun _ => ?_
    rw [if_pos rfl]
    refine (passes (by decide) (by decide)).bind fun _ => ?_
    refine (passes (by decide) (by decide)).bind fun _ => ?_
    refine (passes (by decide) (by decide)).bind fun _ => ?_
    refine (passes (by decide) (by decide)).bind fun _ => ?_
    refine (passes (by decide) (by decide)).bind fun _ => ?_
    exact Act.Meets.value fun _ ht => ⟨rfl, ht⟩
  have ends := ready m ⟨hg, rfl, rfl, rfl, rfl⟩
  rw [hs] at ends
  exact ⟨ends.2.sane, by rw [ends.1, ends.2.retired]; rfl⟩

/-- In every run of an engine over registers that are memory with lapses, whatever else happens to
the driver meanwhile, the count of descriptors issued is ahead of the count of those retired by the
number of steps that were cut short, in words that wrap. What a later step is handed is retired if no
access is refused in it, and it is dispatched if and only if the counts agree, given a clock that can
tell the end of the wait and statistics that have room for one descriptor more. -/
theorem ahead_by_the_cuts (hl : g.Lapses) {config : Config} {ms : List (Move S)}
    (hg : g.sane m.registers) (hm : start config m = (.ok e, m')) (hr : run ms ⟨e, m'⟩ = s) :
    s.engine.issued = g.holds s.world.registers Offset.completedCount +
        UInt64.ofNat (cuts ms ⟨e, m'⟩) ∧
      ∀ h v, s.engine.isStalled = false → Feed.next s.world = (.ok (some h), v) →
        h.descriptor.kind.isValid = true →
        Clock.reaches s.world.tempo.now s.engine.config.pollTimeout = true →
        s.engine.Countable [h.descriptor] 0 →
        g.refusals (step s).2.world.registers = g.refusals s.world.registers →
        Carried g s h v.driver := by
  have lead : Ahead g (0 + cuts ms ⟨e, m'⟩) s := by
    rw [← hr]
    exact (ahead_start hl hg hm).run hl ms
  rw [Nat.zero_add] at lead
  exact ⟨lead.issued, fun h v running handed valid time room unrefused =>
    carried_of_unrefused hl lead.sane running handed valid time room unrefused⟩

/-- A driver over memory in which these accesses will fail. -/
def unreliable (faults : List PlannedFault) : Machine (Scheduler Watchdog.Idle) Faulty :=
  ⟨Driver.new (.new ⟨⟩), ⟨Memory.new none, [], faults⟩, ⟨.zero, .zero, .zero⟩⟩

def impatient : Config := { Config.standard with pollTimeout := .ofMicros 1 }

/-- A request with two transfers is submitted, and the engine takes a step. -/
def firstOfTwo : List (Move (Scheduler Watchdog.Idle)) :=
  [.meanwhile (fun d => (Driver.openUp d).2) ⟨.zero, .zero, .zero⟩,
    .meanwhile (fun d => ((do
      let key ← Driver.addHardware (.ofPlan
        ⟨1, .explicit [⟨.instruction, 0, 64⟩, ⟨.instruction, 64, 64⟩]⟩ [] default)
      Driver.submitHardware key : Act _ Unit) d).2) ⟨.zero, .zero, .zero⟩,
    .step]

/-- The write of an address fails, and the next step goes well. -/
theorem fault_before_the_count : ∃ e m s,
    start impatient (unreliable [⟨.write, Offset.descriptorAddress, 1, default⟩]) = (.ok e, m) ∧
      run firstOfTwo ⟨e, m⟩ = s ∧ Faulty.gauge.refusals s.world.registers = 1 ∧
      s.engine.issued = Faulty.gauge.holds s.world.registers Offset.completedCount ∧
      (step s).1 = .ok (.dispatched ⟨0, 1, ⟨.instruction, 64, 64⟩⟩) := by
  have seen : (match start impatient
      (unreliable [⟨.write, Offset.descriptorAddress, 1, default⟩]) with
    | (.ok e, m) =>
      let s := run firstOfTwo ⟨e, m⟩
      decide (cuts firstOfTwo ⟨e, m⟩ = 0 ∧ Faulty.gauge.refusals s.world.registers = 1 ∧
        Faulty.gauge.refusals (step s).2.world.registers = 1 ∧ s.engine.isStalled = false ∧
        Clock.reaches s.world.tempo.now s.engine.config.pollTimeout = true ∧
        s.engine.stats = ⟨0, 0, 0⟩ ∧
        (Feed.next s.world).1 = .ok (some ⟨0, 1, ⟨.instruction, 64, 64⟩⟩) ∧
        (Feed.complete ⟨0, 1, ⟨.instruction, 64, 64⟩⟩ (Feed.next s.world).2.driver).1 = .ok ())
    | _ => false) = true := by
    decide +kernel
  rcases hm : start impatient
    (unreliable [⟨.write, Offset.descriptorAddress, 1, default⟩]) with ⟨fault | e, m⟩
  · rw [hm] at seen
    cases seen
  · rw [hm] at seen
    obtain ⟨uncut, once, still, running, time, fresh, next, reported⟩ := of_decide_eq_true seen
    have sane : Faulty.gauge.sane (unreliable
        [⟨.write, Offset.descriptorAddress, 1, default⟩]).registers :=
      ⟨rfl, by simp [Memory.Whole, unreliable, Memory.new]⟩
    obtain ⟨lead, carried⟩ := ahead_by_the_cuts Faulty.lapses sane hm rfl
    rw [uncut] at lead
    have agreed := lead.trans (UInt64.add_zero _)
    have room : Countable [⟨.instruction, 64, 64⟩] 0 (run firstOfTwo ⟨e, m⟩).engine := by
      constructor <;> rw [fresh] <;> decide
    have done := (carried _ _ running (Prod.ext next rfl) rfl time room
      (still.trans once.symm)).agreed agreed
    exact ⟨e, m, _, rfl, rfl, once, agreed, by rw [done.1, reported]; rfl⟩

/-- The second write to the doorbell, the first one of a step, fails. From then on the engine is one
ahead of the registers, and a step in which every access succeeds waits in vain. -/
theorem fault_after_the_count : ∃ e m,
    start impatient (unreliable [⟨.write, Offset.doorbell, 2, default⟩]) = (.ok e, m) ∧
      let s := run firstOfTwo ⟨e, m⟩
      s.engine.issued ≠ Faulty.gauge.holds s.world.registers Offset.completedCount ∧
        Faulty.gauge.refusals (step s).2.world.registers =
          Faulty.gauge.refusals s.world.registers ∧
        (Feed.next s.world).1 = .ok (some ⟨0, 1, ⟨.instruction, 64, 64⟩⟩) ∧
        (step s).1 = .error (.refusal (.registerPollTimedOut Offset.completedCount 1 2
          (.ofMicros 1))) := by
  have seen : (match start impatient (unreliable [⟨.write, Offset.doorbell, 2, default⟩]) with
    | (.ok e, m) =>
      let s := run firstOfTwo ⟨e, m⟩
      decide (s.engine.issued ≠ Faulty.gauge.holds s.world.registers Offset.completedCount ∧
        Faulty.gauge.refusals (step s).2.world.registers =
          Faulty.gauge.refusals s.world.registers ∧
        (Feed.next s.world).1 = .ok (some ⟨0, 1, ⟨.instruction, 64, 64⟩⟩) ∧
        (step s).1 = .error (.refusal (.registerPollTimedOut Offset.completedCount 1 2
          (.ofMicros 1))))
    | _ => false) = true := by
    decide +kernel
  rcases hm : start impatient (unreliable [⟨.write, Offset.doorbell, 2, default⟩]) with
    ⟨fault | e, m⟩
  · rw [hm] at seen
    cases seen
  · rw [hm] at seen
    exact ⟨e, m, rfl, of_decide_eq_true seen⟩

end Runs

end Engine

end TensorQueue
