import Mathlib.Algebra.GroupWithZero.Nat
import TensorQueue.Registers.Memory
import TensorQueue.Proofs.Engine.Feeding

/-!
# An engine on registers that remember

A register file remembers if a register holds what was written to it last. The
works are such a register file, with the clock of its system and a list of all
that is written to it, next to a scheduler. Of the registers two things matter:
the count of retired descriptors, and the writes that submit a descriptor.
Whatever else the engine reads and writes on its way changes neither. Of the
clock it matters that it can tell how long the engine is to wait, whenever it is
looked at.
-/

set_option autoImplicit false

namespace TensorQueue

namespace Registers

/-- The registers that a descriptor is submitted by. -/
def Offset.submission : List UInt64 :=
  [Offset.descriptorAddress, Offset.descriptorSize, Offset.descriptorTag, Offset.doorbell]

/-- In these states a register of the map has this value, until it is written to. -/
structure Remembers {R : Type} [RegisterFile R] (good : R → Prop) (value : R → UInt64 → UInt64) :
    Prop where
  read : ∀ r, good r → ∀ a ∈ Offset.all, RegisterFile.read a r = (.ok (value r a), r)
  write : ∀ r, good r → ∀ a ∈ Offset.all, ∀ v, ∃ s, RegisterFile.write a v r = (.ok (), s) ∧
    good s ∧ ∀ b ∈ Offset.all, value s b = if b = a then v else value r b

/-- The memory has room for the whole map. -/
def Memory.Whole (m : Memory) : Prop := ∀ size ∈ m.size, 0x110 ≤ size

theorem Memory.Whole.check_of_mem {m : Memory} (hm : m.Whole) {a : UInt64} (ha : a ∈ Offset.all) :
    m.check a = .ok () := by
  -- A test on the list: a quantifier over addresses could be decided by going through all of them.
  have aligned : Offset.all.all (fun a => a % 8 == 0 && a + 8 ≤ 0x110) = true := by decide
  obtain ⟨multiple, bound⟩ : a % 8 = 0 ∧ a + 8 ≤ 0x110 := by
    simpa using List.all_eq_true.1 aligned a ha
  unfold Memory.check
  rw [if_neg (by simp [multiple])]
  cases hs : m.size with
  | none => rfl
  | some size =>
    have large := UInt64.le_trans bound (hm size hs)
    have small : Offset.all.all (fun a => a.toNat + 8 < UInt64.size) = true := by decide
    have past : Word.add a 8 = .ok (a + 8) :=
      Word.add_of_lt (by simpa using List.all_eq_true.1 small a ha)
    simp [past, UInt64.not_lt.2 large]

theorem Memory.remembers : Remembers Memory.Whole Memory.value := by
  constructor
  case read =>
    intro m hm a ha
    simp [RegisterFile.read, Memory.read, hm.check_of_mem ha, bind, Except.bind]
  case write =>
    intro m hm a ha v
    refine ⟨m.put a v, ?_, hm, fun b _ => ?_⟩
    · simp [RegisterFile.write, Act.bind_apply, hm.check_of_mem ha]
    · simp only [Memory.value, Memory.put, Table.get?_put, eq_comm (a := b)]
      split <;> rfl

/-- Registers in a system that is found like this whenever its clock is looked at. -/
structure Sited (R : Type) where
  registers : R
  tempo : Tempo

namespace Sited

variable {R : Type}

def onRegisters {α : Type} (act : Act R α) : Act (Sited R) α :=
  Act.within Sited.registers (fun s r => { s with registers := r }) act

instance [RegisterFile R] : RegisterFile (Sited R) where
  read offset := onRegisters (RegisterFile.read offset)
  write offset value := onRegisters (RegisterFile.write offset value)

instance : SystemClock (Sited R) where
  now s := s.tempo.now
  looks timeout s := s.tempo.pauses timeout

theorem remembers [RegisterFile R] {good : R → Prop} {value : R → UInt64 → UInt64} (tempo : Tempo)
    (h : Remembers good value) : Remembers (fun s : Sited R => good s.registers ∧ s.tempo = tempo)
      fun s => value s.registers := by
  constructor
  case read =>
    intro s hs a ha
    show onRegisters (RegisterFile.read a) s = _
    rw [onRegisters, Act.within, h.read s.registers hs.1 a ha]
  case write =>
    intro s hs a ha v
    obtain ⟨r, written, good, values⟩ := h.write s.registers hs.1 a ha v
    refine ⟨{ s with registers := r }, ?_, ⟨good, hs.2⟩, values⟩
    show onRegisters (RegisterFile.write a v) s = _
    rw [onRegisters, Act.within, written]

end Sited

end Registers

open Registers

/-- A scheduler and registers, and all writes to these, in order. -/
structure Works (W R : Type) where
  chronicle : Chronicle W
  registers : R
  writes : List (UInt64 × UInt64)

namespace Works

variable {W R : Type}

def onRegisters {α : Type} (act : Act R α) : Act (Works W R) α :=
  Act.within Works.registers (fun w r => { w with registers := r }) act

def onChronicle {α : Type} (act : Act (Chronicle W) α) : Act (Works W R) α :=
  Act.within Works.chronicle (fun w c => { w with chronicle := c }) act

instance [RegisterFile R] : RegisterFile (Works W R) where
  read offset := onRegisters (RegisterFile.read offset)
  write offset value := do
    onRegisters (RegisterFile.write offset value)
    Act.modify fun w => { w with writes := w.writes ++ [(offset, value)] }

instance [SystemClock R] : SystemClock (Works W R) where
  now w := SystemClock.now w.registers
  looks timeout w := SystemClock.looks timeout w.registers

instance [Watchdog W] : Feed (Works W R) where
  next := onChronicle Feed.next
  peek := onChronicle Feed.peek
  complete h := onChronicle (Feed.complete h)
  finishRequest := onChronicle Feed.finishRequest
  effort w := Feed.effort w.chronicle

/-- The writes to the registers that a descriptor is submitted by. -/
def submissions (w : Works W R) : List (UInt64 × UInt64) :=
  w.writes.filter fun x => x.1 ∈ Offset.submission

end Works

/-- The writes that submit these descriptors, after so many others. -/
def Engine.stream (issued : UInt64) : List Descriptor → List (UInt64 × UInt64)
  | [] => []
  | d :: rest => [(Offset.descriptorAddress, d.address), (Offset.descriptorSize, d.size),
      (Offset.descriptorTag, d.kind.tag), (Offset.doorbell, issued + 1)] ++ stream (issued + 1) rest

/-- The engine once it has issued these descriptors and reported so many requests. -/
def Engine.advanced (ds : List Descriptor) (requests : Nat) (e : Engine) : Engine :=
  { e with
    issued := e.issued + UInt64.ofNat ds.length
    stats := ⟨e.stats.descriptors + UInt64.ofNat ds.length,
      e.stats.bytes + UInt64.ofNat (ds.map fun d => d.size.toNat).sum,
      e.stats.requests + UInt64.ofNat requests⟩ }

/-- There is room in the statistics for these descriptors and so many requests. -/
structure Engine.Countable (ds : List Descriptor) (requests : Nat) (e : Engine) : Prop where
  descriptors : e.stats.descriptors.toNat + ds.length < UInt64.size
  bytes : e.stats.bytes.toNat + (ds.map fun d => d.size.toNat).sum < UInt64.size
  requests : e.stats.requests.toNat + requests < UInt64.size

namespace Engine

theorem toNat_add_ofNat {a : UInt64} {n : Nat} (h : a.toNat + n < UInt64.size) :
    (a + UInt64.ofNat n).toNat = a.toNat + n := by
  have small : n < UInt64.size := Nat.lt_of_le_of_lt (Nat.le_add_left n _) h
  rw [UInt64.toNat_add, UInt64.toNat_ofNat_of_lt' small]
  exact Nat.mod_eq_of_lt h

section Room

variable {ds es : List Descriptor} {n m : Nat} {e : Engine}

theorem Countable.front (h : e.Countable (ds ++ es) (n + m)) : e.Countable ds n := by
  obtain ⟨descriptors, bytes, requests⟩ := h
  rw [List.length_append] at descriptors
  rw [List.map_append, List.sum_append] at bytes
  constructor <;> omega

/-- What is counted leaves room for the rest. -/
theorem Countable.advanced (h : e.Countable (ds ++ es) (n + m)) :
    (e.advanced ds n).Countable es m := by
  obtain ⟨front, middle, last⟩ := h.front
  obtain ⟨descriptors, bytes, requests⟩ := h
  rw [List.length_append] at descriptors
  rw [List.map_append, List.sum_append] at bytes
  constructor
  · show (e.stats.descriptors + _).toNat + _ < _
    rw [toNat_add_ofNat front]
    omega
  · show (e.stats.bytes + _).toNat + _ < _
    rw [toNat_add_ofNat middle]
    omega
  · show (e.stats.requests + _).toNat + _ < _
    rw [toNat_add_ofNat last]
    omega

theorem Countable.countRequest (h : e.Countable ds (n + 1)) :
    e.stats.countRequest = .ok { e.stats with requests := e.stats.requests + 1 } := by
  have room : e.stats.requests.toNat + (1 : UInt64).toNat < UInt64.size :=
    Nat.lt_of_le_of_lt (Nat.add_le_add_left (Nat.le_add_left 1 n) _) h.requests
  rw [Stats.countRequest, Word.add_of_lt room]
  rfl

variable {σ : Type} {s : Attached σ}

theorem count_of_ok {f : Stats → Except Abort Stats} {stats : Stats}
    (h : f s.engine.stats = .ok stats) :
    count f s = (.ok (), { s with engine := { s.engine with stats := stats } }) := by
  rw [count, h]

/-- The descriptor enters the statistics. -/
def tally (d : Descriptor) : Act (Attached σ) Unit := do
  count Stats.countDescriptor
  count (Stats.addBytes d.size)

theorem tally_of_countable {d : Descriptor} (h : s.engine.Countable [d] n) : tally d s =
    (.ok (), { s with engine := { s.engine.advanced [d] 0 with issued := s.engine.issued } }) := by
  have descriptors : s.engine.stats.countDescriptor =
      .ok { s.engine.stats with descriptors := s.engine.stats.descriptors + 1 } := by
    rw [Stats.countDescriptor, Word.add_of_lt h.descriptors]
    rfl
  have room : s.engine.stats.bytes.toNat + d.size.toNat < UInt64.size := by
    simpa using h.bytes
  rw [tally, Act.bind_of_ok (count_of_ok descriptors), count, Stats.addBytes, Word.add_of_lt room]
  simp [Engine.advanced, bind, Except.bind, pure, Except.pure]

end Room

theorem stream_append (issued : UInt64) (ds es : List Descriptor) :
    stream issued (ds ++ es) = stream issued ds ++ stream (issued + UInt64.ofNat ds.length) es := by
  induction ds generalizing issued with
  | nil => simp [stream]
  | cons d ds ih =>
    rw [List.cons_append, stream, ih, stream, List.append_assoc, List.length_cons,
      UInt64.add_assoc, Nat.add_comm, UInt64.ofNat_add]
    rfl

theorem advanced_advanced (ds es : List Descriptor) (n m : Nat) (e : Engine) :
    (e.advanced ds n).advanced es m = e.advanced (ds ++ es) (n + m) := by
  simp [advanced, UInt64.ofNat_add, UInt64.add_assoc]

end Engine

/-- The action ends with a value. -/
abbrev Act.Succeeds {σ α : Type} (before : σ → Prop) (act : Act σ α) (after : α → σ → Prop) :
    Prop :=
  Act.Meets before act after (fun _ => False) fun _ => False

theorem Act.Ends.exists_value {σ α : Type} {after : α → σ → Prop} {out : Except Fault α × σ}
    (h : Act.Ends after (fun _ => False) (fun _ => False) out) :
    ∃ a t, out = (.ok a, t) ∧ after a t := by
  rcases out with ⟨fault | a, t⟩
  · cases fault <;> exact h.elim
  · exact ⟨a, t, rfl, h⟩

namespace Works

variable {W R : Type} {good : R → Prop} {value : R → UInt64 → UInt64} {c : Chronicle W}
  {retired : UInt64} {stream : List (UInt64 × UInt64)} {e : Engine}

/-- The works are in order: this is their chronicle, so many descriptors count as retired, and
these writes have submitted some. -/
structure Found (good : R → Prop) (value : R → UInt64 → UInt64) (c : Chronicle W) (retired : UInt64)
    (stream : List (UInt64 × UInt64)) (w : Works W R) : Prop where
  good : good w.registers
  chronicle : w.chronicle = c
  retired : value w.registers Offset.completedCount = retired
  stream : w.submissions = stream

variable [RegisterFile R] (hm : Remembers good value)

section Access

include hm

theorem write_succeeds {a : UInt64} (ha : a ∈ Offset.all) (v : UInt64) :
    Act.Succeeds (Found good value c retired stream) (RegisterFile.write a v) fun _ =>
      Found (W := W) good value c (if Offset.completedCount = a then v else retired)
        (stream ++ if a ∈ Offset.submission then [(a, v)] else []) := by
  intro w hw
  obtain ⟨s, written, hs, values⟩ := hm.write w.registers hw.good a ha v
  have run : (RegisterFile.write a v : Act (Works W R) Unit) w =
      (.ok (), { w with registers := s, writes := w.writes ++ [(a, v)] }) := by
    simp only [RegisterFile.write, onRegisters, Act.bind_apply, Act.within] at written ⊢
    rw [written]
    rfl
  rw [run]
  refine ⟨hs, hw.chronicle, ?_, ?_⟩
  · rw [values _ (by decide), hw.retired]
  · rw [submissions, List.filter_append, ← submissions, hw.stream]
    by_cases hin : a ∈ Offset.submission <;> simp [hin]

/-- A register apart from those that matter. -/
theorem write_aside {a : UInt64} (ha : a ∈ Offset.all) (hc : Offset.completedCount ≠ a)
    (hs : a ∉ Offset.submission) (v : UInt64) : Act.Succeeds (Found good value c retired stream)
      (RegisterFile.write a v) fun _ => Found (W := W) good value c retired stream := by
  refine (write_succeeds hm ha v).weaken (fun _ w hw => ?_) (fun _ => id) fun _ => id
  rwa [if_neg hc, if_neg hs, List.append_nil] at hw

theorem write_submission {a : UInt64} (ha : a ∈ Offset.all) (hc : Offset.completedCount ≠ a)
    (hs : a ∈ Offset.submission) (v : UInt64) : Act.Succeeds (Found good value c retired stream)
      (RegisterFile.write a v) fun _ =>
        Found (W := W) good value c retired (stream ++ [(a, v)]) := by
  refine (write_succeeds hm ha v).weaken (fun _ w hw => ?_) (fun _ => id) fun _ => id
  rwa [if_neg hc, if_pos hs] at hw

theorem read_succeeds {a : UInt64} (ha : a ∈ Offset.all) :
    Act.Succeeds (Found good value c retired stream) (RegisterFile.read a) fun x w =>
      Found (W := W) good value c retired stream w ∧ (a = Offset.completedCount → x = retired) := by
  intro w hw
  have run : (RegisterFile.read a : Act (Works W R) UInt64) w = (.ok (value w.registers a), w) := by
    have found := hm.read w.registers hw.good a ha
    simp only [RegisterFile.read, onRegisters, Act.within] at found ⊢
    rw [found]
  rw [run]
  refine ⟨hw, ?_⟩
  rintro rfl
  exact hw.retired

theorem raise_succeeds (bit : UInt64) : Act.Succeeds (Found good value c retired stream)
    (Engine.raise bit) fun _ => Found (W := W) good value c retired stream := by
  unfold Engine.raise
  refine (read_succeeds hm (by decide)).bind fun status w hw => ?_
  refine (write_aside hm (by decide) (by decide) (by decide) _).bind (fun _ => ?_) w hw.1
  refine (write_aside hm (by decide) (by decide) (by decide) _).bind fun _ => ?_
  exact write_aside hm (by decide) (by decide) (by decide) _

theorem raiseLine_succeeds {kind : Descriptor.Kind} (hk : kind.isValid = true) :
    Act.Succeeds (Found good value c retired stream) (Engine.raiseLine kind) fun _ =>
      Found (W := W) good value c retired stream := by
  cases kind with
  | coreInterrupt line =>
    have exists_line : Interrupt.core? line = some (1 <<< line.toUInt64) :=
      if_pos (by simpa [Descriptor.Kind.isValid] using hk)
    simp only [Engine.raiseLine, exists_line]
    exact raise_succeeds hm _
  | _ => exact Act.Meets.value fun _ h => h

theorem execute_succeeds {kind : Descriptor.Kind} (hk : kind.isValid = true) :
    Act.Succeeds (Found good value c retired stream) (Engine.execute kind) fun _ =>
      Found (W := W) good value c (retired + 1) stream := by
  unfold Engine.execute
  refine (raiseLine_succeeds hm hk).bind fun _ => ?_
  refine (read_succeeds hm (by decide)).bind fun count => ?_
  intro w hw
  rw [hw.2 rfl]
  refine ((write_succeeds hm (by decide) _) w hw.1).weaken (fun _ t ht => ?_) (fun _ => id)
    fun _ => id
  rwa [if_pos rfl, if_neg (by decide), List.append_nil] at ht

/-- The first reading is the one that is waited for. -/
theorem poll_succeeds [SystemClock R] {timeout : Duration}
    (ht : ∀ r, good r → Clock.reaches (SystemClock.now r) timeout = true) :
    Act.Succeeds (Found good value c retired stream)
      (poll Offset.completedCount retired timeout) fun _ =>
        Found (W := W) good value c retired stream := by
  have seen : ∀ next : UInt64 → Act (Works W R) Unit,
      Act.Succeeds (Found good value c retired stream)
        (do
          let x ← RegisterFile.read Offset.completedCount
          if x = retired then return () else next x)
        fun _ => Found good value c retired stream := by
    intro next
    refine (read_succeeds hm (by decide)).bind fun x => ?_
    intro w hw
    rw [if_pos (hw.2 rfl)]
    exact hw.1
  unfold poll
  refine Act.Meets.read fun w hw => ?_
  have told : Clock.reaches (SystemClock.now w) timeout = true := ht w.registers hw.good
  rw [if_pos told]
  cases SystemClock.looks timeout w with
  | zero => exact seen _ w hw
  | succ more => exact seen _ w hw

end Access

section Issue

open Engine

/-- The works are in order, and this is the engine on them. -/
def Manned (good : R → Prop) (value : R → UInt64 → UInt64) (c : Chronicle W) (retired : UInt64)
    (stream : List (UInt64 × UInt64)) (e : Engine) (s : Attached (Works W R)) : Prop :=
  Found good value c retired stream s.world ∧ s.engine = e

omit [RegisterFile R] in
theorem onWorld_succeeds {α : Type} {act : Act (Works W R) α} {after : α → Works W R → Prop}
    (h : Act.Succeeds (Found good value c retired stream) act after) :
    Act.Succeeds (Manned good value c retired stream e) (onWorld act) fun a s =>
      after a s.world ∧ s.engine = e := by
  intro s hs
  refine Act.Ends.within ((h s.world hs.1).weaken ?_ (fun _ => id) fun _ => id)
  exact fun _ _ ht => ⟨ht, hs.2⟩

omit [RegisterFile R] in
theorem update_succeeds (f : Engine → Engine) :
    Act.Succeeds (Manned (W := W) good value c retired stream e) (update f) fun _ =>
      Manned good value c retired stream (f e) :=
  Act.Meets.modify fun _ hs => ⟨hs.1, congrArg f hs.2⟩

omit [RegisterFile R] in
theorem count_succeeds {f : Stats → Except Abort Stats} {stats : Stats} (h : f e.stats = .ok stats) :
    Act.Succeeds (Manned (W := W) good value c retired stream e) (count f) fun _ =>
      Manned good value c retired stream { e with stats := stats } := by
  rintro s ⟨found, rfl⟩
  rw [count_of_ok h]
  exact ⟨found, rfl⟩

omit [RegisterFile R] in
theorem tally_succeeds {d : Descriptor} (hc : e.Countable [d] 0) :
    Act.Succeeds (Manned (W := W) good value c retired stream e) (tally d) fun _ =>
      Manned good value c retired stream { e.advanced [d] 0 with issued := e.issued } := by
  rintro s ⟨found, rfl⟩
  rw [tally_of_countable hc]
  exact ⟨found, rfl⟩

include hm

theorem issue_succeeds [SystemClock R] {d : Descriptor} (hk : d.kind.isValid = true)
    (hp : ∀ r, good r → Clock.reaches (SystemClock.now r) e.config.pollTimeout = true)
    (hr : e.issued = retired) (hc : e.Countable [d] 0) :
    Act.Succeeds (Manned good value c retired stream e) (issue d) fun _ =>
      Manned (W := W) good value c (retired + 1) (stream ++ Engine.stream retired [d])
        (e.advanced [d] 0) := by
  unfold issue
  refine (onWorld_succeeds (write_submission hm (by decide) (by decide) (by decide) _)).bind
    fun _ => ?_
  refine (onWorld_succeeds (write_submission hm (by decide) (by decide) (by decide) _)).bind
    fun _ => ?_
  refine (onWorld_succeeds (write_submission hm (by decide) (by decide) (by decide) _)).bind
    fun _ => ?_
  refine (update_succeeds _).bind fun _ => Act.Meets.read fun s hs => ?_
  rw [hs.2]
  refine (onWorld_succeeds (write_submission hm (by decide) (by decide) (by decide) _)).bind
    (fun _ => ?_) s hs
  refine (onWorld_succeeds (write_aside hm (by decide) (by decide) (by decide) _)).bind fun _ => ?_
  refine (onWorld_succeeds (execute_succeeds hm hk)).bind fun _ => ?_
  rw [hr]
  refine (onWorld_succeeds (poll_succeeds hm hp)).bind fun _ => ?_
  refine (onWorld_succeeds (write_aside hm (by decide) (by decide) (by decide) _)).bind fun _ => ?_
  refine (onWorld_succeeds (write_aside hm (by decide) (by decide) (by decide) _)).bind fun _ => ?_
  have room : Countable [d] 0 { e with issued := retired + 1 } :=
    ⟨hc.descriptors, hc.bytes, hc.requests⟩
  refine (tally_succeeds room).weaken (fun _ t ht => ?_) (fun _ => id) fun _ => id
  simpa [Engine.stream, Engine.advanced, hr] using ht

end Issue

end Works

end TensorQueue
