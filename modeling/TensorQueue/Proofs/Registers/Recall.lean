import TensorQueue.Registers.Memory

/-!
# What registers in memory recall

However accesses follow each other, a register holds what was last written to it
with success, and zero if there is no such write. An access that does not
succeed leaves the file as it was. It succeeds just if the register is eight
bytes on a multiple of eight and its end lies within the size of the file, and
is refused otherwise. There is one exception to the refusal: a file with a size
computes the end in a word, which cannot hold that of the last register of all,
and an access to it is aborted.
-/

set_option autoImplicit false

namespace TensorQueue.Registers

inductive Access where
  | read (offset : UInt64)
  | write (offset value : UInt64)
  deriving DecidableEq

namespace Access

def offset : Access → UInt64
  | .read offset => offset
  | .write offset _ => offset

/-- One access. Only a reading has a value for an answer. -/
def perform {R : Type} [RegisterFile R] : Access → Act R (Option UInt64)
  | .read offset => do return some (← RegisterFile.read offset)
  | .write offset value => do RegisterFile.write offset value; return none

end Access

/-- An access and how it ended. -/
structure Dealing where
  access : Access
  outcome : Except Fault (Option UInt64)

/-- What the register was given in it, if it was written to with success. -/
def Dealing.given? (offset : UInt64) (d : Dealing) : Option UInt64 :=
  match d.access with
  | .read _ => none
  | .write a value => if a = offset ∧ d.outcome.isOk = true then some value else none

/-- The value of the latest successful write to the register. -/
def latest (offset : UInt64) (dealings : List Dealing) : UInt64 :=
  (dealings.filterMap (Dealing.given? offset)).getLastD 0

/-- The register is eight bytes on a multiple of eight, and within the size if there is one. -/
def Inside (size : Option UInt64) (offset : UInt64) : Prop :=
  8 ∣ offset.toNat ∧ ∀ s ∈ size, offset.toNat + 8 ≤ s.toNat

/-- The last register that a word can address. -/
def lastRegister : UInt64 := 0xfffffffffffffff8

namespace Memory

variable {m : Memory} {a : UInt64}

def after (m : Memory) (access : Access) : Memory := (access.perform m).2

def run (accesses : List Access) (m : Memory) : Memory := accesses.foldl after m

def dealings : List Access → Memory → List Dealing
  | [], _ => []
  | access :: rest, m => ⟨access, (access.perform m).1⟩ :: dealings rest (m.after access)

section Checks

theorem aligned_iff : a % 8 = 0 ↔ 8 ∣ a.toNat := by
  rw [← UInt64.toNat_inj, UInt64.toNat_mod]
  exact Nat.dvd_iff_mod_eq_zero.symm

theorem check_of_misaligned (ha : ¬8 ∣ a.toNat) :
    m.check a = .error (.refusal (.misalignedRegister a)) :=
  if_pos fun h => ha (aligned_iff.1 h)

theorem check_of_unbounded (ha : 8 ∣ a.toNat) (hs : m.size = none) : m.check a = .ok () := by
  simp [check, aligned_iff.2 ha, hs]

theorem check_of_fits (ha : 8 ∣ a.toNat) {s : UInt64} (hs : m.size = some s)
    (h : a.toNat + (8 : UInt64).toNat < UInt64.size) : m.check a =
      if s.toNat < a.toNat + 8 then .error (.refusal (.registerOutOfBounds a s)) else .ok () := by
  have past : (a + 8).toNat = a.toNat + 8 := Word.toNat_of_add (Word.add_of_lt h)
  simp [check, aligned_iff.2 ha, hs, Word.add_of_lt h, UInt64.lt_iff_toNat_lt, past]

theorem check_of_last (ha : 8 ∣ a.toNat) {s : UInt64} (hs : m.size = some s)
    (h : UInt64.size ≤ a.toNat + (8 : UInt64).toNat) :
    m.check a = .error (.abort .addOverflow) := by
  simp [check, aligned_iff.2 ha, hs, Word.add_of_le h]

/-- Short of the last register, the end of a register does not leave the word. -/
theorem end_fits (ha : 8 ∣ a.toNat) (hl : a ≠ lastRegister) :
    a.toNat + (8 : UInt64).toNat < UInt64.size := by
  have apart : a.toNat ≠ lastRegister.toNat := fun h => hl (UInt64.toNat_inj.1 h)
  have bound : a.toNat < UInt64.size := a.toNat_lt
  have eight : (8 : UInt64).toNat = 8 := rfl
  have size : UInt64.size = 8 * 2305843009213693952 := rfl
  simp only [lastRegister, UInt64.reduceToNat] at apart
  omega

theorem check_eq_ok_iff : m.check a = .ok () ↔ Inside m.size a := by
  by_cases ha : 8 ∣ a.toNat
  · cases hs : m.size with
    | none => exact iff_of_true (check_of_unbounded ha hs) ⟨ha, nofun⟩
    | some s =>
      have inside : Inside (some s) a ↔ a.toNat + 8 ≤ s.toNat := by
        simp [Inside, ha]
      rw [inside]
      by_cases fits : a.toNat + (8 : UInt64).toNat < UInt64.size
      · rw [check_of_fits ha hs fits]
        split <;> simp <;> omega
      · have bound : s.toNat < UInt64.size := s.toNat_lt
        rw [check_of_last ha hs (Nat.le_of_not_lt fits)]
        exact iff_of_false nofun fun h => fits (Nat.lt_of_le_of_lt h bound)
  · rw [check_of_misaligned ha]
    exact iff_of_false nofun fun inside => ha inside.1

/-- Whatever does not lie in the file is refused, unless its end leaves the word. -/
theorem refused_of_check {fault : Fault} (h : m.check a = .error fault)
    (hl : m.size.isSome = true → a ≠ lastRegister) :
    ∃ cause, fault = .refusal cause ∧ cause.kind = .invalidArgument := by
  by_cases ha : 8 ∣ a.toNat
  · cases hs : m.size with
    | none =>
      rw [check_of_unbounded ha hs] at h
      cases h
    | some s =>
      rw [check_of_fits ha hs (end_fits ha (hl (by rw [hs]; rfl)))] at h
      split at h
      · cases h
        exact ⟨_, rfl, rfl⟩
      · cases h
  · rw [check_of_misaligned ha] at h
    cases h
    exact ⟨_, rfl, rfl⟩

end Checks

section Accesses

variable {access : Access}

theorem value_put (m : Memory) (a v other : UInt64) :
    (m.put a v).value other = if a = other then v else m.value other := by
  rw [value, put, Table.get?_put]
  split
  · rfl
  · rfl

theorem perform_read (h : m.check a = .ok ()) :
    (Access.read a).perform m = (.ok (some (m.value a)), m) := by
  refine Act.bind_of_ok (a := m.value a) ?_
  simp [RegisterFile.read, read, h, bind, Except.bind]

theorem perform_write (h : m.check a = .ok ()) (v : UInt64) :
    (Access.write a v).perform m = (.ok none, m.put a v) := by
  refine Act.bind_of_ok (a := ()) ?_
  simp [RegisterFile.write, Act.bind_apply, h]

theorem perform_of_error {fault : Fault} (h : m.check access.offset = .error fault) :
    access.perform m = (.error fault, m) := by
  cases access with
  | read a =>
    have failed : m.check a = .error fault := h
    refine Act.bind_of_error ?_
    simp [RegisterFile.read, read, failed, bind, Except.bind]
  | write a v =>
    have failed : m.check a = .error fault := h
    refine Act.bind_of_error ?_
    simp [RegisterFile.write, Act.bind_apply, failed]

/-- All that an access can do. -/
theorem perform_cases (m : Memory) (access : Access) :
    (∃ a, access = .read a ∧ m.check a = .ok () ∧
      access.perform m = (.ok (some (m.value a)), m)) ∨
    (∃ a v, access = .write a v ∧ m.check a = .ok () ∧
      access.perform m = (.ok none, m.put a v)) ∨
    ∃ fault, m.check access.offset = .error fault ∧ access.perform m = (.error fault, m) := by
  cases h : m.check access.offset with
  | ok u =>
    cases access with
    | read a => exact .inl ⟨a, rfl, h, perform_read h⟩
    | write a v => exact .inr (.inl ⟨a, v, rfl, h, perform_write h v⟩)
  | error fault => exact .inr (.inr ⟨fault, rfl, perform_of_error h⟩)

theorem isOk_perform : (access.perform m).1.isOk = true ↔ m.check access.offset = .ok () := by
  rcases perform_cases m access with ⟨a, rfl, h, done⟩ | ⟨a, v, rfl, h, done⟩ | ⟨fault, h, done⟩
  · simp [done, Except.isOk, Except.toBool, Access.offset, h]
  · simp [done, Except.isOk, Except.toBool, Access.offset, h]
  · simp [done, Except.isOk, Except.toBool, h]

theorem size_after (m : Memory) (access : Access) : (m.after access).size = m.size := by
  rcases perform_cases m access with ⟨a, -, -, done⟩ | ⟨a, v, -, -, done⟩ | ⟨fault, -, done⟩
  · rw [after, done]
  · rw [after, done, put]
  · rw [after, done]

/-- What an access makes of a register. -/
theorem value_after (m : Memory) (access : Access) : (m.after access).value a =
    (Dealing.given? a ⟨access, (access.perform m).1⟩).getD (m.value a) := by
  rcases perform_cases m access with ⟨b, rfl, -, done⟩ | ⟨b, v, rfl, -, done⟩ | ⟨fault, -, done⟩
  · rw [after, done]
    rfl
  · rw [after, done, value_put]
    by_cases hb : b = a <;> simp [Dealing.given?, hb, Except.isOk, Except.toBool]
  · rw [after, done]
    cases access <;> simp [Dealing.given?, Except.isOk, Except.toBool]

/-- A write that succeeds is read there, and nowhere else. -/
theorem read_put {v : UInt64} (h : m.check a = .ok ()) (other : UInt64) :
    ((Access.read other).perform (m.put a v)).1 =
      if other = a then .ok (some v) else ((Access.read other).perform m).1 := by
  have same : (m.put a v).check other = m.check other := rfl
  by_cases ho : other = a
  · subst ho
    rw [if_pos rfl, perform_read (same.trans h), value_put, if_pos rfl]
  · rw [if_neg ho]
    cases hc : m.check other with
    | ok u =>
      rw [perform_read (same.trans hc), perform_read hc, value_put, if_neg (Ne.symm ho)]
    | error fault =>
      have before : m.check (Access.read other).offset = .error fault := hc
      have after : (m.put a v).check (Access.read other).offset = .error fault := same.trans hc
      rw [perform_of_error before, perform_of_error after]

end Accesses

section Runs

theorem size_run (accesses : List Access) (m : Memory) : (run accesses m).size = m.size := by
  induction accesses generalizing m with
  | nil => rfl
  | cons access rest ih => exact (ih _).trans (size_after m access)

theorem value_run (accesses : List Access) (m : Memory) (a : UInt64) :
    (run accesses m).value a =
      ((dealings accesses m).filterMap (Dealing.given? a)).getLastD (m.value a) := by
  induction accesses generalizing m with
  | nil => rfl
  | cons access rest ih =>
    rw [run, List.foldl_cons, ← run, ih, dealings, value_after]
    cases hg : Dealing.given? a ⟨access, (access.perform m).1⟩ with
    | none => rw [List.filterMap_cons_none hg, Option.getD_none]
    | some v => rw [List.filterMap_cons_some hg, Option.getD_some, List.getLastD_cons]

theorem value_run_new (size : Option UInt64) (accesses : List Access) (a : UInt64) :
    (run accesses (.new size)).value a = latest a (dealings accesses (.new size)) :=
  value_run accesses (.new size) a

/-- Whatever was read and written before, with or without success, an access succeeds just if its
register lies inside the file. If it does not succeed, the file stays as it was, and its argument
was invalid unless the file is bounded and the register is the last of all. If it does, it reads
what was last written there with success, or what it writes is read there from then on, and all else
is read as before. -/
theorem file_recalls (size : Option UInt64) (accesses : List Access) (access : Access) :
    let m := run accesses (.new size)
    let out := access.perform m
    (out.1.isOk = true ↔ Inside size access.offset) ∧
    (∀ fault, out.1 = .error fault → out.2 = m ∧
      ((size.isSome = true → access.offset ≠ lastRegister) →
        ∃ cause, fault = .refusal cause ∧ cause.kind = .invalidArgument)) ∧
    (∀ a answer, access = .read a → out.1 = .ok answer →
      answer = some (latest a (dealings accesses (.new size))) ∧ out.2 = m) ∧
    (∀ a v answer, access = .write a v → out.1 = .ok answer → ∀ other,
      (Access.perform (.read other) out.2).1 =
        if other = a then .ok (some v) else (Access.perform (.read other) m).1) := by
  intro m out
  have bounds : m.size = size := size_run accesses (.new size)
  refine ⟨?_, fun fault failed => ?_, ?_, ?_⟩
  · rw [isOk_perform, ← bounds]
    exact check_eq_ok_iff
  · rcases perform_cases m access with ⟨a, -, -, done⟩ | ⟨a, v, -, -, done⟩ | ⟨fault, h, done⟩
    · cases (congrArg Prod.fst done).symm.trans failed
    · cases (congrArg Prod.fst done).symm.trans failed
    · cases (congrArg Prod.fst done).symm.trans failed
      exact ⟨congrArg Prod.snd done, fun inner => refused_of_check h (by rwa [bounds])⟩
  · rintro a answer rfl succeeded
    have ok : m.check a = .ok () := isOk_perform.1 (by rw [succeeded]; rfl)
    have done : out = _ := perform_read ok
    rw [done] at succeeded ⊢
    cases succeeded
    rw [← value_run_new]
    exact ⟨rfl, rfl⟩
  · rintro a v answer rfl succeeded other
    have ok : m.check a = .ok () := isOk_perform.1 (by rw [succeeded]; rfl)
    have done : out = _ := perform_write ok v
    rw [done]
    exact read_put ok other

section Window

/-- Writes to the last of eight registers, and some that are refused. -/
def window : List Access :=
  [.write 0x38 5, .write 0x40 6, .read 0x38, .write 0x38 7, .write 0x3c 8]

theorem window_recalls :
    let m := run window (.new (some 0x40))
    Inside (some 0x40) 0x38 ∧ latest 0x38 (dealings window (.new (some 0x40))) = 7 ∧
      ¬ Inside (some 0x40) 0x40 ∧ ((Access.write 0x40 6).perform m).2 = m ∧
      ((Access.read 0x38).perform ((Access.write 0x30 9).perform m).2).1 = .ok (some 7) := by
  have last : ((Access.read 0x38).perform (run window (.new (some 0x40)))).1 = .ok (some 7) :=
    rfl
  have beyond : ((Access.write 0x40 6).perform (run window (.new (some 0x40)))).1 =
      .error (.refusal (.registerOutOfBounds 0x40 0x40)) := rfl
  have before : ((Access.write 0x30 9).perform (run window (.new (some 0x40)))).1 = .ok none :=
    rfl
  obtain ⟨inside, -, read, -⟩ := file_recalls (some 0x40) window (.read 0x38)
  obtain ⟨outside, refused, -, -⟩ := file_recalls (some 0x40) window (.write 0x40 6)
  obtain ⟨-, -, -, written⟩ := file_recalls (some 0x40) window (.write 0x30 9)
  refine ⟨inside.1 (by rw [last]; rfl), ?_, fun h => ?_, (refused _ beyond).1, ?_⟩
  · exact (Option.some.inj (read _ _ rfl last).1).symm
  · have succeeds := outside.2 h
    rw [beyond] at succeeds
    cases succeeds
  · rw [written _ _ _ rfl before, if_neg (by decide)]
    exact last

/-- The last register of all lies in no file that has a size, yet an access to it is not refused. -/
theorem last_register_in_small_file :
    ¬ Inside (some 0x40) lastRegister ∧
      ((Access.read lastRegister).perform (Memory.new (some 0x40))).1 =
        .error (.abort .addOverflow) := by
  refine ⟨fun inside => ?_, rfl⟩
  have bound := inside.2 0x40 rfl
  simp [lastRegister] at bound

end Window

end Runs

end Memory

end TensorQueue.Registers
