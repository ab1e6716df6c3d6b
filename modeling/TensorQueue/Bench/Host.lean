import TensorQueue.Executable.Buffer

/-!
# Host memory of the bench

The bench lays its host buffers out in a memory of its own, far from any
address that a session mentions, so that an address can be told to lie in a
buffer. No address lies in data of length zero.
-/

set_option autoImplicit false

namespace TensorQueue.Bench

structure Region where
  name : String
  start : UInt64
  size : UInt64
  deriving DecidableEq, Repr, Inhabited

structure Host where
  regions : List Region
  /-- Where the next buffer is laid out. -/
  free : UInt64
  /-- How many buffers have been made. -/
  made : Nat
  deriving DecidableEq, Repr, Inhabited

/-- A buffer of the bench: padding, new data of a size, or a part of named data. -/
inductive BufferSpec where
  | padding (size : UInt64)
  | fresh (size : UInt64)
  | slice (name : String) (offset : UInt64) (length : Option UInt64)
  deriving DecidableEq, Repr, Inhabited

def BufferSpec.newBytes : BufferSpec → Nat
  | .fresh size => size.toNat
  | _ => 0

inductive Spot where
  | number (address : UInt64)
  | inside (name : String) (offset : UInt64)
  | nowhere
  deriving DecidableEq, Repr, Inhabited

namespace Host

/-- The length of a stretch of memory, of which a bench takes one. -/
def stretch : UInt64 := 0x40000000000

/-- The lowest address at which a stretch may begin. -/
def lowest : UInt64 := 0x700000000000

/-- Whether none of these addresses lies in the stretch that begins here. -/
def isFree (mentioned : List UInt64) (start : UInt64) : Bool :=
  mentioned.all fun address => !(start ≤ address && address - start < stretch)

/-- The first stretch in which no address lies. Each address spoils one stretch, so there is one
among the first ones, by one more than there are addresses. -/
def freeStretch (mentioned : List UInt64) : UInt64 :=
  let starts := (List.range (mentioned.length + 1)).map fun n => lowest + n.toUInt64 * stretch
  (starts.find? (isFree mentioned)).getD lowest

/-- Buffers begin in the middle of a free stretch, so that nothing counted from an address that is
mentioned comes near them. -/
def new (mentioned : List UInt64) : Host := ⟨[], freeStretch mentioned + stretch / 2, 0⟩

/-- The least distance between two buffers. -/
def gap : UInt64 := 4096

/-- New data. It takes a name and a number also if it is empty. -/
def allocate (name : String) (size : UInt64) (h : Host) : Host :=
  { regions := ⟨name, h.free, size⟩ :: h.regions
    free := h.free + (size / gap + 2) * gap
    made := h.made + 1 }

def region? (h : Host) (name : String) : Option Region := h.regions.find? (·.name = name)

def freshName (h : Host) : String := s!"#{h.made}"

/-- The buffer that is asked for, if the data it is a part of is there. -/
def buffer (spec : BufferSpec) (h : Host) : Option (Buffer × Host) :=
  match spec with
  | .padding size => some (.padding size, h)
  | .fresh size => some (.host h.free size, h.allocate h.freshName size)
  | .slice name offset length =>
    match h.region? name with
    | none => none
    | some r =>
      let size := length.getD (r.size - offset)
      if r.size < offset ∨ r.size - offset < size then none
      else some (.host (r.start + offset) size, h)

/-- The buffers that are asked for, made one after the other: one may be a part of the data that
is new in another before it. -/
def buffers : List BufferSpec → Host → Option (List Buffer × Host)
  | [], h => some ([], h)
  | spec :: rest, h => do
    let (b, h) ← h.buffer spec
    let (more, h) ← buffers rest h
    return (b :: more, h)

/-- Where an address lies. The end of a buffer counts as part of it, for a slice of length zero may
stand there. -/
def locate (h : Host) (address : UInt64) : Spot :=
  match h.regions.find? fun r => r.start ≤ address && address - r.start ≤ r.size with
  | some r => if r.size = 0 then .nowhere else .inside r.name (address - r.start)
  | none => .number address

/-- Transfers of nothing are not told apart by where they would go, unless that is a small
address. -/
def locateTransfer (h : Host) (address size : UInt64) : Spot :=
  if size = 0 ∧ 0x100000 < address then .nowhere else h.locate address

end Host

end TensorQueue.Bench
