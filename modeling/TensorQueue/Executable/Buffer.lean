import TensorQueue.Table

/-!
# Buffers

A buffer holds one batch element of one layer. Padding has a size and nothing
behind it; it fills the last hardware batch of a request.
-/

set_option autoImplicit false

namespace TensorQueue

inductive Buffer where
  | padding (size : UInt64)
  | host (address size : UInt64)
  deriving DecidableEq, Repr, Inhabited

namespace Buffer

def size : Buffer → UInt64
  | .padding size => size
  | .host _ size => size

/-- The bytes that a buffer takes in a list of buffers, whatever is behind it. -/
def width : Nat := 40

/-- Where the transfer starts; zero for padding. -/
def address : Buffer → UInt64
  | .padding _ => 0
  | .host address _ => address

def isPadding : Buffer → Bool
  | .padding _ => true
  | .host _ _ => false

end Buffer

/-- Buffers by layer name. Those of one layer are kept with the latest first. -/
abbrev LayerBuffers := Table String (List Buffer)

namespace LayerBuffers

/-- The buffers of a layer as they came; none if the layer has not come yet. -/
def of (buffers : LayerBuffers) (name : String) : List Buffer :=
  ((buffers.get? name).getD []).reverse

/-- The buffers of all layers, layer by layer. -/
def all (buffers : LayerBuffers) : List Buffer := buffers.flatMap fun layer => layer.2.reverse

def replace (buffers : LayerBuffers) (name : String) (new : List Buffer) : LayerBuffers :=
  buffers.put name new.reverse

def push (buffers : LayerBuffers) (name : String) (new : Buffer) : LayerBuffers :=
  buffers.put name (new :: (buffers.get? name).getD [])

theorem of_replace (buffers : LayerBuffers) (name other : String) (new : List Buffer) :
    (buffers.replace name new).of other = if name = other then new else buffers.of other := by
  unfold of replace
  rw [Table.get?_put]
  split <;> simp

theorem of_push (buffers : LayerBuffers) (name other : String) (new : Buffer) :
    (buffers.push name new).of other =
      if name = other then buffers.of name ++ [new] else buffers.of other := by
  unfold of push
  rw [Table.get?_put]
  split <;> simp

end LayerBuffers

end TensorQueue
