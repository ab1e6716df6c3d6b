import TensorQueue.Word

/-!
# Layers

A layer is a named input or output of a model, with the size of one batch
element as it is and as it is transferred. Transfers are aligned, so the
padded size is by default the actual size rounded up, if a word can hold that.
-/

set_option autoImplicit false

namespace TensorQueue

/-- Every transfer starts and ends on a multiple of this many bytes. -/
def transferAlignment : UInt64 := 64

/-- The size rounded up to whole alignments. A size within one alignment of the top of the word has
none above it there. -/
def alignTransfer (size : UInt64) : Except Abort UInt64 :=
  let whole := size / transferAlignment
  Word.multiply (if size % transferAlignment = 0 then whole else whole + 1) transferAlignment

structure Layer where
  name : String
  actual : UInt64
  padded : UInt64
  deriving DecidableEq, Repr, Inhabited

namespace Layer

def aligned (name : String) (actual : UInt64) : Except Abort Layer :=
  return ⟨name, actual, ← alignTransfer actual⟩

/-- A layer with a padded size of its own, which is never below the actual size. -/
def withPadding (name : String) (actual padded : UInt64) : Layer :=
  ⟨name, actual, max padded actual⟩

/-- Whether a buffer of this size can hold one batch element. -/
def accepts (l : Layer) (size : UInt64) : Bool := size = l.actual || size = l.padded

end Layer

end TensorQueue
