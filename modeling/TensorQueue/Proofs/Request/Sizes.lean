import Mathlib.Order.Bounds.Basic
import TensorQueue.Proofs.Request.Batches

/-!
# Sizes of buffers

No buffer of a part is smaller than a batch element of its layer. A request takes
a buffer only if it has the actual or the padded size of its layer, what a batch
lacks is made up with padding of the padded size, and the padded size is never
below the actual one. It may be given. Otherwise it is the actual size rounded up,
in a word: for a size above the last whole alignment that a word can hold there is
no layer at all.
-/

set_option autoImplicit false

namespace TensorQueue

/-- The last whole alignment that a word can hold. -/
def largestAligned : UInt64 := 0xffffffffffffffc0

section Alignment

variable {size padded : UInt64}

theorem alignTransfer_eq (size : UInt64) : ∃ whole : UInt64,
    alignTransfer size = Word.multiply whole transferAlignment ∧
      whole.toNat = (size.toNat + 63) / 64 := by
  have bound := size.toNat_lt
  have width : transferAlignment.toNat = 64 := rfl
  have whole : size % transferAlignment = 0 ↔ size.toNat % 64 = 0 := by
    rw [← UInt64.toNat_inj, UInt64.toNat_mod, width, UInt64.toNat_zero]
  refine ⟨_, rfl, ?_⟩
  by_cases h : size.toNat % 64 = 0
  · rw [if_pos (whole.2 h), UInt64.toNat_div, width]
    omega
  · rw [if_neg (mt whole.1 h), UInt64.toNat_add, UInt64.toNat_div, UInt64.toNat_one, width]
    omega

/-- What comes out is the size rounded up to the next whole alignment. -/
theorem isLeast_alignTransfer (h : alignTransfer size = .ok padded) :
    IsLeast {n | 64 ∣ n ∧ size.toNat ≤ n} padded.toNat := by
  obtain ⟨whole, aligned, count⟩ := alignTransfer_eq size
  rw [aligned] at h
  have product : padded.toNat = whole.toNat * 64 := Word.toNat_of_multiply h
  rw [product, count]
  constructor
  · constructor
    · omega
    · omega
  · rintro n ⟨multiple, above⟩
    omega

/-- It comes out up to the last whole alignment. -/
theorem exists_alignTransfer (h : size ≤ largestAligned) : ∃ padded,
    alignTransfer size = .ok padded := by
  obtain ⟨whole, aligned, count⟩ := alignTransfer_eq size
  have bound := UInt64.le_iff_toNat_le.1 h
  simp only [largestAligned, UInt64.reduceToNat] at bound
  refine ⟨_, aligned.trans (Word.multiply_of_lt ?_)⟩
  have width : transferAlignment.toNat = 64 := rfl
  rw [width, count, UInt64.size]
  omega

/-- Above it there is no next one in a word. -/
theorem alignTransfer_of_above (h : largestAligned < size) :
    alignTransfer size = .error .multiplyOverflow := by
  obtain ⟨whole, aligned, count⟩ := alignTransfer_eq size
  have above := UInt64.lt_iff_toNat_lt.1 h
  simp only [largestAligned, UInt64.reduceToNat] at above
  rw [aligned]
  apply Word.multiply_of_le
  have width : transferAlignment.toNat = 64 := rfl
  rw [width, count, UInt64.size]
  omega

end Alignment

namespace Layer

variable {l : Layer} {size : UInt64}

theorem aligned_eq_ok_iff {name : String} {actual : UInt64} : aligned name actual = .ok l ↔
    ∃ padded, alignTransfer actual = .ok padded ∧ l = ⟨name, actual, padded⟩ := by
  unfold aligned
  cases alignTransfer actual with
  | error cause =>
    constructor
    · nofun
    · rintro ⟨-, ⟨⟩, -⟩
  | ok padded =>
    constructor
    · rintro ⟨⟩
      exact ⟨padded, rfl, rfl⟩
    · rintro ⟨_, ⟨⟩, rfl⟩
      rfl

/-- The layer was made with or without a padded size of its own. -/
inductive Made : Layer → Prop
  | aligned {name : String} {actual : UInt64} {l : Layer} :
      Layer.aligned name actual = .ok l → Made l
  | padded (name : String) (actual padded : UInt64) : Made (withPadding name actual padded)

theorem Made.actual_le_padded (h : l.Made) : l.actual ≤ l.padded := by
  cases h with
  | aligned h =>
    obtain ⟨padded, hp, rfl⟩ := aligned_eq_ok_iff.1 h
    exact UInt64.le_iff_toNat_le.2 (isLeast_alignTransfer hp).1.2
  | padded name actual padded =>
    show actual ≤ if padded ≤ actual then actual else padded
    split
    · exact UInt64.le_refl _
    · rename_i above
      exact UInt64.le_of_lt (UInt64.not_le.1 above)

theorem Made.actual_le_of_accepts (h : l.Made) (ha : l.accepts size = true) : l.actual ≤ size := by
  simp only [accepts, Bool.or_eq_true, decide_eq_true_eq] at ha
  rcases ha with rfl | rfl
  · exact UInt64.le_refl _
  · exact h.actual_le_padded

end Layer

namespace Request

variable {r s : Request} {e : Executable} {direction : Direction} {layer : Layer} {name : String}
  {b : Buffer}

/-- Every buffer that is held for a layer can hold a batch element of it. -/
def Covers (r : Request) : Prop :=
  ∀ direction, ∀ layer ∈ r.executable.layers direction,
    ∀ b ∈ (r.buffers direction).of layer.name, layer.actual ≤ b.size

section Accepting

theorem exists_of_addBuffer (h : r.addBuffer direction name b = .ok s) : ∃ layer,
    r.executable.layer? direction name = some layer ∧ layer.accepts b.size = true ∧
      s = r.push direction name b := by
  simp only [addBuffer] at h
  split at h
  · cases h
  · rename_i layer found
    obtain ⟨-, h⟩ := of_expect h
    split at h
    · rename_i accepted
      cases h
      exact ⟨layer, found, accepted, rfl⟩
    · cases h

theorem mem_of_layer? (h : e.layer? direction name = some layer) :
    layer ∈ e.layers direction ∧ layer.name = name :=
  ⟨List.mem_of_find?_eq_some h, by simpa using List.find?_some h⟩

theorem buffers_push (r : Request) (direction other : Direction) (name : String) (b : Buffer) :
    (r.push direction name b).buffers other =
      if direction = other then (r.buffers other).push name b else r.buffers other := by
  cases direction <;> cases other <;> rfl

theorem executable_push (r : Request) (direction : Direction) (name : String) (b : Buffer) :
    (r.push direction name b).executable = r.executable := by
  cases direction <;> rfl

/-- Who holds the same for the same model covers it as well. -/
theorem Covers.of_same (h : r.Covers) (he : s.executable = r.executable)
    (hb : s.buffers = r.buffers) : s.Covers := by
  intro direction layer hl b hm
  rw [he] at hl
  rw [hb] at hm
  exact h direction layer hl b hm

theorem Covers.addBuffer (h : r.Covers) (hs : r.executable.Sound)
    (made : ∀ direction, ∀ layer ∈ r.executable.layers direction, layer.Made)
    (ha : r.addBuffer direction name b = .ok s) : s.Covers := by
  obtain ⟨found, hf, accepted, rfl⟩ := exists_of_addBuffer ha
  obtain ⟨among, rfl⟩ := mem_of_layer? hf
  intro other layer hl c hc
  rw [executable_push] at hl
  rw [buffers_push] at hc
  by_cases hd : direction = other
  · subst hd
    rw [if_pos rfl, LayerBuffers.of_push] at hc
    by_cases hn : found.name = layer.name
    · -- no two layers share a name, so the buffer was accepted by this one
      obtain rfl : found = layer := List.inj_on_of_nodup_map (hs.nodup_names direction) among hl hn
      rw [if_pos rfl, List.mem_append, List.mem_singleton] at hc
      rcases hc with hc | rfl
      · exact h direction found hl c hc
      · exact (made direction found hl).actual_le_of_accepts accepted
    · rw [if_neg hn] at hc
      exact h direction layer hl c hc
  · rw [if_neg hd] at hc
    exact h other layer hl c hc

end Accepting

section Filling

theorem mem_slice {buffers : List Buffer} {start hardware : Nat}
    (h : b ∈ slice buffers layer start hardware) : b ∈ buffers ∨ b = .padding layer.padded := by
  rw [slice, List.mem_append] at h
  rcases h with h | h
  · exact .inl (List.mem_of_mem_drop (List.mem_of_mem_take h))
  · exact .inr (List.eq_of_mem_replicate h)

/-- A part that is filled holds the next batch of each layer, whatever it held before. -/
theorem buffers_fillLayers (hs : r.executable.Sound) (part : HardwareRequest)
    (hl : layer ∈ r.executable.layers direction) :
    (r.fillLayers direction part).buffers direction layer.name =
      slice ((r.buffers direction).of layer.name) layer (r.prepared * r.executable.hardwareBatch)
        r.executable.hardwareBatch := by
  cases direction with
  | input =>
    rw [fillLayers, foldl_setBuffers_input, HardwareRequest.buffers, LayerBuffers.of,
      Table.get?_foldl_put (hs.nodup_names .input) hl]
    exact List.reverse_reverse _
  | output =>
    rw [fillLayers, foldl_setBuffers_output, HardwareRequest.buffers, LayerBuffers.of,
      Table.get?_foldl_put (hs.nodup_names .output) hl]
    exact List.reverse_reverse _

theorem buffers_fillLayers_output (r : Request) (part : HardwareRequest) (name : String) :
    (r.fillLayers .output part).buffers .input name = part.buffers .input name := by
  rw [fillLayers, foldl_setBuffers_output]
  rfl

theorem part_of_prepareBatch {number : Nat} {part filled : HardwareRequest}
    (h : prepareBatch number (r, part) = (.ok (), (s, filled))) :
    ∃ claimed, filled = r.fillLayers .output (r.fillLayers .input claimed) := by
  simp only [prepareBatch, Act.bind_apply, Act.read_apply, expect] at h
  by_cases hp : r.phase = .prepared
  · by_cases hm : r.prepared = r.required
    · rw [if_pos hp, if_pos hm] at h
      cases h
    · rw [if_pos hp, if_neg hm] at h
      cases hc : part.setCallback (.part number) with
      | error cause =>
        rw [hc] at h
        cases h
      | ok claimed =>
        rw [hc] at h
        simp only [Act.settle, Act.bind_apply, Act.write_apply] at h
        rcases r.reserveBatch_cases (r, claimed) with room | ⟨-, cause, full⟩
        · rw [room] at h
          cases h
          exact ⟨claimed, rfl⟩
        · rw [full] at h
          cases h
  · rw [if_neg hp] at h
    cases h

end Filling

section Runs

/-- What happens to a request. -/
inductive Step where
  | change (c : Change)
  | prepareBatch (number : Nat) (part : HardwareRequest)
  | failUnprepared (cause : Error)
  | partDone (stamps : Stamps) (status : Status)

/-- The request after it, which may have been refused. -/
def Step.leaves (r : Request) : Step → Request
  | .change c => c.leaves r
  | .prepareBatch number part => (Request.prepareBatch number (r, part)).2.1
  | .failUnprepared cause => (r.failUnprepared cause).2
  | .partDone stamps status => (r.partDone stamps status).2

variable {change : Change}

theorem Change.buffers_apply (h : change.apply r = .ok s) :
    s.buffers = r.buffers ∨ ∃ direction name b, change = .addBuffer direction name b := by
  cases change with
  | addBuffer direction name b => exact .inr ⟨direction, name, b, rfl⟩
  | setPriority priority =>
    simp only [apply, Request.setPriority] at h
    split at h
    · cases h
    · obtain ⟨-, h⟩ := of_expect h
      cases h
      exact .inl rfl
  | setDone =>
    obtain ⟨-, h⟩ := of_expect h
    split at h
    · cases h
    · cases h
      exact .inl rfl
  | prepare =>
    obtain ⟨-, h⟩ := of_expect h
    split at h
    · cases hc : r.cut with
      | error cause =>
        rw [hc] at h
        cases h
      | ok cut =>
        rw [hc] at h
        cases h
        exact .inl rfl
    · cases h

theorem same_takeDone (r : Request) :
    r.takeDone.2.executable = r.executable ∧ r.takeDone.2.buffers = r.buffers := by
  unfold takeDone
  split
  · exact ⟨rfl, rfl⟩
  · exact ⟨rfl, rfl⟩

theorem same_prepareBatch (number : Nat) (r : Request) (part : HardwareRequest) :
    (prepareBatch number (r, part)).2.1.executable = r.executable ∧
      (prepareBatch number (r, part)).2.1.buffers = r.buffers := by
  rcases prepareBatch_cases number r part with
    ⟨-, -, -, claimed, -, h | ⟨-, cause, h⟩⟩ | ⟨-, cause, h⟩
  · rw [h]
    exact ⟨rfl, rfl⟩
  · rw [h]
    exact ⟨rfl, rfl⟩
  · rw [h]
    exact ⟨rfl, rfl⟩

/-- Only a buffer that is added changes what a request holds, and nothing changes its model. -/
theorem Step.leaves_cases (r : Request) (step : Step) :
    (step.leaves r).executable = r.executable ∧ (step.leaves r).buffers = r.buffers ∨
    ∃ direction name b, r.addBuffer direction name b = .ok (step.leaves r) := by
  cases step with
  | change c =>
    simp only [leaves, Change.leaves]
    cases h : c.apply r with
    | error cause => exact .inl ⟨rfl, rfl⟩
    | ok s =>
      rcases Change.buffers_apply h with same | ⟨direction, name, b, rfl⟩
      · exact .inl ⟨(Change.configured h).2.executable, same⟩
      · exact .inr ⟨direction, name, b, h⟩
  | prepareBatch number part => exact .inl (same_prepareBatch number r part)
  | failUnprepared cause =>
    simp only [leaves, Request.failUnprepared]
    split
    · exact .inl (same_takeDone _)
    · exact .inl ⟨rfl, rfl⟩
  | partDone stamps status => exact .inl (same_takeDone _)

theorem Step.executable_leaves (r : Request) (step : Step) :
    (step.leaves r).executable = r.executable := by
  rcases leaves_cases r step with ⟨same, -⟩ | ⟨direction, name, b, added⟩
  · exact same
  · obtain ⟨-, -, -, pushed⟩ := exists_of_addBuffer added
    rw [pushed, executable_push]

theorem Step.covers_leaves (h : r.Covers) (hs : r.executable.Sound)
    (made : ∀ direction, ∀ layer ∈ r.executable.layers direction, layer.Made) (step : Step) :
    (step.leaves r).Covers := by
  rcases leaves_cases r step with ⟨model, held⟩ | ⟨direction, name, b, added⟩
  · exact h.of_same model held
  · exact h.addBuffer hs made added

theorem covers_run (h : r.Covers) (he : r.executable = e) (hs : e.Sound)
    (made : ∀ direction, ∀ layer ∈ e.layers direction, layer.Made) (steps : List Step) :
    (steps.foldl Step.leaves r).executable = e ∧ (steps.foldl Step.leaves r).Covers := by
  induction steps generalizing r with
  | nil => exact ⟨he, h⟩
  | cons step rest ih =>
    subst he
    exact ih (Step.covers_leaves h hs made step) (Step.executable_leaves r step)

theorem covers_new (id : UInt64) (e : Executable) : (new id e).Covers := by
  intro direction layer hl b hb
  cases direction with
  | input => cases hb
  | output => cases hb

/-- Every buffer of a part is one that the request held for the layer, or padding. -/
theorem actual_le_of_prepareBatch {number : Nat} {part filled : HardwareRequest} (h : r.Covers)
    (hs : r.executable.Sound)
    (made : ∀ direction, ∀ layer ∈ r.executable.layers direction, layer.Made)
    (hp : prepareBatch number (r, part) = (.ok (), (s, filled)))
    (hl : layer ∈ r.executable.layers direction) (hb : b ∈ filled.buffers direction layer.name) :
    layer.actual ≤ b.size := by
  obtain ⟨claimed, rfl⟩ := part_of_prepareBatch hp
  have taken : b ∈ slice ((r.buffers direction).of layer.name) layer
      (r.prepared * r.executable.hardwareBatch) r.executable.hardwareBatch := by
    cases direction with
    | input =>
      rwa [buffers_fillLayers_output, buffers_fillLayers hs claimed hl] at hb
    | output => rwa [buffers_fillLayers hs (r.fillLayers .input claimed) hl] at hb
  rcases mem_slice taken with held | rfl
  · exact h direction layer hl b held
  · exact (made direction layer hl).actual_le_padded

/-- A layer up to the last whole alignment can be made without a padded size. Then this is the least
whole alignment from the actual size on, and in every layer that is made it is not below the actual
size. So whatever was done with a request before, what it takes has the actual size of the layer it
is for, and so have all the buffers of a part that is prepared for it. -/
theorem buffers_cover_layers (built : e.build = .ok e)
    (made : ∀ direction, ∀ layer ∈ e.layers direction, layer.Made) (id : UInt64)
    (steps : List Step) (hr : steps.foldl Step.leaves (.new id e) = r) :
    (∀ name actual, actual ≤ largestAligned → ∃ layer, Layer.aligned name actual = .ok layer) ∧
    (∀ name actual layer, Layer.aligned name actual = .ok layer →
      layer.name = name ∧ layer.actual = actual ∧
        IsLeast {n | 64 ∣ n ∧ actual.toNat ≤ n} layer.padded.toNat) ∧
    (∀ layer : Layer, layer.Made → layer.actual ≤ layer.padded) ∧
    (∀ direction name b s, r.addBuffer direction name b = .ok s →
      ∃ layer ∈ e.layers direction, layer.name = name ∧ layer.actual ≤ b.size) ∧
    ∀ number part s filled, prepareBatch number (r, part) = (.ok (), (s, filled)) →
      ∀ direction, ∀ layer ∈ e.layers direction, ∀ b ∈ filled.buffers direction layer.name,
        layer.actual ≤ b.size := by
  have sound := Executable.sound_of_build built
  obtain ⟨model, covers⟩ := covers_run (e := e) (covers_new id e) rfl sound made steps
  rw [hr] at model covers
  refine ⟨?_, ?_, fun layer => Layer.Made.actual_le_padded, ?_, ?_⟩
  · intro name actual h
    obtain ⟨padded, hp⟩ := exists_alignTransfer h
    exact ⟨_, Layer.aligned_eq_ok_iff.2 ⟨padded, hp, rfl⟩⟩
  · intro name actual layer h
    obtain ⟨padded, hp, rfl⟩ := Layer.aligned_eq_ok_iff.1 h
    exact ⟨rfl, rfl, isLeast_alignTransfer hp⟩
  · intro direction name b s added
    obtain ⟨layer, found, accepted, -⟩ := exists_of_addBuffer added
    rw [model] at found
    obtain ⟨among, named⟩ := mem_of_layer? found
    exact ⟨layer, among, named, (made direction layer among).actual_le_of_accepts accepted⟩
  · intro number part s filled prepared direction layer hl b hb
    rw [← model] at sound made hl
    exact actual_le_of_prepareBatch covers sound made prepared hl hb

section Hundred

/-- One layer is rounded up, of the other the given size is too small. -/
def hundred : Executable where
  id := ⟨1⟩
  name := "net"
  hardwareBatch := 2
  inputs := [⟨"in", 100, 128⟩]
  outputs := [.withPadding "out" 10 4]
  cycles := 0
  instructionBytes := 128

theorem made_hundred (direction : Direction) : ∀ layer ∈ hundred.layers direction, layer.Made := by
  intro layer hl
  cases direction with
  | input =>
    obtain rfl := List.mem_singleton.1 hl
    exact .aligned (show Layer.aligned "in" 100 = .ok ⟨"in", 100, 128⟩ from rfl)
  | output =>
    obtain rfl := List.mem_singleton.1 hl
    exact .padded "out" 10 4

/-- One buffer for each layer, where the hardware takes two. Another one is too small. -/
def single : List Step :=
  [.change (.addBuffer .input "in" (.host 0 128)), .change (.addBuffer .input "in" (.host 128 64)),
    .change (.addBuffer .output "out" (.host 256 10)), .change .setDone, .change .prepare]

theorem padding_covers_hundred : ∃ s filled,
    prepareBatch 0 (single.foldl Step.leaves (.new 1 hundred), .new 1 hundred) =
      (.ok (), (s, filled)) ∧
    filled.buffers .input "in" = [.host 0 128, .padding 128] ∧
    ∀ b ∈ filled.buffers .input "in", 100 ≤ b.size := by
  obtain ⟨-, -, -, -, covered⟩ := buffers_cover_layers rfl made_hundred 1 single rfl
  exact ⟨_, _, rfl, rfl, covered 0 (.new 1 hundred) _ _ rfl .input ⟨"in", 100, 128⟩ (by decide)⟩

/-- A layer above the last whole alignment cannot be made without a padded size. -/
theorem no_layer_of_the_last_size :
    Layer.aligned "in" 0xffffffffffffffff = .error .multiplyOverflow := by
  rw [Layer.aligned, alignTransfer_of_above (by decide)]
  rfl

end Hundred

end Runs

end Request

end TensorQueue
