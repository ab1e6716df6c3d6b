import TensorQueue.Proofs.Driver.Callbacks
import TensorQueue.Proofs.Tables

/-!
# Cutting a batch

The buffers of each layer are cut into hardware batches, and what the last one
lacks is made up with padding. Every layer has the same number of buffers, so
the cuts agree, and as many parts as there are cuts take all of them. A part is
given the layers in the order in which the model declares them, so it derives
its descriptors in that order too. All that may be missing is the room for the
lists of a part.
-/

set_option autoImplicit false

namespace TensorQueue

open Descriptor

namespace Request

section Slices

variable {buffers : List Buffer} {layer : Layer} {h start : Nat}

theorem length_slice : (slice buffers layer start h).length = h := by
  simp only [slice, List.length_append, List.length_replicate, List.length_take]
  omega

theorem slice_of_le (hle : start + h ≤ buffers.length) :
    slice buffers layer start h = (buffers.drop start).take h := by
  have full : ((buffers.drop start).take h).length = h := by
    rw [List.length_take, List.length_drop]
    omega
  rw [slice, full, Nat.sub_self, List.replicate_zero, List.append_nil]

theorem slice_of_length_le (hle : buffers.length ≤ start + h) :
    slice buffers layer start h =
      buffers.drop start ++
        List.replicate (h - (buffers.length - start)) (.padding layer.padded) := by
  have all : (buffers.drop start).take h = buffers.drop start := by
    apply List.take_of_length_le
    rw [List.length_drop]
    omega
  rw [slice, all, List.length_drop]

/-- Full slices hold what was added, in order. -/
theorem flatMap_slices (layer : Layer) (n : Nat) (hle : n * h ≤ buffers.length) :
    ((List.range n).flatMap fun i => slice buffers layer (i * h) h) = buffers.take (n * h) := by
  induction n with
  | zero => simp
  | succ n ih =>
    rw [Nat.succ_mul] at hle ⊢
    rw [List.range_succ, List.flatMap_append, ih (Nat.le_of_add_right_le hle), List.take_add]
    simp [slice_of_le hle]

/-- With the last slice they hold all of it, and then padding. -/
theorem flatMap_slices_succ (layer : Layer) (n : Nat) (before : n * h ≤ buffers.length)
    (behind : buffers.length ≤ (n + 1) * h) :
    ((List.range (n + 1)).flatMap fun i => slice buffers layer (i * h) h) =
      buffers ++ List.replicate ((n + 1) * h - buffers.length) (.padding layer.padded) := by
  rw [Nat.succ_mul] at behind ⊢
  rw [List.range_succ, List.flatMap_append, flatMap_slices layer n before]
  simp only [List.flatMap_cons, List.flatMap_nil, List.append_nil]
  rw [slice_of_length_le behind, ← List.append_assoc, List.take_append_drop]
  congr 2
  omega

/-- How many slices it takes, and what the last one begins with. -/
theorem ceil_bounds {b : Nat} (hb : 0 < b) (hh : 0 < h) :
    ∃ n, (b + h - 1) / h = n + 1 ∧ n * h < b ∧ b ≤ (n + 1) * h := by
  have whole := Nat.div_add_mod (b - 1) h
  have part := Nat.mod_lt (b - 1) hh
  rw [Nat.mul_comm] at whole
  refine ⟨(b - 1) / h, ?_, ?_, ?_⟩
  · rw [show b + h - 1 = (b - 1) + h by omega, Nat.add_div_right _ hh]
  · omega
  · rw [Nat.succ_mul]
    omega

end Slices

section Filling

variable {r : Request} {direction : Direction} {layer : Layer}

/-- The next hardware batch of each layer, in the order in which the layers are declared. -/
def filled (r : Request) (direction : Direction) : LayerBuffers :=
  (r.executable.layers direction).map fun layer => (layer.name,
    (slice ((r.buffers direction).of layer.name) layer (r.prepared * r.executable.hardwareBatch)
      r.executable.hardwareBatch).reverse)

theorem foldl_setBuffers_input (layers : List Layer) (f : Layer → List Buffer)
    (part : HardwareRequest) :
    layers.foldl (fun part layer => part.setBuffers .input layer.name (f layer)) part =
      { part with inputs :=
          layers.foldl (fun t layer => t.put layer.name (f layer).reverse) part.inputs } := by
  induction layers generalizing part with
  | nil => rfl
  | cons first rest ih => exact ih _

theorem foldl_setBuffers_output (layers : List Layer) (f : Layer → List Buffer)
    (part : HardwareRequest) :
    layers.foldl (fun part layer => part.setBuffers .output layer.name (f layer)) part =
      { part with outputs :=
          layers.foldl (fun t layer => t.put layer.name (f layer).reverse) part.outputs } := by
  induction layers generalizing part with
  | nil => rfl
  | cons first rest ih => exact ih _

/-- A fresh part is given the layers in the order of their declaration. -/
theorem fillLayers_fresh {part : HardwareRequest} (hs : r.executable.Sound)
    (hi : part.inputs = []) (ho : part.outputs = []) :
    r.fillLayers .output (r.fillLayers .input part) =
      { part with inputs := r.filled .input, outputs := r.filled .output } := by
  rw [fillLayers, fillLayers, foldl_setBuffers_input, foldl_setBuffers_output, hi, ho,
    Table.foldl_put_of_nodup (hs.nodup_names .input) (by simp),
    Table.foldl_put_of_nodup (hs.nodup_names .output) (by simp)]
  rfl

theorem of_filled (hs : r.executable.Sound) (hl : layer ∈ r.executable.layers direction) :
    (r.filled direction).of layer.name =
      slice ((r.buffers direction).of layer.name) layer (r.prepared * r.executable.hardwareBatch)
        r.executable.hardwareBatch := by
  have keys : ((r.filled direction).map Prod.fst).Nodup := by
    simpa [filled, Function.comp_def] using hs.nodup_names direction
  rw [LayerBuffers.of, Table.get?_of_mem keys (List.mem_map.2 ⟨layer, hl, rfl⟩)]
  exact List.reverse_reverse _

theorem all_filled (hs : r.executable.Sound) (direction : Direction) : (r.filled direction).all =
    (r.executable.layers direction).flatMap fun layer => (r.filled direction).of layer.name := by
  rw [LayerBuffers.all, filled, List.flatMap_map, ← filled]
  refine List.flatMap_congr fun layer hl => ?_
  rw [of_filled hs hl]
  exact List.reverse_reverse _

/-- The next part of a request, with this id. -/
def nextBatch (r : Request) (number : Nat) (id : UInt64) : HardwareRequest :=
  { HardwareRequest.new id r.executable with
    inputs := r.filled .input
    outputs := r.filled .output
    callback := some (.part number) }

theorem buffers_nextBatch (number : Nat) (id : UInt64) (name : String) :
    (r.nextBatch number id).buffers direction name = (r.filled direction).of name := by
  cases direction <;> rfl

/-- The descriptors of a part whose layers are declared like this. -/
def listing (e : Executable) (part : HardwareRequest) : List Descriptor :=
  [⟨.instruction, 0, e.instructionBytes⟩] ++
    (e.inputs.flatMap fun layer => (part.buffers .input layer.name).map fun b =>
      ⟨.inputActivation, b.address, b.size⟩) ++
    [marker .localFence] ++
    (e.outputs.flatMap fun layer => (part.buffers .output layer.name).map fun b =>
      ⟨.outputActivation, b.address, b.size⟩) ++
    [marker .globalFence]

theorem length_all_filled (r : Request) (direction : Direction) : (r.filled direction).all.length =
    (r.executable.layers direction).length * r.executable.hardwareBatch := by
  simp [LayerBuffers.all, filled, List.flatMap_map, length_slice]

/-- A part has so many descriptors, so that there is room for them, and for the entries of a
task. -/
theorem length_derived_nextBatch (number : Nat) (id : UInt64) :
    (r.nextBatch number id).derived.length =
      (r.executable.inputs.length + r.executable.outputs.length) * r.executable.hardwareBatch + 3 := by
  have inputs := length_all_filled r .input
  have outputs := length_all_filled r .output
  simp only [Executable.layers] at inputs outputs
  simp only [HardwareRequest.derived, HardwareRequest.transfers, nextBatch, List.length_append,
    List.length_map, List.length_cons, List.length_nil, inputs, outputs, Nat.add_mul]
  omega

theorem fits_derived_nextBatch (hf : r.executable.Roomy) (number : Nat) (id : UInt64) {width : Nat}
    (hw : width ≤ Buffer.width) :
    Capacity.fits (r.nextBatch number id).derived.length width = true := by
  apply Capacity.fits_of_le hf _ hw
  rw [length_derived_nextBatch]
  omega

theorem derived_nextBatch (hs : r.executable.Sound) (number : Nat) (id : UInt64) :
    (r.nextBatch number id).derived = listing r.executable (r.nextBatch number id) := by
  have inputs := all_filled hs .input
  have outputs := all_filled hs .output
  simp only [nextBatch, HardwareRequest.new, HardwareRequest.derived,
    HardwareRequest.transfers, inputs, outputs, List.map_flatMap]
  rfl

theorem descriptors_nextBatch (hs : r.executable.Sound) (hf : r.executable.Roomy) (number : Nat)
    (id : UInt64) :
    (r.nextBatch number id).descriptors = .ok (listing r.executable (r.nextBatch number id)) := by
  have room := fits_derived_nextBatch hf number id (show Descriptor.width ≤ Buffer.width by decide)
  rw [← derived_nextBatch hs]
  exact if_pos room

end Filling

section Cutting

variable {r : Request} {number : Nat}

/-- A fresh hardware request takes the next batch. -/
def cutNext (number : Nat) (id : UInt64) : Act Request HardwareRequest := fun r =>
  let (outcome, (left, part)) := prepareBatch number (r, .new id r.executable)
  (outcome.map fun _ => part, left)

/-- Fresh hardware requests with these ids take the next batches, one after the other. -/
def cutAll (number : Nat) : List UInt64 → Act Request (List HardwareRequest)
  | [] => return []
  | id :: rest => do
    let part ← cutNext number id
    let parts ← cutAll number rest
    return part :: parts

theorem prepareBatch_eq {part : HardwareRequest} (hp : r.phase = .prepared)
    (hm : r.prepared ≠ r.required) (hf : r.executable.Roomy) (hs : r.executable.Sound)
    (id : UInt64) (hn : part = .new id r.executable) :
    prepareBatch number (r, part) =
      (.ok (), ({ r with prepared := r.prepared + 1 }, r.nextBatch number id)) := by
  subst hn
  have room : ∀ s : Request × HardwareRequest, r.reserveBatch s = (.ok (), s) :=
    reserveBatch_of_roomy hf
  have claimed : (HardwareRequest.new id r.executable).setCallback (.part number) =
      .ok { HardwareRequest.new id r.executable with callback := some (.part number) } := rfl
  simp only [prepareBatch, Act.bind_apply, Act.read_apply, expect, if_pos hp, if_neg hm, Act.settle,
    claimed, Act.write_apply, room]
  rw [fillLayers_fresh hs rfl rfl]
  rfl

theorem cutNext_eq (hp : r.phase = .prepared) (hm : r.prepared ≠ r.required)
    (hf : r.executable.Roomy) (hs : r.executable.Sound) (id : UInt64) : cutNext number id r =
      (.ok (r.nextBatch number id), { r with prepared := r.prepared + 1 }) := by
  rw [cutNext, prepareBatch_eq hp hm hf hs id rfl]
  rfl

/-- The request when so many batches have been taken off it. -/
def past (r : Request) (n : Nat) : Request := { r with prepared := n }

/-- Part by part, the batches come off in order. -/
theorem cutAll_eq (hp : r.phase = .prepared) (hf : r.executable.Roomy)
    (hs : r.executable.Sound) (ids : List UInt64) (hm : r.prepared + ids.length ≤ r.required) :
    cutAll number ids r =
      (.ok ((ids.zipIdx r.prepared).map fun row => (r.past row.2).nextBatch number row.1),
        r.past (r.prepared + ids.length)) := by
  induction ids generalizing r with
  | nil => rfl
  | cons id rest ih =>
    rw [List.length_cons] at hm
    have cut : cutNext number id r = (.ok (r.nextBatch number id), r.past (r.prepared + 1)) :=
      cutNext_eq hp (by omega) hf hs id
    have others := ih (r := r.past (r.prepared + 1)) hp hf hs (by simp only [past]; omega)
    rw [cutAll, Act.bind_of_ok cut, Act.bind_of_ok others]
    simp only [Act.pure_apply, List.zipIdx_cons, List.map_cons, List.length_cons, past]
    rw [Nat.add_assoc, Nat.add_comm 1]

/-- What the parts hold of one layer. -/
theorem map_buffers_cut {direction : Direction} {layer : Layer} (hs : r.executable.Sound)
    (hl : layer ∈ r.executable.layers direction) (ids : List UInt64) :
    ((ids.zipIdx 0).map fun row =>
        ((r.past row.2).nextBatch number row.1).buffers direction layer.name) =
      (List.range ids.length).map fun i =>
        slice ((r.buffers direction).of layer.name) layer (i * r.executable.hardwareBatch)
          r.executable.hardwareBatch := by
  rw [List.range_eq_range', ← List.zipIdx_map_snd 0 ids, List.map_map]
  refine List.map_congr_left fun row _ => ?_
  rw [buffers_nextBatch]
  have same : (r.past row.2).buffers direction = r.buffers direction := by cases direction <;> rfl
  have found := of_filled (r := r.past row.2) hs hl
  rw [same] at found
  exact found

end Cutting

section Preparing

variable {r : Request} {b : Nat}

/-- All layers have this number of buffers. -/
def Uniform (r : Request) (b : Nat) : Prop :=
  ∀ direction, ∀ layer ∈ r.executable.layers direction,
    ((r.buffers direction).of layer.name).length = b

theorem uniform_iff_counts : r.Uniform b ↔ ∀ row ∈ r.counts, row.2 = b := by
  constructor
  · intro h row hr
    rcases List.mem_append.1 hr with hr | hr
    · obtain ⟨layer, hl, rfl⟩ := List.mem_map.1 hr
      exact h .input layer hl
    · obtain ⟨layer, hl, rfl⟩ := List.mem_map.1 hr
      exact h .output layer hl
  · intro h direction layer hl
    cases direction with
    | input => exact h _ (List.mem_append_left _ (List.mem_map.2 ⟨layer, hl, rfl⟩))
    | output => exact h _ (List.mem_append_right _ (List.mem_map.2 ⟨layer, hl, rfl⟩))

theorem commonBatch_of_uniform (hc : r.counts ≠ []) (hb : 0 < b) (h : r.Uniform b) :
    r.commonBatch = .ok b := by
  have all : ∀ row ∈ r.counts, row.2 = b := uniform_iff_counts.1 h
  rw [commonBatch]
  cases hr : r.counts with
  | nil => exact absurd hr hc
  | cons first rest =>
    rw [hr] at all
    obtain ⟨head, others⟩ := List.forall_mem_cons.1 all
    have none : rest.find? (fun row => row.2 ≠ b) = none :=
      List.find?_eq_none.2 fun row hrow => by simp [others row hrow]
    simp only [head, none, Nat.ne_of_gt hb, if_false]

/-- Where a batch size is found, all layers have agreed on it. -/
theorem uniform_of_commonBatch (h : r.commonBatch = .ok b) : r.Uniform b := by
  rw [uniform_iff_counts]
  rw [commonBatch] at h
  split at h
  · cases h
  · rename_i first n rest hr
    split at h
    · cases h
    · rename_i none
      split at h
      · cases h
      · cases h
        rw [hr]
        refine List.forall_mem_cons.2 ⟨rfl, fun row hrow => ?_⟩
        simpa using List.find?_eq_none.1 none row hrow

theorem kind_of_commonBatch {cause : Error} (h : r.commonBatch = .error cause) :
    cause.kind = .invalidArgument := by
  rw [commonBatch] at h
  split at h
  · cases h
    rfl
  · split at h
    · cases h
      rfl
    · split at h <;> cases h
      rfl

theorem cut_of_layers (hl : r.executable.inputs ≠ [] ∨ r.executable.outputs ≠ []) :
    r.cut = (do
      let batch ← r.commonBatch
      .ok (batch, (batch + r.executable.hardwareBatch - 1) / r.executable.hardwareBatch)) := by
  have some : (r.executable.inputs.isEmpty && r.executable.outputs.isEmpty) = false := by
    rcases hl with hl | hl <;> simp [hl]
  rw [cut, some]
  rfl

theorem prepare_eq (hp : r.phase = .initial) (hd : r.hasDone = true) : r.prepare = (do
    let (batch, required) ← r.cut
    .ok { r with batch := batch, required := required, outstanding := required,
                 phase := .prepared }) := by
  simp only [prepare, expect, hp, hd, if_true]
  rfl

/-- The request when it is prepared for so many buffers in so many parts. -/
def readied (r : Request) (b parts : Nat) : Request :=
  { r with batch := b, required := parts, outstanding := parts, phase := .prepared }

theorem buffers_readied (b parts : Nat) (direction : Direction) :
    (r.readied b parts).buffers direction = r.buffers direction := by
  cases direction <;> rfl

theorem prepare_of_uniform (hl : r.executable.inputs ≠ [] ∨ r.executable.outputs ≠ [])
    (hs : r.executable.Sound) (hp : r.phase = .initial) (hd : r.hasDone = true) (hb : 0 < b)
    (h : r.Uniform b) : ∃ n, r.prepare = .ok (r.readied b (n + 1)) ∧
      n * r.executable.hardwareBatch < b ∧ b ≤ (n + 1) * r.executable.hardwareBatch := by
  have some : r.counts ≠ [] := by
    rcases hl with hl | hl <;> simp [counts, hl]
  obtain ⟨n, ceil, before, behind⟩ := ceil_bounds hb hs.batch_pos
  refine ⟨n, ?_, before, behind⟩
  rw [prepare_eq hp hd, cut_of_layers hl, commonBatch_of_uniform some hb h, ← ceil]
  rfl

theorem prepare_of_not_uniform (hl : r.executable.inputs ≠ [] ∨ r.executable.outputs ≠ [])
    (hp : r.phase = .initial) (hd : r.hasDone = true) (h : ¬ ∃ b, 0 < b ∧ r.Uniform b) :
    ∃ cause, cause.kind = .invalidArgument ∧ r.prepare = .error cause := by
  cases hc : r.commonBatch with
  | ok b => exact absurd ⟨b, commonBatch_pos hc, uniform_of_commonBatch hc⟩ h
  | error cause =>
    refine ⟨cause, kind_of_commonBatch hc, ?_⟩
    rw [prepare_eq hp hd, cut_of_layers hl, hc]
    rfl

/-- A request that has just been prepared comes off in all its parts. -/
theorem cutAll_readied (hs : r.executable.Sound) (hf : r.executable.Roomy) (hn : r.prepared = 0)
    (number : Nat) (ids : List UInt64) :
    cutAll number ids (r.readied b ids.length) =
      (.ok ((ids.zipIdx 0).map fun row =>
          ((r.readied b ids.length).past row.2).nextBatch number row.1),
        (r.readied b ids.length).past ids.length) := by
  have untaken : (r.readied b ids.length).prepared = 0 := hn
  have all : (r.readied b ids.length).prepared + ids.length ≤ ids.length := by
    rw [untaken, Nat.zero_add]
  have cuts : cutAll number ids (r.readied b ids.length) = _ :=
    cutAll_eq (r := r.readied b ids.length) rfl hf hs ids all
  rwa [untaken, Nat.zero_add] at cuts

end Preparing

section Whole

variable {e : Executable} {r : Request}

/-- The request after a call on it, which may have been refused. -/
def Change.leaves (r : Request) (change : Change) : Request := (change.apply r).toOption.getD r

/-- As long as a request is not prepared, none of its batches is. -/
theorem untouched_of_changes (changes : List Change) (hr : r.executable = e) (hn : r.prepared = 0) :
    (changes.foldl Change.leaves r).executable = e ∧
      (changes.foldl Change.leaves r).prepared = 0 := by
  induction changes generalizing r with
  | nil => exact ⟨hr, hn⟩
  | cons change rest ih =>
    rw [List.foldl_cons, Change.leaves]
    cases h : change.apply r with
    | error cause => exact ih hr hn
    | ok s =>
      obtain ⟨-, same⟩ := Change.configured h
      exact ih (same.executable.trans hr) (same.prepared.trans hn)

/-- The parts hold what the request has of this layer, and padding at the end. -/
structure Shares (r : Request) (direction : Direction) (layer : Layer) (n : Nat)
    (parts : List HardwareRequest) : Prop where
  each : ∀ part ∈ parts,
    (part.buffers direction layer.name).length = r.executable.hardwareBatch
  whole : parts.flatMap (·.buffers direction layer.name) =
    (r.buffers direction).of layer.name ++
      List.replicate ((n + 1) * r.executable.hardwareBatch -
        ((r.buffers direction).of layer.name).length) (.padding layer.padded)
  full : parts.dropLast.flatMap (·.buffers direction layer.name) =
    ((r.buffers direction).of layer.name).take (n * r.executable.hardwareBatch)

theorem shares_of_slices {direction : Direction} {layer : Layer} {n : Nat}
    {parts : List HardwareRequest}
    (h : parts.map (·.buffers direction layer.name) = (List.range (n + 1)).map fun i =>
      slice ((r.buffers direction).of layer.name) layer (i * r.executable.hardwareBatch)
        r.executable.hardwareBatch)
    (before : n * r.executable.hardwareBatch < ((r.buffers direction).of layer.name).length)
    (behind : ((r.buffers direction).of layer.name).length ≤
      (n + 1) * r.executable.hardwareBatch) : r.Shares direction layer n parts := by
  refine ⟨fun part hp => ?_, ?_, ?_⟩
  · have among := List.mem_map_of_mem (f := (·.buffers direction layer.name)) hp
    rw [h] at among
    obtain ⟨i, -, hi⟩ := List.mem_map.1 among
    rw [← hi]
    exact length_slice
  · rw [List.flatMap_def, h, ← List.flatMap_def]
    exact flatMap_slices_succ layer n (Nat.le_of_lt before) behind
  · rw [List.flatMap_def, List.map_dropLast, h, List.range_succ, List.map_append,
      List.map_singleton, List.dropLast_concat, ← List.flatMap_def]
    exact flatMap_slices layer n (Nat.le_of_lt before)

/-- A batch that all layers share is cut into parts, as many as it takes. With room for the lists of
a part they hold all of it and padding at the end, with the descriptors of what they hold. Without
a batch that all layers share the request is not prepared. -/
theorem batches_complete (built : e.build = .ok e) (layers : e.inputs ≠ [] ∨ e.outputs ≠ [])
    (id : UInt64) (changes : List Change) (hr : changes.foldl Change.leaves (.new id e) = r)
    (initial : r.phase = .initial) (done : r.hasDone = true) :
    (∀ b, 0 < b → r.Uniform b → ∃ n p, r.prepare = .ok p ∧ p.required = n + 1 ∧
      n * e.hardwareBatch < b ∧ b ≤ (n + 1) * e.hardwareBatch ∧
      (e.Roomy → ∀ number ids, ids.length = p.required →
        ∃ parts q, cutAll number ids p = (.ok parts, q) ∧ parts.length = p.required ∧
          (∀ direction, ∀ layer ∈ e.layers direction, r.Shares direction layer n parts) ∧
          ∀ part ∈ parts, part.descriptors = .ok (listing e part))) ∧
    ((¬ ∃ b, 0 < b ∧ r.Uniform b) → ∃ cause, cause.kind = .invalidArgument ∧
      Act.change prepare r = (.error (.refusal cause), r)) := by
  obtain ⟨rfl, fresh⟩ : r.executable = e ∧ r.prepared = 0 := by
    rw [← hr]
    exact untouched_of_changes changes rfl rfl
  have sound : r.executable.Sound := Executable.sound_of_build built
  constructor
  · intro b hb uniform
    obtain ⟨n, prepared, before, behind⟩ :=
      prepare_of_uniform layers sound initial done hb uniform
    refine ⟨n, _, prepared, rfl, before, behind, fun roomy number ids hids => ?_⟩
    have parts : ids.length = n + 1 := hids
    have cuts := cutAll_readied (b := b) sound roomy fresh number ids
    rw [parts] at cuts
    refine ⟨_, _, cuts, by simp [hids], fun direction layer hl => ?_, fun part hpart => ?_⟩
    · refine shares_of_slices ?_ ?_ ?_
      · rw [List.map_map, Function.comp_def,
          map_buffers_cut (r := r.readied b (n + 1)) sound hl ids, buffers_readied, parts]
        rfl
      · rwa [uniform direction layer hl]
      · rwa [uniform direction layer hl]
    · obtain ⟨row, -, rfl⟩ := List.mem_map.1 hpart
      exact descriptors_nextBatch (r := (r.readied b (n + 1)).past row.2) sound roomy number row.1
  · intro disagree
    obtain ⟨cause, kind, failed⟩ := prepare_of_not_uniform layers initial done disagree
    exact ⟨cause, kind, by rw [Act.change, failed]⟩

section Pairs

/-- The hardware takes two at once. -/
def paired : Executable where
  id := ⟨1⟩
  name := "net"
  hardwareBatch := 2
  inputs := [⟨"left", 64, 64⟩, ⟨"right", 128, 128⟩]
  outputs := [⟨"out", 64, 64⟩]
  cycles := 0
  instructionBytes := 128

/-- Three buffers for each layer. -/
def threefold : List Change :=
  [.addBuffer .input "left" (.host 0 64), .addBuffer .input "right" (.host 1024 128),
    .addBuffer .input "left" (.host 64 64), .addBuffer .output "out" (.host 4096 64),
    .addBuffer .input "right" (.host 1152 128), .addBuffer .input "left" (.host 128 64),
    .addBuffer .output "out" (.host 4160 64), .addBuffer .input "right" (.host 1280 128),
    .addBuffer .output "out" (.host 4224 64), .setDone]

theorem three_make_two_pairs : ∃ p parts q,
    (threefold.foldl Change.leaves (.new 1 paired)).prepare = .ok p ∧
    cutAll 0 [7, 8] p = (.ok parts, q) ∧
    parts.flatMap (·.buffers .input "left") =
      [.host 0 64, .host 64 64, .host 128 64, .padding 64] ∧
    ∀ part ∈ parts, part.descriptors = .ok (listing paired part) := by
  obtain ⟨r, hr⟩ : ∃ r, threefold.foldl Change.leaves (.new 1 paired) = r := ⟨_, rfl⟩
  have seen : r.phase = .initial ∧ r.hasDone = true ∧
      (r.buffers .input).of "left" = [.host 0 64, .host 64 64, .host 128 64] ∧
      r.executable = paired := by
    rw [← hr]
    decide +kernel
  obtain ⟨initial, done, left, model⟩ := seen
  obtain ⟨cut, -⟩ := batches_complete rfl (.inl (by decide)) 1 threefold hr initial done
  have uniform : r.Uniform 3 := by
    rw [← hr]
    intro direction
    cases direction <;> decide +kernel
  obtain ⟨n, p, prepared, required, before, behind, parts⟩ := cut 3 (by decide) uniform
  obtain rfl : n = 1 := by
    simp only [paired] at before behind
    omega
  have roomy : paired.Roomy := by decide
  obtain ⟨parts, q, cuts, -, shares, descriptors⟩ := parts roomy 0 [7, 8] required.symm
  have all := (shares .input ⟨"left", 64, 64⟩ (by decide)).whole
  rw [model, left] at all
  rw [hr]
  exact ⟨p, parts, q, prepared, cuts, all, descriptors⟩

/-- So many buffers do not lie in one block. -/
def boundless : Executable := { paired with hardwareBatch := 230584300921369396 }

/-- With no room for a hardware batch no part comes of a prepared request. -/
theorem no_room_for_a_batch :
    let r := threefold.foldl Change.leaves (.new 1 boundless)
    boundless.build = .ok boundless ∧ r.phase = .initial ∧ r.hasDone = true ∧ r.Uniform 3 ∧
      (r.prepare.toOption.map fun p => (p.required, cutAll 0 [7] p)).map
          (fun out => (out.1, out.2.1)) = some (1, .error (.abort .capacityOverflow)) := by
  refine ⟨rfl, by decide +kernel, by decide +kernel, fun direction => ?_, by decide +kernel⟩
  cases direction <;> decide +kernel

end Pairs

end Whole

end Request

end TensorQueue
