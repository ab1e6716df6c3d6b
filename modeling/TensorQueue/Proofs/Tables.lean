import TensorQueue.Table
import Mathlib.Data.List.Nodup

/-!
# Keys of tables

A table to which values are only put under keys has each key once. Then what
stands in it is what is found in it, and values put under keys that it has not
come to stand behind it, in order.
-/

set_option autoImplicit false

namespace TensorQueue.Table

variable {κ α : Type} [DecidableEq κ] {table : Table κ α} {k : κ} {a : α}

theorem get?_of_mem (h : (table.map Prod.fst).Nodup) (hm : (k, a) ∈ table) :
    table.get? k = some a := by
  induction table with
  | nil => cases hm
  | cons row rest ih =>
    obtain ⟨key, b⟩ := row
    obtain ⟨new, others⟩ := List.nodup_cons.1 h
    rcases List.mem_cons.1 hm with heq | hm
    · cases heq
      simp [get?]
    · have apart : key ≠ k := by
        rintro rfl
        exact new (List.mem_map.2 ⟨_, hm, rfl⟩)
      rw [get?, if_neg apart]
      exact ih others hm

theorem mem_put {row : κ × α} (h : row ∈ table.put k a) : row ∈ table ∨ row = (k, a) := by
  induction table with
  | nil => exact .inr (List.mem_singleton.1 h)
  | cons first rest ih =>
    obtain ⟨key, b⟩ := first
    rw [put] at h
    split at h
    · rename_i hk
      rcases List.mem_cons.1 h with rfl | hm
      · exact .inr (by rw [hk])
      · exact .inl (List.mem_cons_of_mem _ hm)
    · rcases List.mem_cons.1 h with rfl | hm
      · exact .inl List.mem_cons_self
      · exact (ih hm).imp (List.mem_cons_of_mem _) id

theorem nodup_put (h : (table.map Prod.fst).Nodup) : ((table.put k a).map Prod.fst).Nodup := by
  induction table with
  | nil => exact List.nodup_singleton k
  | cons row rest ih =>
    obtain ⟨key, b⟩ := row
    obtain ⟨new, others⟩ := List.nodup_cons.1 h
    rw [put]
    split
    · exact h
    · rename_i hk
      refine List.nodup_cons.2 ⟨fun hm => ?_, ih others⟩
      obtain ⟨found, hf, hkey⟩ := List.mem_map.1 hm
      rcases mem_put hf with hf | rfl
      · exact new (List.mem_map.2 ⟨found, hf, hkey⟩)
      · exact hk hkey.symm

theorem erase_eq_filter (table : Table κ α) (k : κ) : table.erase k = table.filter (·.1 ≠ k) := by
  induction table with
  | nil => rfl
  | cons row rest ih =>
    obtain ⟨key, b⟩ := row
    by_cases hk : key = k <;> simp [erase, hk, ih]

theorem put_of_not_mem (h : k ∉ table.map Prod.fst) : table.put k a = table ++ [(k, a)] := by
  induction table with
  | nil => rfl
  | cons row rest ih =>
    obtain ⟨key, b⟩ := row
    rw [List.map_cons, List.mem_cons, not_or] at h
    rw [put, if_neg (Ne.symm h.1), ih h.2]
    rfl

/-- New keys come to stand behind the old ones, in order. -/
theorem foldl_put_of_nodup {β : Type} {key : β → κ} {value : β → α} {rows : List β}
    (hn : (rows.map key).Nodup) (hd : ∀ row ∈ rows, key row ∉ table.map Prod.fst) :
    rows.foldl (fun table row => table.put (key row) (value row)) table =
      table ++ rows.map fun row => (key row, value row) := by
  induction rows generalizing table with
  | nil => exact (List.append_nil table).symm
  | cons first rest ih =>
    obtain ⟨new, others⟩ := List.nodup_cons.1 hn
    obtain ⟨absent, later⟩ := List.forall_mem_cons.1 hd
    rw [List.foldl_cons, put_of_not_mem absent, ih others, List.append_assoc]
    · rfl
    · intro row hr hm
      rw [List.map_append, List.mem_append] at hm
      rcases hm with hm | hm
      · exact later row hr hm
      · exact new (List.mem_map.2 ⟨row, hr, List.mem_singleton.1 hm⟩)

/-- Values put under other keys do not matter. -/
theorem get?_foldl_put_of_not_mem {β : Type} {key : β → κ} {value : β → α} {rows : List β}
    (h : k ∉ rows.map key) :
    (rows.foldl (fun table row => table.put (key row) (value row)) table).get? k =
      table.get? k := by
  induction rows generalizing table with
  | nil => rfl
  | cons first rest ih =>
    rw [List.map_cons, List.mem_cons, not_or] at h
    rw [List.foldl_cons, ih h.2, get?_put, if_neg (Ne.symm h.1)]

/-- Under distinct keys each value is found that was put. -/
theorem get?_foldl_put {β : Type} {key : β → κ} {value : β → α} {rows : List β} {row : β}
    (hn : (rows.map key).Nodup) (hr : row ∈ rows) :
    (rows.foldl (fun table row => table.put (key row) (value row)) table).get? (key row) =
      some (value row) := by
  induction rows generalizing table with
  | nil => cases hr
  | cons first rest ih =>
    obtain ⟨new, others⟩ := List.nodup_cons.1 hn
    rcases List.mem_cons.1 hr with rfl | hr
    · rw [List.foldl_cons, get?_foldl_put_of_not_mem new, get?_put, if_pos rfl]
    · exact ih others hr

end TensorQueue.Table
