import TensorQueue.Admission.Desk
import TensorQueue.Proofs.Outcomes

/-!
# Deadlines at the desk

A contract that passes its check at a rate leaves room: one execution and the
whole tolerance fit into a frame. Such an executable, as long as it came less
than a frame ago, sets its deadline a frame and the tolerance after it came. A
submission of another one is admitted only if it would be finished by then.
-/

set_option autoImplicit false

namespace TensorQueue

theorem Table.mem_of_get? {κ α : Type} [DecidableEq κ] {table : Table κ α} {k : κ} {a : α}
    (h : table.get? k = some a) : (k, a) ∈ table := by
  induction table with
  | nil => cases h
  | cons row rest ih =>
    obtain ⟨key, b⟩ := row
    by_cases hk : key = k
    · simp only [get?, if_pos hk, Option.some.injEq] at h
      rw [hk, h]
      exact List.mem_cons_self
    · simp only [get?, if_neg hk] at h
      exact List.mem_cons_of_mem _ (ih h)

namespace Contract

variable {executable : ExecutableId} {c : Contract} {frame : Duration}

theorem fits_of_check (h : c.check executable = .ok ()) (hf : c.frame? = some frame) :
    0 < c.execution.ns ∧ c.execution.ns + c.tolerance.ns ≤ frame.ns := by
  simp only [check, hf, Duration.isZero, decide_eq_true_eq] at h
  split at h
  · cases h
  · split at h
    · cases h
    · split at h
      · cases h
      · omega

theorem isRealTime_of_check (h : c.check executable = .ok ()) (hf : c.frame? = some frame) :
    c.isRealTime = true := by
  have fps : c.fps ≠ 0 := fun h0 => by
    have hn : c.frame? = Option.none := Duration.ofRate?_eq_none_iff.2 h0
    rw [hn] at hf
    cases hf
  have execution := (fits_of_check h hf).1
  simp [isRealTime, fps, Duration.isZero]
  omega

end Contract

namespace Desk

theorem sum_eq_ok_iff {a b c : Duration} :
    sum a b = .ok c ↔ a.ns + b.ns < Duration.limit ∧ c.ns = a.ns + b.ns := by
  rw [← Duration.add?_eq_some_iff, sum]
  cases a.add? b <;> simp

section Nearest

variable {d : Desk} {submitted : ExecutableId} {now : Duration}

theorem earlier_le_left {a b o : Option Duration} {x : Duration} (h : earlier a b = o)
    (ha : a = some x) : ∃ y, o = some y ∧ y.ns ≤ x.ns := by
  subst h ha
  cases b with
  | none => exact ⟨x, rfl, Nat.le_refl _⟩
  | some b =>
    refine ⟨_, rfl, ?_⟩
    split <;> omega

theorem earlier_le_right {a b o : Option Duration} {x : Duration} (h : earlier a b = o)
    (hb : b = some x) : ∃ y, o = some y ∧ y.ns ≤ x.ns := by
  subst h hb
  cases a with
  | none => exact ⟨x, rfl, Nat.le_refl _⟩
  | some a =>
    refine ⟨_, rfl, ?_⟩
    split <;> omega

/-- The deadlines of these rows, and an earlier one if there is one, all come to be no earlier than
the one that is found. -/
theorem le_of_fold {rows : List (ExecutableId × Contract)} {o r : Option Duration}
    (h : rows.foldlM (fun nearest row => do
      return earlier nearest (← d.constraint submitted now row)) o = .ok r) :
    (∀ x, o = some x → ∃ y, r = some y ∧ y.ns ≤ x.ns) ∧
      ∀ row ∈ rows, ∃ own, d.constraint submitted now row = .ok own ∧
        ∀ x, own = some x → ∃ y, r = some y ∧ y.ns ≤ x.ns := by
  induction rows generalizing o with
  | nil =>
    cases h
    exact ⟨fun x hx => ⟨x, hx, Nat.le_refl _⟩, by simp⟩
  | cons first rest ih =>
    rw [List.foldlM_cons] at h
    cases hc : d.constraint submitted now first with
    | error cause =>
      rw [hc] at h
      cases h
    | ok own =>
      rw [hc] at h
      obtain ⟨before, others⟩ := ih h
      refine ⟨fun x hx => ?_, List.forall_mem_cons.2 ⟨⟨own, hc, fun x hx => ?_⟩, others⟩⟩
      · obtain ⟨y, hy, hle⟩ := earlier_le_left (b := own) rfl hx
        obtain ⟨z, hz, hle'⟩ := before y hy
        exact ⟨z, hz, Nat.le_trans hle' hle⟩
      · obtain ⟨y, hy, hle⟩ := earlier_le_right (a := o) rfl hx
        obtain ⟨z, hz, hle'⟩ := before y hy
        exact ⟨z, hz, Nat.le_trans hle' hle⟩

/-- What admits a submission: an execution time, and an end by the deadline of everyone else. -/
theorem decide_eq_ok_iff {id : UInt64} {finish : Duration} :
    d.decide id submitted now = .ok finish ↔
      ((d.contracts.get? submitted).getD .none).execution.isZero = false ∧
      sum (d.busyUntil.later now) ((d.contracts.get? submitted).getD .none).execution =
        .ok finish ∧
      ∃ nearest, d.nearestDeadline submitted now = .ok nearest ∧
        ∀ x, nearest = some x → finish.ns ≤ x.ns := by
  simp only [Desk.decide]
  cases hz : ((d.contracts.get? submitted).getD .none).execution.isZero with
  | true => by_cases hfps : ((d.contracts.get? submitted).getD .none).fps = 0 <;> simp [hfps]
  | false =>
    have passed : ∀ {α : Type} (a : α), (Except.ok a).mapError Fault.abort = .ok a := fun _ => rfl
    have failed : ∀ {α : Type} (cause : Abort),
        (Except.error cause : Except Abort α).mapError Fault.abort = .error (.abort cause) :=
      fun _ => rfl
    cases hs : sum (d.busyUntil.later now) ((d.contracts.get? submitted).getD .none).execution with
    | error cause => simp [failed, bind, Except.bind]
    | ok f =>
      cases hn : d.nearestDeadline submitted now with
      | error cause => simp [passed, failed, bind, Except.bind]
      | ok nearest =>
        cases nearest with
        | none => simp [passed, bind, Except.bind]
        | some x =>
          by_cases hlt : x.ns < f.ns
          · simp [passed, bind, Except.bind, hlt]
            rintro rfl
            omega
          · simp [passed, bind, Except.bind, hlt]
            rintro rfl
            omega

end Nearest

section Recent

variable {d : Desk} {multiple : UInt32} {frame tolerance last now : Duration}

/-- Who came less than a frame ago is counted, and comes next a frame after that. -/
theorem deadline_of_recent {o : Option Duration} (hm : 0 < multiple.toNat)
    (hr : now.ns < last.ns + frame.ns) (h : deadline multiple frame tolerance last now = .ok o) :
    ∃ x, o = some x ∧ x.ns = last.ns + frame.ns + tolerance.ns := by
  have away : now.ns - last.ns < frame.ns ∨ frame.ns = 0 := by omega
  have whole : (now.ns - last.ns) / frame.ns = 0 := by
    rcases away with hlt | hz
    · exact Nat.div_eq_of_lt hlt
    · rw [hz, Nat.div_zero]
  have counted : ¬(frame.ns * multiple.toNat < now.ns - last.ns ∨
      UInt32.size ≤ (now.ns - last.ns) / frame.ns) := by
    rw [whole]
    have := Nat.le_mul_of_pos_right frame.ns hm
    have size : 0 < UInt32.size := by decide
    omega
  have countable : ¬UInt32.size ≤ 0 + 1 := by decide
  rw [deadline, if_neg counted, whole, if_neg countable] at h
  simp only [Nat.zero_add, Nat.mul_one] at h
  obtain ⟨arrival, harrival, h⟩ := exists_of_except_bind h
  obtain ⟨x, hx, h⟩ := exists_of_except_bind h
  refine ⟨x, (Except.ok.inj h).symm, ?_⟩
  rw [(sum_eq_ok_iff.1 hx).2, (sum_eq_ok_iff.1 harrival).2]

/-- What is admitted for another executable ends by the deadline of one that came less than a frame
ago. -/
theorem decide_within {id : UInt64} {submitted executable : ExecutableId} {c : Contract}
    {finish : Duration} (h : d.decide id submitted now = .ok finish)
    (hm : 0 < d.multiple.toNat) (hc : d.contracts.get? executable = some c)
    (hf : c.frame? = some frame) (hr : c.isRealTime = true)
    (hl : d.arrivals.get? executable = some last) (hx : executable ≠ submitted)
    (hn : now.ns < last.ns + frame.ns) :
    finish.ns ≤ last.ns + frame.ns + c.tolerance.ns := by
  obtain ⟨-, -, nearest, hnearest, bound⟩ := decide_eq_ok_iff.1 h
  obtain ⟨own, hown, least⟩ := (le_of_fold hnearest).2 _ (Table.mem_of_get? hc)
  rw [constraint] at hown
  simp only [hf, hl, hr, hx, Bool.not_true, Bool.false_eq_true, or_self, if_false] at hown
  obtain ⟨x, hsome, hns⟩ := deadline_of_recent hm hn hown
  obtain ⟨y, hy, hle⟩ := least x hsome
  have := bound y hy
  omega

end Recent

end Desk

end TensorQueue
