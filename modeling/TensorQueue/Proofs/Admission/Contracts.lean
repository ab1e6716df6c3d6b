import TensorQueue.Proofs.Admission.Decision

/-!
# Contracts that are stored

The desk keeps no contract that contradicts itself. New terms are put together
with the old ones, whatever rate those were agreed for, and the whole is checked
before it is stored; what does not pass leaves everything as it was. So a frame
that a decision divides by is never zero, although at more than a billion frames
a second it would be, and an execution always fits into its frame.
-/

set_option autoImplicit false

namespace TensorQueue

namespace Contract

/-- The time between two runs, rounded down to a nanosecond. -/
def frameNs (c : Contract) : Nat := Duration.nsPerSecond / c.fps.toNat

/-- A contract says nothing, or one execution fits into a frame and the tolerance into what that
leaves. -/
def Consistent (c : Contract) : Prop :=
  (c.fps = 0 ∧ c.execution.ns = 0) ∨
    (c.fps ≠ 0 ∧ c.frameNs ≠ 0 ∧ 0 < c.execution.ns ∧ c.execution.ns ≤ c.frameNs ∧
      c.tolerance.ns ≤ c.frameNs - c.execution.ns)

instance (c : Contract) : Decidable c.Consistent := inferInstanceAs (Decidable (_ ∨ _))

/-- What becomes of a contract under new terms: what they say is as they say it, and the rest is as
it was. -/
structure Merged (old : Contract) (terms : Update) (new : Contract) : Prop where
  fps : new.fps = terms.fps.getD old.fps
  execution : new.execution = terms.execution.getD old.execution
  tolerance : new.tolerance = terms.tolerance.getD old.tolerance

theorem merged_iff {old new : Contract} {terms : Update} :
    old.Merged terms new ↔ new = old.merge terms := by
  constructor
  · rintro ⟨fps, execution, tolerance⟩
    cases new
    cases fps
    cases execution
    cases tolerance
    rfl
  · rintro rfl
    exact ⟨rfl, rfl, rfl⟩

section Check

variable {c : Contract} {executable : ExecutableId} {frame : Duration}

theorem frame?_of_rate (h : c.fps ≠ 0) : c.frame? = some ⟨c.frameNs⟩ := by
  simp [frame?, Duration.ofRate?, h, frameNs]

theorem frame?_of_no_rate (h : c.fps = 0) : c.frame? = Option.none :=
  Duration.ofRate?_eq_none_iff.2 h

theorem frame?_eq_some (h : c.frame? = some frame) : c.fps ≠ 0 ∧ frame.ns = c.frameNs := by
  have rate : c.fps ≠ 0 := fun h0 => by
    rw [frame?_of_no_rate h0] at h
    cases h
  rw [frame?_of_rate rate] at h
  cases h
  exact ⟨rate, rfl⟩

/-- What the check looks for. -/
theorem check_eq_ok_iff : c.check executable = .ok () ↔ c.Consistent := by
  by_cases rate : c.fps = 0
  · simp [check, frame?_of_no_rate rate, Consistent, rate, Duration.isZero]
  · rw [check, frame?_of_rate rate]
    dsimp only
    constructor
    · intro passed
      have checked : c.check executable = .ok () := by
        rw [check, frame?_of_rate rate]
        exact passed
      have := fits_of_check checked (frame?_of_rate rate)
      dsimp only at this
      refine .inr ⟨rate, ?_⟩
      omega
    · rintro (⟨no_rate, -⟩ | ⟨-, positive, some_execution, fits, slack⟩)
      · exact absurd no_rate rate
      · have used : c.execution.isZero = false := by
          simp only [Duration.isZero, decide_eq_false_iff_not]
          omega
        rw [used, if_neg (by decide), if_neg (by omega), if_neg (by omega)]

/-- The slack that a tolerance is measured against is what the execution leaves of the frame, with
nothing cut off. -/
theorem slack_exact {tolerance slack : Duration}
    (h : c.check executable = .error (.toleranceExceedsSlack executable tolerance slack)) :
    slack.ns + c.execution.ns = c.frameNs := by
  unfold check at h
  split at h
  · split at h <;> cases h
  · rename_i frame hf
    split at h
    · cases h
    · split at h
      · cases h
      · rename_i fits
        dsimp only at h
        split at h
        · cases h
          rw [← (frame?_eq_some hf).2]
          dsimp only
          omega
        · cases h

/-- What does not pass the check is an invalid argument. -/
theorem kind_of_check {cause : Error} (h : c.check executable = .error cause) :
    cause.kind = .invalidArgument := by
  unfold check at h
  split at h
  · split at h <;> cases h
    rfl
  · split at h
    · cases h
      rfl
    · split at h
      · cases h
        rfl
      · dsimp only at h
        split at h <;> cases h
        rfl

end Check

end Contract

namespace Desk

variable {d e : Desk} {executable : ExecutableId} {terms : Contract.Update}

/-- The contract that new terms go into: the one that is stored, or else one of zeros, provided the
terms come with a rate and an execution time. -/
def Extends (d : Desk) (executable : ExecutableId) (terms : Contract.Update) (old : Contract) :
    Prop :=
  d.contracts.get? executable = some old ∨
    (d.contracts.get? executable = none ∧ terms.fps.isSome ∧ terms.execution.isSome ∧
      old = ⟨0, .zero, .zero⟩)

theorem base_eq_ok_iff {old : Contract} :
    d.base executable terms = .ok old ↔ d.Extends executable terms old := by
  unfold base Extends
  cases d.contracts.get? executable with
  | some c => simp
  | none => cases hf : terms.fps <;> cases hx : terms.execution <;> simp [eq_comm, Contract.none]

theorem kind_of_base {cause : Error} (h : d.base executable terms = .error cause) :
    cause.kind = .invalidArgument := by
  unfold base at h
  split at h
  · cases h
  · split at h
    · cases h
      rfl
    · cases h

/-- New terms are stored as a whole or refused as a whole. -/
theorem setContract_cases (d : Desk) (executable : ExecutableId) (terms : Contract.Update) :
    (∃ old new, d.Extends executable terms old ∧ old.Merged terms new ∧ new.Consistent ∧
      d.setContract executable terms =
        .ok { d with contracts := d.contracts.put executable new }) ∨
    ∃ cause, d.setContract executable terms = .error cause ∧ cause.kind = .invalidArgument ∧
      ∀ old new, d.Extends executable terms old → old.Merged terms new → ¬ new.Consistent := by
  unfold setContract
  cases hb : d.base executable terms with
  | error cause =>
    refine .inr ⟨cause, rfl, kind_of_base hb, fun old new extended => ?_⟩
    rw [base_eq_ok_iff.2 extended] at hb
    cases hb
  | ok old =>
    have extended := base_eq_ok_iff.1 hb
    cases hc : (old.merge terms).check executable with
    | ok u =>
      refine .inl ⟨old, old.merge terms, extended, Contract.merged_iff.2 rfl,
        Contract.check_eq_ok_iff.1 hc, ?_⟩
      simp [bind, Except.bind, hc]
    | error cause =>
      refine .inr ⟨cause, by simp [bind, Except.bind, hc], Contract.kind_of_check hc, ?_⟩
      intro other new extended' merged consistent
      have same : other = old :=
        Except.ok.inj ((base_eq_ok_iff.2 extended').symm.trans hb)
      rw [same, Contract.merged_iff] at merged
      have passed : (old.merge terms).check executable = .ok () :=
        Contract.check_eq_ok_iff.2 (merged ▸ consistent)
      rw [hc] at passed
      cases passed

theorem removeContract_cases (d : Desk) (executable : ExecutableId) :
    (∃ c, d.contracts.get? executable = some c ∧ d.removeContract executable =
      .ok { d with contracts := d.contracts.erase executable }) ∨
    (d.contracts.get? executable = none ∧
      d.removeContract executable = .error (.noContractStored executable)) := by
  unfold removeContract contract
  cases d.contracts.get? executable with
  | some c => exact .inl ⟨c, rfl, rfl⟩
  | none => exact .inr ⟨rfl, rfl⟩

/-- The desk turns a submission away for one reason only: it would not meet its deadlines. -/
theorem Kept.kind_of_decide (h : d.Kept) {id : UInt64} {now : Duration} {cause : Error}
    (hd : d.decide id executable now = .error (.refusal cause)) :
    cause.kind = .deadlineExceeded := by
  rcases Nat.eq_zero_or_pos (d.runtime executable) with none_stored | some_time
  · rw [h.decide_of_zero none_stored] at hd
    cases hd
    rfl
  · simp only [Desk.decide, isZero_eq_false some_time, Bool.false_eq_true, if_false] at hd
    cases hs : sum (d.busyUntil.later now)
        ((d.contracts.get? executable).getD .none).execution with
    | error overflow => simp [hs, Except.mapError, bind, Except.bind] at hd
    | ok finish =>
      cases hn : d.nearestDeadline executable now with
      | error overflow => simp [hs, hn, Except.mapError, bind, Except.bind] at hd
      | ok nearest =>
        simp only [hs, hn, Except.mapError, bind, Except.bind] at hd
        split at hd
        · cases hd
        · split at hd
          · cases hd
            rfl
          · cases hd

theorem Kept.consistent (h : d.Kept) {row : ExecutableId × Contract} (hr : row ∈ d.contracts) :
    row.2.Consistent := Contract.check_eq_ok_iff.1 (h.checked row hr)

end Desk

namespace RealTime

variable {S : Type}

/-- New terms go into the contract that they extend, and what becomes of it is stored, with the
contracts of all others as they were. Otherwise they are refused and nothing changes, since they
extend no contract or make one that contradicts itself. -/
def Stores (s : RealTime S) (executable : ExecutableId) (terms : Contract.Update) : Prop :=
  (∃ old new contracts, s.desk.Extends executable terms old ∧ old.Merged terms new ∧
    new.Consistent ∧ changeDesk (Desk.setContract executable terms) s =
      (.ok (), { s with desk := { s.desk with contracts := contracts } }) ∧
    ∀ other, contracts.get? other =
      if executable = other then some new else s.desk.contracts.get? other) ∨
  ∃ cause, changeDesk (Desk.setContract executable terms) s = (.error (.refusal cause), s) ∧
    cause.kind = .invalidArgument ∧
    ∀ old new, s.desk.Extends executable terms old → old.Merged terms new → ¬ new.Consistent

/-- A contract that is stored is removed alone. Otherwise there is nothing to remove, and nothing
changes. -/
def Forgets (s : RealTime S) (executable : ExecutableId) : Prop :=
  (∃ c contracts, s.desk.contracts.get? executable = some c ∧
    changeDesk (Desk.removeContract executable) s =
      (.ok (), { s with desk := { s.desk with contracts := contracts } }) ∧
    ∀ other, contracts.get? other =
      if executable = other then none else s.desk.contracts.get? other) ∨
  (s.desk.contracts.get? executable = none ∧
    changeDesk (Desk.removeContract executable) s =
      (.error (.refusal (.noContractStored executable)), s))

theorem stores (s : RealTime S) (executable : ExecutableId) (terms : Contract.Update) :
    s.Stores executable terms := by
  rcases s.desk.setContract_cases executable terms with
    ⟨old, new, extended, merged, consistent, stored⟩ | ⟨cause, refused, kind, wrong⟩
  · left
    refine ⟨old, new, s.desk.contracts.put executable new, extended, merged, consistent, ?_,
      fun other => Table.get?_put _ _ _ _⟩
    simp only [changeDesk, Act.change, stored]
    rfl
  · right
    refine ⟨cause, ?_, kind, wrong⟩
    simp only [changeDesk, Act.change, refused]
    rfl

theorem forgets (s : RealTime S) (executable : ExecutableId) : s.Forgets executable := by
  rcases s.desk.removeContract_cases executable with ⟨c, found, removed⟩ | ⟨absent, refused⟩
  · left
    refine ⟨c, s.desk.contracts.erase executable, found, ?_, Table.get?_erase _ _⟩
    simp only [changeDesk, Act.change, removed]
    rfl
  · right
    refine ⟨absent, ?_⟩
    simp only [changeDesk, Act.change, refused]
    rfl

variable [Dispatcher S]

/-- Whatever has been called, no contract is stored that contradicts itself; new terms are stored,
what they leave out as it was, or refused without a trace, and so are removals. A submission is
turned away only because it misses a deadline or has no contract, never because of a contract that
ought not to be stored. No frame that a decision could divide by is zero, every execution fits into
its frame, and the slack of a contract is never cut off at zero when it is checked. -/
theorem stored_contracts_consistent (multiple : UInt32) (clock : Duration) (backing : S)
    (calls : List Call) :
    let s := run calls ⟨Desk.new multiple, clock, backing⟩
    (∀ row ∈ s.desk.contracts, row.2.Consistent) ∧
    (∀ executable terms, s.Stores executable terms) ∧
    (∀ executable, s.Forgets executable) ∧
    (∀ (executable : ExecutableId) (c : Contract) (tolerance slack : Duration),
      c.check executable = .error (.toleranceExceedsSlack executable tolerance slack) →
        slack.ns + c.execution.ns = c.frameNs) ∧
    ∀ ticket : Ticket,
      (∀ cause, (reserve ticket s).1 = .error (.refusal cause) → cause.kind = .deadlineExceeded) ∧
      ∀ row ∈ (s.noted ticket).contracts, ∀ frame, row.2.frame? = some frame →
        frame.ns ≠ 0 ∧ row.2.execution.ns ≤ frame.ns := by
  intro s
  have kept : s.desk.Kept := kept_run calls (Desk.kept_new multiple)
  refine ⟨fun row hr => kept.consistent hr, stores s, forgets s,
    fun _ _ _ _ h => Contract.slack_exact h, fun ticket => ?_⟩
  have noted : (s.noted ticket).Kept := kept.congr rfl
  refine ⟨fun cause refused => noted.kind_of_decide refused, fun row hr frame hf => ?_⟩
  obtain ⟨rate, same⟩ := Contract.frame?_eq_some hf
  rcases noted.consistent hr with ⟨no_rate, -⟩ | ⟨-, positive, -, fits, -⟩
  · exact absurd no_rate rate
  · rw [same]
    exact ⟨positive, fits⟩

/-- A rate at which a frame would be no time at all is refused, and so is a rate alone; a tolerance
is added. -/
def agreed : List Call :=
  [.setContract ⟨1⟩ ⟨some 30, some ⟨10000000⟩, none⟩, .setContract ⟨1⟩ ⟨some 2000000000, none, none⟩,
    .setContract ⟨2⟩ ⟨some 30, none, none⟩, .setContract ⟨1⟩ ⟨none, none, some ⟨5000000⟩⟩]

/-- The rate is doubled and the execution time is halved. The tolerance stays. -/
theorem sixty_stored : ∃ s : RealTime (Scheduler Watchdog.Idle),
    run agreed ⟨Desk.new 3, .zero, Scheduler.new ⟨⟩⟩ = s ∧
    s.desk.contracts = [(⟨1⟩, thirty)] ∧ thirty.Consistent ∧
    (∃ contracts, changeDesk (Desk.setContract ⟨1⟩ ⟨some 60, some ⟨5000000⟩, none⟩) s =
        (.ok (), { s with desk := { s.desk with contracts := contracts } }) ∧
      contracts.get? ⟨1⟩ = some ⟨60, ⟨5000000⟩, ⟨5000000⟩⟩) ∧
    (Contract.mk 30 ⟨10000000⟩ ⟨30000000⟩).check ⟨1⟩ =
      .error (.toleranceExceedsSlack ⟨1⟩ ⟨30000000⟩ ⟨23333333⟩) ∧
    23333333 + 10000000 = (Contract.mk 30 ⟨10000000⟩ ⟨30000000⟩).frameNs := by
  obtain ⟨consistent, stores, -, exact_slack, -⟩ := stored_contracts_consistent 3 .zero
    (Scheduler.new (⟨⟩ : Watchdog.Idle)) agreed
  generalize hs : run agreed (⟨Desk.new 3, .zero, Scheduler.new ⟨⟩⟩ :
    RealTime (Scheduler Watchdog.Idle)) = s at consistent stores
  have stored : s.desk.contracts = [(⟨1⟩, thirty)] := by
    rw [← hs]
    decide +kernel
  have found : s.desk.contracts.get? ⟨1⟩ = some thirty := by
    rw [stored]
    rfl
  rw [stored] at consistent
  have refused : (Contract.mk 30 ⟨10000000⟩ ⟨30000000⟩).check ⟨1⟩ =
      .error (.toleranceExceedsSlack ⟨1⟩ ⟨30000000⟩ ⟨23333333⟩) := by
    simp [Contract.check, Contract.frame?, Duration.ofRate?, Duration.nsPerSecond,
      Duration.isZero]
  refine ⟨s, rfl, stored, consistent _ List.mem_cons_self, ?_, refused,
    exact_slack _ _ _ _ refused⟩
  rcases stores ⟨1⟩ ⟨some 60, some ⟨5000000⟩, none⟩ with
    ⟨old, new, contracts, extended, merged, -, done, lookup⟩ | ⟨cause, -, -, wrong⟩
  · refine ⟨contracts, done, ?_⟩
    rcases extended with same | ⟨absent, -⟩
    · cases found.symm.trans same
      have whole : new = ⟨60, ⟨5000000⟩, ⟨5000000⟩⟩ := Contract.merged_iff.1 merged
      rw [lookup, if_pos rfl, whole]
    · cases found.symm.trans absent
  · exact absurd (by decide) (wrong thirty ⟨60, ⟨5000000⟩, ⟨5000000⟩⟩ (.inl found) ⟨rfl, rfl, rfl⟩)

end RealTime

end TensorQueue
