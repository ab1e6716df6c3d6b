import TensorQueue.Proofs.Admission.Deadlines
import TensorQueue.Proofs.Admission.Passing
import TensorQueue.Proofs.Tables

/-!
# The decision of the desk

A submission in real-time mode is let through if it would be finished by the
time that everybody else who still counts comes next, with the tolerance of
that one. Nothing else has a say: neither the order in which contracts and
arrivals were stored, nor what the search for the nearest deadline rounds. The
next arrival is a whole number of frames after the last one, in the frame to
come, and the frames to it are counted in a 32-bit word. An executable may be
allowed to stay away for as many frames as the word can hold. If it has stayed
away for exactly as many, the count has no room for the next one, and no
decision is made.
-/

set_option autoImplicit false

namespace TensorQueue

namespace Desk

/-- One contract for each executable, and every one of them has passed its check. -/
structure Kept (d : Desk) : Prop where
  keys : (d.contracts.map Prod.fst).Nodup
  checked : ∀ row ∈ d.contracts, row.2.check row.1 = .ok ()

section Kept

variable {d e : Desk} {executable : ExecutableId}

theorem kept_new (multiple : UInt32) : (Desk.new multiple).Kept :=
  ⟨List.nodup_nil, by simp [Desk.new]⟩

theorem Kept.congr (h : d.Kept) (hc : e.contracts = d.contracts) : e.Kept := by
  constructor
  · rw [hc]
    exact h.keys
  · rw [hc]
    exact h.checked

theorem Kept.setContract {terms : Contract.Update} (h : d.Kept)
    (hs : d.setContract executable terms = .ok e) : e.Kept := by
  obtain ⟨base, -, hs⟩ := exists_of_except_bind hs
  obtain ⟨⟨⟩, hc, hs⟩ := exists_of_except_bind hs
  cases hs
  refine ⟨Table.nodup_put h.keys, fun row hr => ?_⟩
  rcases Table.mem_put hr with hr | rfl
  · exact h.checked row hr
  · exact hc

theorem Kept.removeContract (h : d.Kept) (hr : d.removeContract executable = .ok e) : e.Kept := by
  obtain ⟨old, -, hr⟩ := exists_of_except_bind hr
  cases hr
  have fewer := List.filter_sublist (p := (·.1 ≠ executable)) (l := d.contracts)
  rw [← Table.erase_eq_filter] at fewer
  exact ⟨h.keys.sublist (fewer.map _), fun row hrow => h.checked row (fewer.subset hrow)⟩

end Kept

/-- Another executable that counts: it has a contract at a rate, it has come before, and not too
many frames ago. -/
structure Limits (d : Desk) (submitted : ExecutableId) (now : Duration) (other : ExecutableId)
    (c : Contract) (frame last : Duration) : Prop where
  apart : other ≠ submitted
  contract : d.contracts.get? other = some c
  realTime : c.isRealTime = true
  rate : c.frame? = some frame
  arrival : d.arrivals.get? other = some last
  active : now.ns - last.ns ≤ d.multiple.toNat * frame.ns

/-- The whole frames since the last arrival. -/
def framesAway (frame last now : Duration) : Nat := (now.ns - last.ns) / frame.ns

/-- The next arrival is one frame more from the last one than have gone by. -/
def nextArrival (frame last now : Duration) : Nat :=
  last.ns + (framesAway frame last now + 1) * frame.ns

/-- Until when the hardware must be free for the next arrival. -/
def due (c : Contract) (frame last now : Duration) : Nat :=
  nextArrival frame last now + c.tolerance.ns

/-- The execution time in the contract, if there is one. -/
def runtime (d : Desk) (executable : ExecutableId) : Nat :=
  ((d.contracts.get? executable).getD .none).execution.ns

/-- When a submission that comes now would be finished. -/
def finish (d : Desk) (executable : ExecutableId) (now : Duration) : Nat :=
  max d.busyUntil.ns now.ns + d.runtime executable

/-- A submission that comes now would be finished by the time that each of the others is due. -/
def OnTime (d : Desk) (submitted : ExecutableId) (now : Duration) : Prop :=
  ∀ other c frame last, d.Limits submitted now other c frame last →
    d.finish submitted now ≤ due c frame last now

/-- All sums that the decision is made of can be held. -/
structure Room (d : Desk) (submitted : ExecutableId) (now : Duration) : Prop where
  finish : d.finish submitted now < Duration.limit
  due : ∀ other c frame last, d.Limits submitted now other c frame last →
    due c frame last now < Duration.limit

/-- The frames to the next arrival of each of the others can be counted in a 32-bit word. -/
def Countable (d : Desk) (submitted : ExecutableId) (now : Duration) : Prop :=
  ∀ other c frame last, d.Limits submitted now other c frame last →
    framesAway frame last now + 1 < UInt32.size

/-- The earliest of the deadlines that the others set. -/
structure Nearest (d : Desk) (submitted : ExecutableId) (now : Duration) (found : Option Duration) :
    Prop where
  least : ∀ other c frame last, d.Limits submitted now other c frame last →
    ∃ x, found = some x ∧ x.ns ≤ due c frame last now
  attained : ∀ x, found = some x → ∃ other c frame last,
    d.Limits submitted now other c frame last ∧ x.ns = due c frame last now

section Deadlines

variable {d : Desk} {submitted other : ExecutableId} {now frame last : Duration} {c : Contract}

theorem Kept.frame_pos (h : d.Kept) (hl : d.Limits submitted now other c frame last) :
    0 < frame.ns := by
  have fits := Contract.fits_of_check (h.checked _ (Table.mem_of_get? hl.contract)) hl.rate
  omega

theorem Limits.framesAway_le (h : d.Limits submitted now other c frame last) :
    framesAway frame last now ≤ d.multiple.toNat :=
  Nat.div_le_of_le_mul (by rw [Nat.mul_comm]; exact h.active)

/-- The next arrival lies in the frame to come. -/
theorem Kept.nextArrival_bounds (h : d.Kept) (hl : d.Limits submitted now other c frame last)
    (past : last.ns ≤ now.ns) :
    now.ns < nextArrival frame last now ∧ nextArrival frame last now ≤ now.ns + frame.ns := by
  have whole := Nat.div_add_mod (now.ns - last.ns) frame.ns
  have part := Nat.mod_lt (now.ns - last.ns) (h.frame_pos hl)
  rw [nextArrival, framesAway, Nat.add_mul, Nat.one_mul, Nat.mul_comm _ frame.ns]
  omega

/-- There is but one way in which the frames to it cannot be counted. -/
theorem Limits.countable_or (h : d.Limits submitted now other c frame last) :
    framesAway frame last now + 1 < UInt32.size ∨
      d.multiple.toNat = UInt32.size - 1 ∧ now.ns - last.ns = d.multiple.toNat * frame.ns := by
  have few := h.framesAway_le
  have word := d.multiple.toNat_lt
  have size : UInt32.size = 4294967296 := rfl
  by_cases hc : framesAway frame last now + 1 < UInt32.size
  · exact .inl hc
  · have all : framesAway frame last now = d.multiple.toNat := by omega
    have least : frame.ns * d.multiple.toNat ≤ now.ns - last.ns := by
      rw [← all]
      exact Nat.mul_div_le _ _
    rw [Nat.mul_comm] at least
    refine .inr ⟨by omega, Nat.le_antisymm h.active least⟩

theorem sum_of_lt {a b : Duration} (h : a.ns + b.ns < Duration.limit) :
    sum a b = .ok ⟨a.ns + b.ns⟩ := sum_eq_ok_iff.2 ⟨h, rfl⟩

theorem Limits.stays (h : d.Limits submitted now other c frame last) :
    ¬(frame.ns * d.multiple.toNat < now.ns - last.ns ∨
      UInt32.size ≤ (now.ns - last.ns) / frame.ns) := by
  have few : (now.ns - last.ns) / frame.ns ≤ d.multiple.toNat := h.framesAway_le
  have word : d.multiple.toNat < UInt32.size := d.multiple.toNat_lt
  have active := h.active
  rw [Nat.mul_comm] at active
  omega

theorem Limits.deadline_eq (h : d.Limits submitted now other c frame last)
    (room : due c frame last now < Duration.limit)
    (count : framesAway frame last now + 1 < UInt32.size) :
    deadline d.multiple frame c.tolerance last now = .ok (some ⟨due c frame last now⟩) := by
  have counted : ¬ UInt32.size ≤ (now.ns - last.ns) / frame.ns + 1 := Nat.not_le_of_lt count
  rw [due, nextArrival, Nat.mul_comm, framesAway] at room
  rw [deadline, if_neg h.stays, if_neg counted]
  simp only [sum_of_lt (a := last) (b := ⟨frame.ns * _⟩) (Nat.lt_of_le_of_lt (Nat.le_add_right _ _)
    room), bind, Except.bind]
  rw [sum_of_lt room, due, nextArrival, framesAway, Nat.mul_comm]
  rfl

theorem Limits.deadline_of_uncounted (h : d.Limits submitted now other c frame last)
    (count : ¬ framesAway frame last now + 1 < UInt32.size) :
    deadline d.multiple frame c.tolerance last now = .error .addOverflow := by
  have uncounted : UInt32.size ≤ (now.ns - last.ns) / frame.ns + 1 := Nat.le_of_not_lt count
  rw [deadline, if_neg h.stays, if_pos uncounted]

theorem Limits.constraint_eq (h : d.Limits submitted now other c frame last) :
    d.constraint submitted now (other, c) =
      deadline d.multiple frame c.tolerance last now := by
  simp only [constraint, h.rate, h.arrival, h.apart, h.realTime, Bool.not_true, Bool.false_eq_true,
    or_self, if_false]

/-- Each contract sets the deadline of an executable that counts, or none, if the frames can be
counted. -/
theorem Kept.constraint_cases (h : d.Kept) (room : d.Room submitted now)
    {row : ExecutableId × Contract} (hr : row ∈ d.contracts) :
    (∃ frame last, d.Limits submitted now row.1 row.2 frame last ∧
        (framesAway frame last now + 1 < UInt32.size →
          d.constraint submitted now row = .ok (some ⟨due row.2 frame last now⟩)) ∧
        (¬ framesAway frame last now + 1 < UInt32.size →
          d.constraint submitted now row = .error .addOverflow)) ∨
      ((∀ frame last, ¬ d.Limits submitted now row.1 row.2 frame last) ∧
        d.constraint submitted now row = .ok none) := by
  by_cases hl : ∃ frame last, d.Limits submitted now row.1 row.2 frame last
  · obtain ⟨frame, last, limits⟩ := hl
    refine .inl ⟨frame, last, limits, fun count => ?_, fun count => ?_⟩
    · exact limits.constraint_eq.trans (limits.deadline_eq (room.due _ _ _ _ limits) count)
    · exact limits.constraint_eq.trans (limits.deadline_of_uncounted count)
  · have free : ∀ frame last, ¬ d.Limits submitted now row.1 row.2 frame last :=
      fun frame last limits => hl ⟨frame, last, limits⟩
    refine .inr ⟨free, ?_⟩
    rw [constraint]
    split
    · rename_i frame last hf ha
      split
      · rfl
      · rename_i hx
        simp only [not_or, Bool.not_eq_true', Bool.not_eq_false] at hx
        have idle : d.multiple.toNat * frame.ns < now.ns - last.ns :=
          Nat.lt_of_not_le fun active =>
            free frame last ⟨hx.1, Table.get?_of_mem h.keys hr, hx.2, hf, ha, active⟩
        rw [deadline, if_pos (.inl (by rwa [Nat.mul_comm]))]
    · rfl

theorem eq_some_of_earlier {o own : Option Duration} {x : Duration} (h : earlier o own = some x) :
    o = some x ∨ own = some x := by
  cases o with
  | none => exact .inr h
  | some a =>
    cases own with
    | none => exact .inl h
    | some b =>
      rw [earlier] at h
      split at h
      · exact .inr h
      · exact .inl h

/-- If every row sets a deadline or none, the search ends, and finds one of them if anything. -/
theorem exists_of_fold {rows : List (ExecutableId × Contract)}
    (h : ∀ row ∈ rows, ∃ own, d.constraint submitted now row = .ok own) (o : Option Duration) :
    ∃ r, rows.foldlM (fun nearest row => do
        return earlier nearest (← d.constraint submitted now row)) o = .ok r ∧
      ∀ x, r = some x → o = some x ∨
        ∃ row ∈ rows, d.constraint submitted now row = .ok (some x) := by
  induction rows generalizing o with
  | nil => exact ⟨o, rfl, fun x hx => .inl hx⟩
  | cons first rest ih =>
    obtain ⟨⟨own, hown⟩, others⟩ := List.forall_mem_cons.1 h
    obtain ⟨r, hr, found⟩ := ih others (earlier o own)
    refine ⟨r, ?_, fun x hx => ?_⟩
    · rw [List.foldlM_cons, hown]
      exact hr
    · rcases found x hx with he | ⟨row, hrow, hc⟩
      · rcases eq_some_of_earlier he with ho | rfl
        · exact .inl ho
        · exact .inr ⟨first, List.mem_cons_self, hown⟩
      · exact .inr ⟨row, List.mem_cons_of_mem _ hrow, hc⟩

/-- If one row is aborted like this, and no other in another way, so is the search. -/
theorem fold_of_error {rows : List (ExecutableId × Contract)} {cause : Abort}
    (h : ∀ row ∈ rows, (∃ own, d.constraint submitted now row = .ok own) ∨
      d.constraint submitted now row = .error cause)
    (some_row : ∃ row ∈ rows, d.constraint submitted now row = .error cause) (o : Option Duration) :
    rows.foldlM (fun nearest row => do
      return earlier nearest (← d.constraint submitted now row)) o = .error cause := by
  induction rows generalizing o with
  | nil =>
    obtain ⟨row, hrow, -⟩ := some_row
    cases hrow
  | cons first rest ih =>
    obtain ⟨hfirst, others⟩ := List.forall_mem_cons.1 h
    rw [List.foldlM_cons]
    rcases hfirst with ⟨own, hown⟩ | hown
    · rw [hown]
      apply ih others
      obtain ⟨row, hrow, hc⟩ := some_row
      rcases List.mem_cons.1 hrow with rfl | hrow
      · cases hown.symm.trans hc
      · exact ⟨row, hrow, hc⟩
    · rw [hown]
      rfl

theorem Kept.nearestDeadline (h : d.Kept) (room : d.Room submitted now)
    (count : d.Countable submitted now) :
    ∃ r, d.nearestDeadline submitted now = .ok r ∧ d.Nearest submitted now r := by
  have rows : ∀ row ∈ d.contracts, (∃ frame last, d.Limits submitted now row.1 row.2 frame last ∧
        d.constraint submitted now row = .ok (some ⟨due row.2 frame last now⟩)) ∨
      ((∀ frame last, ¬ d.Limits submitted now row.1 row.2 frame last) ∧
        d.constraint submitted now row = .ok none) := by
    intro row hr
    rcases h.constraint_cases room hr with ⟨frame, last, hl, hc, -⟩ | free
    · exact .inl ⟨frame, last, hl, hc (count _ _ _ _ hl)⟩
    · exact .inr free
  have ends : ∀ row ∈ d.contracts, ∃ own, d.constraint submitted now row = .ok own := by
    intro row hr
    rcases rows row hr with ⟨frame, last, -, hc⟩ | ⟨-, hc⟩ <;> exact ⟨_, hc⟩
  obtain ⟨r, hr, found⟩ := exists_of_fold ends none
  refine ⟨r, hr, fun other c frame last hl => ?_, fun x hx => ?_⟩
  · have hm := Table.mem_of_get? hl.contract
    obtain ⟨own, hown, least⟩ := (le_of_fold hr).2 _ hm
    rcases rows (other, c) hm with ⟨frame', last', hl', hc⟩ | ⟨free, -⟩
    · obtain rfl : frame = frame' := Option.some.inj (hl.rate.symm.trans hl'.rate)
      obtain rfl : last = last' := Option.some.inj (hl.arrival.symm.trans hl'.arrival)
      cases hown.symm.trans hc
      exact least _ rfl
    · exact absurd hl (free frame last)
  · rcases found x hx with hn | ⟨row, hm, hrow⟩
    · cases hn
    · rcases rows row hm with ⟨frame, last, hl, hc⟩ | ⟨-, hc⟩
      · cases hrow.symm.trans hc
        exact ⟨row.1, row.2, frame, last, hl, rfl⟩
      · cases hrow.symm.trans hc

theorem Kept.nearestDeadline_of_uncounted (h : d.Kept) (room : d.Room submitted now)
    (count : ¬ d.Countable submitted now) :
    d.nearestDeadline submitted now = .error .addOverflow := by
  simp only [Countable, not_forall] at count
  obtain ⟨other, c, frame, last, hl, uncounted⟩ := count
  apply fold_of_error
  · intro row hr
    rcases h.constraint_cases room hr with ⟨frame, last, -, counted, uncounted⟩ | ⟨-, hc⟩
    · by_cases hc : framesAway frame last now + 1 < UInt32.size
      · exact .inl ⟨_, counted hc⟩
      · exact .inr (uncounted hc)
    · exact .inl ⟨_, hc⟩
  · exact ⟨(other, c), Table.mem_of_get? hl.contract,
      hl.constraint_eq.trans (hl.deadline_of_uncounted uncounted)⟩

/-- There is but one earliest deadline. -/
theorem Nearest.unique {r r' : Option Duration} (h : d.Nearest submitted now r)
    (h' : d.Nearest submitted now r') : r = r' := by
  have below : ∀ {a b : Option Duration}, d.Nearest submitted now a → d.Nearest submitted now b →
      ∀ x, a = some x → ∃ y, b = some y ∧ y.ns ≤ x.ns := by
    intro a b ha hb x hx
    obtain ⟨other, c, frame, last, hl, heq⟩ := ha.attained x hx
    rw [heq]
    exact hb.least other c frame last hl
  cases r with
  | none =>
    cases r' with
    | none => rfl
    | some y =>
      obtain ⟨x, hx, -⟩ := below h' h y rfl
      cases hx
  | some x =>
    obtain ⟨y, rfl, hle⟩ := below h h' x rfl
    obtain ⟨z, hz, hle'⟩ := below h' h y rfl
    cases hz
    obtain ⟨n⟩ := x
    obtain ⟨m⟩ := y
    obtain rfl : m = n := Nat.le_antisymm hle hle'
    rfl

end Deadlines

/-- The same terms, arrivals and bookings, stored in whatever order. -/
structure Agrees (d e : Desk) : Prop where
  enabled : e.enabled = d.enabled
  contracts : ∀ x, e.contracts.get? x = d.contracts.get? x
  arrivals : ∀ x, e.arrivals.get? x = d.arrivals.get? x
  busyUntil : e.busyUntil = d.busyUntil
  multiple : e.multiple = d.multiple

section Decisions

variable {d e : Desk} {submitted other : ExecutableId} {now frame last : Duration} {c : Contract}
  {id : UInt64}

theorem limits_noteArrival {time : Duration} :
    (d.noteArrival submitted time).Limits submitted now other c frame last ↔
      d.Limits submitted now other c frame last := by
  have same : other ≠ submitted →
      (d.noteArrival submitted time).arrivals.get? other = d.arrivals.get? other := by
    intro apart
    rw [noteArrival, Table.get?_put, if_neg (Ne.symm apart)]
  constructor
  · rintro ⟨apart, contract, realTime, rate, arrival, active⟩
    exact ⟨apart, contract, realTime, rate, (same apart).symm.trans arrival, active⟩
  · rintro ⟨apart, contract, realTime, rate, arrival, active⟩
    exact ⟨apart, contract, realTime, rate, (same apart).trans arrival, active⟩

theorem Agrees.limits (h : d.Agrees e) : e.Limits submitted now other c frame last ↔
    d.Limits submitted now other c frame last := by
  constructor
  · rintro ⟨apart, contract, realTime, rate, arrival, active⟩
    exact ⟨apart, (h.contracts other).symm.trans contract, realTime, rate,
      (h.arrivals other).symm.trans arrival, by rwa [← h.multiple]⟩
  · rintro ⟨apart, contract, realTime, rate, arrival, active⟩
    exact ⟨apart, (h.contracts other).trans contract, realTime, rate,
      (h.arrivals other).trans arrival, by rwa [h.multiple]⟩

theorem Agrees.noteArrival (h : d.Agrees e) (time : Duration) :
    (d.noteArrival submitted time).Agrees (e.noteArrival submitted time) := by
  refine ⟨h.enabled, h.contracts, fun x => ?_, h.busyUntil, h.multiple⟩
  simp only [Desk.noteArrival, Table.get?_put, h.arrivals]

theorem Agrees.room (h : d.Agrees e) (room : d.Room submitted now) : e.Room submitted now := by
  constructor
  · rw [finish, runtime, h.busyUntil, h.contracts]
    exact room.finish
  · exact fun other c frame last hl => room.due other c frame last (h.limits.1 hl)

theorem Agrees.countable (h : d.Agrees e) : e.Countable submitted now ↔ d.Countable submitted now :=
  ⟨fun hc other c frame last hl => hc other c frame last (h.limits.2 hl),
    fun hc other c frame last hl => hc other c frame last (h.limits.1 hl)⟩

theorem Agrees.nearest {r : Option Duration} (h : d.Agrees e) (hn : e.Nearest submitted now r) :
    d.Nearest submitted now r := by
  refine ⟨fun other c frame last hl => hn.least other c frame last (h.limits.2 hl), fun x hx => ?_⟩
  obtain ⟨other, c, frame, last, hl, heq⟩ := hn.attained x hx
  exact ⟨other, c, frame, last, h.limits.1 hl, heq⟩

theorem isZero_eq_false (h : 0 < d.runtime submitted) :
    ((d.contracts.get? submitted).getD .none).execution.isZero = false := by
  have some : ((d.contracts.get? submitted).getD .none).execution.ns ≠ 0 := Nat.ne_of_gt h
  simpa [Duration.isZero] using some

theorem Room.sum_eq (room : d.Room submitted now) :
    sum (d.busyUntil.later now) ((d.contracts.get? submitted).getD .none).execution =
      .ok ⟨d.finish submitted now⟩ := by
  have fits := room.finish
  rw [Desk.finish, ← Duration.ns_later] at fits
  rw [sum_of_lt fits, Desk.finish, ← Duration.ns_later]
  rfl

/-- Without an execution time there is no real-time contract, and no admission. -/
theorem Kept.decide_of_zero (h : d.Kept) (hz : d.runtime submitted = 0) :
    d.decide id submitted now = .error (.refusal (.notRealTime submitted)) := by
  have zero : ((d.contracts.get? submitted).getD .none).execution.isZero = true := by
    simpa [Duration.isZero, runtime] using hz
  have free : ((d.contracts.get? submitted).getD .none).fps = 0 := by
    cases hc : d.contracts.get? submitted with
    | none => rfl
    | some c =>
      have checked := h.checked _ (Table.mem_of_get? hc)
      rw [hc, Option.getD_some] at zero
      cases hf : c.frame? with
      | none => exact Duration.ofRate?_eq_none_iff.1 hf
      | some frame =>
        have positive : 0 < c.execution.ns := (Contract.fits_of_check checked hf).1
        simp only [Duration.isZero, decide_eq_true_eq] at zero
        omega
  simp only [Desk.decide, zero, free, if_true]

theorem Kept.decide_of_onTime (h : d.Kept) (room : d.Room submitted now)
    (count : d.Countable submitted now) (hz : 0 < d.runtime submitted)
    (onTime : d.OnTime submitted now) :
    d.decide id submitted now = .ok ⟨d.finish submitted now⟩ := by
  obtain ⟨nearest, hn, spec⟩ := h.nearestDeadline room count
  refine decide_eq_ok_iff.2 ⟨isZero_eq_false hz, room.sum_eq, nearest, hn, fun x hx => ?_⟩
  obtain ⟨other, c, frame, last, hl, heq⟩ := spec.attained x hx
  rw [heq]
  exact onTime other c frame last hl

theorem Kept.decide_of_late (h : d.Kept) (room : d.Room submitted now)
    (count : d.Countable submitted now) (hz : 0 < d.runtime submitted)
    (late : ¬ d.OnTime submitted now) :
    ∃ nearest, d.decide id submitted now =
      .error (.refusal (.deadlineMissed id submitted ⟨d.finish submitted now⟩ nearest)) := by
  obtain ⟨found, hn, spec⟩ := h.nearestDeadline room count
  simp only [OnTime, not_forall, Nat.not_le] at late
  obtain ⟨other, c, frame, last, hl, missed⟩ := late
  obtain ⟨x, rfl, hle⟩ := spec.least other c frame last hl
  have missed : x.ns < d.finish submitted now := Nat.lt_of_le_of_lt hle missed
  refine ⟨x, ?_⟩
  simp [Desk.decide, isZero_eq_false hz, room.sum_eq, hn, Except.mapError, bind, Except.bind,
    missed]

/-- If the frames cannot be counted there is no decision. -/
theorem Kept.decide_of_uncounted (h : d.Kept) (room : d.Room submitted now)
    (count : ¬ d.Countable submitted now) (hz : 0 < d.runtime submitted) :
    d.decide id submitted now = .error (.abort .addOverflow) := by
  simp [Desk.decide, isZero_eq_false hz, room.sum_eq, h.nearestDeadline_of_uncounted room count,
    Except.mapError, bind, Except.bind]

/-- The decision depends on what is stored, not on the order in which it is. -/
theorem Kept.decide_congr (h : d.Kept) (he : e.Kept) (agrees : d.Agrees e)
    (room : 0 < d.runtime submitted → d.Room submitted now) :
    e.decide id submitted now = d.decide id submitted now := by
  have same : e.runtime submitted = d.runtime submitted := by
    rw [runtime, runtime, agrees.contracts]
  rcases Nat.eq_zero_or_pos (d.runtime submitted) with hz | hz
  · rw [h.decide_of_zero hz, he.decide_of_zero (same.trans hz)]
  · by_cases count : d.Countable submitted now
    · obtain ⟨r, hr, spec⟩ := h.nearestDeadline (room hz) count
      obtain ⟨r', hr', spec'⟩ := he.nearestDeadline (agrees.room (room hz)) (agrees.countable.2 count)
      obtain rfl : r = r' := spec.unique (agrees.nearest spec')
      simp only [Desk.decide, hr, hr', agrees.contracts, agrees.busyUntil]
    · rw [h.decide_of_uncounted (room hz) count hz, he.decide_of_uncounted
        (agrees.room (room hz)) (mt agrees.countable.1 count) (same ▸ hz)]

end Decisions

end Desk

namespace RealTime

open Dispatcher Desk

variable {S : Type} [Dispatcher S]

/-- The contracts stay checked, whatever is called. -/
theorem kept_run (calls : List Call) {s : RealTime S} (h : s.desk.Kept) :
    (run calls s).desk.Kept := by
  induction calls generalizing s with
  | nil => exact h
  | cons call rest ih =>
    refine ih ?_
    cases call with
    | submit offer =>
      cases he : s.desk.enabled with
      | false =>
        rw [after, submit_of_disabled offer he]
        exact h
      | true =>
        rcases submit_cases offer he with ⟨fault, -, hs⟩ | ⟨finish, -, outcome, backing, -, hs⟩
        all_goals
          rw [after, hs]
          exact h.congr rfl
    | setContract executable terms =>
      rcases changeDesk_cases (Desk.setContract executable terms) s with
        ⟨d, hd, hs⟩ | ⟨cause, -, hs⟩
      · rw [after, hs]
        exact h.setContract hd
      · rw [after, hs]
        exact h
    | removeContract executable =>
      rcases changeDesk_cases (Desk.removeContract executable) s with ⟨d, hd, hs⟩ | ⟨cause, -, hs⟩
      · rw [after, hs]
        exact h.removeContract hd
      · rw [after, hs]
        exact h
    | setEnabled on => exact h.congr rfl
    | _ => exact h

/-- The dispatcher behind is asked for just this submission, and answers it. -/
structure Forwards (s : RealTime S) (offer : Offer) : Prop where
  outcome : (Dispatcher.submit offer s).1 = (Dispatcher.submit offer s.backing).1
  backing : (Dispatcher.submit offer s).2.backing = (Dispatcher.submit offer s.backing).2
  asked : ((s.recording []).after (.submit offer)).backing.demands = [.submit offer]

/-- The submission misses a deadline, and the dispatcher behind is not asked. -/
structure Refuses (s : RealTime S) (offer : Offer) : Prop where
  outcome : ∃ cause, cause.kind = .deadlineExceeded ∧
    (Dispatcher.submit offer s).1 = .error (.refusal cause)
  backing : (Dispatcher.submit offer s).2.backing = s.backing
  asked : ((s.recording []).after (.submit offer)).backing.demands = []

section Decision

variable {s : RealTime S} {offer : Offer}

theorem forwards_of_decide {finish : Duration}
    (h : (s.noted offer.ticket).decide offer.ticket.id offer.ticket.executable s.clock =
      .ok finish) : s.Forwards offer := by
  have stays : s.turnsAway (.submit offer) = false := by
    simp [turnsAway, h, Except.isOk, Except.toBool]
  obtain ⟨outcome, backing⟩ := submit_passed stays
  refine ⟨outcome, backing, ?_⟩
  rw [after_recording, passes, stays]
  rfl

theorem refuses_of_decide {cause : Error} (enabled : s.desk.enabled = true)
    (hk : cause.kind = .deadlineExceeded)
    (h : (s.noted offer.ticket).decide offer.ticket.id offer.ticket.executable s.clock =
      .error (.refusal cause)) : s.Refuses offer := by
  have away : s.turnsAway (.submit offer) = true := by
    simp [turnsAway, enabled, h, Except.isOk, Except.toBool]
  refine ⟨⟨cause, hk, ?_⟩, submit_turnedAway away, ?_⟩
  · rcases submit_cases offer enabled with ⟨fault, hd, hs⟩ | ⟨finish, hd, -⟩
    · cases h.symm.trans hd
      rw [hs]
    · cases h.symm.trans hd
  · rw [after_recording, passes, away]
    rfl

/-- In real-time mode a submission depends on the desk through its decision alone. -/
theorem submit_congr {desk : Desk} (enabled : s.desk.enabled = true) (on : desk.enabled = true)
    (h : (desk.noteArrival offer.ticket.executable s.clock).decide offer.ticket.id
        offer.ticket.executable s.clock =
      (s.noted offer.ticket).decide offer.ticket.id offer.ticket.executable s.clock) :
    (Dispatcher.submit offer { s with desk := desk }).1 = (Dispatcher.submit offer s).1 ∧
      (Dispatcher.submit offer { s with desk := desk }).2.backing =
        (Dispatcher.submit offer s).2.backing := by
  rcases submit_cases offer enabled with ⟨fault, hd, hs⟩ | ⟨finish, hd, outcome, backing, hb, hs⟩
  all_goals
    rcases submit_cases (s := { s with desk := desk }) offer on with
      ⟨fault', hd', hs'⟩ | ⟨finish', hd', outcome', backing', hb', hs'⟩
    all_goals cases (h.trans hd).symm.trans hd'
  · rw [hs, hs']
    exact ⟨rfl, rfl⟩
  · cases hb.symm.trans hb'
    rw [hs, hs']
    exact ⟨rfl, rfl⟩

/-- The decision on a submission in real-time mode, for contracts that have passed their checks and
arrivals that lie in the past. Without an execution time the submission is refused. Otherwise, if
all sums can be held and the frames can be counted, it goes to the dispatcher behind if it would be
finished by the time each of the others is due, and is refused if not. The next arrival of each of
them lies in the frame to come. The frames to it can be counted but for the one case of an
executable that may stay away for as many frames as a word can hold, and has done so to the
nanosecond: then the submission is aborted, and only its arrival has been noted. The order in which
anything was stored does not matter. -/
theorem decision_exact (offer : Offer) (enabled : s.desk.enabled = true) (kept : s.desk.Kept)
    (past : ∀ x last, s.desk.arrivals.get? x = some last → last.ns ≤ s.clock.ns) :
    let submitted := offer.ticket.executable
    (s.desk.runtime submitted = 0 → s.Refuses offer) ∧
    (0 < s.desk.runtime submitted → s.desk.Room submitted s.clock →
      (s.desk.Countable submitted s.clock →
        (s.desk.OnTime submitted s.clock → s.Forwards offer) ∧
        (¬ s.desk.OnTime submitted s.clock → s.Refuses offer)) ∧
      (¬ s.desk.Countable submitted s.clock → Dispatcher.submit offer s =
        (.error (.abort .addOverflow), { s with desk := s.noted offer.ticket }))) ∧
    (∀ other c frame last, s.desk.Limits submitted s.clock other c frame last →
      s.clock.ns < nextArrival frame last s.clock ∧
        nextArrival frame last s.clock ≤ s.clock.ns + frame.ns ∧
        (framesAway frame last s.clock + 1 < UInt32.size ∨
          s.desk.multiple.toNat = UInt32.size - 1 ∧
            s.clock.ns - last.ns = s.desk.multiple.toNat * frame.ns)) ∧
    (∀ desk : Desk, desk.Kept → s.desk.Agrees desk →
      (0 < s.desk.runtime submitted → s.desk.Room submitted s.clock) →
      (Dispatcher.submit offer { s with desk := desk }).1 = (Dispatcher.submit offer s).1 ∧
        (Dispatcher.submit offer { s with desk := desk }).2.backing =
          (Dispatcher.submit offer s).2.backing) := by
  intro submitted
  have checked : (s.noted offer.ticket).Kept := kept.congr rfl
  have room : s.desk.Room submitted s.clock → (s.noted offer.ticket).Room submitted s.clock :=
    fun h => ⟨h.finish, fun other c frame last hl =>
      h.due other c frame last (limits_noteArrival.1 hl)⟩
  have same : (s.noted offer.ticket).OnTime submitted s.clock ↔ s.desk.OnTime submitted s.clock :=
    ⟨fun h other c frame last hl => h other c frame last (limits_noteArrival.2 hl),
      fun h other c frame last hl => h other c frame last (limits_noteArrival.1 hl)⟩
  have counted : (s.noted offer.ticket).Countable submitted s.clock ↔
      s.desk.Countable submitted s.clock :=
    ⟨fun h other c frame last hl => h other c frame last (limits_noteArrival.2 hl),
      fun h other c frame last hl => h other c frame last (limits_noteArrival.1 hl)⟩
  refine ⟨fun hz => ?_, fun hz hr => ⟨fun count => ⟨fun onTime => ?_, fun late => ?_⟩,
    fun uncounted => ?_⟩, fun other c frame last hl => ?_, fun desk hk agrees hr => ?_⟩
  · exact refuses_of_decide enabled rfl (checked.decide_of_zero hz)
  · exact forwards_of_decide
      (checked.decide_of_onTime (room hr) (counted.2 count) hz (same.2 onTime))
  · obtain ⟨nearest, hd⟩ :=
      checked.decide_of_late (room hr) (counted.2 count) hz fun h => late (same.1 h)
    exact refuses_of_decide enabled rfl hd
  · have decided : Desk.decide offer.ticket.id _ _ _ = .error (.abort .addOverflow) :=
      checked.decide_of_uncounted (room hr) (mt counted.1 uncounted) hz
    rcases submit_cases offer enabled with ⟨fault, hd, hs⟩ | ⟨finish, hd, -⟩
    · cases decided.symm.trans hd
      exact hs
    · cases decided.symm.trans hd
  · obtain ⟨after, soon⟩ := kept.nextArrival_bounds hl (past other last hl.arrival)
    exact ⟨after, soon, hl.countable_or⟩
  · exact submit_congr enabled (agrees.enabled.trans enabled)
      (checked.decide_congr (hk.congr rfl) (agrees.noteArrival s.clock) fun hz => room (hr hz))

section Frames

/-- Thirty frames a second, ten milliseconds for each, and five to be late by. -/
def thirty : Contract := ⟨30, ⟨10000000⟩, ⟨5000000⟩⟩

/-- Both executables have come just now, and hardware is booked. -/
def crowded (booked : Duration) : RealTime (Scheduler Watchdog.Idle) :=
  ⟨⟨true, [(⟨1⟩, thirty), (⟨2⟩, thirty)], [(⟨1⟩, .zero), (⟨2⟩, .zero)], booked, 3⟩, .zero,
    Scheduler.new ⟨⟩⟩

theorem crowded_kept (booked : Duration) : (crowded booked).desk.Kept := by
  refine ⟨show [ExecutableId.mk 1, ⟨2⟩].Nodup by decide, fun row hr => ?_⟩
  rcases List.mem_cons.1 hr with rfl | hr
  · rfl
  · obtain rfl := List.mem_singleton.1 hr
    rfl

/-- The other one is due with its second frame. -/
theorem crowded_limits {booked : Duration} {other : ExecutableId} {c : Contract}
    {frame last : Duration} : (crowded booked).desk.Limits ⟨1⟩ .zero other c frame last ↔
      other = ⟨2⟩ ∧ c = thirty ∧ frame = ⟨33333333⟩ ∧ last = .zero := by
  constructor
  · rintro ⟨apart, contract, -, rate, arrival, -⟩
    simp only [crowded, Table.get?, Ne.symm apart, if_false, Option.ite_none_right_eq_some,
      Option.some.injEq] at contract arrival
    obtain ⟨rfl, rfl⟩ := contract
    exact ⟨rfl, rfl, (Option.some.inj rate).symm, arrival.2.symm⟩
  · rintro ⟨rfl, rfl, rfl, rfl⟩
    exact ⟨by decide, rfl, rfl, rfl, rfl, Nat.zero_le _⟩

theorem fourth_frame_refused :
    (crowded ⟨20000000⟩).Forwards (offerOf ⟨1⟩) ∧ (crowded ⟨30000000⟩).Refuses (offerOf ⟨1⟩) := by
  have past : ∀ booked x last, (crowded booked).desk.arrivals.get? x = some last →
      last.ns ≤ (crowded booked).clock.ns := by
    intro booked x last h
    have arrived := Table.mem_of_get? h
    simp only [crowded, List.mem_cons, Prod.mk.injEq, List.not_mem_nil, or_false] at arrived
    rcases arrived with ⟨-, rfl⟩ | ⟨-, rfl⟩ <;> exact Nat.le_refl _
  have room : ∀ booked, booked.ns + 10000000 < Duration.limit →
      (crowded booked).desk.Room ⟨1⟩ .zero := by
    intro booked h
    refine ⟨?_, fun other c frame last hl => ?_⟩
    · rw [Desk.finish, show (Duration.zero).ns = 0 from rfl, Nat.max_zero]
      exact h
    · obtain ⟨-, rfl, rfl, rfl⟩ := crowded_limits.1 hl
      decide
  obtain ⟨-, third, -⟩ := decision_exact (s := crowded ⟨20000000⟩) (offerOf ⟨1⟩) rfl
    (crowded_kept _) (past _)
  obtain ⟨-, fourth, -⟩ := decision_exact (s := crowded ⟨30000000⟩) (offerOf ⟨1⟩) rfl
    (crowded_kept _) (past _)
  have counted : ∀ booked, (crowded booked).desk.Countable ⟨1⟩ .zero := by
    intro booked other c frame last hl
    obtain ⟨-, rfl, rfl, rfl⟩ := crowded_limits.1 hl
    decide
  obtain ⟨taken, -⟩ := third (by decide) (room _ (by decide))
  obtain ⟨refused, -⟩ := fourth (by decide) (room _ (by decide))
  refine ⟨(taken (counted _)).1 fun other c frame last hl => ?_,
    (refused (counted _)).2 fun onTime => ?_⟩
  · obtain ⟨-, rfl, rfl, rfl⟩ := crowded_limits.1 hl
    decide
  · exact absurd (onTime _ _ _ _ (crowded_limits.2 ⟨rfl, rfl, rfl, rfl⟩)) (by decide)

/-- An executable with a frame of a nanosecond stays away for as many frames as a word can count,
which is just as long as it may. -/
def longAway : List Call :=
  [.openUp, .setEnabled true, .setContract ⟨1⟩ (.ofContract ⟨1000000000, ⟨1⟩, .zero⟩),
    .setContract ⟨2⟩ (.ofContract ⟨1000000000, ⟨1⟩, .zero⟩), .submit (offerOf ⟨1⟩),
    .moveClock (.set ⟨4294967295⟩)]

/-- A submission that would be finished by its next arrival is aborted. -/
theorem count_of_frames_overflows : ∃ s : RealTime (Scheduler Watchdog.Idle),
    run longAway ⟨Desk.new 4294967295, .zero, Scheduler.new ⟨⟩⟩ = s ∧
    s.desk.OnTime ⟨2⟩ s.clock ∧
    (Dispatcher.submit (offerOf ⟨2⟩) s).1 = .error (.abort .addOverflow) := by
  refine ⟨_, rfl, ?_, rfl⟩
  rintro other c frame last ⟨apart, contract, -, rate, arrival, -⟩
  have desk : (run longAway (⟨Desk.new 4294967295, .zero, Scheduler.new ⟨⟩⟩ :
      RealTime (Scheduler Watchdog.Idle))).desk =
        ⟨true, [(⟨1⟩, ⟨1000000000, ⟨1⟩, .zero⟩), (⟨2⟩, ⟨1000000000, ⟨1⟩, .zero⟩)], [(⟨1⟩, .zero)],
          ⟨1⟩, 4294967295⟩ := rfl
  have clock : (run longAway (⟨Desk.new 4294967295, .zero, Scheduler.new ⟨⟩⟩ :
      RealTime (Scheduler Watchdog.Idle))).clock = ⟨4294967295⟩ := rfl
  rw [desk] at contract arrival ⊢
  rw [clock]
  simp only [Table.get?, Ne.symm apart, if_false, Option.ite_none_right_eq_some,
    Option.some.injEq] at contract arrival
  obtain ⟨rfl, rfl⟩ := arrival
  obtain ⟨-, rfl⟩ := contract
  obtain rfl := Option.some.inj rate
  decide

end Frames

end Decision

end RealTime

end TensorQueue
