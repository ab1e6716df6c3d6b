import TensorQueue.Proofs.Driver.DoneOnce
import TensorQueue.Proofs.Request.Errands

/-!
# The balance of an account

An account is balanced if its request counts as outstanding the hardware
requests that are prepared and unfinished and the parts that it lacks, and if
its done callback was fired as soon as that was nothing. Every entry keeps the
balance, as long as none of those for which there was no room has ended: these
are not counted, but they report all the same.
-/

set_option autoImplicit false

namespace TensorQueue

theorem Status.firstFailure_concat (before : List Status) (status : Status) :
    firstFailure (before ++ [status]) = (firstFailure before).merge status := by
  have latest := Standing.overall_eq (status :: before.reverse)
  rw [Standing.overall, Standing.overall_eq] at latest
  simpa using latest.symm

/-- The same phase, or the one that comes after it. -/
def Request.Phase.Onward (before after : Phase) : Prop :=
  after = before ∨ before = .initial ∧ after = .prepared ∨ before = .prepared ∧ after = .done

namespace Account

variable {a b : Account} {r q : Request} {key : Nat}

def unfinished (a : Account) : List Nat := a.prepared.filter fun key => a.bond key = .bound

def Unspoilt (a : Account) : Prop := ∀ key ∈ a.stray, a.bond key ≠ .ended

/-- Each hardware request that is or was bound to the request was bound once. -/
structure Keyed (a : Account) : Prop where
  apart : (a.prepared ++ a.stray).Nodup
  known : ∀ key ∈ a.prepared ++ a.stray, a.bond key ≠ .free
  bound : ∀ key, a.bond key = .bound → key ∈ a.prepared ++ a.stray

structure Silent (a : Account) : Prop where
  prepared : a.prepared = []
  stray : a.stray = []
  tidings : a.tidings = []
  dones : a.dones = []

theorem Silent.of_same (h : a.Silent) (hp : b.prepared = a.prepared) (hs : b.stray = a.stray)
    (ht : b.tidings = a.tidings) (hd : b.dones = a.dones) : b.Silent :=
  ⟨hp.trans h.prepared, hs.trans h.stray, ht.trans h.tidings, hd.trans h.dones⟩

structure Tally (r : Request) (a : Account) : Prop where
  required : 0 < r.required
  bounded : r.prepared ≤ r.required
  outstanding : r.outstanding = a.unfinished.length + (r.required - r.prepared)
  status : r.status = Status.firstFailure a.tidings

/-- Under way, or done. -/
def Course (r : Request) (a : Account) : Prop :=
  (r.phase = .prepared ∧ r.hasDone = true ∧ 0 < r.outstanding ∧ a.dones = []) ∨
    (r.phase = .done ∧ r.outstanding = 0 ∧ a.dones = [r.status])

structure Balanced (a : Account) : Prop extends Keyed a where
  batch : ∀ r, a.request = some r → 0 < r.executable.hardwareBatch
  silent : (∀ r, a.request = some r → r.phase = .initial) → a.Silent
  fresh : ∀ r, a.request = some r → r.phase = .initial → r.prepared = 0 ∧ r.status = .ok
  tally : ∀ r, a.request = some r → r.phase ≠ .initial → a.Tally r ∧ a.Course r

section Keys

theorem Keyed.not_mem_of_free (h : a.Keyed) (hf : a.bond key = .free) :
    key ∉ a.prepared ++ a.stray := fun hm => h.known key hm hf

theorem Keyed.not_prepared_of_free (h : a.Keyed) (hf : a.bond key = .free) : key ∉ a.prepared :=
  fun hm => h.not_mem_of_free hf (List.mem_append_left _ hm)

theorem Keyed.mem_prepared (h : a.Keyed) (hb : a.bond key = .bound) (hs : key ∉ a.stray) :
    key ∈ a.prepared := (List.mem_append.1 (h.bound key hb)).resolve_right hs

theorem unfinished_update {bond : Bond} (h : key ∉ a.prepared) :
    a.prepared.filter (fun other => Function.update a.bond key bond other = .bound) =
      a.unfinished := by
  apply List.filter_congr
  intro other ho
  have differs : other ≠ key := ne_of_mem_of_not_mem ho h
  rw [Function.update_of_ne differs]

/-- What has ended is one of the unfinished less. -/
theorem Keyed.length_ended (h : a.Keyed) (hm : key ∈ a.prepared) (hb : a.bond key = .bound) :
    (a.prepared.filter fun other => Function.update a.bond key .ended other = .bound).length + 1 =
      a.unfinished.length := by
  have nodup : a.prepared.Nodup := (List.nodup_append.1 h.apart).1
  have waits : key ∈ a.unfinished := List.mem_filter.2 ⟨hm, by simp [hb]⟩
  have erased : (a.prepared.filter fun other => Function.update a.bond key .ended other = .bound) =
      a.unfinished.erase key := by
    rw [unfinished, (nodup.filter _).erase_eq_filter, List.filter_filter]
    apply List.filter_congr
    intro other ho
    by_cases he : other = key
    · subst he
      simp
    · simp [he]
  rw [erased, List.length_erase_of_mem waits]
  have := List.length_pos_of_mem waits
  omega

theorem Keyed.bind (h : a.Keyed) (hf : a.bond key = .free) {prepared stray : List Nat}
    (hp : (prepared ++ stray).Perm (key :: (a.prepared ++ a.stray))) :
    Keyed { a with toAffairs := a.tie key .bound, prepared := prepared, stray := stray } where
  apart := hp.nodup_iff.2 (List.nodup_cons.2 ⟨h.not_mem_of_free hf, h.apart⟩)
  known other ho := by
    show Function.update a.bond key .bound other ≠ .free
    by_cases he : other = key
    · subst he
      simp
    · rw [Function.update_of_ne he]
      exact h.known other (by simpa [he] using hp.subset ho)
  bound other ho := by
    have ho : Function.update a.bond key .bound other = .bound := ho
    apply hp.symm.subset
    by_cases he : other = key
    · exact he ▸ List.mem_cons_self
    · rw [Function.update_of_ne he] at ho
      exact List.mem_cons_of_mem _ (h.bound other ho)

theorem Keyed.finish (h : a.Keyed) (key : Nat) :
    Keyed { a with toAffairs := a.tie key .ended } where
  apart := h.apart
  known other ho := by
    show Function.update a.bond key .ended other ≠ .free
    by_cases he : other = key
    · subst he
      simp
    · rw [Function.update_of_ne he]
      exact h.known other ho
  bound other ho := by
    have ho : Function.update a.bond key .ended other = .bound := ho
    by_cases he : other = key
    · subst he
      simp at ho
    · rw [Function.update_of_ne he] at ho
      exact h.bound other ho

/-- Nothing is said here of the request, what was heard and the done callback. -/
theorem Keyed.of_same (h : a.Keyed) (hb : b.bond = a.bond) (hp : b.prepared = a.prepared)
    (hs : b.stray = a.stray) : b.Keyed := by
  obtain ⟨⟨request, dones, bond⟩, prepared, stray, tidings⟩ := b
  cases hb
  cases hp
  cases hs
  exact ⟨h.apart, h.known, h.bound⟩

end Keys

@[simp] theorem bond_tell (f : Request → Option Status × Request) (s : Affairs) :
    (s.tell f).bond = s.bond := by
  unfold Affairs.tell
  split <;> rfl

theorem Entered.keyed (h : Entered a b) (ha : a.Keyed) : b.Keyed := by
  cases h with
  | same => exact ha
  | enlisted id hb hr => exact ha.of_same rfl rfl rfl
  | configured hr hp hc => exact ha.of_same rfl rfl rfl
  | abandoned cause hr hp hm => exact ha.of_same (bond_tell _ _) rfl rfl
  | @prepared r key hr hp hm hf =>
    have bound : Keyed { a with
        toAffairs := a.tie key .bound
        prepared := a.prepared ++ [key] } := by
      apply ha.bind hf
      rw [List.append_assoc]
      exact List.perm_middle
    exact bound.of_same rfl rfl rfl
  | @strayed r key hr hp hf =>
    have bound : Keyed { a with toAffairs := a.tie key .bound, stray := a.stray ++ [key] } := by
      apply ha.bind hf
      rw [← List.append_assoc]
      exact List.perm_append_singleton _ _
    exact bound.of_same rfl rfl rfl
  | completed status hf => exact (ha.finish _).of_same rfl rfl rfl
  | settled status stamps hb => exact (ha.finish _).of_same (bond_tell _ _) rfl rfl

section Tallies

theorem Balanced.underway (h : a.Balanced) (hr : a.request = some r) (hp : r.phase = .prepared) :
    a.Tally r ∧ r.hasDone = true ∧ 0 < r.outstanding ∧ a.dones = [] := by
  obtain ⟨tally, ⟨-, hc, more, hs⟩ | ⟨hd, -⟩⟩ := h.tally r hr (by simp [hp])
  · exact ⟨tally, hc, more, hs⟩
  · rw [hp] at hd
    cases hd

/-- Whoever is bound, and not for want of room, is outstanding. -/
theorem Balanced.of_unfinished (h : a.Balanced) (hm : key ∈ a.unfinished) :
    ∃ r, a.request = some r ∧ r.phase = .prepared := by
  have hp : key ∈ a.prepared := (List.mem_filter.1 hm).1
  by_cases hi : ∀ r, a.request = some r → r.phase = .initial
  · rw [(h.silent hi).prepared] at hp
    cases hp
  · simp only [not_forall] at hi
    obtain ⟨r, hr, hi⟩ := hi
    obtain ⟨tally, ⟨hp, -⟩ | ⟨-, ho, -⟩⟩ := h.tally r hr hi
    · exact ⟨r, hr, hp⟩
    · have := tally.outstanding
      have := List.length_pos_of_mem hm
      omega

/-- What an entry has to show for a request that is prepared or done after it. -/
theorem Balanced.of_tally (hk : b.Keyed) (hr : b.request = some q)
    (hb : 0 < q.executable.hardwareBatch) (hp : q.phase ≠ .initial)
    (ht : b.Tally q) (hc : b.Course q) : b.Balanced where
  toKeyed := hk
  batch r h := by
    cases hr.symm.trans h
    exact hb
  silent h := absurd (h q hr) hp
  fresh r h hi := by
    cases hr.symm.trans h
    exact absurd hi hp
  tally r h _ := by
    cases hr.symm.trans h
    exact ⟨ht, hc⟩

/-- Once nothing is outstanding the callback is fired with what was heard. -/
theorem Keyed.balanced_of_takeDone {f : Request → Option Status × Request} (hk : a.Keyed)
    (hr : a.request = some r) (hf : f r = q.takeDone) (ht : a.Tally q)
    (hb : 0 < q.executable.hardwareBatch) (hp : q.phase = .prepared) (hc : q.hasDone = true)
    (hs : a.dones = []) : Balanced { a with toAffairs := a.tell f } := by
  have told : a.tell f = { a.toAffairs with
      request := some q.takeDone.2
      dones := q.takeDone.1.toList } := by
    simp [Affairs.tell, hr, hf, hs]
  rw [told]
  rcases Request.takeDone_cases q with ⟨hq, more⟩ | ⟨ho, -, hq⟩
  · have more : 0 < q.outstanding := Nat.pos_of_ne_zero (more.resolve_right fun hn => hn hp)
    rw [hq]
    exact .of_tally (hk.of_same rfl rfl rfl) rfl hb (by simp [hp])
      ⟨ht.required, ht.bounded, ht.outstanding, ht.status⟩ (.inl ⟨hp, hc, more, rfl⟩)
  · rw [hq, if_pos hc]
    exact .of_tally (hk.of_same rfl rfl rfl) rfl hb (by simp)
      ⟨ht.required, ht.bounded, ht.outstanding, ht.status⟩ (.inr ⟨rfl, ho, rfl⟩)

theorem Balanced.abandon (h : a.Balanced) (cause : Error) (hr : a.request = some r)
    (hp : r.phase = .prepared) (hm : r.remaining ≠ 0) :
    Balanced { a with
      toAffairs := a.tell fun r => r.failUnprepared cause
      tidings := a.tidings ++ [.failed cause] } := by
  obtain ⟨tally, hc, -, hs⟩ := h.underway hr hp
  have given_up : Tally { r with
      prepared := r.required
      outstanding := r.outstanding - r.remaining
      status := r.status.merge (.failed cause) }
      { a with tidings := a.tidings ++ [.failed cause] } := by
    refine ⟨tally.required, Nat.le_refl _, ?_, ?_⟩
    · have out : r.outstanding = a.unfinished.length + r.remaining := tally.outstanding
      show r.outstanding - r.remaining = a.unfinished.length + (r.required - r.required)
      omega
    · rw [Status.firstFailure_concat, tally.status]
  have keyed : Keyed { a with tidings := a.tidings ++ [.failed cause] } :=
    h.toKeyed.of_same rfl rfl rfl
  have taken : r.failUnprepared cause = _ := if_pos ⟨hp, hm⟩
  exact keyed.balanced_of_takeDone hr taken given_up (h.batch r hr) hp hc hs

theorem Balanced.settle (h : a.Balanced) (status : Status) (stamps : Request.Stamps)
    (hm : key ∈ a.prepared) (hb : a.bond key = .bound) :
    Balanced { a with
      toAffairs := (a.tie key .ended).tell fun r => r.partDone stamps status
      tidings := a.tidings ++ [status] } := by
  obtain ⟨r, hr, hp⟩ := h.of_unfinished (List.mem_filter.2 ⟨hm, by simp [hb]⟩)
  obtain ⟨tally, hc, -, hs⟩ := h.underway hr hp
  have reported : Tally { r with
      status := r.status.merge status
      stamps := r.stamps.absorb stamps
      outstanding := r.outstanding - 1 }
      { a with toAffairs := a.tie key .ended, tidings := a.tidings ++ [status] } := by
    refine ⟨tally.required, tally.bounded, ?_, ?_⟩
    · -- It was one of the unfinished, so both sides go down by one.
      have out := tally.outstanding
      have fewer := h.length_ended hm hb
      show r.outstanding - 1 = (a.prepared.filter fun other =>
        Function.update a.bond key .ended other = .bound).length + (r.required - r.prepared)
      omega
    · rw [Status.firstFailure_concat, tally.status]
  have keyed : Keyed { a with
      toAffairs := a.tie key .ended
      tidings := a.tidings ++ [status] } := (h.toKeyed.finish key).of_same rfl rfl rfl
  have taken : r.partDone stamps status = _ := rfl
  exact keyed.balanced_of_takeDone hr taken reported (h.batch r hr) hp hc hs

theorem Balanced.prepare (h : a.Balanced) (hr : a.request = some r) (hp : r.phase = .prepared)
    (hm : r.prepared ≠ r.required) (hf : a.bond key = .free) :
    Balanced { a with
      toAffairs := { a.tie key .bound with request := some { r with prepared := r.prepared + 1 } }
      prepared := a.prepared ++ [key] } := by
  obtain ⟨tally, hc, more, hs⟩ := h.underway hr hp
  have new := h.not_prepared_of_free hf
  have bounded := tally.bounded
  refine .of_tally (Entered.keyed (.prepared hr hp hm hf) h.toKeyed) rfl (h.batch r hr) (by simp [hp])
    ⟨tally.required, ?_, ?_, tally.status⟩ (.inl ⟨hp, hc, more, hs⟩)
  · show r.prepared + 1 ≤ r.required
    omega
  · have one_more : (a.prepared ++ [key]).filter
        (fun other => Function.update a.bond key .bound other = .bound) = a.unfinished ++ [key] := by
      rw [List.filter_append, unfinished_update new]
      simp
    have out := tally.outstanding
    show r.outstanding = ((a.prepared ++ [key]).filter fun other =>
      Function.update a.bond key .bound other = .bound).length + (r.required - (r.prepared + 1))
    rw [one_more, List.length_append, List.length_singleton]
    omega

theorem Balanced.stray (h : a.Balanced) (hr : a.request = some r) (hp : r.phase = .prepared)
    (hf : a.bond key = .free) :
    Balanced { a with toAffairs := a.tie key .bound, stray := a.stray ++ [key] } := by
  obtain ⟨tally, hc, more, hs⟩ := h.underway hr hp
  have new := h.not_prepared_of_free hf
  refine .of_tally (Entered.keyed (.strayed hr hp hf) h.toKeyed) hr (h.batch r hr) (by simp [hp])
    ⟨tally.required, tally.bounded, ?_, tally.status⟩ (.inl ⟨hp, hc, more, hs⟩)
  rw [tally.outstanding]
  exact congrArg (fun keys => List.length keys + _) (unfinished_update new).symm

theorem Balanced.complete (h : a.Balanced) (hf : a.bond key = .free) :
    Balanced { a with toAffairs := a.tie key .ended } := by
  refine ⟨h.toKeyed.finish key, h.batch, fun hi => (h.silent hi).of_same rfl rfl rfl rfl, h.fresh,
    fun r hr hp => ?_⟩
  obtain ⟨tally, course⟩ := h.tally r hr hp
  refine ⟨⟨tally.required, tally.bounded, ?_, tally.status⟩, course⟩
  rw [tally.outstanding]
  exact congrArg (fun keys => List.length keys + _)
    (unfinished_update (h.not_prepared_of_free hf)).symm

/-- A request that is not prepared yet has an account without entries. -/
theorem Balanced.of_initial (hk : b.Keyed) (hr : b.request = some q)
    (hb : 0 < q.executable.hardwareBatch) (hi : q.phase = .initial) (hs : b.Silent)
    (hf : q.prepared = 0 ∧ q.status = .ok) : b.Balanced where
  toKeyed := hk
  batch r h := by
    cases hr.symm.trans h
    exact hb
  silent _ := hs
  fresh r h _ := by
    cases hr.symm.trans h
    exact hf
  tally r h hn := by
    cases hr.symm.trans h
    exact absurd hi hn

theorem Balanced.enlist (h : a.Balanced) (id : UInt64) {executable : Executable}
    (hb : 0 < executable.hardwareBatch) (hr : a.request = none) :
    Balanced { a with request := some (.new id executable) } := by
  have silent := h.silent fun r hn => by
    rw [hr] at hn
    cases hn
  exact .of_initial (h.toKeyed.of_same rfl rfl rfl) rfl hb rfl (silent.of_same rfl rfl rfl rfl)
    ⟨rfl, rfl⟩

theorem Balanced.configure {s : Request} (h : a.Balanced) (hr : a.request = some r)
    (hp : r.phase = .initial) (hc : Books.Configured r s) :
    Balanced { a with request := some s } := by
  have unready : ∀ q, a.request = some q → q.phase = .initial := fun q hq => by
    cases hr.symm.trans hq
    exact hp
  have silent := h.silent unready
  obtain ⟨hprepared, hstatus⟩ := h.fresh r hr hp
  have batch := h.batch r hr
  have keyed : Keyed { a with request := some s } := h.toKeyed.of_same rfl rfl rfl
  rcases hc.phase with hi | ⟨hs, hd, hout, hpos⟩
  · exact .of_initial keyed rfl (hc.executable ▸ batch) hi (silent.of_same rfl rfl rfl rfl)
      ⟨hc.prepared.trans hprepared, hc.status.trans hstatus⟩
  · have required := hpos batch
    refine .of_tally keyed rfl (hc.executable ▸ batch) (by simp [hs]) ⟨required, ?_, ?_, ?_⟩
      (.inl ⟨hs, hd, hout ▸ required, silent.dones⟩)
    · rw [hc.prepared, hprepared]
      exact Nat.zero_le _
    · simp [unfinished, silent.prepared, hout, hc.prepared, hprepared]
    · rw [hc.status, hstatus, silent.tidings]
      rfl

end Tallies

/-- The account stays balanced as long as nothing that had no room completes. -/
theorem Entered.balanced (h : Entered a b) (ha : a.Balanced) (hu : b.Unspoilt) : b.Balanced := by
  cases h with
  | same => exact ha
  | enlisted id hb hr => exact ha.enlist id hb hr
  | configured hr hp hc => exact ha.configure hr hp hc
  | abandoned cause hr hp hm => exact ha.abandon cause hr hp hm
  | prepared hr hp hm hf => exact ha.prepare hr hp hm hf
  | strayed hr hp hf => exact ha.stray hr hp hf
  | completed status hf =>
    rw [if_neg (ha.not_prepared_of_free hf), List.append_nil]
    exact ha.complete hf
  | @settled key status stamps hb =>
    -- It has ended now, so it cannot be one of those for which there was no room.
    have own := ha.mem_prepared hb fun hs => hu key hs
      ((congrFun (bond_tell _ _) key).trans (Function.update_self ..))
    rw [if_pos own]
    exact ha.settle status stamps own hb

/-- What has ended has ended for good. -/
theorem Entered.ended (h : Entered a b) (he : a.bond key = .ended) : b.bond key = .ended := by
  have elsewhere : ∀ {other : Nat} {bond : Bond}, a.bond other ≠ .ended →
      Function.update a.bond other bond key = .ended := fun {other bond} hn => by
    have differs : key ≠ other := fun e => hn (e ▸ he)
    rw [Function.update_of_ne differs, he]
  have finished : ∀ other, Function.update a.bond other .ended key = .ended := fun other => by
    rw [Function.update_apply]
    split
    · rfl
    · exact he
  cases h with
  | same => exact he
  | enlisted id hb hr => exact he
  | configured hr hp hc => exact he
  | abandoned cause hr hp hm => exact (congrFun (bond_tell _ _) key).trans he
  | prepared hr hp hm hf => exact elsewhere (by simp [hf])
  | strayed hr hp hf => exact elsewhere (by simp [hf])
  | completed status hf => exact finished _
  | settled status stamps hb => exact (congrFun (bond_tell _ _) key).trans (finished _)

theorem Entered.stray_subset (h : Entered a b) : a.stray ⊆ b.stray := by
  cases h with
  | strayed hr hp hf => exact List.subset_append_left _ _
  | _ => exact List.Subset.refl _

theorem Entered.unspoilt (h : Entered a b) (hb : b.Unspoilt) : a.Unspoilt :=
  fun key hk he => hb key (h.stray_subset hk) (h.ended he)

section Moves

theorem onward_takeDone (r : Request) : r.phase.Onward r.takeDone.2.phase := by
  rcases Request.takeDone_cases r with ⟨h, -⟩ | ⟨-, hp, h⟩
  · rw [h]
    exact .inl rfl
  · rw [h]
    exact .inr (.inr ⟨hp, rfl⟩)

/-- A request only moves on. -/
theorem Entered.onward (h : Entered a b) (hr : a.request = some r) :
    ∃ q, b.request = some q ∧ r.phase.Onward q.phase := by
  have told : ∀ {f : Request → Option Status × Request} {s : Affairs}, s.request = some r →
      (s.tell f).request = some (f r).2 := fun hs => by
    rw [Affairs.tell, hs]
  cases h with
  | same => exact ⟨r, hr, .inl rfl⟩
  | enlisted id hb hn =>
    rw [hr] at hn
    cases hn
  | configured hs hp hc =>
    cases hr.symm.trans hs
    refine ⟨_, rfl, ?_⟩
    rcases hc.phase with hi | ⟨hq, -⟩
    · exact .inl (hi.trans hp.symm)
    · exact .inr (.inl ⟨hp, hq⟩)
  | abandoned cause hs hp hm =>
    cases hr.symm.trans hs
    refine ⟨_, told hr, ?_⟩
    rw [Request.failUnprepared, if_pos ⟨hp, hm⟩]
    exact onward_takeDone _
  | prepared hs hp hm hf =>
    cases hr.symm.trans hs
    exact ⟨_, rfl, .inl rfl⟩
  | strayed hs hp hf => exact ⟨r, hr, .inl rfl⟩
  | completed status hf => exact ⟨r, hr, .inl rfl⟩
  | settled status stamps hb => exact ⟨_, told hr, onward_takeDone _⟩

/-- The done callback of a request that is done is fired no more. -/
theorem Entered.dones_of_done (h : Entered a b) (ha : a.Balanced) (hu : b.Unspoilt)
    (hr : a.request = some r) (hp : r.phase = .done) : b.dones = a.dones := by
  cases h with
  | abandoned cause hs hq hm =>
    cases hr.symm.trans hs
    rw [hp] at hq
    cases hq
  | @settled key status stamps hb =>
    have own := ha.mem_prepared hb fun hs => hu key hs
      ((congrFun (bond_tell _ _) key).trans (Function.update_self ..))
    obtain ⟨q, hq, under⟩ := ha.of_unfinished (List.mem_filter.2 ⟨own, by simp [hb]⟩)
    cases hr.symm.trans hq
    rw [hp] at under
    cases under
  | _ => rfl

theorem Balanced.dones_eq (h : a.Balanced) (hr : a.request = some r) :
    a.dones = if r.phase = .done then [Status.firstFailure a.tidings] else [] := by
  by_cases hi : r.phase = .initial
  · have silent := h.silent fun q hq => by
      cases hr.symm.trans hq
      exact hi
    rw [silent.dones, if_neg (by simp [hi])]
  · obtain ⟨tally, ⟨hp, -, -, hs⟩ | ⟨hd, -, hs⟩⟩ := h.tally r hr hi
    · rw [hs, if_neg (by simp [hp])]
    · rw [hs, if_pos hd, tally.status]

theorem Course.done_iff (h : a.Course r) : r.phase = .done ↔ r.outstanding = 0 := by
  rcases h with ⟨hp, -, more, -⟩ | ⟨hd, ho, -⟩
  · simp [hp, Nat.ne_of_gt more]
  · simp [hd, ho]

/-- The done callback is fired by what leaves a prepared request with nothing outstanding. -/
theorem Entered.fires (h : Entered a b) (ha : a.Balanced) (hu : b.Unspoilt)
    (hr : a.request = some r) (hq : b.request = some q) : b.dones = a.dones ++
      if r.phase = .prepared ∧ q.outstanding = 0 then [Status.firstFailure b.tidings] else [] := by
  have hb := h.balanced ha hu
  obtain ⟨_, hq', onward⟩ := h.onward hr
  cases hq'.symm.trans hq
  cases hp : r.phase with
  | initial =>
    have undone : q.phase ≠ .done := by
      rcases onward with same | ⟨-, next⟩ | ⟨hn, -⟩
      · simp [same, hp]
      · simp [next]
      · rw [hp] at hn
        cases hn
    simp [hb.dones_eq hq, ha.dones_eq hr, hp, undone]
  | prepared =>
    have begun : q.phase ≠ .initial := by
      rcases onward with same | ⟨hn, -⟩ | ⟨-, next⟩
      · simp [same, hp]
      · rw [hp] at hn
        cases hn
      · simp [next]
    simp [hb.dones_eq hq, ha.dones_eq hr, hp, (hb.tally q hq begun).2.done_iff]
  | done => simp [h.dones_of_done ha hu hr hp]

end Moves

end Account

end TensorQueue
