import TensorQueue.Proofs.Driver.Standing

/-!
# The tally of a request

While a request is submitted, its parts and the answers of its parts make up
all that has been prepared of it. It is under way as long as answers are
missing, and with the last one it has ended and its done callback was fired,
with the first failure among the answers. Once all of its parts are made, no
entry in the books can undo this, and nobody can take a liberty with it.
-/

set_option autoImplicit false

namespace TensorQueue

namespace Request

variable {r : Request}

theorem takeDone_cases (r : Request) : (r.takeDone = (none, r) ∧
      (r.outstanding ≠ 0 ∨ r.phase ≠ .prepared)) ∨
    r.outstanding = 0 ∧ r.phase = .prepared ∧
      r.takeDone = (if r.hasDone then some r.status else none,
        { r with phase := .done, hasDone := false,
                 stamps := { r.stamps with completed := true } }) := by
  unfold takeDone
  by_cases h : r.outstanding = 0 ∧ r.phase = .prepared
  · rw [if_pos h]
    exact .inr ⟨h.1, h.2, rfl⟩
  · rw [if_neg h]
    exact .inl ⟨rfl, Decidable.not_and_iff_not_or_not.1 h⟩

theorem partDone_last (hp : r.phase = .prepared) (hd : r.hasDone = true) (ho : r.outstanding = 1)
    (stamps : Stamps) (status : Status) : ∃ q, r.partDone stamps status = (some q.status, q) ∧
      q.phase = .done ∧ q.status = r.status.merge status ∧ q.required = r.required ∧
      q.prepared = r.prepared := by
  refine ⟨(r.partDone stamps status).2, ?_⟩
  simp [partDone, takeDone, hp, hd, ho]

theorem partDone_more (ho : 1 < r.outstanding) (stamps : Stamps) (status : Status) :
    ∃ q, r.partDone stamps status = (none, q) ∧ q.phase = r.phase ∧ q.hasDone = r.hasDone ∧
      q.outstanding = r.outstanding - 1 ∧ q.status = r.status.merge status ∧
      q.required = r.required ∧ q.prepared = r.prepared := by
  have more : ¬ r.outstanding - 1 = 0 := by omega
  simp [partDone, takeDone, more]

theorem partDone_keeps (r : Request) (stamps : Stamps) (status : Status) :
    (r.partDone stamps status).2.executable = r.executable ∧
      ((r.partDone stamps status).2.phase = r.phase ∨
        (r.partDone stamps status).2.phase = .done) := by
  unfold partDone
  rcases takeDone_cases { r with
    status := r.status.merge status
    stamps := r.stamps.absorb stamps
    outstanding := r.outstanding - 1 } with ⟨h, -⟩ | ⟨-, -, h⟩
  · rw [h]
    exact ⟨rfl, .inl rfl⟩
  · rw [h]
    exact ⟨rfl, .inr rfl⟩

@[simp] theorem prepared_partDone (r : Request) (stamps : Stamps) (status : Status) :
    (r.partDone stamps status).2.prepared = r.prepared := by
  unfold partDone takeDone
  split <;> rfl

theorem failUnprepared_of_spent (cause : Error) (h : r.phase ≠ .prepared ∨ r.prepared = r.required) :
    r.failUnprepared cause = (none, r) := by
  rcases h with hp | hm
  · simp [failUnprepared, hp]
  · simp [failUnprepared, remaining, hm]

theorem failUnprepared_cases (r : Request) (cause : Error) : r.failUnprepared cause = (none, r) ∨
    r.phase = .prepared ∧ (r.failUnprepared cause).2.executable = r.executable ∧
      (r.failUnprepared cause).2.prepared ≠ 0 ∧ (r.failUnprepared cause).2.phase ≠ .initial := by
  unfold failUnprepared
  by_cases h : r.phase = .prepared ∧ r.remaining ≠ 0
  · rw [if_pos h]
    have lacking : r.required ≠ 0 := by
      intro hz
      simp [remaining, hz] at h
    right
    rcases takeDone_cases { r with
      prepared := r.required
      outstanding := r.outstanding - r.remaining
      status := r.status.merge (.failed cause) } with ⟨ht, -⟩ | ⟨-, -, ht⟩
    · rw [ht]
      simp [h.1, lacking]
    · rw [ht]
      simp [h.1, lacking]
  · rw [if_neg h]
    exact .inl rfl

end Request

namespace Standing

variable {s t : Standing} {r : Request}

/-- The first failure among these, of which the latest stands first. -/
def overall : List Status → Status
  | [] => .ok
  | status :: before => (overall before).merge status

structure Underway (r : Request) (s : Standing) : Prop where
  phase : r.phase = .prepared
  callback : r.hasDone = true
  outstanding : r.outstanding + s.answers.length = r.required
  positive : 0 < r.outstanding
  silent : s.dones = []

structure Ended (r : Request) (s : Standing) : Prop where
  phase : r.phase = .done
  answered : s.answers.length = r.required
  fired : s.dones = [r.status]

structure Tallied (r : Request) (s : Standing) : Prop where
  request : s.request = some r
  required : 0 < r.required
  parts : s.parts + s.answers.length = r.prepared
  bounded : r.prepared ≤ r.required
  status : r.status = overall s.answers
  course : Underway r s ∨ Ended r s

theorem Tallied.begun (h : Tallied r s) : r.phase ≠ .initial := by
  rcases h.course with hu | he
  · simp [hu.phase]
  · simp [he.phase]

theorem Tallied.underway (h : Tallied r s) (hp : 0 < s.parts) : Underway r s := by
  rcases h.course with hu | he
  · exact hu
  · have := h.parts
    have := h.bounded
    have := he.answered
    omega

theorem Tallied.settle {parts : Nat} {answers dones : List Status} (status : Status)
    (stamps : Request.Stamps) (h : Tallied r ⟨some r, parts + 1, answers, dones⟩) :
    ∃ q, Tallied q (tell (fun r => r.partDone stamps status)
      ⟨some r, parts, status :: answers, dones⟩) := by
  have under := h.underway (Nat.succ_pos parts)
  have counted : parts + 1 + answers.length = r.prepared := h.parts
  have outstanding : r.outstanding + answers.length = r.required := under.outstanding
  have silent : dones = [] := under.silent
  have positive := under.positive
  have told : ∀ q outcome, r.partDone stamps status = (outcome, q) →
      tell (fun r => r.partDone stamps status) ⟨some r, parts, status :: answers, dones⟩ =
        ⟨some q, parts, status :: answers, outcome.toList⟩ := by
    intro q outcome hq
    simp [tell, hq, silent]
  have kept : ∀ q dones', q.status = r.status.merge status → q.required = r.required →
      q.prepared = r.prepared → Underway q ⟨some q, parts, status :: answers, dones'⟩ ∨
        Ended q ⟨some q, parts, status :: answers, dones'⟩ →
      Tallied q ⟨some q, parts, status :: answers, dones'⟩ := by
    intro q dones' hstatus hrequired hprepared course
    refine ⟨rfl, ?_, ?_, ?_, ?_, course⟩
    · rw [hrequired]
      exact h.required
    · simp only [List.length_cons]
      omega
    · rw [hprepared, hrequired]
      exact h.bounded
    · rw [hstatus, h.status]
      rfl
  by_cases ho : r.outstanding = 1
  · obtain ⟨q, hq, hphase, hstatus, hrequired, hprepared⟩ :=
      Request.partDone_last under.phase under.callback ho stamps status
    rw [told q _ hq]
    refine ⟨q, kept q _ hstatus hrequired hprepared (.inr ?_)⟩
    refine ⟨hphase, ?_, rfl⟩
    simp only [List.length_cons]
    omega
  · obtain ⟨q, hq, hphase, hcallback, hout, hstatus, hrequired, hprepared⟩ :=
      Request.partDone_more (r := r) (by omega) stamps status
    rw [told q _ hq]
    refine ⟨q, kept q _ hstatus hrequired hprepared (.inl ?_)⟩
    refine ⟨hphase.trans under.phase, hcallback.trans under.callback, ?_, ?_, rfl⟩
    · simp only [List.length_cons]
      omega
    · omega

/-- Whatever is posted, the tally adds up. -/
theorem Posted.tallied (h : Posted s t) (hs : Tallied r s) : ∃ q, Tallied q t := by
  cases h with
  | same => exact ⟨r, hs⟩
  | enlisted id sound => cases hs.request
  | configured hp ht =>
    cases hs.request
    exact absurd hp hs.begun
  | @claimed r' parts answers dones hp hm =>
    cases hs.request
    refine ⟨{ r with prepared := r.prepared + 1 }, ?_⟩
    have counted : parts + answers.length = r.prepared := hs.parts
    have bounded := hs.bounded
    constructor
    · rfl
    · exact hs.required
    · show parts + 1 + answers.length = r.prepared + 1
      omega
    · show r.prepared + 1 ≤ r.required
      omega
    · exact hs.status
    · rcases hs.course with hu | he
      · exact .inl ⟨hu.phase, hu.callback, hu.outstanding, hu.positive, hu.silent⟩
      · exact .inr ⟨he.phase, he.answered, he.fired⟩
  | settled status stamps =>
    cases hs.request
    exact hs.settle status stamps

/-- With a request that lacks no part nobody takes a liberty. -/
theorem Taken.same_of_spent (h : Taken s t)
    (hs : ∀ r, s.request = some r → r.phase ≠ .prepared ∨ r.prepared = r.required) : t = s := by
  cases h with
  | same => rfl
  | @claimed r parts answers dones hp hm =>
    have spent := hs r rfl
    exact absurd (spent.resolve_left fun hn => hn hp) hm
  | @overclaimed r parts answers dones hp hm full =>
    have spent := hs r rfl
    exact absurd (spent.resolve_left fun hn => hn hp) hm
  | abandoned cause =>
    obtain ⟨request, parts, answers, dones⟩ := s
    cases request with
    | none => rfl
    | some r =>
      have same := Request.failUnprepared_of_spent cause (hs r rfl)
      simp [tell, same]

section Before

/-- Nobody has been a part of it, and nothing has been told. -/
structure Unheard (s : Standing) : Prop where
  parts : s.parts = 0
  answers : s.answers = []
  dones : s.dones = []

/-- What is known of a request that need not have been submitted. As long as it has no parts the
tally holds as soon as it is prepared. -/
structure Known (r : Request) (s : Standing) : Prop where
  batch : 0 < r.executable.hardwareBatch
  initial : r.phase = .initial → r.prepared = 0 ∧ r.status = .ok ∧ Unheard s
  ready : r.phase = .prepared → r.prepared = 0 → s.parts = 0 → s.answers = [] → Tallied r s

structure Prior (s : Standing) : Prop where
  absent : s.request = none → Unheard s
  known : ∀ r, s.request = some r → Known r s

theorem Known.of_heard (hb : 0 < r.executable.hardwareBatch) (hp : r.phase ≠ .initial)
    (h : r.prepared ≠ 0 ∨ 0 < s.parts ∨ s.answers ≠ []) : Known r s := by
  refine ⟨hb, fun hi => absurd hi hp, fun _ hz hparts hans => ?_⟩
  rcases h with h | h | h
  · exact absurd hz h
  · omega
  · exact absurd hans h

/-- What its owner does to a request leads no further than to one that is ready. -/
theorem Known.configure {q : Request} {parts : Nat} {answers dones : List Status}
    (h : Known r ⟨some r, parts, answers, dones⟩) (hp : r.phase = .initial)
    (hq : Books.Configured r q) : Known q ⟨some q, parts, answers, dones⟩ := by
  obtain ⟨hprepared, hstatus, unheard⟩ := h.initial hp
  have batch : 0 < q.executable.hardwareBatch := by
    rw [hq.executable]
    exact h.batch
  have parts : parts = 0 := unheard.parts
  have answers : answers = [] := unheard.answers
  have dones : dones = [] := unheard.dones
  subst parts answers dones
  refine ⟨batch, fun _ => ⟨hq.prepared.trans hprepared, hq.status.trans hstatus, rfl, rfl, rfl⟩, ?_⟩
  intro hphase _ _ _
  rcases hq.phase with hi | ⟨-, hcallback, hout, hpos⟩
  · rw [hi] at hphase
    cases hphase
  · have required := hpos h.batch
    constructor
    · rfl
    · exact required
    · exact (hq.prepared.trans hprepared).symm
    · rw [hq.prepared, hprepared]
      exact Nat.zero_le _
    · exact hq.status.trans hstatus
    · exact .inl ⟨hphase, hcallback, hout, hout ▸ required, rfl⟩

theorem Prior.of_known (hr : s.request = some r) (h : Known r s) : Prior s := by
  constructor
  · intro hn
    rw [hr] at hn
    cases hn
  · intro q hq
    rw [hr] at hq
    cases hq
    exact h

theorem Posted.prior (h : Posted s t) (hs : Prior s) : Prior t := by
  cases h with
  | same => exact hs
  | enlisted id sound =>
    have unheard := hs.absent rfl
    apply Prior.of_known rfl
    refine ⟨sound.batch_pos, fun _ => ⟨rfl, rfl, ⟨unheard.parts, unheard.answers, unheard.dones⟩⟩, ?_⟩
    intro hp
    cases hp
  | configured hp hq => exact Prior.of_known rfl ((hs.known _ rfl).configure hp hq)
  | @claimed r parts answers dones hp hm =>
    have known := hs.known r rfl
    apply Prior.of_known rfl
    apply Known.of_heard
    · exact known.batch
    · simp [hp]
    · exact .inl (Nat.succ_ne_zero _)
  | @settled request parts answers dones status stamps =>
    cases request with
    | none => exact absurd (hs.absent rfl).parts (Nat.succ_ne_zero parts)
    | some r =>
      have known := hs.known r rfl
      obtain ⟨hexecutable, hphase⟩ := r.partDone_keeps stamps status
      apply Prior.of_known rfl
      apply Known.of_heard
      · rw [hexecutable]
        exact known.batch
      · rcases hphase with hphase | hphase
        · rw [hphase]
          intro hi
          exact absurd (known.initial hi).2.2.parts (Nat.succ_ne_zero parts)
        · simp [hphase]
      · exact .inr (.inr (List.cons_ne_nil _ _))

theorem Taken.prior (h : Taken s t) (hs : Prior s) : Prior t := by
  cases h with
  | same => exact hs
  | @claimed r parts answers dones hp hm =>
    exact Posted.prior (.claimed hp hm) hs
  | @overclaimed r parts answers dones hp hm full =>
    have known := hs.known r rfl
    apply Prior.of_known rfl
    apply Known.of_heard known.batch
    · simp [hp]
    · exact .inr (.inl (Nat.succ_pos parts))
  | abandoned cause =>
    obtain ⟨request, parts, answers, dones⟩ := s
    cases request with
    | none => exact hs
    | some r =>
      rcases r.failUnprepared_cases cause with h | ⟨hp, hexecutable, hprepared, hphase⟩
      · have same : tell (fun r => r.failUnprepared cause) ⟨some r, parts, answers, dones⟩ =
            ⟨some r, parts, answers, dones⟩ := by
          simp [tell, h]
        rw [same]
        exact hs
      · apply Prior.of_known rfl
        apply Known.of_heard
        · rw [hexecutable]
          exact (hs.known r rfl).batch
        · exact hphase
        · exact .inl hprepared

end Before

section Accounts

/-- A request of which no part is made or given up by hand: it is as yet untouched, or the tally
holds, or some part was left over without room for its batch. -/
inductive Accounted (s : Standing) : Prop
  | untouched : (∀ r, s.request = some r → r.phase = .initial) → Accounted s
  | tallied {r : Request} : Tallied r s → Accounted s
  | overdrawn {r : Request} : s.request = some r → r.prepared < s.parts + s.answers.length →
      Accounted s

/-- A request without parts is left alone, or it is ready for its first one. -/
theorem Posted.accounted_of_initial (h : Posted s t) (hp : Prior s)
    (initial : ∀ r, s.request = some r → r.phase = .initial) : Accounted t := by
  cases h with
  | same => exact .untouched initial
  | enlisted id sound =>
    apply Accounted.untouched
    rintro r ⟨⟩
    rfl
  | @configured r q parts answers dones hphase hq =>
    obtain ⟨unprepared, -, unheard⟩ := (hp.known r rfl).initial hphase
    have known := (hp.known r rfl).configure hphase hq
    rcases hq.phase with hi | ⟨ready, -⟩
    · apply Accounted.untouched
      rintro _ ⟨⟩
      exact hi
    · exact .tallied (known.ready ready (hq.prepared.trans unprepared) unheard.parts
        unheard.answers)
  | claimed hphase hm => cases (initial _ rfl).symm.trans hphase
  | @settled request parts answers dones status stamps =>
    cases request with
    | none => exact absurd (hp.absent rfl).parts (Nat.succ_ne_zero parts)
    | some r =>
      obtain ⟨-, -, unheard⟩ := (hp.known r rfl).initial (initial r rfl)
      exact absurd unheard.parts (Nat.succ_ne_zero parts)

/-- A part too many is told of or stays. -/
theorem Posted.accounted_of_overdrawn (h : Posted s t) {r : Request} (hr : s.request = some r)
    (more : r.prepared < s.parts + s.answers.length) : Accounted t := by
  cases h with
  | same => exact .overdrawn hr more
  | enlisted id sound => cases hr
  | @configured r q parts answers dones hphase hq =>
    cases hr
    apply Accounted.overdrawn rfl
    rw [hq.prepared]
    exact more
  | @claimed r parts answers dones hphase hm =>
    cases hr
    apply Accounted.overdrawn rfl
    show r.prepared + 1 < parts + 1 + answers.length
    have more : r.prepared < parts + answers.length := more
    omega
  | @settled request parts answers dones status stamps =>
    cases hr
    apply Accounted.overdrawn rfl
    have more : r.prepared < parts + 1 + answers.length := more
    simp only [tell, Request.prepared_partDone, List.length_cons]
    omega

theorem Posted.accounted (h : Posted s t) (hp : Prior s) (hs : Accounted s) : Accounted t := by
  cases hs with
  | untouched initial => exact h.accounted_of_initial hp initial
  | tallied hr =>
    obtain ⟨q, hq⟩ := h.tallied hr
    exact .tallied hq
  | overdrawn hr more => exact h.accounted_of_overdrawn hr more

/-- A part that is left over shows in the tally for good. -/
theorem Accounted.overclaim {parts : Nat} {answers dones : List Status} (hp : r.phase = .prepared)
    (h : Accounted ⟨some r, parts, answers, dones⟩) :
    Accounted ⟨some r, parts + 1, answers, dones⟩ := by
  apply Accounted.overdrawn rfl
  show r.prepared < parts + 1 + answers.length
  cases h with
  | untouched initial => cases (initial r rfl).symm.trans hp
  | tallied hr =>
    cases hr.request
    have counted : parts + answers.length = r.prepared := hr.parts
    omega
  | overdrawn hr more =>
    cases hr
    have more : r.prepared < parts + answers.length := more
    omega

end Accounts

end Standing

end TensorQueue
