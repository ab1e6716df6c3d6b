import TensorQueue.Proofs.Driver.Rig

/-!
# What a run does to the books

Every deed is postings and liberties, however it ends, and it takes a liberty
with one request at most. A deed that is not aborted leaves nobody owed an end.
So what every entry in the books keeps is true after every run, and what
depends on those who are owed an end is true after every run in which nothing
is aborted.
-/

set_option autoImplicit false

namespace TensorQueue

open Dispatcher Books

namespace Rig

variable {R α : Type} {allowed : Nat → Books → Prop} {b : Books} {rig : Rig R}

def books (rig : Rig R) : Books := rig.driver.books []

/-- Postings and liberties have led to these books. -/
def Moved (allowed : Nat → Books → Prop) (b : Books) (rig : Rig R) : Prop :=
  Moves allowed b rig.books

/-- They have, but for what an abort does to them, and whoever is still owed an end. -/
def Upset (allowed : Nat → Books → Prop) (b : Books) (rig : Rig R) : Prop :=
  ∃ owed c, Moves allowed b c ∧ Torn c (rig.driver.books owed)

/-- Here the action is postings and liberties, and leaves nobody behind unless it is aborted. -/
def Orderly (allowed : Nat → Books → Prop) (act : Act (Rig R) α) (rig : Rig R) : Prop :=
  Act.Ends (fun _ => Moved allowed rig.books) (Moved allowed rig.books) (Upset allowed rig.books)
    (act rig)

theorem Moved.upset (h : Moved allowed b rig) : Upset allowed b rig := ⟨[], _, h, .whole⟩

theorem Orderly.read {next : Rig R → Act (Rig R) α} (h : Orderly allowed (next rig) rig) :
    Orderly allowed (Act.read >>= next) rig := h

/-- It is postings and liberties if it is one of them and the rest does not touch the books. -/
theorem Orderly.bind {β : Type} {act : Act (Rig R) α} {next : α → Act (Rig R) β}
    (h : Orderly allowed act rig) (hn : ∀ a, Act.Spares books (next a)) :
    Orderly allowed (act >>= next) rig := by
  apply Act.Ends.bind h
  intro a
  exact ((hn a).meets (Moves allowed rig.books)).weaken (fun _ _ hm => hm) (fun _ hm => hm)
    fun _ hm => Moved.upset hm

theorem Orderly.of_spares {act : Act (Rig R) α} (h : Act.Spares books act) :
    Orderly allowed act rig :=
  (h.meets (Moves allowed rig.books)).weaken (fun _ _ hm => hm) (fun _ hm => hm)
    (fun _ hm => Moved.upset hm) rig .refl

/-- What is done by postings alone. -/
theorem Orderly.post {σ : Type} {f : σ → Rig R} {out : Except Fault α × σ}
    (h : Act.Ends (fun _ t => Postings rig.books (f t).books)
      (fun t => Postings rig.books (f t).books)
      (fun t => Driver.Broken rig.books (f t).driver) out) :
    Act.Ends (fun _ t => Moved allowed rig.books (f t)) (fun t => Moved allowed rig.books (f t))
      (fun t => Upset allowed rig.books (f t)) out := by
  apply h.weaken
  · intro _ t ht
    exact Postings.moves ht
  · intro t ht
    exact Postings.moves ht
  · rintro t ⟨owed, c, posted, torn⟩
    exact ⟨owed, c, posted.moves, torn⟩

theorem Orderly.of_postings {act : Act Stack α} (h : ∀ b, Driver.Keeps b act) :
    Orderly allowed (onDriver act : Act (Rig R) α) rig := by
  unfold Orderly onDriver onMachine Machine.onDriver
  apply Act.Ends.within
  apply Act.Ends.within
  exact Orderly.post (h rig.books [] rig.driver .refl)

/-- What the owner of a request does to the driver. -/
theorem Orderly.of_moves {act : Act Stack α} (h : Act.Ends
    (fun _ e => Moves allowed rig.books (e.books []))
    (fun e => Moves allowed rig.books (e.books []))
    (fun e => ∃ owed c, Moves allowed rig.books c ∧ Torn c (e.books owed)) (act rig.driver)) :
    Orderly allowed (onDriver act : Act (Rig R) α) rig := by
  unfold Orderly onDriver onMachine Machine.onDriver
  apply Act.Ends.within
  apply Act.Ends.within
  exact h

section Engines

variable [RegisterFile R]

theorem start_orderly (config : Engine.Config) :
    Orderly allowed (onMachine (Engine.start config) : Act (Rig R) Engine) rig := by
  unfold Orderly onMachine
  apply Act.Ends.within
  exact Orderly.post (Machine.keeps_of_spares (Machine.aside.start config) rig.machine .refl)

omit [RegisterFile R] in
theorem work_orderly {index : Nat}
    {act : Act (Engine.Attached (Machine (RealTime (Scheduler Escalation)) R)) α}
    (h : ∀ b, Engine.Keeps b act) : Orderly allowed (work index act) rig := by
  unfold work
  apply Orderly.read
  cases rig.engines[index]? with
  | none => exact Orderly.of_spares (Act.Spares.value _)
  | some e =>
    apply Orderly.bind _ fun _ => Act.Spares.value _
    unfold Orderly
    apply Act.Ends.within
    exact Orderly.post (h rig.books ⟨e, rig.machine⟩ .refl)

end Engines

section Liberties

variable {number : Nat}

/-- A request is told that its parts will not be prepared, and then its done callback may be
run. -/
theorem failUnprepared_orderly [DoneCallbacks (RealTime (Scheduler Escalation))]
    (hc : Driver.Heedful Escalation) (ha : allowed number rig.books) (cause : Error) :
    Orderly allowed
      (onDriver (Driver.onRequest number fun r => r.failUnprepared cause) : Act (Rig R) Unit)
      rig := by
  apply Orderly.of_moves
  have liberty : Liberty number rig.books (rig.books.tell number fun r => r.failUnprepared cause) :=
    .abandon cause
  have abandoned := liberty.moves ha
  have told : Act.Ends (fun _ => Driver.Kept (rig.books.tell number fun r => r.failUnprepared cause) [])
      (fun _ => False)
      (Driver.Broken (rig.books.tell number fun r => r.failUnprepared cause))
      (Driver.onRequest number (fun r => r.failUnprepared cause) rig.driver) := by
    apply Driver.onRequest_ends hc
    intro e he
    rw [Driver.Kept, he]
    exact .refl
  apply told.weaken
  · intro _ e he
    exact abandoned.trans (Postings.moves he)
  · intro e he
    exact he.elim
  · rintro e ⟨owed, c, posted, torn⟩
    exact ⟨owed, c, abandoned.trans posted.moves, torn⟩

theorem prepareBatch_orderly (ha : allowed number rig.books) (key : Nat) :
    Orderly allowed (onDriver (Driver.prepareBatch number key) : Act (Rig R) Unit) rig := by
  apply Orderly.of_moves
  apply (Driver.prepareBatch_ends number key rig.driver).weaken
  · rintro _ e (he | ⟨-, rfl⟩)
    · obtain ⟨r, hr, he⟩ := he []
      rw [he]
      exact (Liberty.claim hr).moves ha
    · exact .refl
  · rintro e ⟨rfl, -⟩
    exact .refl
  · intro e he
    obtain ⟨r, hr, full, he⟩ := he []
    refine ⟨[], rig.books, .refl, ?_⟩
    rw [he]
    exact .overclaimed hr full

end Liberties

section Runs

variable [RegisterFile R] {callbacks : Callbacks} {number : Nat}

theorem perform_orderly (hc : @Driver.Heedful Escalation callbacks) (deed : Deed R)
    (ha : ∀ number, deed.aided = some number → allowed number rig.books) :
    Orderly allowed (perform callbacks deed) rig := by
  cases deed with
  | chore chore => exact Orderly.of_postings fun _ => Driver.Chore.keeps hc chore
  | failUnprepared number cause => exact failUnprepared_orderly hc (ha number rfl) cause
  | prepareBatch number key => exact prepareBatch_orderly (ha number rfl) key
  | close mode =>
    exact (Orderly.of_postings fun _ => Driver.close_keeps hc mode).bind fun _ _ => rfl
  | wake =>
    apply Orderly.read
    cases rig.waiting with
    | zero => exact Orderly.of_spares (Act.Spares.value _)
    | succ others =>
      exact (Orderly.of_postings fun _ => Driver.finishClose_keeps hc).bind fun _ _ => rfl
  | startEngine config => exact (start_orderly config).bind fun _ _ => rfl
  | stepEngine index => exact work_orderly fun _ => Engine.step_keeps hc
  | runEngine index steps => exact work_orderly fun _ => Engine.runFor_keeps hc steps
  | meanwhile registers tempo desk clock watchdog => exact Orderly.of_spares fun _ => rfl

/-- However a deed ends, the books have moved, but for what an abort does to them. -/
theorem perform_upset (hc : @Driver.Heedful Escalation callbacks) (deed : Deed R)
    (ha : ∀ number, deed.aided = some number → allowed number rig.books) :
    Upset allowed rig.books (perform callbacks deed rig).2 := by
  have ends := perform_orderly hc deed ha
  unfold Orderly at ends
  rcases hout : perform callbacks deed rig with ⟨fault | u, v⟩
  all_goals rw [hout] at ends
  · cases fault with
    | refusal cause => exact Moved.upset ends
    | abort cause => exact ends
  · exact Moved.upset ends

theorem perform_moved (hc : @Driver.Heedful Escalation callbacks) {deed : Deed R}
    (ha : ∀ number, deed.aided = some number → allowed number rig.books)
    (h : isAbort (perform callbacks deed rig).1 = false) :
    Moved allowed rig.books (perform callbacks deed rig).2 := by
  have ends := perform_orderly hc deed ha
  unfold Orderly at ends
  rcases hout : perform callbacks deed rig with ⟨fault | u, v⟩
  all_goals rw [hout] at ends h
  · cases fault with
    | refusal cause => exact ends
    | abort cause => cases h
  · exact ends

/-- What every entry in the books keeps for a request is true of it after every run. -/
theorem run_standing (hc : @Driver.Heedful Escalation callbacks) {P : Standing → Prop}
    (hposted : ∀ s t, s.Posted t → P s → P t) (htaken : ∀ s t, s.Taken t → P s → P t)
    (deeds : List (Deed R)) : ∀ rig, P (rig.books.standing number) →
      P ((run callbacks deeds rig).books.standing number) := by
  induction deeds with
  | nil => exact fun _ hr => hr
  | cons deed rest ih =>
    intro rig hr
    have upset : Upset (fun _ _ => True) rig.books (perform callbacks deed rig).2 :=
      perform_upset hc deed fun _ _ => trivial
    obtain ⟨owed, c, moves, torn⟩ := upset
    have kept : P ((perform callbacks deed rig).2.books.standing number) :=
      htaken _ _ (torn.taken number) (moves.standing hposted htaken hr)
    exact ih _ kept

theorem allowed_of_unaided {deed : Deed R} {rest : List (Deed R)}
    (h : isUnaided callbacks number (deed :: rest) rig = true) :
    (∀ other, deed.aided = some other → Unaided number other rig.books) ∧
      isUnaided callbacks number rest (perform callbacks deed rig).2 = true := by
  simp only [isUnaided, Bool.and_eq_true, Bool.not_eq_true', Bool.and_eq_false_iff] at h
  refine ⟨?_, h.2⟩
  rintro other haided rfl r hr
  have spent := h.1.resolve_left (by simp [haided])
  by_cases hp : r.phase = .prepared
  · right
    by_contra hm
    simp [lacksParts, show rig.driver.requests[other]? = some r from hr, hp, hm] at spent
  · exact .inl hp

/-- A request that is left alone is accounted for after every run. -/
theorem run_accounted (hc : @Driver.Heedful Escalation callbacks) (deeds : List (Deed R)) :
    ∀ rig, isUnaided callbacks number deeds rig = true → (rig.books.standing number).Prior →
      (rig.books.standing number).Accounted →
        ((run callbacks deeds rig).books.standing number).Accounted := by
  induction deeds with
  | nil => exact fun _ _ _ hr => hr
  | cons deed rest ih =>
    intro rig halone prior hr
    obtain ⟨allowed, alone⟩ := allowed_of_unaided halone
    obtain ⟨owed, c, moves, torn⟩ := perform_upset hc deed allowed
    have still_prior : ((perform callbacks deed rig).2.books.standing number).Prior :=
      (torn.taken number).prior (moves.prior prior)
    have still : ((perform callbacks deed rig).2.books.standing number).Accounted :=
      torn.accounted (moves.accounted prior hr)
    exact ih _ alone still_prior still

theorem run_safe (hc : @Driver.Heedful Escalation callbacks) (deeds : List (Deed R)) :
    ∀ rig : Rig R, isUnaided callbacks number deeds rig = true →
      isCalm callbacks deeds rig = true → rig.books.Safe number →
        (run callbacks deeds rig).books.Safe number := by
  induction deeds with
  | nil => exact fun _ _ _ hs => hs
  | cons deed rest ih =>
    intro rig halone hcalm hs
    obtain ⟨allowed, alone⟩ := allowed_of_unaided halone
    simp only [isCalm, Bool.and_eq_true, Bool.not_eq_true'] at hcalm
    have moved := perform_moved hc allowed hcalm.1
    exact ih _ alone hcalm.2 (Moves.safe moved hs)

end Runs

end Rig

end TensorQueue
