import TensorQueue.Proofs.Driver.DoneOnce

/-!
# What a request reckons with

A prepared request counts what is outstanding: the parts that will still report
to it, and those that are still to be made. Whoever makes its parts and
completes them, by hand or by a submission, it never loses count, also if a
call was aborted halfway. Only a part for which there was no room would report
without having been counted.
-/

set_option autoImplicit false

namespace TensorQueue

namespace Standing

variable {s t : Standing} {r q : Request} {parts : Nat}

/-- The count of a request of which so many hardware requests are a part. -/
structure Reckons (r : Request) (parts : Nat) : Prop where
  callback : r.hasDone = true
  bounded : r.prepared ≤ r.required
  positive : 0 < r.outstanding
  outstanding : r.outstanding = parts + r.remaining

structure Counted (r : Request) (parts : Nat) : Prop where
  sound : r.executable.Sound
  initial : r.phase = .initial → r.prepared = 0 ∧ parts = 0
  prepared : r.phase = .prepared → r.executable.Roomy → Reckons r parts

structure Reckoned (s : Standing) : Prop where
  absent : s.request = none → s.parts = 0
  counted : ∀ r, s.request = some r → Counted r s.parts

theorem Reckoned.of_counted (hr : s.request = some r) (h : Counted r s.parts) : Reckoned s := by
  constructor
  · intro hn
    rw [hr] at hn
    cases hn
  · intro q hq
    rw [hr] at hq
    cases hq
    exact h

/-- A request that ends counts no longer. -/
theorem Counted.takeDone (sound : q.executable.Sound) (begun : q.phase ≠ .initial)
    (h : q.phase = .prepared → q.executable.Roomy → q.hasDone = true ∧ q.prepared ≤ q.required ∧
      q.outstanding = parts + q.remaining) : Counted q.takeDone.2 parts := by
  rcases Request.takeDone_cases q with ⟨hq, more⟩ | ⟨-, -, hq⟩
  · rw [hq]
    refine ⟨sound, fun hi => absurd hi begun, fun hp roomy => ?_⟩
    obtain ⟨callback, bounded, outstanding⟩ := h hp roomy
    have positive : q.outstanding ≠ 0 := more.resolve_right fun hn => hn hp
    exact ⟨callback, bounded, Nat.pos_of_ne_zero positive, outstanding⟩
  · rw [hq]
    exact ⟨sound, nofun, nofun⟩

theorem Counted.claim (h : Counted r parts) (hp : r.phase = .prepared)
    (hm : r.prepared ≠ r.required) :
    Counted { r with prepared := r.prepared + 1 } (parts + 1) := by
  refine ⟨h.sound, fun hi => ?_, fun _ roomy => ?_⟩
  · rw [hp] at hi
    cases hi
  · obtain ⟨callback, bounded, positive, outstanding⟩ := h.prepared hp roomy
    simp only [Request.remaining] at outstanding
    refine ⟨callback, ?_, positive, ?_⟩
    · show r.prepared + 1 ≤ r.required
      omega
    · show r.outstanding = parts + 1 + (r.required - (r.prepared + 1))
      omega

theorem Counted.settle (h : Counted r (parts + 1)) (stamps : Request.Stamps) (status : Status) :
    Counted (r.partDone stamps status).2 parts := by
  refine Counted.takeDone ?_ ?_ ?_
  · exact h.sound
  · intro hi
    have none_yet := (h.initial hi).2
    omega
  · intro hp roomy
    obtain ⟨callback, bounded, positive, outstanding⟩ := h.prepared hp roomy
    refine ⟨callback, bounded, ?_⟩
    show r.outstanding - 1 = parts + r.remaining
    omega

theorem Counted.abandon (h : Counted r parts) (cause : Error) :
    Counted (r.failUnprepared cause).2 parts := by
  unfold Request.failUnprepared
  split
  · rename_i lacks
    refine Counted.takeDone ?_ ?_ ?_
    · exact h.sound
    · intro hi
      cases lacks.1.symm.trans hi
    · intro hp roomy
      obtain ⟨callback, bounded, positive, outstanding⟩ := h.prepared hp roomy
      refine ⟨callback, Nat.le_refl _, ?_⟩
      show r.outstanding - r.remaining = parts + (r.required - r.required)
      omega
  · exact h

theorem Counted.configure (h : Counted r parts) (hp : r.phase = .initial)
    (hq : Books.Configured r q) : Counted q parts := by
  obtain ⟨untouched, alone⟩ := h.initial hp
  have sound : q.executable.Sound := by
    rw [hq.executable]
    exact h.sound
  refine ⟨sound, fun _ => ⟨hq.prepared.trans untouched, alone⟩, fun hphase _ => ?_⟩
  rcases hq.phase with hi | ⟨-, callback, outstanding, required⟩
  · cases hi.symm.trans hphase
  · have some_required := required h.sound.batch_pos
    have unprepared : q.prepared = 0 := hq.prepared.trans untouched
    refine ⟨callback, ?_, ?_, ?_⟩
    · omega
    · omega
    · rw [Request.remaining]
      omega

theorem Posted.reckoned (h : Posted s t) (hs : Reckoned s) : Reckoned t := by
  cases h with
  | same => exact hs
  | enlisted id sound => exact .of_counted rfl ⟨sound, fun _ => ⟨rfl, hs.absent rfl⟩, nofun⟩
  | configured hp hq => exact .of_counted rfl ((hs.counted _ rfl).configure hp hq)
  | claimed hp hm => exact .of_counted rfl ((hs.counted _ rfl).claim hp hm)
  | @settled request parts answers dones status stamps =>
    cases request with
    | none => exact absurd (hs.absent rfl) (Nat.succ_ne_zero parts)
    | some r => exact .of_counted rfl ((hs.counted r rfl).settle stamps status)

theorem Taken.reckoned (h : Taken s t) (hs : Reckoned s) : Reckoned t := by
  cases h with
  | same => exact hs
  | claimed hp hm => exact .of_counted rfl ((hs.counted _ rfl).claim hp hm)
  | overclaimed hp hm full =>
    have counted := hs.counted _ rfl
    refine .of_counted rfl ⟨counted.sound, fun hi => ?_, fun _ roomy => absurd roomy full⟩
    cases hp.symm.trans hi
  | abandoned cause =>
    obtain ⟨request, parts, answers, dones⟩ := s
    cases request with
    | none => exact hs
    | some r => exact .of_counted rfl ((hs.counted r rfl).abandon cause)

end Standing

namespace Rig

variable {R : Type} [RegisterFile R] {callbacks : Callbacks} {number : Nat} {r : Request}

/-- After every run of a stack a request is counted right. -/
theorem run_counted (hc : @Driver.Heedful Escalation callbacks) {c : Config} {clock : Duration}
    {moments : Nat → List Duration} {stack : Stack} (registers : R) (tempo : Tempo)
    (built : Stack.build c clock moments = .ok stack) (deeds : List (Deed R))
    (hr : (run callbacks deeds (begin stack registers tempo)).driver.requests[number]? = some r) :
    Standing.Counted r
      ((run callbacks deeds (begin stack registers tempo)).books.parts number) := by
  have fresh : ((begin stack registers tempo).books.standing number).Reckoned := by
    obtain ⟨s, rfl⟩ := new_of_build built
    constructor
    · intro _
      rfl
    · intro r hr
      cases hr
  exact (run_standing hc (fun _ _ hp => hp.reckoned) (fun _ _ ht => ht.reckoned) deeds _
    fresh).counted r hr

end Rig

end TensorQueue
