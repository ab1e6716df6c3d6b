import TensorQueue.Proofs.Driver.Tally

/-!
# No part is lost

Every part of a request is held by the dispatcher or is owed an end. Postings
keep it so for every request, and so do liberties that are taken with others
or that find no part missing. Therefore a request whose parts are all made has
ended when the dispatcher holds nothing and nobody is owed an end.
-/

set_option autoImplicit false

namespace TensorQueue.Books

variable {b c : Books} {number : Nat} {r : Request}

def Safe (number : Nat) (b : Books) : Prop :=
  ∀ key : Nat, b.claims[key]? = some (some number) → key ∈ b.held ∨ key ∈ b.owed

/-- All parts are made, and the tally holds. -/
def Cut (number : Nat) (b : Books) : Prop :=
  ∃ r, (b.standing number).Tallied r ∧ r.prepared = r.required

theorem Posting.safe (h : Posting b c) (hb : b.Safe number) : c.Safe number := by
  intro key hkey
  cases h with
  | enlist id sound => exact hb key hkey
  | configure hr hp hs => exact hb key hkey
  | make =>
    apply hb key
    rw [List.getElem?_append] at hkey
    split at hkey
    · exact hkey
    · rw [List.getElem?_singleton] at hkey
      split at hkey <;> cases hkey
  | hold other => exact (hb key hkey).imp (List.mem_append_left _) id
  | @release gone rest heq =>
    rcases hb key hkey with hh | ho
    · rw [heq] at hh
      rcases List.mem_append.1 hh with hg | hr
      · exact .inr (List.mem_append_left _ hg)
      · exact .inl hr
    · exact .inr (List.mem_append_right _ ho)
  | owe other => exact (hb key hkey).imp id (List.mem_cons_of_mem _)
  | @waive other rest heq hother =>
    rcases hb key hkey with hh | ho
    · exact .inl hh
    · rw [heq] at ho
      rcases List.mem_cons.1 ho with rfl | hr
      · rcases hother with hh | hnone
        · exact .inl hh
        · exact absurd hkey (hnone number)
      · exact .inr hr
  | @claim other n r hc ho =>
    by_cases hk : other = key
    · subst hk
      exact .inr ho
    · apply hb key
      rw [Books.claim, List.getElem?_set_ne hk] at hkey
      exact hkey
  | @settle other n status stamps hc =>
    rw [Books.settle, claims_tell] at hkey
    rw [Books.settle, held_tell, owed_tell]
    by_cases hk : other = key
    · subst hk
      simp [List.getElem?_set] at hkey
    · rw [List.getElem?_set_ne hk] at hkey
      exact hb key hkey

theorem Safe.set {key other : Nat} (hb : b.Safe number) (hn : other ≠ number) :
    Safe number { b with claims := b.claims.set key (some other) } := by
  intro k hk
  by_cases heq : key = k
  · subst heq
    rw [List.getElem?_set] at hk
    simp [hn] at hk
  · rw [List.getElem?_set_ne heq] at hk
    exact hb k hk

theorem Liberty.safe {other : Nat} (h : Liberty other b c) (hn : other = number → b.Spent number)
    (hb : b.Safe number) : c.Safe number := by
  have apart : ∀ {key : Nat} {q : Request}, b.Claimable key other q → other ≠ number := by
    rintro key q hq rfl
    have spent := hn rfl q hq.request
    exact hq.missing (spent.resolve_left fun lacks => lacks hq.phase)
  cases h with
  | claim hq => exact hb.set (apart hq)
  | overclaim hq full => exact hb.set (apart hq)
  | abandon cause =>
    intro key hkey
    rw [claims_tell] at hkey
    rw [held_tell, owed_tell]
    exact hb key hkey

section Runs

/-- What is allowed if no part of this request is to be made or given up by hand. -/
def Unaided (number other : Nat) (b : Books) : Prop := other = number → b.Spent number

theorem Moves.standing {allowed : Nat → Books → Prop} {P : Standing → Prop}
    (h : Moves allowed b c) (hposted : ∀ s t, s.Posted t → P s → P t)
    (htaken : ∀ s t, s.Taken t → P s → P t) (hb : P (b.standing number)) :
    P (c.standing number) := by
  induction h with
  | refl => exact hb
  | tail _ hp ih =>
    rcases hp with hp | ⟨other, -, hl⟩
    · exact hposted _ _ (hp.posted number) ih
    · exact htaken _ _ (hl.taken number) ih

theorem Moves.prior {allowed : Nat → Books → Prop} (h : Moves allowed b c)
    (hb : (b.standing number).Prior) : (c.standing number).Prior :=
  h.standing (fun _ _ hp => hp.prior) (fun _ _ ht => ht.prior) hb

theorem Moves.accounted (h : Moves (Unaided number) b c) (prior : (b.standing number).Prior)
    (hb : (b.standing number).Accounted) : (c.standing number).Accounted := by
  induction h with
  | refl => exact hb
  | tail hm hp ih =>
    rcases hp with hp | ⟨other, ha, hl⟩
    · exact (hp.posted number).accounted (Moves.prior hm prior) ih
    · by_cases hn : other = number
      · rw [(hl.taken number).same_of_spent (ha hn)]
        exact ih
      · rw [hl.standing_of_ne hn]
        exact ih

theorem Torn.accounted (h : Torn b c) (hb : (b.standing number).Accounted) :
    (c.standing number).Accounted := by
  cases h with
  | whole => exact hb
  | @overclaimed key other r hc full =>
    by_cases hn : other = number
    · subst hn
      rw [standing_overclaim hc]
      rw [(standing_claim hc).1] at hb
      exact hb.overclaim hc.phase
    · rw [standing_overclaim_of_ne hn hc.free]
      exact hb

theorem Moves.safe (h : Moves (Unaided number) b c) (hb : b.Safe number) : c.Safe number := by
  induction h with
  | refl => exact hb
  | tail _ hp ih =>
    rcases hp with hp | ⟨other, ha, hl⟩
    · exact hp.safe ih
    · exact hl.safe ha ih

end Runs

section Conclusions

/-- The done callback is fired once at most, when the last answer has come and not before, with the
first failure among the answers. -/
theorem Cut.course (h : b.Cut number) : ∃ r, b.requests[number]? = some r ∧
    (b.dones number = [] ∧ (b.answers number).length < r.required ∨
      b.dones number = [Standing.overall (b.answers number)] ∧
        (b.answers number).length = r.required) := by
  obtain ⟨r, hr, -⟩ := h
  refine ⟨r, hr.request, ?_⟩
  rcases hr.course with hu | he
  · have outstanding : r.outstanding + (b.answers number).length = r.required := hu.outstanding
    have positive := hu.positive
    exact .inl ⟨hu.silent, by omega⟩
  · have fired : b.dones number = [r.status] := he.fired
    rw [hr.status] at fired
    exact .inr ⟨fired, he.answered⟩

/-- When nothing is held and nobody is owed an end, a request whose parts are all made is done. -/
theorem Cut.done_of_idle (h : b.Cut number) (hs : b.Safe number) (hheld : b.held = [])
    (howed : b.owed = []) : ∃ status, b.dones number = [status] := by
  obtain ⟨r, hr, hcut⟩ := h
  have no_part : b.parts number = 0 := by
    apply List.count_eq_zero.2
    intro hmem
    obtain ⟨key, hkey⟩ := List.mem_iff_getElem?.1 hmem
    have := hs key hkey
    simp [hheld, howed] at this
  have counted : b.parts number + (b.answers number).length = r.prepared := hr.parts
  rcases hr.course with hu | he
  · have outstanding : r.outstanding + (b.answers number).length = r.required := hu.outstanding
    have positive := hu.positive
    omega
  · exact ⟨r.status, he.fired⟩

end Conclusions

end TensorQueue.Books
