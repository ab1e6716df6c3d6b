import TensorQueue.Act

/-!
# What an action comes to

An action ends with a value, refused or aborted, and leaves a state behind in
each case. So it is described by what holds before it and by three conditions
on what it leaves. The rules follow the ways in which actions are put together.
An action may also spare a part of the state, however it ends.
-/

set_option autoImplicit false

namespace TensorQueue

/-- What ends with a value has been through a value before. -/
theorem exists_of_except_bind {ε α β : Type} {x : Except ε α} {next : α → Except ε β} {b : β}
    (h : x >>= next = .ok b) : ∃ a, x = .ok a ∧ next a = .ok b := by
  cases x with
  | error cause => cases h
  | ok a => exact ⟨a, rfl, h⟩

/-- What fails has failed at once, or after a value. -/
theorem error_of_except_bind {ε α β : Type} {x : Except ε α} {next : α → Except ε β} {e : ε}
    (h : x >>= next = .error e) : x = .error e ∨ ∃ a, x = .ok a ∧ next a = .error e := by
  cases x with
  | error other =>
    cases h
    exact .inl rfl
  | ok a => exact .inr ⟨a, rfl, h⟩

namespace Act

variable {σ τ α β γ : Type}

/-- What one outcome and the state left with it must satisfy. -/
def Ends (after : α → σ → Prop) (refused aborted : σ → Prop) : Except Fault α × σ → Prop
  | (.ok a, t) => after a t
  | (.error (.refusal _), t) => refused t
  | (.error (.abort _), t) => aborted t

/-- From every state as described before, the action ends as described after. -/
def Meets (before : σ → Prop) (act : Act σ α) (after : α → σ → Prop)
    (refused aborted : σ → Prop) : Prop :=
  ∀ s, before s → Ends after refused aborted (act s)

section Rules

variable {before before' : σ → Prop} {act : Act σ α} {next : α → Act σ β} {s : σ}
  {after after' : α → σ → Prop} {final : β → σ → Prop} {refused refused' aborted aborted' : σ → Prop}

theorem Ends.weaken {out : Except Fault α × σ} (h : Ends after refused aborted out)
    (ha : ∀ a t, after a t → after' a t) (hr : ∀ t, refused t → refused' t)
    (hb : ∀ t, aborted t → aborted' t) : Ends after' refused' aborted' out := by
  rcases out with ⟨fault | a, t⟩
  · cases fault with
    | refusal cause => exact hr t h
    | abort cause => exact hb t h
  · exact ha a t h

theorem Meets.weaken (h : Meets before act after refused aborted)
    (ha : ∀ a t, after a t → after' a t) (hr : ∀ t, refused t → refused' t)
    (hb : ∀ t, aborted t → aborted' t) : Meets before act after' refused' aborted' := by
  intro s hs
  exact (h s hs).weaken ha hr hb

theorem Meets.strengthen (h : Meets before act after refused aborted)
    (hp : ∀ s, before' s → before s) : Meets before' act after refused aborted := by
  intro s hs
  exact h s (hp s hs)

theorem Meets.of_unrefused (h : Meets before act after (fun _ => False) aborted) :
    Meets before act after refused aborted :=
  h.weaken (fun _ _ ha => ha) (fun _ hr => hr.elim) fun _ hb => hb

theorem Ends.bind (h : Ends after refused aborted (act s))
    (hn : ∀ a, Meets (after a) (next a) final refused aborted) :
    Ends final refused aborted ((act >>= next) s) := by
  rw [bind_apply]
  cases hact : act s with
  | mk outcome t =>
    rw [hact] at h
    cases outcome with
    | ok a => exact hn a t h
    | error fault =>
      cases fault with
      | refusal cause => exact h
      | abort cause => exact h

theorem Meets.bind (h : Meets before act after refused aborted)
    (hn : ∀ a, Meets (after a) (next a) final refused aborted) :
    Meets before (act >>= next) final refused aborted := by
  intro s hs
  exact (h s hs).bind hn

theorem Meets.value {a : α} (h : ∀ s, before s → after a s) :
    Meets before (pure a) after refused aborted := h

theorem Meets.modify {f : σ → σ} {after : Unit → σ → Prop} (h : ∀ s, before s → after () (f s)) :
    Meets before (Act.modify f) after refused aborted := h

theorem Meets.refuse {cause : Error} (h : ∀ s, before s → refused s) :
    Meets before (Act.refuse cause) after refused aborted := h

theorem Ends.read {next : σ → Act σ β} (h : Ends final refused aborted (next s s)) :
    Ends final refused aborted ((Act.read >>= next) s) := h

theorem Meets.read {next : σ → Act σ β}
    (h : ∀ s, before s → Ends final refused aborted (next s s)) :
    Meets before (Act.read >>= next) final refused aborted := h

theorem Meets.attempt {after : Except Error α → σ → Prop}
    (h : Meets before act (fun a => after (.ok a)) (fun s => ∀ cause, after (.error cause) s)
      aborted) : Meets before (Act.attempt act) after refused aborted := by
  intro s hs
  have hact := h s hs
  unfold Act.attempt
  rcases hout : act s with ⟨fault | a, t⟩
  · rw [hout] at hact
    cases fault with
    | refusal cause => exact hact cause
    | abort cause => exact hact
  · rw [hout] at hact
    exact hact

theorem Meets.attempt_both {after : σ → Prop}
    (h : Meets before act (fun _ => after) after aborted) :
    Meets before (Act.attempt act) (fun _ => after) refused aborted :=
  Meets.attempt (h.weaken (fun _ _ ht => ht) (fun _ ht _ => ht) fun _ ht => ht)

theorem Ends.change {f : σ → Except Error σ} {after : Unit → σ → Prop}
    (h : ∀ t, f s = .ok t → after () t) (hr : refused s) :
    Ends after refused aborted (Act.change f s) := by
  unfold Act.change
  cases hf : f s with
  | ok t => exact h t hf
  | error cause => exact hr

theorem ends_map {f : σ → τ} {after : α → τ → Prop} {refused aborted : τ → Prop}
    {out : Except Fault α × σ} : Ends after refused aborted (out.1, f out.2) ↔
      Ends (fun a s => after a (f s)) (fun s => refused (f s)) (fun s => aborted (f s)) out := by
  rcases out with ⟨fault | a, t⟩
  · cases fault <;> exact Iff.rfl
  · exact Iff.rfl

theorem Ends.within {part : τ → σ} {replace : τ → σ → τ} {w : τ} {after : α → τ → Prop}
    {refused aborted : τ → Prop}
    (h : Ends (fun a t => after a (replace w t)) (fun t => refused (replace w t))
      (fun t => aborted (replace w t)) (act (part w))) :
    Ends after refused aborted (Act.within part replace act w) := ends_map.2 h

theorem Ends.closing {work : σ → σ}
    (h : Ends (fun a t => after a (work t)) (fun t => refused (work t)) (fun t => aborted (work t))
      (act s)) : Ends after refused aborted (Act.closing act work s) := ends_map.2 h

end Rules

section Sparing

variable {view : σ → γ} {act : Act σ α} {next : α → Act σ β}

/-- However the action ends, this view of the state is as before. -/
def Spares (view : σ → γ) (act : Act σ α) : Prop := ∀ s, view (act s).2 = view s

theorem Spares.value (a : α) : Spares view (pure a : Act σ α) := fun _ => rfl

theorem Spares.refuse (cause : Error) : Spares view (Act.refuse cause : Act σ α) := fun _ => rfl

theorem Spares.abort (cause : Abort) : Spares view (Act.abort cause : Act σ α) := fun _ => rfl

theorem Spares.read : Spares view (Act.read : Act σ σ) := fun _ => rfl

theorem Spares.bind (h : Spares view act) (hn : ∀ a, Spares view (next a)) :
    Spares view (act >>= next) := by
  intro s
  rw [bind_apply]
  have hact := h s
  rcases hout : act s with ⟨fault | a, t⟩
  · rw [hout] at hact
    exact hact
  · rw [hout] at hact
    exact (hn a t).trans hact

theorem Spares.attempt (h : Spares view act) : Spares view (Act.attempt act) := by
  intro s
  rw [← h s, Act.attempt]
  rcases act s with ⟨fault | a, t⟩
  · cases fault <;> rfl
  · rfl

theorem Spares.within {act : Act τ α} {part : σ → τ} {replace : σ → τ → σ}
    (h : ∀ s t, view (replace s t) = view s) : Spares view (Act.within part replace act) := by
  intro s
  unfold Act.within
  exact h s (act (part s)).2

theorem Spares.modify {f : σ → σ} (h : ∀ s, view (f s) = view s) : Spares view (Act.modify f) := h

theorem Spares.of_part {act : Act τ α} {view : τ → γ} {part : σ → τ} {replace : σ → τ → σ}
    (h : Spares view act) (hp : ∀ s t, part (replace s t) = t) :
    Spares (fun s => view (part s)) (Act.within part replace act) := by
  intro s
  show view (part (replace s (act (part s)).2)) = view (part s)
  rw [hp]
  exact h (part s)

/-- What comes after an action may have no say in the view. -/
theorem view_bind (hn : ∀ a, Spares view (next a)) (s : σ) :
    view ((act >>= next) s).2 = view (act s).2 := by
  rw [bind_apply]
  rcases act s with ⟨fault | a, t⟩
  · rfl
  · exact hn a t

theorem Spares.meets (h : Spares view act) (p : γ → Prop) :
    Meets (fun s => p (view s)) act (fun _ s => p (view s)) (fun s => p (view s))
      fun s => p (view s) := by
  intro s hs
  rw [← h s] at hs
  rcases hout : act s with ⟨fault | a, t⟩
  all_goals rw [hout] at hs
  · cases fault <;> exact hs
  · exact hs

end Sparing

end Act

end TensorQueue
