import TensorQueue.Watchdog.Alarm

/-!
# What an alarm goes through

Most of what happens to an alarm leaves it in the cycle that it was in and arms
it no more than it was. Only an activation begins a cycle. Expiries wait with
the number of their cycle, so while an alarm is armed all that waits is of
earlier cycles. A countdown that takes its settings never stands in the way.
-/

set_option autoImplicit false

namespace TensorQueue

namespace Countdown

/-- None of these settings was refused. -/
def Taken (settings : List Setting) : Prop := ∀ x ∈ settings, x.refused = false

theorem settings_set (d : Duration) (c : Countdown) :
    ∃ refused, (set d c).2.settings = ⟨d, refused⟩ :: c.settings := by
  unfold set
  dsimp only
  split <;> exact ⟨_, rfl⟩

theorem set_of_taken {d : Duration} {c : Countdown} (h : Taken (set d c).2.settings) :
    ∃ after, set d c = (.ok (), after) := by
  unfold set at h ⊢
  dsimp only at h ⊢
  split at h
  · rename_i hv
    exact ⟨_, by rw [hv]⟩
  · rename_i fault hv
    have := h _ List.mem_cons_self
    rw [hv] at this
    cases this

end Countdown

namespace Alarm

open Countdown

variable {a b : Alarm}

theorem fresh_of_new {timeout : Duration} {source : Countdown.Source}
    (h : new timeout source = .ok a) :
    (a.phase = .inactive ∧ a.cycle = 0 ∧ a.queued = []) ∧ a.timeout = timeout := by
  simp only [new, bind, Except.bind] at h
  split at h
  · cases h
  · cases h
    exact ⟨⟨rfl, rfl, rfl⟩, rfl⟩

/-- No alarm is made without a timeout. -/
theorem timeout_of_new {timeout : Duration} {source : Countdown.Source}
    (h : new timeout source = .ok a) : a.timeout.isZero = false := by
  simp only [new, Watchdog.checkTimeout, bind, Except.bind] at h
  cases hz : timeout.isZero with
  | true => simp [hz] at h
  | false =>
    simp only [hz] at h
    cases h
    exact hz

theorem settings_onCountdown (d : Duration) (a : Alarm) : ∃ refused,
    (onCountdown (Countdown.set d) a).2.countdown.settings = ⟨d, refused⟩ :: a.countdown.settings :=
  settings_set d a.countdown

/-- An activation that finds the alarm armed asks for nothing. -/
theorem activate_of_active (h : a.phase = .active) : activate a = (.ok a.cycle, a) := by
  simp only [activate, Act.bind_apply, Act.read_apply, if_pos h]
  rfl

/-- Any other one asks for one setting, with the timeout of the alarm. -/
theorem settings_activate (h : a.phase ≠ .active) : ∃ refused,
    (activate a).2.countdown.settings = ⟨a.timeout, refused⟩ :: a.countdown.settings := by
  obtain ⟨refused, hs⟩ := settings_onCountdown a.timeout a
  refine ⟨refused, ?_⟩
  simp only [activate, Act.bind_apply, Act.read_apply, if_neg h]
  rcases ha : onCountdown (Countdown.set a.timeout) a with ⟨fault | u, b⟩ <;> rw [ha] at hs <;>
    exact hs

theorem activate_of_taken (h : a.phase ≠ .active)
    (ht : Taken (activate a).2.countdown.settings) : ∃ c, activate a = (.ok (a.cycle + 1),
      { a with countdown := c, cycle := a.cycle + 1, phase := .active }) := by
  have unfolded : activate a = (do
      onCountdown (Countdown.set a.timeout)
      Act.modify fun a => { a with cycle := a.cycle + 1, phase := .active }
      return a.cycle + 1 : Act Alarm UInt64) a := by
    simp only [activate, Act.bind_apply, Act.read_apply, if_neg h]
  rw [unfolded] at ht ⊢
  simp only [Act.bind_apply, onCountdown, Act.within] at ht ⊢
  have taken : Taken (Countdown.set a.timeout a.countdown).2.settings := by
    rcases hs : Countdown.set a.timeout a.countdown with ⟨fault | _, c⟩ <;> rw [hs] at ht <;>
      exact ht
  obtain ⟨c, hc⟩ := set_of_taken taken
  exact ⟨c, by rw [hc]; rfl⟩

theorem deactivate_of_taken (ht : Taken (deactivate a).2.countdown.settings) :
    ∃ c phase, deactivate a = (.ok (), { a with countdown := c, phase := phase }) ∧
      phase ≠ .active := by
  by_cases h : a.phase = .active
  · have unfolded : deactivate a = (do
        onCountdown (Countdown.set .zero)
        Act.modify fun a => { a with phase := .inactive } : Act Alarm Unit) a := by
      simp only [deactivate, Act.bind_apply, Act.read_apply, if_pos h]
    rw [unfolded] at ht ⊢
    simp only [Act.bind_apply, onCountdown, Act.within] at ht ⊢
    have taken : Taken (Countdown.set .zero a.countdown).2.settings := by
      rcases hs : Countdown.set .zero a.countdown with ⟨fault | _, c⟩ <;> rw [hs] at ht <;>
        exact ht
    obtain ⟨c, hc⟩ := set_of_taken taken
    exact ⟨c, .inactive, by rw [hc]; exact ⟨rfl, by simp⟩⟩
  · refine ⟨a.countdown, a.phase, ?_, h⟩
    simp only [deactivate, Act.bind_apply, Act.read_apply, if_neg h]
    rfl

/-- What waits is of cycles that have begun, and while the alarm is armed of earlier ones only. -/
def Punctual (a : Alarm) : Prop := ∀ id ∈ a.queued,
  id.toNat ≤ a.cycle.toNat ∧ (a.phase = .active → id.toNat < a.cycle.toNat)

/-- The alarm goes on in its cycle, and is armed only if it was. -/
structure Continues (a b : Alarm) : Prop where
  cycle : b.cycle = a.cycle
  phase : b.phase = .active → a.phase = .active
  punctual : a.Punctual → b.Punctual

theorem Continues.refl (a : Alarm) : Continues a a := ⟨rfl, id, id⟩

/-- Nothing new waits, and the phase is what it was or a phase of rest. -/
theorem Continues.of_parts (hc : b.cycle = a.cycle) (hp : b.phase = .active → a.phase = .active)
    (hq : b.queued ⊆ a.queued) : Continues a b where
  cycle := hc
  phase := hp
  punctual h id hid := by
    rw [hc]
    exact ⟨(h id (hq hid)).1, fun active => (h id (hq hid)).2 (hp active)⟩

theorem continues_setTimeout (timeout : Duration) (a : Alarm) :
    a.Continues (setTimeout timeout a).2 := by
  simp only [setTimeout, Act.bind_apply, Act.settle]
  cases Watchdog.checkTimeout timeout with
  | ok _ => exact .of_parts rfl id (List.Subset.refl _)
  | error cause => exact .refl a

theorem continues_expire (count : UInt64) (a : Alarm) : a.Continues (a.expire count) := by
  unfold expire
  split
  · exact .refl a
  · dsimp only
    split
    · rename_i hp
      refine ⟨rfl, by simp, fun h id hid => ?_⟩
      refine ⟨?_, by simp⟩
      rcases List.mem_append.1 hid with hid | hid
      · exact (h id hid).1
      · exact Nat.le_of_eq (congrArg UInt64.toNat (List.mem_singleton.1 hid))
    · exact .of_parts rfl id (List.Subset.refl _)

theorem continues_beginJob {id : UInt64} (h : a.beginJob = some (id, b)) :
    a.Continues b ∧ id ∈ a.queued := by
  unfold beginJob at h
  split at h
  · rename_i cycle rest hr hq
    cases h
    refine ⟨.of_parts rfl (fun hp => hp) ?_, by simp [hq]⟩
    rw [hq]
    exact List.subset_cons_self _ _
  · cases h

theorem continues_finishJob (a : Alarm) : a.Continues a.finishJob := by
  unfold finishJob
  split
  · exact .refl a
  · dsimp only
    split
    · exact .of_parts rfl (by simp) (List.Subset.refl _)
    · exact .of_parts rfl id (List.Subset.refl _)

theorem continues_deactivate {c : Countdown} {phase : Phase} (h : phase ≠ .active) :
    a.Continues { a with countdown := c, phase := phase } :=
  .of_parts rfl (fun hp => absurd hp h) (List.Subset.refl _)

/-- Once an alarm is armed anew, all that waits is of earlier cycles. -/
theorem Punctual.armed (h : a.Punctual) (room : a.cycle.toNat + 1 < UInt64.size)
    (c : Countdown) : Punctual { a with countdown := c, cycle := a.cycle + 1, phase := .active } := by
  intro id hid
  have next : (a.cycle + 1).toNat = a.cycle.toNat + 1 := by
    rw [UInt64.toNat_add]
    exact Nat.mod_eq_of_lt room
  have := (h id hid).1
  simp only [next]
  omega

end Alarm

end TensorQueue
