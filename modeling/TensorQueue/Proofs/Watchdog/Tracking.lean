import TensorQueue.Proofs.Watchdog.Attendance
import Mathlib.Data.List.Induction

/-!
# Levels that a chain loses track of

Any countdown of a chain may refuse any setting. A level that refuses to be
armed is not armed, and nothing is remembered of it. But a chain that is to rest
or to count anew forgets the level that it remembers before that level is
disarmed. If the disarming is refused, the level runs on with nobody to mind it,
and the news of its expiry is dropped. There is no other way to lose an armed
level, and an activation that comes upon it finds it again.
-/

set_option autoImplicit false

namespace TensorQueue

/-- A countdown that does not let itself be disarmed refuses; it never aborts. -/
theorem Countdown.refusal_of_disarming {c d : Countdown} {fault : Fault}
    (h : set .zero c = (.error fault, d)) :
    (∃ cause, fault = .refusal cause) ∧ d.settings = ⟨.zero, true⟩ :: c.settings := by
  unfold set at h
  dsimp only at h
  split at h
  · cases h
  · rename_i verdict hv
    cases h
    refine ⟨?_, by rw [hv]; rfl⟩
    have zero : Duration.zero.isZero = true := rfl
    unfold check at hv
    split at hv
    · simp [zero] at hv
    · split at hv
      · cases hv
      · exact ⟨_, (Except.error.inj hv).symm⟩
    · split at hv
      · exact ⟨_, (Except.error.inj hv).symm⟩
      · cases hv

namespace Alarm

variable {a b d : Alarm}

theorem Continues.trans (h : Continues a b) (h' : Continues b d) : Continues a d where
  cycle := h'.cycle.trans h.cycle
  phase hp := h.phase (h'.phase hp)
  punctual hp := h'.punctual (h.punctual hp)

theorem continues_countdown (c : Countdown) (a : Alarm) : a.Continues { a with countdown := c } :=
  .of_parts rfl id (List.Subset.refl _)

/-- A disarming brings the alarm to rest, or it is refused and the alarm stays armed. -/
theorem deactivate_cases (a : Alarm) :
    (∃ c phase, deactivate a = (.ok (), { a with countdown := c, phase := phase }) ∧
      phase ≠ .active) ∨
    ∃ cause c, deactivate a = (.error (.refusal cause), { a with countdown := c }) ∧
      c.settings = ⟨.zero, true⟩ :: a.countdown.settings := by
  simp only [deactivate, Act.bind_apply, Act.read_apply]
  by_cases h : a.phase = .active
  · rw [if_pos h]
    simp only [Act.bind_apply, onCountdown, Act.within]
    rcases hs : Countdown.set .zero a.countdown with ⟨fault | u, c⟩
    · obtain ⟨⟨cause, rfl⟩, asked⟩ := Countdown.refusal_of_disarming hs
      exact .inr ⟨cause, c, rfl, asked⟩
    · exact .inl ⟨c, .inactive, rfl, by decide⟩
  · rw [if_neg h]
    exact .inl ⟨a.countdown, a.phase, rfl, h⟩

/-- An activation finds the alarm armed, arms it in its next cycle, or fails and does neither. -/
theorem activate_cases (a : Alarm) :
    activate a = (.ok a.cycle, a) ∨
    (∃ c, activate a = (.ok (a.cycle + 1),
      { a with countdown := c, cycle := a.cycle + 1, phase := .active })) ∨
    ∃ fault c, activate a = (.error fault, { a with countdown := c }) := by
  by_cases h : a.phase = .active
  · exact .inl (activate_of_active h)
  · right
    simp only [activate, Act.bind_apply, Act.read_apply, if_neg h, onCountdown, Act.within]
    rcases Countdown.set a.timeout a.countdown with ⟨fault | u, c⟩
    · exact .inr ⟨fault, c, rfl⟩
    · exact .inl ⟨c, rfl⟩

end Alarm

namespace Escalation

/-- A level is armed, whether or not it is remembered. -/
def Armed (e : Escalation) (level : Nat) : Prop :=
  ∃ a : Alarm, e.alarms[level]? = some a ∧ a.phase = .active

/-- A level is armed and not remembered. -/
def Lost (e : Escalation) (level : Nat) : Prop := e.activeLevel ≠ some level ∧ e.Armed level

/-- The level that is remembered has its present cycle remembered with it. No cycle has a number
above the count of the settings that armed its level, and what waits at a level is of its present
cycle at the latest, unless the numbers are used up. -/
structure Ordered (e : Escalation) : Prop where
  remembered : e.cycles.length = e.levels
  current : ∀ l, e.activeLevel = some l →
    ∃ a : Alarm, e.alarms[l]? = some a ∧ e.cycles[l]? = some a.cycle
  timed : ∀ a ∈ e.alarms, a.timeout.isZero = false
  paced : ∀ (l : Nat) (a : Alarm), e.alarms[l]? = some a → a.cycle.toNat ≤ e.armings l
  punctual : ∀ (l : Nat) (a : Alarm), e.alarms[l]? = some a →
    a.Punctual ∨ UInt64.size ≤ e.armings l

/-- The settings of all levels have been gathered from their countdowns. -/
def Gathered (e : Escalation) : Prop := ∀ a ∈ e.alarms, a.countdown.settings = []

/-- A call forgets the level that is remembered and asks for it to be disarmed. That is refused,
and with it the call, which asks for nothing else. -/
structure Abandons (e : Escalation) (m : Move) (level : Nat) : Prop where
  remembered : e.activeLevel = some level
  refused : ∃ c cause, m = .call c ∧ (Watchdog.perform c e).1 = .error (.refusal cause)
  asked : (e.after m).settings = (level, ⟨.zero, true⟩) :: e.settings

/-- What was armed and remembered before is armed no more, unless the numbers of its cycles are
used up. -/
def Leaves (e f : Escalation) : Prop :=
  ∀ l, e.activeLevel = some l → f.Armed l → UInt64.size ≤ e.armings l

/-- One level is found armed or is armed anew, and remembered with its cycle. -/
structure Takes (level : Nat) (e f : Escalation) : Prop where
  activeLevel : f.activeLevel = some level
  alarm : ∃ a b : Alarm, e.alarms[level]? = some a ∧ f.alarms = e.alarms.set level b ∧
    f.cycles = e.cycles.set level b.cycle ∧ (a.Continues b ∨
      ∃ c, b = { a with countdown := c, cycle := a.cycle + 1, phase := .active })

/-- What a move comes to, whatever is refused. -/
inductive Happens (e : Escalation) (m : Move) (f : Escalation) : Prop where
  | goOn : Continues e f → f.activeLevel = e.activeLevel → Happens e m f
  | rest : Continues e f → f.activeLevel = none → Leaves e f → Happens e m f
  | abandon {level : Nat} : Continues e f → f.activeLevel = none → Abandons e m level →
      Happens e m f
  | take {between : Escalation} {level : Nat} : Continues e between → Leaves e between →
      Takes level between f → Happens e m f

section Steps

variable {e f g : Escalation} {level : Nat} {m : Move}

theorem Continues.trans (h : Continues e f) (h' : Continues f g) : Continues e g where
  ordinals := h'.ordinals.trans h.ordinals
  alarms l d hd := by
    obtain ⟨b, hb, hbd⟩ := h'.alarms l d hd
    obtain ⟨a, ha, hab⟩ := h.alarms l b hb
    exact ⟨a, ha, hab.trans hbd⟩
  cycles := h'.cycles.trans h.cycles

theorem Continues.armed (h : Continues e f) (ha : f.Armed level) : e.Armed level := by
  obtain ⟨b, hb, active⟩ := ha
  obtain ⟨a, ha, continues⟩ := h.alarms level b hb
  exact ⟨a, ha, continues.phase active⟩

theorem Ordered.armings_le (h : Ordered e) (hc : Accounts e f) {b : Alarm}
    (hb : f.alarms[level]? = some b) : e.armings level ≤ f.armings level := by
  obtain ⟨a, n, ha, cycle, more⟩ := (hc h.timed).2 level b hb
  omega

theorem Ordered.paced_after (h : Ordered e) (hc : Accounts e f) (l : Nat) (b : Alarm)
    (hb : f.alarms[l]? = some b) : b.cycle.toNat ≤ f.armings l := by
  obtain ⟨a, n, ha, cycle, more⟩ := (hc h.timed).2 l b hb
  have before := h.paced l a ha
  rw [cycle, UInt64.toNat_add, UInt64.toNat_ofNat']
  omega

theorem Ordered.punctual_after (h : Ordered e) (hc : Accounts e f) {l : Nat} {a b : Alarm}
    (ha : e.alarms[l]? = some a) (hb : f.alarms[l]? = some b) (hab : a.Continues b) :
    b.Punctual ∨ UInt64.size ≤ f.armings l := by
  rcases h.punctual l a ha with punctual | usedUp
  · exact .inl (hab.punctual punctual)
  · exact .inr (Nat.le_trans usedUp (h.armings_le hc hb))

theorem Ordered.goOn (h : Ordered e) (hc : Accounts e f) (hf : Continues e f)
    (ha : f.activeLevel = e.activeLevel ∨ f.activeLevel = none) : Ordered f where
  remembered := by rw [hf.cycles, levels_of_ordinals hf.ordinals, h.remembered]
  current l hl := by
    have active : e.activeLevel = some l := by
      rcases ha with same | forgotten
      · exact same.symm.trans hl
      · rw [forgotten] at hl
        cases hl
    obtain ⟨a, hea, hcycle⟩ := h.current l active
    obtain ⟨b, hfb, hb⟩ := hf.current hea
    exact ⟨b, hfb, by rw [hf.cycles, hcycle, hb]⟩
  timed := (hc h.timed).1
  paced := h.paced_after hc
  punctual l b hb := by
    obtain ⟨a, ha, continues⟩ := hf.alarms l b hb
    exact h.punctual_after hc ha hb continues

theorem Takes.lookup (h : Takes level e f) {l : Nat} {b : Alarm} (hb : f.alarms[l]? = some b)
    (hl : l ≠ level) : e.alarms[l]? = some b := by
  obtain ⟨a, d, -, halarms, -⟩ := h.alarm
  rwa [halarms, List.getElem?_set_ne (Ne.symm hl)] at hb

/-- A level that comes into another cycle has been armed once more, so the numbers of its cycles
go on unless they are used up. -/
theorem Ordered.takes (h : Ordered e) (hc : Accounts e f) {between : Escalation}
    (hm : Continues e between) (ht : Takes level between f) : Ordered f := by
  obtain ⟨active, a, b, ha, halarms, hcycles, turn⟩ := id ht
  have bound : level < between.alarms.length := (List.getElem?_eq_some_iff.1 ha).1
  have found : f.alarms[level]? = some b := by rw [halarms, List.getElem?_set_self bound]
  have length : between.cycles.length = between.alarms.length := by
    rw [hm.cycles, h.remembered]
    exact (levels_of_ordinals hm.ordinals).symm
  refine ⟨?_, fun l hl => ?_, (hc h.timed).1, h.paced_after hc, fun l d hd => ?_⟩
  · rw [hcycles, List.length_set, length, levels, halarms, List.length_set]
  · obtain rfl : level = l := Option.some.inj (active.symm.trans hl)
    exact ⟨b, found, by rw [hcycles, List.getElem?_set_self (length ▸ bound)]⟩
  · by_cases hl : l = level
    · subst hl
      obtain rfl : b = d := Option.some.inj (found.symm.trans hd)
      obtain ⟨o, ho, continues⟩ := hm.alarms l a ha
      rcases turn with same | ⟨c, rfl⟩
      · exact h.punctual_after hc ho hd (continues.trans same)
      · obtain ⟨o', n, ho', cycle, more⟩ := (hc h.timed).2 l _ hd
        obtain rfl : o = o' := Option.some.inj (ho.symm.trans ho')
        have some_arming : n ≠ 0 := by
          rintro rfl
          rw [continues.cycle] at cycle
          exact Vigil.ne_next o.cycle (by simpa using cycle.symm)
        have before := h.paced l o ho
        rcases h.punctual l o ho with punctual | usedUp
        · by_cases room : UInt64.size ≤ f.armings l
          · exact .inr room
          · left
            refine (continues.punctual punctual).armed ?_ c
            rw [continues.cycle]
            omega
        · right
          omega
    · obtain ⟨o, ho, continues⟩ := hm.alarms l d (ht.lookup hd hl)
      exact h.punctual_after hc ho hd continues

theorem Happens.ordered (h : Ordered e) (hh : Happens e m f) (hc : Accounts e f) : Ordered f := by
  cases hh with
  | goOn continues same => exact h.goOn hc continues (.inl same)
  | rest continues forgotten _ => exact h.goOn hc continues (.inr forgotten)
  | abandon continues forgotten _ => exact h.goOn hc continues (.inr forgotten)
  | take continues _ takes => exact h.takes hc continues takes

/-- A move loses no level but the one that it abandons. -/
theorem Happens.lost (hh : Happens e m f) (hl : Lost f level) :
    Lost e level ∨ Abandons e m level ∨ UInt64.size ≤ e.armings level := by
  have left : ∀ d : Escalation, Leaves e d → e.Armed level → d.Armed level →
      Lost e level ∨ Abandons e m level ∨ UInt64.size ≤ e.armings level := by
    intro d leaves before armed
    by_cases active : e.activeLevel = some level
    · exact .inr (.inr (leaves level active armed))
    · exact .inl ⟨active, before⟩
  obtain ⟨unknown, armed⟩ := hl
  cases hh with
  | goOn continues same => exact .inl ⟨same ▸ unknown, continues.armed armed⟩
  | rest continues _ leaves => exact left f leaves (continues.armed armed) armed
  | @abandon given continues _ abandons =>
    by_cases here : given = level
    · exact .inr (.inl (here ▸ abandons))
    · left
      refine ⟨fun active => here ?_, continues.armed armed⟩
      exact Option.some.inj (abandons.remembered.symm.trans active)
  | @take between taken continues leaves takes =>
    have other : level ≠ taken := fun here => unknown (here ▸ takes.activeLevel)
    obtain ⟨b, hb, active⟩ := armed
    have armed : between.Armed level := ⟨b, takes.lookup hb other, active⟩
    exact left between leaves (continues.armed armed) armed

end Steps

section Gathering

variable {e : Escalation} {level : Nat}

theorem gathered_put (h : Gathered e) (level : Nat) (a : Alarm) : Gathered (put level a e) := by
  intro b hb
  rcases List.mem_or_eq_of_mem_set hb with hb | rfl
  · exact h b hb
  · rfl

theorem gathered_modify (h : Gathered e) (level : Nat) {g : Alarm → Alarm}
    (hg : ∀ a : Alarm, (g a).countdown.settings = a.countdown.settings) :
    Gathered { e with alarms := e.alarms.modify level g } := by
  intro b hb
  obtain ⟨l, hl⟩ := List.mem_iff_getElem?.1 hb
  rw [List.getElem?_modify] at hl
  obtain ⟨a, ha, rfl⟩ := Option.map_eq_some_iff.1 hl
  have clear := h a (List.mem_of_getElem? ha)
  split
  · rw [hg, clear]
  · exact clear

/-- However the action ends, the settings are gathered. -/
abbrev Gathers {α : Type} (act : Act Escalation α) : Prop :=
  Act.Meets Gathered act (fun _ => Gathered) Gathered Gathered

theorem gathers_onLevel {α : Type} (level : Nat) (act : Act Alarm α) :
    Gathers (onLevel level act) := by
  intro e h
  cases ha : e.alarms[level]? with
  | none =>
    rw [onLevel, ha]
    exact h
  | some a =>
    rw [onLevel_of_some ha]
    rcases act a with ⟨fault | x, b⟩
    · cases fault <;> exact gathered_put h level b
    · exact gathered_put h level b

theorem gathers_deactivate : Gathers deactivate := by
  unfold deactivate
  refine Act.Meets.read fun e h => ?_
  cases e.activeLevel with
  | none => exact h
  | some level => exact gathers_onLevel level _ { e with activeLevel := none } h

theorem gathers_restart : Gathers restart := by
  refine gathers_deactivate.bind fun _ => (gathers_onLevel 0 _).bind fun cycle => ?_
  have remembers : Gathers (Act.modify (remember 0 cycle)) := Act.Meets.modify fun _ h => h
  exact remembers.bind fun _ => Act.Meets.value fun _ h => h

/-- Every way to end leaves the settings gathered. -/
theorem Gathers.state {α : Type} {act : Act Escalation α} (h : Gathers act) (he : Gathered e) :
    Gathered (act e).2 := by
  have ends := h e he
  rcases hact : act e with ⟨fault | x, f⟩
  all_goals rw [hact] at ends
  · cases fault <;> exact ends
  · exact ends

theorem gathered_climb (h : Gathered e) (level : Nat) : Gathered (climb level e) := by
  unfold climb
  split
  · have next : Gathered (onLevel level Alarm.activate e).2 := (gathers_onLevel level _).state h
    split <;> rename_i hl <;> rw [hl] at next <;> exact next
  · exact h

theorem gathered_after (h : Gathered e) (m : Move) : Gathered (e.after m) := by
  have ends : ∀ {α β : Type} {act : Act Escalation α} (g : α → β), Gathers act →
      Gathered ((act >>= fun a => pure (g a)) e).2 := by
    intro α β act g hact
    exact Gathers.state (hact.bind fun a => Act.Meets.value fun _ ht => ht) h
  cases m with
  | call c =>
    cases c with
    | activate => exact ends _ gathers_restart
    | signal =>
      have signals : Gathers (restart >>= fun _ => pure ()) :=
        gathers_restart.bind fun _ => Act.Meets.value fun _ ht => ht
      exact ends (fun _ => none) signals
    | deactivate => exact ends (fun _ => none) gathers_deactivate
    | setTimeout timeout => exact ends (fun _ => none) (gathers_onLevel 0 (Alarm.setTimeout timeout))
  | setTimeoutAt level timeout => exact (gathers_onLevel level (Alarm.setTimeout timeout)).state h
  | expire level count =>
    refine gathered_modify h level fun a => ?_
    unfold Alarm.expire
    repeat' split
    all_goals rfl
  | deliver level =>
    rw [after, deliver]
    split
    · exact h
    · rename_i cycle b hb
      have begun : Gathered (put level b e) := gathered_put h level b
      have heard : Gathered { put level b e with queued := e.queued ++ [(level, cycle)] } := begun
      unfold escalate
      split
      · exact gathered_climb heard (level + 1)
      · exact begun
  | endBark level =>
    refine gathered_modify h level fun a => ?_
    unfold Alarm.finishJob
    repeat' split
    all_goals rfl
  | beginCallback =>
    simp only [after, beginCallback]
    split <;> exact h
  | finishCallback => exact h

end Gathering

section Calls

variable {e : Escalation} {level : Nat}

/-- What a call can come to, whatever is refused. -/
inductive Called {α : Type} (e : Escalation) (out : Except Fault α × Escalation) : Prop where
  | rest : Continues e out.2 → out.2.activeLevel = none → Leaves e out.2 → Called e out
  | abandon {level : Nat} {cause : Error} : Continues e out.2 → out.2.activeLevel = none →
      e.activeLevel = some level → out.1 = .error (.refusal cause) →
      out.2.settings = (level, ⟨.zero, true⟩) :: e.settings → Called e out
  | take {between : Escalation} : Continues e between → Leaves e between →
      Takes 0 between out.2 → Called e out

theorem Called.bind_pure {α β : Type} {act : Act Escalation α} {g : α → β}
    (h : Called e (act e)) : Called e ((act >>= fun a => pure (g a)) e) := by
  rw [Act.bind_apply]
  rcases hact : act e with ⟨fault | x, f⟩
  all_goals
    rw [hact] at h
    cases h with
    | rest continues forgotten leaves => exact .rest continues forgotten leaves
    | abandon continues forgotten active refused asked =>
      exact .abandon continues forgotten active (congrArg (Except.map g) refused) asked
    | take continues leaves takes => exact .take continues leaves takes

theorem arm_cases (level : Nat) (e : Escalation) :
    (∃ cycle f, onLevel level Alarm.activate e = (.ok cycle, f) ∧
      Takes level e (remember level cycle f)) ∨
    ∃ fault f, onLevel level Alarm.activate e = (.error fault, f) ∧ Continues e f ∧
      f.activeLevel = e.activeLevel := by
  cases ha : e.alarms[level]? with
  | none => exact .inr ⟨_, e, by rw [onLevel, ha], .refl e, rfl⟩
  | some a =>
    rw [onLevel_of_some ha]
    rcases Alarm.activate_cases a with found | ⟨c, armed⟩ | ⟨fault, c, failed⟩
    · rw [found]
      exact .inl ⟨_, _, rfl, rfl, a, _, ha, rfl, rfl, .inl (Alarm.continues_countdown _ a)⟩
    · rw [armed]
      exact .inl ⟨_, _, rfl, rfl, a, _, ha, rfl, rfl, .inr ⟨_, rfl⟩⟩
    · rw [failed]
      exact .inr ⟨_, _, rfl, continues_put ha (Alarm.continues_countdown c a), rfl⟩

theorem deactivate_cases (h : Ordered e) (hg : Gathered e) :
    (∃ f, deactivate e = (.ok (), f) ∧ Continues e f ∧ f.activeLevel = none ∧ Leaves e f) ∨
    ∃ level cause f, deactivate e = (.error (.refusal cause), f) ∧ Continues e f ∧
      f.activeLevel = none ∧ e.activeLevel = some level ∧
      f.settings = (level, ⟨.zero, true⟩) :: e.settings := by
  cases hactive : e.activeLevel with
  | none =>
    refine .inl ⟨e, ?_, .refl e, hactive, fun l hl => ?_⟩
    · simp only [deactivate, Act.bind_apply, Act.read_apply, hactive]
      rfl
    · rw [hactive] at hl
      cases hl
  | some level =>
    obtain ⟨a, ha, -⟩ := h.current level hactive
    have unfolded : deactivate e =
        ((Alarm.deactivate a).1, put level (Alarm.deactivate a).2 { e with activeLevel := none }) := by
      simp only [deactivate, Act.bind_apply, Act.read_apply, hactive, Act.write_apply]
      exact onLevel_of_some (e := { e with activeLevel := none }) ha
    rw [unfolded]
    rcases Alarm.deactivate_cases a with ⟨c, phase, hd, hphase⟩ | ⟨cause, c, hd, asked⟩
    · rw [hd]
      refine .inl ⟨_, rfl, ?_, rfl, fun l hl armed => ?_⟩
      · exact continues_of_set ha (Alarm.continues_deactivate hphase) rfl rfl
      · obtain rfl : level = l := Option.some.inj (hactive.symm.trans hl)
        obtain ⟨b, hb, active⟩ := armed
        have bound : level < e.alarms.length := (List.getElem?_eq_some_iff.1 ha).1
        change (e.alarms.set level _)[level]? = some b at hb
        rw [List.getElem?_set_self bound] at hb
        cases hb
        exact absurd active hphase
    · rw [hd]
      refine .inr ⟨level, cause, _, rfl, ?_, rfl, rfl, ?_⟩
      · exact continues_of_set ha (Alarm.continues_countdown _ a) rfl rfl
      · simp only [put, asked, hg a (List.mem_of_getElem? ha)]
        rfl

theorem called_deactivate (h : Ordered e) (hg : Gathered e) : Called e (deactivate e) := by
  rcases deactivate_cases h hg with ⟨f, hd, continues, forgotten, leaves⟩ |
    ⟨level, cause, f, hd, continues, forgotten, active, asked⟩
  · rw [hd]
    exact .rest continues forgotten leaves
  · rw [hd]
    exact .abandon continues forgotten active rfl asked

theorem called_restart (h : Ordered e) (hg : Gathered e) : Called e (restart e) := by
  rcases deactivate_cases h hg with ⟨m, hd, continues, forgotten, leaves⟩ |
    ⟨level, cause, f, hd, continues, forgotten, active, asked⟩
  · rw [restart, Act.bind_of_ok hd]
    rcases arm_cases 0 m with ⟨cycle, f, hf, takes⟩ | ⟨fault, f, hf, goesOn, same⟩
    · rw [Act.bind_of_ok hf]
      exact .take continues leaves takes
    · rw [Act.bind_of_error hf]
      refine .rest (continues.trans goesOn) (same.trans forgotten) fun l hl armed => ?_
      exact leaves l hl (goesOn.armed armed)
  · rw [restart, Act.bind_of_error hd]
    exact .abandon continues forgotten active rfl asked

theorem happens_of_called {c : Watchdog.Call} (h : Called e (Watchdog.perform c e)) :
    Happens e (.call c) (e.after (.call c)) := by
  cases h with
  | rest continues forgotten leaves => exact .rest continues forgotten leaves
  | @abandon level cause continues forgotten active refused asked =>
    exact .abandon continues forgotten ⟨active, ⟨c, cause, rfl, refused⟩, asked⟩
  | take continues leaves takes => exact .take continues leaves takes

/-- News of the level that is remembered, in its present cycle, comes when that level is armed no
more. -/
theorem Ordered.leaves (h : Ordered e) {a b : Alarm} {id : UInt64} (ha : e.alarms[level]? = some a)
    (hb : a.beginJob = some (id, b)) (hc : e.isCurrent level id = true) {f : Escalation}
    (hf : Continues e f) : Leaves e f := by
  rw [isCurrent, Bool.and_eq_true] at hc
  obtain ⟨hactive, hcycle⟩ := hc
  have active := of_decide_eq_true hactive
  have cycle := of_decide_eq_true hcycle
  intro l hl armed
  obtain rfl : level = l := Option.some.inj (active.symm.trans hl)
  obtain ⟨a', ha', hcurrent⟩ := h.current level active
  obtain rfl : a = a' := Option.some.inj (ha.symm.trans ha')
  obtain rfl : a.cycle = id := Option.some.inj (hcurrent.symm.trans cycle)
  obtain ⟨a', ha', present⟩ := hf.armed armed
  obtain rfl : a = a' := Option.some.inj (ha.symm.trans ha')
  rcases h.punctual level a ha with punctual | usedUp
  · have waits := (Alarm.continues_beginJob hb).2
    exact absurd ((punctual _ waits).2 present) (Nat.lt_irrefl _)
  · exact usedUp

theorem deliver_happens (h : Ordered e) (level : Nat) :
    Happens e (.deliver level) (deliver level e) := by
  unfold deliver
  cases hb : e.alarms[level]?.bind Alarm.beginJob with
  | none => exact .goOn (.refl e) rfl
  | some job =>
    obtain ⟨id, b⟩ := job
    obtain ⟨a, ha, hbegin⟩ := Option.bind_eq_some_iff.1 hb
    have begun : Continues e (put level b e) :=
      continues_put ha (Alarm.continues_beginJob hbegin).1
    simp only [escalate]
    by_cases hc : (put level b e).isCurrent level id = true
    · rw [if_pos hc]
      have heard : Continues e { put level b e with queued := e.queued ++ [(level, id)] } :=
        ⟨begun.ordinals, begun.alarms, begun.cycles⟩
      have leaves : ∀ f, Continues e f → Leaves e f := fun f => h.leaves ha hbegin hc
      rw [show (put level b e).queued = e.queued from rfl, climb]
      split
      · rcases arm_cases (level + 1) { put level b e with queued := e.queued ++ [(level, id)] }
          with ⟨cycle, f, hf, takes⟩ | ⟨fault, f, hf, goesOn, same⟩
        · rw [hf]
          exact .take heard (leaves _ heard) takes
        · have continues := heard.trans goesOn
          rw [hf]
          cases fault with
          | refusal cause =>
            have forgets : Continues e { f with activeLevel := none } :=
              ⟨continues.ordinals, continues.alarms, continues.cycles⟩
            exact .rest forgets rfl (leaves _ forgets)
          | abort cause => exact .goOn continues same
      · have forgets : Continues e
            { put level b e with queued := e.queued ++ [(level, id)], activeLevel := none } :=
          ⟨begun.ordinals, begun.alarms, begun.cycles⟩
        exact .rest forgets rfl (leaves _ forgets)
    · rw [if_neg hc]
      exact .goOn begun rfl

/-- Whatever comes, it is one of the few things that can happen. -/
theorem happens_after (h : Ordered e) (hg : Gathered e) (m : Move) : Happens e m (e.after m) := by
  have timeout : ∀ m level t, Happens e m (setTimeoutAt level t e).2 := by
    intro m level t
    cases ha : e.alarms[level]? with
    | none =>
      rw [setTimeoutAt, onLevel, ha]
      exact .goOn (.refl e) rfl
    | some a =>
      rw [setTimeoutAt, onLevel_of_some ha]
      exact .goOn (continues_put ha (Alarm.continues_setTimeout t a)) rfl
  cases m with
  | call c =>
    cases c with
    | activate => exact happens_of_called (called_restart h hg).bind_pure
    | signal => exact happens_of_called (called_restart h hg).bind_pure.bind_pure
    | deactivate => exact happens_of_called (called_deactivate h hg).bind_pure
    | setTimeout t =>
      have same : e.after (.call (.setTimeout t)) = (setTimeoutAt 0 t e).2 := by
        simp only [after, Watchdog.perform, Watchdog.setTimeout, Act.bind_apply]
        rcases setTimeoutAt 0 t e with ⟨fault | _, f⟩ <;> rfl
      rw [same]
      exact timeout _ 0 t
  | setTimeoutAt level t => exact timeout _ level t
  | expire level count =>
    exact .goOn (continues_of_modify (Alarm.continues_expire count) rfl rfl) rfl
  | deliver level => exact deliver_happens h level
  | endBark level => exact .goOn (continues_of_modify Alarm.continues_finishJob rfl rfl) rfl
  | beginCallback =>
    simp only [after, beginCallback]
    split <;> exact .goOn ⟨rfl, (Continues.refl e).alarms, rfl⟩ rfl
  | finishCallback => exact .goOn ⟨rfl, (Continues.refl e).alarms, rfl⟩ rfl

end Calls

section Runs

variable {timeouts : List Duration} {source : Nat → Except Error Countdown.Source}
  {e f : Escalation} {moves : List Move} {level : Nat}

/-- Some move of a run abandons the level, and the level is not remembered again after that. -/
def Abandoned (e : Escalation) (moves : List Move) (level : Nat) : Prop :=
  ∃ before m rest, moves = before ++ m :: rest ∧ Abandons (before.foldl after e) m level ∧
    ∀ part, part <+: rest → ((before ++ m :: part).foldl after e).activeLevel ≠ some level

theorem Abandoned.concat (h : Abandoned e moves level) (m : Move)
    (hn : ((moves ++ [m]).foldl after e).activeLevel ≠ some level) :
    Abandoned e (moves ++ [m]) level := by
  obtain ⟨before, first, rest, rfl, abandons, since⟩ := h
  refine ⟨before, first, rest ++ [m], by simp, abandons, fun part hp => ?_⟩
  rcases List.prefix_concat_iff.1 hp with rfl | hp
  · simpa using hn
  · exact since part hp

theorem settings_run (e : Escalation) (moves : List Move) :
    e.settings <:+ (moves.foldl after e).settings := by
  induction moves generalizing e with
  | nil => exact List.suffix_refl _
  | cons m moves ih => exact (settings_after e m).trans (ih (e.after m))

/-- A chain that abandoned a level has been refused its disarming. -/
theorem Abandoned.asked (h : Abandoned e moves level) :
    (level, ⟨.zero, true⟩) ∈ (moves.foldl after e).settings := by
  obtain ⟨before, m, rest, rfl, abandons, -⟩ := h
  rw [List.foldl_append, List.foldl_cons]
  refine (settings_run _ rest).subset ?_
  rw [abandons.asked]
  exact List.mem_cons_self

theorem ordered_of_new (h : Escalation.new timeouts source = .ok e) :
    Ordered e ∧ Gathered e ∧ ∀ level, ¬e.Lost level := by
  have fit := fit_of_new h
  obtain ⟨-, shape, -, made⟩ := made_of_new h
  have rests := (fit.attentive.still_of_none (by rw [shape]))
  refine ⟨⟨fit.attentive.remembered, fit.attentive.current, fit.timed, fit.paced,
    fun l a ha => .inl (fit.attentive.punctual l a ha)⟩, fun a ha => ?_, fun level lost => ?_⟩
  · obtain ⟨timeout, -, _, _, -, hnew⟩ := made a ha
    simp only [Alarm.new, bind, Except.bind] at hnew
    split at hnew
    · cases hnew
    · cases hnew
      rfl
  · obtain ⟨-, a, ha, active⟩ := lost
    exact rests level a ha active

theorem ordered_run (ho : Ordered e) (hg : Gathered e) (moves : List Move) :
    Ordered (moves.foldl after e) ∧ Gathered (moves.foldl after e) := by
  induction moves generalizing e with
  | nil => exact ⟨ho, hg⟩
  | cons m moves ih =>
    exact ih ((happens_after ho hg m).ordered ho (accounts_after e m)) (gathered_after hg m)

/-- A level that is lost was abandoned. -/
theorem abandoned_of_lost (ho : Ordered e) (hg : Gathered e) (hn : ¬e.Lost level)
    (hl : (moves.foldl after e).Lost level) :
    Abandoned e moves level ∨ UInt64.size ≤ (moves.foldl after e).armings level := by
  induction moves using List.reverseRecOn with
  | nil => exact absurd hl hn
  | append_singleton moves m ih =>
    obtain ⟨ordered, gathered⟩ := ordered_run ho hg moves
    have unknown := hl.1
    rw [List.foldl_append] at hl ⊢
    have grows : (moves.foldl after e).armings level ≤
        ((moves.foldl after e).after m).armings level :=
      (settings_after _ m).sublist.countP_le
    rcases (happens_after ordered gathered m).lost hl with lost | abandons | usedUp
    · rcases ih lost with abandoned | usedUp
      · exact .inl (abandoned.concat m unknown)
      · exact .inr (Nat.le_trans usedUp grows)
    · refine .inl ⟨moves, m, [], rfl, abandons, fun part hp => ?_⟩
      rw [List.prefix_nil.1 hp]
      exact unknown
    · exact .inr (Nat.le_trans usedUp grows)

theorem queued_climb (level : Nat) (e : Escalation) : (climb level e).queued = e.queued := by
  unfold climb
  split
  · have same : (onLevel level Alarm.activate e).2.queued = e.queued := by
      unfold onLevel
      split <;> rfl
    split <;> rename_i hl <;> rw [hl] at same <;> exact same
  · rfl

/-- Whatever is refused, in whatever order things happen: a level that is armed is the one that is
remembered, in its present cycle, and its expiry counts. It may be otherwise only if a call on the
chain came back refused because the level, which was remembered then, did not let itself be
disarmed, and it has not been remembered again since. (After 2^64 armings the numbers of the cycles
come round.) -/
theorem armed_level_is_remembered (h : Escalation.new timeouts source = .ok e)
    (hf : moves.foldl after e = f) {a : Alarm} (ha : f.alarms[level]? = some a)
    (armed : a.phase = .active) :
    (f.activeLevel = some level ∧ f.cycles[level]? = some a.cycle ∧
      ∀ count, ((f.expire level count).escalate level a.cycle).queued =
        f.queued ++ [(level, a.cycle)]) ∨
    Abandoned e moves level ∨ UInt64.size ≤ f.armings level := by
  subst hf
  obtain ⟨ordered, gathered, none_lost⟩ := ordered_of_new h
  by_cases active : (moves.foldl after e).activeLevel = some level
  · left
    obtain ⟨b, hb, cycle⟩ := (ordered_run ordered gathered moves).1.current level active
    obtain rfl : a = b := Option.some.inj (ha.symm.trans hb)
    refine ⟨active, cycle, fun count => ?_⟩
    have current : ((moves.foldl after e).expire level count).isCurrent level a.cycle = true := by
      simp [isCurrent, expire, active, cycle]
    rw [escalate, if_pos current, queued_climb]
    rfl
  · right
    exact abandoned_of_lost ordered gathered (none_lost level) ⟨active, a, ha, armed⟩

/-- The second level does not let itself be armed when the first expires. -/
def unarmed : List Move :=
  [.call .activate, .expire 0 1, .deliver 0, .endBark 0, .call .signal]

theorem armed_again_after_refusal : ∃ e f a, Escalation.new [⟨1000⟩, ⟨2000⟩]
      (fun level => .ok (.manual (if level = 1 then [(1, true)] else []))) = .ok e ∧
    unarmed.foldl after e = f ∧ f.alarms[0]? = some a ∧ a.phase = .active ∧
    f.activeLevel = some 0 ∧ f.cycles[0]? = some a.cycle ∧
      ∀ count, ((f.expire 0 count).escalate 0 a.cycle).queued = f.queued ++ [(0, a.cycle)] := by
  obtain ⟨e, he⟩ : ∃ e, Escalation.new [⟨1000⟩, ⟨2000⟩]
      (fun level => .ok (.manual (if level = 1 then [(1, true)] else []))) = .ok e := ⟨_, rfl⟩
  have seen : (Escalation.new [⟨1000⟩, ⟨2000⟩]
      (fun level => .ok (.manual (if level = 1 then [(1, true)] else [])))).toOption.map (fun e =>
        let f := unarmed.foldl after e
        decide (f.alarms[0]?.any (fun a => a.phase = .active) = true ∧ f.settings.length = 3 ∧
          (0, ⟨.zero, true⟩) ∉ f.settings ∧ (1, ⟨⟨2000⟩, true⟩) ∈ f.settings)) = some true := by
    decide +kernel
  rw [he] at seen
  obtain ⟨armed, three, never_refused, -⟩ := of_decide_eq_true (Option.some.inj seen)
  obtain ⟨a, ha, active⟩ := (Option.any_eq_true _ _).1 armed
  have phase := of_decide_eq_true active
  rcases armed_level_is_remembered he rfl ha phase with remembered | abandoned | usedUp
  · exact ⟨e, _, a, he, rfl, ha, phase, remembered⟩
  · exact absurd abandoned.asked never_refused
  · have few := Nat.le_trans usedUp List.countP_le_length
    rw [three] at few
    exact absurd few (by decide)

/-- The first level does not let itself be disarmed. It runs on, nothing is remembered, and when it
expires nobody is told. -/
theorem refused_rest_loses_level : ∃ e f a, Escalation.new [⟨1000⟩, ⟨2000⟩]
      (fun _ => .ok (.manual [(1, false), (1, true)])) = .ok e ∧
    [Move.call .activate, .call .deactivate].foldl after e = f ∧
    f.alarms[0]? = some a ∧ a.phase = .active ∧ f.activeLevel = none ∧
      ([Move.expire 0 1, .deliver 0].foldl after f).queued = [] ∧
      ([Move.expire 0 1, .deliver 0].foldl after f).activeLevel = none := by
  obtain ⟨e, he⟩ : ∃ e, Escalation.new [⟨1000⟩, ⟨2000⟩]
      (fun _ => .ok (.manual [(1, false), (1, true)])) = .ok e := ⟨_, rfl⟩
  have seen : (Escalation.new [⟨1000⟩, ⟨2000⟩]
      (fun _ => .ok (.manual [(1, false), (1, true)]))).toOption.map (fun e =>
        let f := [Move.call .activate, .call .deactivate].foldl after e
        decide (f.alarms[0]?.any (fun a => a.phase = .active) = true ∧ f.activeLevel = none ∧
          ([Move.expire 0 1, .deliver 0].foldl after f).queued = [] ∧
          ([Move.expire 0 1, .deliver 0].foldl after f).activeLevel = none)) = some true := by
    decide +kernel
  rw [he] at seen
  obtain ⟨armed, forgotten, untold, rests⟩ := of_decide_eq_true (Option.some.inj seen)
  obtain ⟨a, ha, active⟩ := (Option.any_eq_true _ _).1 armed
  exact ⟨e, _, a, he, rfl, ha, of_decide_eq_true active, forgotten, untold, rests⟩

end Runs

end Escalation

end TensorQueue
