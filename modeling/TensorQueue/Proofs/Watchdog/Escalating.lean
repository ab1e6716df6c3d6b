import TensorQueue.Proofs.Outcomes
import TensorQueue.Proofs.Watchdog.Alarms
import TensorQueue.Watchdog.Escalation

/-!
# What an escalation goes through

At most one level is armed, and it is the one remembered, in the cycle that is
remembered with it. As long as no countdown refuses a setting, there are few
things that can happen. Mostly every level goes on in its cycle. A call puts all
levels to rest, and may arm the first one then. And news of the armed level, in
its present cycle, hands its callback on and arms the level above.
-/

set_option autoImplicit false

namespace TensorQueue.Escalation

/-- What may happen to an escalation, in any order. -/
inductive Move where
  | call (c : Watchdog.Call)
  | setTimeoutAt (level : Nat) (timeout : Duration)
  | expire (level : Nat) (count : UInt64)
  | deliver (level : Nat)
  | endBark (level : Nat)
  | beginCallback
  | finishCallback
  deriving DecidableEq, Repr, Inhabited

/-- What a move leaves, however it ends. -/
def after (e : Escalation) : Move → Escalation
  | .call c => (Watchdog.perform c e).2
  | .setTimeoutAt level timeout => (setTimeoutAt level timeout e).2
  | .expire level count => e.expire level count
  | .deliver level => e.deliver level
  | .endBark level => e.endBark level
  | .beginCallback => (e.beginCallback.map Prod.snd).getD e
  | .finishCallback => e.finishCallback

/-- None of the settings asked for was refused. -/
def Taken (e : Escalation) : Prop := ∀ x ∈ e.settings, x.2.refused = false

section Beginning

variable {timeouts : List Duration} {source : Nat → Except Error Countdown.Source} {e : Escalation}

theorem mapM_inversion {α β : Type} {f : α → Except Error β} {xs : List α} {ys : List β}
    (h : xs.mapM f = .ok ys) : ys.length = xs.length ∧ ∀ y ∈ ys, ∃ x ∈ xs, f x = .ok y := by
  induction xs generalizing ys with
  | nil =>
    cases h
    exact ⟨rfl, by simp⟩
  | cons x xs ih =>
    rw [List.mapM_cons] at h
    obtain ⟨y, hx, h⟩ := exists_of_except_bind h
    obtain ⟨zs, hxs, h⟩ := exists_of_except_bind h
    cases h
    obtain ⟨length, made⟩ := ih hxs
    refine ⟨by simp [length], List.forall_mem_cons.2 ⟨⟨x, List.mem_cons_self, hx⟩, ?_⟩⟩
    intro z hz
    obtain ⟨w, hw, hwz⟩ := made z hz
    exact ⟨w, List.mem_cons_of_mem _ hw, hwz⟩

/-- A new chain has a new alarm for each timeout. -/
theorem made_of_new (h : Escalation.new timeouts source = .ok e) : timeouts ≠ [] ∧
    e = ⟨e.alarms, none, List.replicate e.levels 0, none, [], []⟩ ∧ e.levels = timeouts.length ∧
    ∀ a ∈ e.alarms, ∃ timeout ∈ timeouts, ∃ level found, source level = .ok found ∧
      Alarm.new timeout found = .ok a := by
  simp only [Escalation.new, bind, Except.bind] at h
  split at h
  · cases h
  · rename_i hne
    split at h
    · cases h
    · split at h
      · cases h
      · rename_i alarms ha
        cases h
        obtain ⟨length, made⟩ := mapM_inversion ha
        refine ⟨by simpa using hne, rfl, by simpa [levels] using length, fun a hmem => ?_⟩
        obtain ⟨⟨timeout, level⟩, hin, hnew⟩ := made a hmem
        split at hnew
        · cases hnew
        · rename_i found hfound
          exact ⟨timeout, List.fst_mem_of_mem_zipIdx hin, level, found, hfound, hnew⟩

/-- Nothing is armed in a new chain, and nothing waits. -/
theorem new_inversion (h : Escalation.new timeouts source = .ok e) : timeouts ≠ [] ∧
    e.levels = timeouts.length ∧ e.activeLevel = none ∧ e.cycles.length = e.levels ∧
    ∀ a ∈ e.alarms, (a.phase = .inactive ∧ a.cycle = 0 ∧ a.queued = []) ∧ a.timeout ∈ timeouts := by
  obtain ⟨some_level, shape, levels, made⟩ := made_of_new h
  refine ⟨some_level, levels, by rw [shape], by rw [shape]; simp [Escalation.levels],
    fun a ha => ?_⟩
  obtain ⟨timeout, hin, level, found, -, hnew⟩ := made a ha
  obtain ⟨fresh, rfl⟩ := Alarm.fresh_of_new hnew
  exact ⟨fresh, hin⟩

end Beginning

section Settings

variable {α β : Type} {e f : Escalation} {level : Nat}

theorem Taken.of_suffix (h : Taken f) (hs : e.settings <:+ f.settings) : Taken e :=
  fun x hx => h x (hs.subset hx)

/-- However the action ends, settings were only added. -/
def Adds (act : Act Escalation α) : Prop := ∀ e, e.settings <:+ (act e).2.settings

theorem Adds.of_first {act : Act Escalation α} {next : α → Act Escalation β}
    (hn : ∀ a, Adds (next a)) (e : Escalation) :
    (act e).2.settings <:+ ((act >>= next) e).2.settings := by
  rw [Act.bind_apply]
  rcases act e with ⟨fault | a, f⟩
  · exact List.suffix_refl _
  · exact hn a f

theorem Adds.bind {act : Act Escalation α} {next : α → Act Escalation β} (h : Adds act)
    (hn : ∀ a, Adds (next a)) : Adds (act >>= next) :=
  fun e => (h e).trans (Adds.of_first hn e)

theorem adds_pure (a : α) : Adds (pure a) := fun _ => List.suffix_refl _

theorem onLevel_of_some {act : Act Alarm α} {a : Alarm} (h : e.alarms[level]? = some a) :
    onLevel level act e = ((act a).1, put level (act a).2 e) := by
  rw [onLevel, h]

theorem adds_onLevel (level : Nat) (act : Act Alarm α) : Adds (onLevel level act) := by
  intro e
  unfold onLevel
  split
  · exact List.suffix_refl _
  · exact List.suffix_append _ _

theorem adds_deactivate : Adds deactivate := by
  intro e
  simp only [deactivate, Act.bind_apply, Act.read_apply]
  cases e.activeLevel with
  | none => exact List.suffix_refl _
  | some level => exact adds_onLevel level _ { e with activeLevel := none }

theorem adds_arm : Adds (do
    let cycle ← onLevel 0 Alarm.activate
    Act.modify (remember 0 cycle)
    return cycle) :=
  (adds_onLevel 0 _).bind fun _ _ => List.suffix_refl _

theorem settings_climb (level : Nat) (e : Escalation) : e.settings <:+ (climb level e).settings := by
  unfold climb
  split
  · have next := adds_onLevel level Alarm.activate e
    split <;> rename_i hl <;> rw [hl] at next <;> exact next
  · exact List.suffix_refl _

theorem settings_deliver (level : Nat) (e : Escalation) :
    e.settings <:+ (deliver level e).settings := by
  unfold deliver
  split
  · exact List.suffix_refl _
  · rename_i cycle alarm hb
    unfold escalate
    split
    · refine List.IsSuffix.trans ?_ (settings_climb _ _)
      exact List.suffix_append _ _
    · exact List.suffix_append _ _

theorem settings_after (e : Escalation) (m : Move) : e.settings <:+ (e.after m).settings := by
  have restarts : Adds restart := adds_deactivate.bind fun _ => adds_arm
  cases m with
  | call c =>
    cases c with
    | activate => exact restarts.bind (fun _ => adds_pure _) e
    | signal => exact (restarts.bind fun _ => adds_pure _).bind (fun _ => adds_pure _) e
    | deactivate => exact adds_deactivate.bind (fun _ => adds_pure _) e
    | setTimeout timeout => exact (adds_onLevel 0 _).bind (fun _ => adds_pure _) e
  | setTimeoutAt level timeout => exact adds_onLevel level _ e
  | deliver level => exact settings_deliver level e
  | beginCallback =>
    simp only [after, beginCallback]
    split <;> exact List.suffix_refl _
  | _ => exact List.suffix_refl _

end Settings

/-- The cycle that each level is in. -/
def ordinals (e : Escalation) : List UInt64 := e.alarms.map Alarm.cycle

/-- Every level goes on in its cycle, and what is remembered of the levels stays. -/
structure Continues (e f : Escalation) : Prop where
  ordinals : f.ordinals = e.ordinals
  alarms : ∀ (l : Nat) (b : Alarm), f.alarms[l]? = some b →
    ∃ a : Alarm, e.alarms[l]? = some a ∧ a.Continues b
  cycles : f.cycles = e.cycles

/-- No level is armed. -/
def Still (e : Escalation) : Prop :=
  ∀ (l : Nat) (a : Alarm), e.alarms[l]? = some a → a.phase ≠ .active

/-- One level is armed anew, and remembered with its cycle. -/
structure Arms (level : Nat) (e f : Escalation) : Prop where
  alarm : ∃ (a : Alarm) (c : Countdown), e.alarms[level]? = some a ∧
    f.cycles = e.cycles.set level (a.cycle + 1) ∧
    f.alarms = e.alarms.set level { a with countdown := c, cycle := a.cycle + 1, phase := .active }
  activeLevel : f.activeLevel = some level
  queued : f.queued = e.queued

/-- The level that is armed is remembered with its cycle, and what waits at a level is of its
present cycle at the latest. -/
structure Attentive (e : Escalation) : Prop where
  remembered : e.cycles.length = e.levels
  active : ∀ (l : Nat) (a : Alarm), e.alarms[l]? = some a → a.phase = .active →
    e.activeLevel = some l
  current : ∀ l, e.activeLevel = some l →
    ∃ a : Alarm, e.alarms[l]? = some a ∧ e.cycles[l]? = some a.cycle
  punctual : ∀ (l : Nat) (a : Alarm), e.alarms[l]? = some a → a.Punctual

section Attentive

variable {e f : Escalation} {level : Nat} {a b : Alarm}

theorem levels_of_ordinals (h : f.ordinals = e.ordinals) : f.levels = e.levels := by
  have := congrArg List.length h
  simpa [ordinals, levels] using this

theorem getElem?_ordinals (e : Escalation) (l : Nat) :
    e.ordinals[l]? = e.alarms[l]?.map Alarm.cycle := List.getElem?_map

theorem Continues.refl (e : Escalation) : Continues e e :=
  ⟨rfl, fun _ b hb => ⟨b, hb, .refl b⟩, rfl⟩

theorem continues_of_alarms (hl : f.alarms.length = e.alarms.length) (hc : f.cycles = e.cycles)
    (ha : ∀ (l : Nat) (b : Alarm), f.alarms[l]? = some b →
      ∃ a : Alarm, e.alarms[l]? = some a ∧ a.Continues b) :
    Continues e f where
  ordinals := by
    apply List.ext_getElem?
    intro l
    rw [getElem?_ordinals, getElem?_ordinals]
    cases hb : f.alarms[l]? with
    | none =>
      rw [List.getElem?_eq_none_iff, hl, ← List.getElem?_eq_none_iff] at hb
      rw [hb]
    | some b =>
      obtain ⟨a, hea, hab⟩ := ha l b hb
      rw [hea, Option.map_some, Option.map_some, hab.cycle]
  alarms := ha
  cycles := hc

theorem continues_of_set (ha : e.alarms[level]? = some a) (hb : a.Continues b)
    (hs : f.alarms = e.alarms.set level b) (hc : f.cycles = e.cycles) : Continues e f := by
  refine continues_of_alarms (by rw [hs, List.length_set]) hc fun l d hd => ?_
  rw [hs, List.getElem?_set] at hd
  split at hd
  · rename_i hl
    subst hl
    split at hd
    · cases hd
      exact ⟨a, ha, hb⟩
    · cases hd
  · exact ⟨d, hd, .refl d⟩

theorem continues_of_modify {g : Alarm → Alarm} (hg : ∀ a : Alarm, a.Continues (g a))
    (hs : f.alarms = e.alarms.modify level g) (hc : f.cycles = e.cycles) : Continues e f := by
  refine continues_of_alarms (by rw [hs, List.length_modify]) hc fun l d hd => ?_
  rw [hs, List.getElem?_modify] at hd
  obtain ⟨a, ha, hd⟩ := Option.map_eq_some_iff.1 hd
  refine ⟨a, ha, ?_⟩
  subst hd
  split
  · exact hg a
  · exact .refl a

theorem Continues.current (h : Continues e f) {l : Nat} (ha : e.alarms[l]? = some a) :
    ∃ b, f.alarms[l]? = some b ∧ b.cycle = a.cycle := by
  have same := congrArg (fun xs : List UInt64 => xs[l]?) h.ordinals
  simp only [getElem?_ordinals, ha, Option.map_some, Option.map_eq_some_iff] at same
  exact same

theorem Attentive.continues (h : Attentive e) (hc : Continues e f)
    (ha : f.activeLevel = e.activeLevel) : Attentive f where
  remembered := by rw [hc.cycles, levels_of_ordinals hc.ordinals, h.remembered]
  active l b hb hp := by
    obtain ⟨a, hea, hab⟩ := hc.alarms l b hb
    rw [ha]
    exact h.active l a hea (hab.phase hp)
  current l hl := by
    obtain ⟨a, hea, hcyc⟩ := h.current l (ha.symm.trans hl)
    obtain ⟨b, hfb, hbc⟩ := hc.current hea
    exact ⟨b, hfb, by rw [hc.cycles, hcyc, hbc]⟩
  punctual l b hb := by
    obtain ⟨a, hea, hab⟩ := hc.alarms l b hb
    exact hab.punctual (h.punctual l a hea)

theorem Attentive.rest (h : Attentive e) (hc : Continues e f) (hn : f.activeLevel = none)
    (hs : Still f) : Attentive f where
  remembered := by rw [hc.cycles, levels_of_ordinals hc.ordinals, h.remembered]
  active l b hb hp := absurd hp (hs l b hb)
  current l hl := by
    rw [hn] at hl
    cases hl
  punctual l b hb := by
    obtain ⟨a, hea, hab⟩ := hc.alarms l b hb
    exact hab.punctual (h.punctual l a hea)

theorem Attentive.arms (h : Attentive e) (hs : Still e) (ha : Arms level e f)
    (room : ∀ a : Alarm, e.alarms[level]? = some a → a.cycle.toNat + 1 < UInt64.size) :
    Attentive f := by
  obtain ⟨⟨a, c, hea, hcycles, halarms⟩, hlevel, -⟩ := ha
  have bound : level < e.alarms.length := (List.getElem?_eq_some_iff.1 hea).1
  have lookup : ∀ (l : Nat) (b : Alarm), f.alarms[l]? = some b →
      l = level ∧ b = { a with countdown := c, cycle := a.cycle + 1, phase := .active } ∨
        e.alarms[l]? = some b := by
    intro l b hb
    rw [halarms, List.getElem?_set] at hb
    split at hb
    · rename_i hl
      exact .inl ⟨hl.symm, (Option.some.inj hb).symm⟩
    · exact .inr hb
  constructor
  case remembered =>
    rw [hcycles, List.length_set, h.remembered, levels, levels, halarms, List.length_set]
  case active =>
    intro l b hb hp
    rcases lookup l b hb with ⟨rfl, -⟩ | hb
    · exact hlevel
    · exact absurd hp (hs l b hb)
  case current =>
    intro l hl
    obtain rfl : level = l := Option.some.inj (hlevel.symm.trans hl)
    have inside : level < e.cycles.length := by
      rw [h.remembered]
      exact bound
    refine ⟨_, by rw [halarms, List.getElem?_set_self bound], ?_⟩
    rw [hcycles, List.getElem?_set_self inside]
  case punctual =>
    intro l b hb
    rcases lookup l b hb with ⟨rfl, rfl⟩ | hb
    · exact (h.punctual l a hea).armed (room a hea) c
    · exact h.punctual l b hb

/-- News of the armed level in its present cycle comes when that level is armed no more. -/
theorem Attentive.still (h : Attentive e) {id : UInt64} (ha : e.alarms[level]? = some a)
    (hid : id ∈ a.queued) (hc : e.isCurrent level id = true) : Still e := by
  rw [isCurrent, Bool.and_eq_true] at hc
  obtain ⟨hactive, hcycle⟩ := hc
  have active := of_decide_eq_true hactive
  have cycle := of_decide_eq_true hcycle
  obtain ⟨b, hb, hcb⟩ := h.current level active
  obtain rfl : a = b := Option.some.inj (ha.symm.trans hb)
  have same : a.cycle = id := Option.some.inj (hcb.symm.trans cycle)
  intro l d hd hp
  obtain rfl : level = l := Option.some.inj (active.symm.trans (h.active l d hd hp))
  obtain rfl : a = d := Option.some.inj (ha.symm.trans hd)
  have := (h.punctual level a ha id hid).2 hp
  rw [same] at this
  exact Nat.lt_irrefl _ this

end Attentive

/-- The call by which a move asks the whole chain to count anew or to rest. -/
def Move.opens : Move → Option Watchdog.Call
  | .call (.setTimeout _) => none
  | .call c => some c
  | _ => none

/-- What a move comes to while no setting is refused. -/
inductive Shift (e f : Escalation) : Option Watchdog.Call → Prop where
  | goOn : Continues e f → f.activeLevel = e.activeLevel → f.queued.length ≤ e.queued.length →
      Shift e f none
  | rest : Continues e f → f.activeLevel = none → Still f → f.queued = e.queued →
      Shift e f (some .deactivate)
  | restart {m : Escalation} {c : Watchdog.Call} : c ≠ .deactivate → Continues e m →
      m.activeLevel = none → Still m → m.queued = e.queued → Arms 0 m f → Shift e f (some c)
  | climb {m : Escalation} {level : Nat} {id : UInt64} : e.activeLevel = some level →
      e.cycles[level]? = some id → Continues e m → m.activeLevel = e.activeLevel → Still m →
      m.queued = e.queued ++ [(level, id)] → Arms (level + 1) m f → Shift e f none
  | top {level : Nat} {id : UInt64} : e.activeLevel = some level → e.cycles[level]? = some id →
      Continues e f → f.activeLevel = none → Still f → f.queued = e.queued ++ [(level, id)] →
      e.levels ≤ level + 1 → Shift e f none

section Shifts

variable {e : Escalation} {level : Nat} {a : Alarm}

theorem continues_put {b : Alarm} (ha : e.alarms[level]? = some a) (hb : a.Continues b) :
    Continues e (put level b e) := by
  have cleared : a.Continues { b with countdown := { b.countdown with settings := [] } } :=
    ⟨hb.cycle, hb.phase, hb.punctual⟩
  exact continues_of_set ha cleared rfl rfl

theorem taken_of_put (h : Taken (put level a e)) : Countdown.Taken a.countdown.settings := by
  intro x hx
  exact h (level, x) (List.mem_append_left _ (List.mem_map_of_mem hx))

theorem Attentive.still_of_none (h : Attentive e) (hn : e.activeLevel = none) : Still e := by
  intro l a ha hp
  have := h.active l a ha hp
  rw [hn] at this
  cases this

theorem deactivate_of_taken (h : Attentive e) (ht : Taken (deactivate e).2) :
    ∃ f, deactivate e = (.ok (), f) ∧ Continues e f ∧ f.activeLevel = none ∧ Still f ∧
      f.queued = e.queued := by
  cases ha : e.activeLevel with
  | none =>
    refine ⟨e, ?_, .refl e, ha, h.still_of_none ha, rfl⟩
    simp only [deactivate, Act.bind_apply, Act.read_apply, ha]
    rfl
  | some level =>
    obtain ⟨a, hea, -⟩ := h.current level ha
    have unfolded : deactivate e =
        ((Alarm.deactivate a).1, put level (Alarm.deactivate a).2 { e with activeLevel := none }) := by
      simp only [deactivate, Act.bind_apply, Act.read_apply, ha, Act.write_apply]
      exact onLevel_of_some (e := { e with activeLevel := none }) hea
    rw [unfolded] at ht ⊢
    obtain ⟨c, phase, hd, hphase⟩ := Alarm.deactivate_of_taken (taken_of_put ht)
    rw [hd]
    refine ⟨_, rfl, continues_of_set hea (Alarm.continues_deactivate hphase) rfl rfl, rfl, ?_, rfl⟩
    intro l b hb
    have set : (put level { a with countdown := c, phase := phase }
        { e with activeLevel := none }).alarms = e.alarms.set level
          { a with countdown := { c with settings := [] }, phase := phase } := rfl
    rw [set, List.getElem?_set] at hb
    split at hb
    · split at hb
      · cases hb
        exact hphase
      · cases hb
    · rename_i hne
      intro hp
      exact hne (Option.some.inj (ha.symm.trans (h.active l b hb hp)))

theorem arm_of_taken (hs : Still e) (ha : e.alarms[level]? = some a)
    (ht : Taken (onLevel level Alarm.activate e).2) :
    ∃ f, onLevel level Alarm.activate e = (.ok (a.cycle + 1), f) ∧
      Arms level e (remember level (a.cycle + 1) f) := by
  rw [onLevel_of_some ha] at ht ⊢
  obtain ⟨c, hc⟩ := Alarm.activate_of_taken (hs level a ha) (taken_of_put ht)
  rw [hc]
  exact ⟨_, rfl, ⟨a, _, ha, rfl, rfl⟩, rfl, rfl⟩

theorem climb_of_taken (hs : Still e) (ht : Taken (climb level e)) :
    Arms level e (climb level e) ∨
      e.levels ≤ level ∧ climb level e = { e with activeLevel := none } := by
  by_cases hl : level < e.levels
  · left
    obtain ⟨a, ha⟩ : ∃ a, e.alarms[level]? = some a := ⟨_, List.getElem?_eq_getElem hl⟩
    have taken : Taken (onLevel level Alarm.activate e).2 := by
      refine ht.of_suffix ?_
      rw [climb, if_pos hl]
      split
      all_goals
        rename_i hact
        exact hact ▸ List.suffix_refl _
    obtain ⟨f, hf, arms⟩ := arm_of_taken hs ha taken
    rw [climb, if_pos hl, hf]
    exact arms
  · right
    exact ⟨Nat.le_of_not_lt hl, by rw [climb, if_neg hl]⟩

theorem restart_of_taken (h : Attentive e) (hl : 0 < e.levels) (ht : Taken (restart e).2) :
    ∃ id m f, restart e = (.ok id, f) ∧ Continues e m ∧ m.activeLevel = none ∧ Still m ∧
      m.queued = e.queued ∧ Arms 0 m f := by
  obtain ⟨m, hm, continues, rests, still, queued⟩ :=
    deactivate_of_taken h (ht.of_suffix (Adds.of_first (fun _ => adds_arm) e))
  rw [restart, Act.bind_of_ok hm] at ht ⊢
  obtain ⟨a, ha⟩ : ∃ a, m.alarms[0]? = some a := by
    refine ⟨_, List.getElem?_eq_getElem ?_⟩
    rw [← levels_of_ordinals continues.ordinals] at hl
    exact hl
  have arming : Taken (onLevel 0 Alarm.activate m).2 :=
    ht.of_suffix (Adds.of_first (fun _ _ => List.suffix_refl _) m)
  obtain ⟨f, hf, arms⟩ := arm_of_taken still ha arming
  rw [Act.bind_of_ok hf]
  exact ⟨_, m, _, rfl, continues, rests, still, queued, arms⟩

theorem Still.continues {f : Escalation} (hs : Still e) (hc : Continues e f) : Still f := by
  intro l b hb hp
  obtain ⟨a, ha, hab⟩ := hc.alarms l b hb
  exact hs l a ha (hab.phase hp)

theorem deliver_shift (h : Attentive e) (ht : Taken (deliver level e)) :
    Shift e (deliver level e) none := by
  unfold deliver at ht ⊢
  cases hb : e.alarms[level]?.bind Alarm.beginJob with
  | none => exact .goOn (.refl e) rfl (Nat.le_refl _)
  | some job =>
    obtain ⟨id, b⟩ := job
    obtain ⟨a, ha, hbegin⟩ := Option.bind_eq_some_iff.1 hb
    obtain ⟨continues, waits⟩ := Alarm.continues_beginJob hbegin
    have begun : Continues e (put level b e) := continues_put ha continues
    simp only [hb, escalate] at ht ⊢
    by_cases hc : (put level b e).isCurrent level id = true
    · rw [if_pos hc] at ht ⊢
      have current := hc
      rw [isCurrent, Bool.and_eq_true] at current
      have active : e.activeLevel = some level := of_decide_eq_true current.1
      have cycle : e.cycles[level]? = some id := of_decide_eq_true current.2
      have heard : Continues e { put level b e with queued := e.queued ++ [(level, id)] } :=
        ⟨begun.ordinals, begun.alarms, begun.cycles⟩
      have still := (h.still ha waits hc).continues heard
      rcases climb_of_taken still ht with arms | ⟨above, hf⟩
      · exact .climb active cycle heard rfl still rfl arms
      · rw [show (put level b e).queued = e.queued from rfl, hf]
        rw [levels_of_ordinals heard.ordinals] at above
        exact .top active cycle ⟨heard.ordinals, heard.alarms, heard.cycles⟩ rfl still rfl above
    · rw [if_neg hc] at ht ⊢
      exact .goOn begun rfl (Nat.le_refl _)

/-- Whatever comes, it is one of the few things that can happen. -/
theorem shift_of_after (h : Attentive e) (hl : 0 < e.levels) (m : Move)
    (ht : Taken (e.after m)) : Shift e (e.after m) m.opens := by
  have timeout : ∀ level t, Shift e (setTimeoutAt level t e).2 none := by
    intro level t
    cases ha : e.alarms[level]? with
    | none =>
      rw [setTimeoutAt, onLevel, ha]
      exact .goOn (.refl e) rfl (Nat.le_refl _)
    | some a =>
      rw [setTimeoutAt, onLevel_of_some ha]
      exact .goOn (continues_put ha (Alarm.continues_setTimeout t a)) rfl (Nat.le_refl _)
  cases m with
  | call c =>
    have restarts : ∀ c', c' ≠ .deactivate → Taken (restart e).2 →
        Shift e (restart e).2 (some c') := by
      intro c' hc taken
      obtain ⟨id, m, f, hr, continues, rests, still, queued, arms⟩ := restart_of_taken h hl taken
      rw [hr]
      exact .restart hc continues rests still queued arms
    cases c with
    | activate =>
      have same : e.after (.call .activate) = (restart e).2 := by
        simp only [after, Watchdog.perform, Watchdog.activate, Act.bind_apply]
        rcases restart e with ⟨fault | _, f⟩ <;> rfl
      rw [same] at ht ⊢
      exact restarts _ (by simp) ht
    | signal =>
      have same : e.after (.call .signal) = (restart e).2 := by
        simp only [after, Watchdog.perform, Watchdog.signal, Act.bind_apply]
        rcases restart e with ⟨fault | _, f⟩ <;> rfl
      rw [same] at ht ⊢
      exact restarts _ (by simp) ht
    | deactivate =>
      have same : e.after (.call .deactivate) = (deactivate e).2 := by
        simp only [after, Watchdog.perform, Watchdog.deactivate, Act.bind_apply]
        rcases deactivate e with ⟨fault | _, f⟩ <;> rfl
      rw [same] at ht ⊢
      obtain ⟨f, hf, continues, rests, still, queued⟩ := deactivate_of_taken h ht
      rw [hf]
      exact .rest continues rests still queued
    | setTimeout t =>
      have same : e.after (.call (.setTimeout t)) = (setTimeoutAt 0 t e).2 := by
        simp only [after, Watchdog.perform, Watchdog.setTimeout, Act.bind_apply]
        rcases setTimeoutAt 0 t e with ⟨fault | _, f⟩ <;> rfl
      rw [same]
      exact timeout 0 t
  | setTimeoutAt level t => exact timeout level t
  | expire level count =>
    exact .goOn (continues_of_modify (Alarm.continues_expire count) rfl rfl) rfl (Nat.le_refl _)
  | deliver level => exact deliver_shift h ht
  | endBark level =>
    exact .goOn (continues_of_modify Alarm.continues_finishJob rfl rfl) rfl (Nat.le_refl _)
  | beginCallback =>
    simp only [after, beginCallback]
    split
    · rename_i job rest hr hq
      exact .goOn ⟨rfl, (Continues.refl e).alarms, rfl⟩ rfl (by simp [hq])
    · exact .goOn (.refl e) rfl (Nat.le_refl _)
  | finishCallback => exact .goOn ⟨rfl, (Continues.refl e).alarms, rfl⟩ rfl (Nat.le_refl _)

end Shifts

end TensorQueue.Escalation
