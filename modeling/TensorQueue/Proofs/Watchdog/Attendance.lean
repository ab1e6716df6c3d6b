import TensorQueue.Proofs.Queue.Patrol
import TensorQueue.Proofs.Watchdog.Vigil

/-!
# A chain attends to the work

An escalation that supervises a queue is armed at its first level while work is
in flight, from every sign of life until a level expires, and at rest while
nothing is. Late news of an expiry cannot disturb that. It is told apart by the
number of its cycle, and a level that comes into a new cycle asks its countdown
for a setting. So as long as no level has been armed so often that its cycles
are numbered all over again, the settings bound the cycles.
-/

set_option autoImplicit false

namespace TensorQueue

namespace Alarm

variable {a b : Alarm}

/-- How many of these settings arm a countdown. -/
def armings (settings : List Countdown.Setting) : Nat :=
  settings.countP fun x => !x.duration.isZero

/-- The alarm keeps a timeout, and each cycle that it has come through since has armed its
countdown. -/
def Accounts (a b : Alarm) : Prop := a.timeout.isZero = false →
  b.timeout.isZero = false ∧
    ∃ n : Nat, b.cycle = a.cycle + .ofNat n ∧ n ≤ armings b.countdown.settings

theorem accounts_of_same (hc : b.cycle = a.cycle) (ht : b.timeout = a.timeout) : Accounts a b :=
  fun h => ⟨ht ▸ h, 0, by simp [hc], Nat.zero_le _⟩

theorem accounts_activate (a : Alarm) : Accounts a (activate a).2 := by
  intro timed
  by_cases h : a.phase = .active
  · rw [activate_of_active h]
    exact accounts_of_same rfl rfl timed
  · obtain ⟨refused, hs⟩ := settings_activate h
    have armed : 1 ≤ armings (activate a).2.countdown.settings := by
      rw [hs, armings, List.countP_cons_of_pos (by simp [timed])]
      omega
    have left : (activate a).2.timeout = a.timeout ∧
        ∃ n ≤ 1, (activate a).2.cycle = a.cycle + .ofNat n := by
      simp only [activate, Act.bind_apply, Act.read_apply, if_neg h, onCountdown, Act.within]
      rcases Countdown.set a.timeout a.countdown with ⟨fault | u, c⟩
      · exact ⟨rfl, 0, Nat.zero_le _, by simp⟩
      · exact ⟨rfl, 1, Nat.le_refl _, rfl⟩
    obtain ⟨timeout, n, one, cycle⟩ := left
    exact ⟨timeout ▸ timed, n, cycle, Nat.le_trans one armed⟩

theorem accounts_deactivate (a : Alarm) : Accounts a (deactivate a).2 := by
  by_cases h : a.phase = .active
  · simp only [deactivate, Act.bind_apply, Act.read_apply, if_pos h, onCountdown, Act.within]
    rcases Countdown.set .zero a.countdown with ⟨fault | u, c⟩ <;>
      exact accounts_of_same rfl rfl
  · simp only [deactivate, Act.bind_apply, Act.read_apply, if_neg h]
    exact accounts_of_same rfl rfl

theorem beginJob_same {id : UInt64} (h : a.beginJob = some (id, b)) :
    b.phase = a.phase ∧ b.cycle = a.cycle ∧ b.timeout = a.timeout := by
  unfold beginJob at h
  split at h
  · cases h
    exact ⟨rfl, rfl, rfl⟩
  · cases h

theorem setTimeout_same (timeout : Duration) (a : Alarm) :
    (setTimeout timeout a).2.phase = a.phase := by
  simp only [setTimeout, Act.bind_apply, Act.settle]
  cases Watchdog.checkTimeout timeout <;> rfl

theorem accounts_setTimeout (timeout : Duration) (a : Alarm) :
    Accounts a (setTimeout timeout a).2 := by
  simp only [setTimeout, Act.bind_apply, Act.settle, Watchdog.checkTimeout]
  cases hz : timeout.isZero with
  | true => exact accounts_of_same rfl rfl
  | false => exact fun _ => ⟨hz, 0, by simp, Nat.zero_le _⟩

end Alarm

namespace Escalation

/-- How often a level was armed, by the settings asked of its countdown. -/
def armings (e : Escalation) (level : Nat) : Nat :=
  e.settings.countP fun x => x.1 = level && !x.2.duration.isZero

/-- Each level keeps a timeout, and each cycle that it has come through since has armed its
countdown. -/
def Accounts (e f : Escalation) : Prop := (∀ a ∈ e.alarms, a.timeout.isZero = false) →
  (∀ b ∈ f.alarms, b.timeout.isZero = false) ∧
    ∀ (l : Nat) (b : Alarm), f.alarms[l]? = some b → ∃ (a : Alarm) (n : Nat),
      e.alarms[l]? = some a ∧ b.cycle = a.cycle + .ofNat n ∧ e.armings l + n ≤ f.armings l

section Accounts

variable {α β : Type} {e f g : Escalation} {level : Nat} {a b : Alarm}

theorem Accounts.refl (e : Escalation) : Accounts e e :=
  fun h => ⟨h, fun _ b hb => ⟨b, 0, hb, by simp, Nat.le_refl _⟩⟩

theorem Accounts.trans (h : Accounts e f) (h' : Accounts f g) : Accounts e g := by
  intro timed
  obtain ⟨timed', steps⟩ := h timed
  obtain ⟨timed'', steps'⟩ := h' timed'
  refine ⟨timed'', fun l c hc => ?_⟩
  obtain ⟨b, m, hb, cycle', more'⟩ := steps' l c hc
  obtain ⟨a, n, ha, cycle, more⟩ := steps l b hb
  refine ⟨a, n + m, ha, ?_, by omega⟩
  rw [cycle', cycle, UInt64.ofNat_add, UInt64.add_assoc]

theorem armings_put (level l : Nat) (a : Alarm) (e : Escalation) : (put level a e).armings l =
    e.armings l + if l = level then Alarm.armings a.countdown.settings else 0 := by
  simp only [armings, Alarm.armings, put, List.countP_append, List.countP_map, Function.comp_def]
  by_cases hl : l = level
  · simp only [hl, decide_true, Bool.true_and, ↓reduceIte]
    omega
  · simp [Ne.symm hl, hl]

theorem accounts_put (ha : e.alarms[level]? = some a) (hb : a.Accounts b) :
    Accounts e (put level b e) := by
  intro timed
  obtain ⟨timed', n, cycle, more⟩ := hb (timed a (List.mem_of_getElem? ha))
  refine ⟨fun d hd => ?_, fun l d hd => ?_⟩
  · rcases List.mem_or_eq_of_mem_set hd with hd | rfl
    · exact timed d hd
    · exact timed'
  · rw [armings_put]
    change (e.alarms.set level _)[l]? = some d at hd
    rw [List.getElem?_set] at hd
    split at hd
    · rename_i hl
      subst hl
      split at hd
      · cases hd
        exact ⟨a, n, ha, cycle, by rw [if_pos rfl]; omega⟩
      · cases hd
    · exact ⟨d, 0, hd, by simp, by omega⟩

theorem accounts_modify {h : Alarm → Alarm} (hc : ∀ a : Alarm, (h a).cycle = a.cycle)
    (ht : ∀ a : Alarm, (h a).timeout = a.timeout) :
    Accounts e { e with alarms := e.alarms.modify level h } := by
  have same : ∀ (l : Nat) (b : Alarm), (e.alarms.modify level h)[l]? = some b → ∃ a : Alarm,
      e.alarms[l]? = some a ∧ b.cycle = a.cycle ∧ b.timeout = a.timeout := by
    intro l b hb
    rw [List.getElem?_modify] at hb
    obtain ⟨a, ha, rfl⟩ := Option.map_eq_some_iff.1 hb
    refine ⟨a, ha, ?_⟩
    split
    · exact ⟨hc a, ht a⟩
    · exact ⟨rfl, rfl⟩
  intro timed
  refine ⟨fun b hb => ?_, fun l b hb => ?_⟩
  · obtain ⟨l, hl⟩ := List.mem_iff_getElem?.1 hb
    obtain ⟨a, ha, -, timeout⟩ := same l b hl
    rw [timeout]
    exact timed a (List.mem_of_getElem? ha)
  · obtain ⟨a, ha, cycle, -⟩ := same l b hb
    exact ⟨a, 0, ha, by simp [cycle], Nat.le_refl _⟩

/-- However the action ends, it is accounted for. -/
def Accounted (act : Act Escalation α) : Prop := ∀ e, Accounts e (act e).2

theorem Accounted.bind {act : Act Escalation α} {next : α → Act Escalation β} (h : Accounted act)
    (hn : ∀ a, Accounted (next a)) : Accounted (act >>= next) := by
  intro e
  have first := h e
  rw [Act.bind_apply]
  rcases hact : act e with ⟨fault | a, f⟩ <;> rw [hact] at first
  · exact first
  · exact first.trans (hn a f)

theorem accounted_onLevel {act : Act Alarm α} (h : ∀ a : Alarm, a.Accounts (act a).2) :
    Accounted (onLevel level act) := by
  intro e
  cases ha : e.alarms[level]? with
  | none =>
    rw [onLevel, ha]
    exact .refl e
  | some a =>
    rw [onLevel_of_some ha]
    exact accounts_put ha (h a)

theorem accounted_deactivate : Accounted deactivate := by
  intro e
  simp only [deactivate, Act.bind_apply, Act.read_apply]
  cases e.activeLevel with
  | none => exact .refl e
  | some level =>
    exact accounted_onLevel Alarm.accounts_deactivate { e with activeLevel := none }

theorem accounted_restart : Accounted restart :=
  accounted_deactivate.bind fun _ =>
    (accounted_onLevel Alarm.accounts_activate).bind fun _ => fun e => .refl e

theorem accounts_climb (level : Nat) (e : Escalation) : Accounts e (climb level e) := by
  unfold climb
  split
  · have next : Accounts e (onLevel level Alarm.activate e).2 :=
      accounted_onLevel Alarm.accounts_activate e
    split <;> rename_i hl <;> rw [hl] at next <;> exact next
  · exact .refl e

theorem accounts_deliver (level : Nat) (e : Escalation) : Accounts e (deliver level e) := by
  unfold deliver
  split
  · exact .refl e
  · rename_i cycle b hb
    obtain ⟨a, ha, hbegin⟩ := Option.bind_eq_some_iff.1 hb
    obtain ⟨-, same, timeout⟩ := Alarm.beginJob_same hbegin
    have begun : Accounts e (put level b e) :=
      accounts_put ha (Alarm.accounts_of_same same timeout)
    unfold escalate
    split
    · have told : Accounts (put level b e)
          { put level b e with queued := e.queued ++ [(level, cycle)] } := .refl (put level b e)
      exact (begun.trans told).trans (accounts_climb _ _)
    · exact begun

theorem accounts_after (e : Escalation) (m : Move) : Accounts e (e.after m) := by
  have ends : ∀ {α β : Type} (b : α → β), ∀ a, Accounted (pure (b a) : Act Escalation β) :=
    fun _ _ e => .refl e
  cases m with
  | call c =>
    cases c with
    | activate => exact accounted_restart.bind (ends _) e
    | signal => exact (accounted_restart.bind (ends fun _ => ())).bind (ends fun _ => none) e
    | deactivate => exact accounted_deactivate.bind (ends fun _ => none) e
    | setTimeout timeout =>
      exact (accounted_onLevel (Alarm.accounts_setTimeout timeout)).bind (ends fun _ => none) e
  | setTimeoutAt level timeout => exact accounted_onLevel (Alarm.accounts_setTimeout timeout) e
  | expire level count =>
    refine accounts_modify (fun a => ?_) fun a => ?_ <;> unfold Alarm.expire <;>
      repeat' split
    all_goals rfl
  | deliver level => exact accounts_deliver level e
  | endBark level =>
    refine accounts_modify (fun a => ?_) fun a => ?_ <;> unfold Alarm.finishJob <;>
      repeat' split
    all_goals rfl
  | beginCallback =>
    simp only [after, beginCallback]
    split <;> exact .refl e
  | finishCallback => exact .refl e

end Accounts

/-- None of the settings asked for was refused, and no level was armed so often that its cycles are
numbered all over again. -/
structure Within (e : Escalation) : Prop where
  taken : Taken e
  fewer : ∀ level, e.armings level < UInt64.size

/-- The chain is in order: late news cannot be taken for new. -/
structure Fit (e : Escalation) : Prop where
  positive : 0 < e.levels
  attentive : Attentive e
  timed : ∀ a ∈ e.alarms, a.timeout.isZero = false
  paced : ∀ (l : Nat) (a : Alarm), e.alarms[l]? = some a → a.cycle.toNat ≤ e.armings l

/-- The first level is armed. -/
def Alert (e : Escalation) : Prop :=
  e.activeLevel = some 0 ∧ ∃ a : Alarm, e.alarms[0]? = some a ∧ a.phase = .active

def AtRest (e : Escalation) : Prop := e.activeLevel = none ∧ Still e

section Fit

variable {e f m : Escalation} {level : Nat}

theorem Within.of_suffix (h : Within f) (hs : e.settings <:+ f.settings) : Within e where
  taken := h.taken.of_suffix hs
  fewer level := Nat.lt_of_le_of_lt (hs.sublist.countP_le) (h.fewer level)

/-- As long as it is within its limits a level in its present cycle can come into another one. -/
theorem Fit.room (h : Fit e) (hc : Accounts e f) (hw : Within f) (hm : Continues e m)
    (ha : Arms level m f) :
    ∀ a : Alarm, m.alarms[level]? = some a → a.cycle.toNat + 1 < UInt64.size := by
  intro b hb
  obtain ⟨⟨b', c, hb', -, halarms⟩, -, -⟩ := ha
  obtain rfl : b' = b := Option.some.inj (hb'.symm.trans hb)
  have bound : level < m.alarms.length := (List.getElem?_eq_some_iff.1 hb).1
  obtain ⟨a, n, ha, cycle, more⟩ := (hc h.timed).2 level
    { b' with countdown := c, cycle := b'.cycle + 1, phase := .active }
    (by rw [halarms, List.getElem?_set_self bound])
  obtain ⟨a', ha', continues⟩ := hm.alarms level b' hb
  obtain rfl : a' = a := Option.some.inj (ha'.symm.trans ha)
  -- a level in another cycle has asked for a setting since
  have some_arming : n ≠ 0 := by
    rintro rfl
    rw [continues.cycle] at cycle
    exact Vigil.ne_next a'.cycle (by simpa using cycle.symm)
  have before := h.paced level a' ha
  have limit := hw.fewer level
  rw [continues.cycle]
  omega

theorem Fit.paced_after (h : Fit e) (hc : Accounts e f) (hw : Within f) :
    ∀ (l : Nat) (b : Alarm), f.alarms[l]? = some b → b.cycle.toNat ≤ f.armings l := by
  intro l b hb
  obtain ⟨a, n, ha, cycle, more⟩ := (hc h.timed).2 l b hb
  have before := h.paced l a ha
  have limit := hw.fewer l
  rw [cycle, UInt64.toNat_add, UInt64.toNat_ofNat']
  omega

theorem Fit.shift {opens : Option Watchdog.Call} (h : Fit e) (hs : Shift e f opens)
    (hc : Accounts e f) (hw : Within f) : Fit f := by
  refine ⟨?_, ?_, (hc h.timed).1, h.paced_after hc hw⟩
  · rw [Vigil.levels_of_shift hs]
    exact h.positive
  · cases hs with
    | goOn continues active _ => exact h.attentive.continues continues active
    | rest continues rests still _ => exact h.attentive.rest continues rests still
    | restart _ continues rests still _ arms =>
      exact (h.attentive.rest continues rests still).arms still arms (h.room hc hw continues arms)
    | climb _ _ continues same still _ arms =>
      exact (h.attentive.continues continues same).arms still arms (h.room hc hw continues arms)
    | top _ _ continues rests still _ _ => exact h.attentive.rest continues rests still

end Fit

/-- What happens to a chain that only its scheduler calls. -/
abbrev Stir := { m : Move // m.opens = none }

/-- Whether a move is the expiry of a level that is armed. -/
def expires (e : Escalation) : Move → Bool
  | .expire level count => e.alarms[level]?.any (Alarm.takesExpiry count)
  | _ => false

def course : Watchdog.Course Escalation Stir := ⟨fun e m => e.after m, fun e m => e.expires m⟩

section Demands

variable {e f m : Escalation} {level : Nat}

theorem alert_of_arms (ha : Arms 0 m f) : Alert f := by
  refine ⟨ha.activeLevel, ?_⟩
  obtain ⟨a, c, hm, -, halarms⟩ := ha.alarm
  have bound : 0 < m.alarms.length := (List.getElem?_eq_some_iff.1 hm).1
  exact ⟨_, by rw [halarms, List.getElem?_set_self bound], rfl⟩

theorem adds_restart : Adds restart := adds_deactivate.bind fun _ => adds_arm

/-- An activation goes through and arms the first level. -/
theorem restart_alert (h : Within e → Fit e) (hw : Within (restart e).2) :
    (∃ id, (restart e).1 = .ok id) ∧ Fit (restart e).2 ∧ Alert (restart e).2 := by
  have fit := h (hw.of_suffix (adds_restart e))
  obtain ⟨id, m, f, hr, continues, rests, still, queued, arms⟩ :=
    restart_of_taken fit.attentive fit.positive hw.taken
  have accounts := accounted_restart e
  rw [hr] at accounts hw ⊢
  have shift : Shift e f (some .activate) :=
    .restart (by decide) continues rests still queued arms
  exact ⟨⟨id, rfl⟩, fit.shift shift accounts hw, alert_of_arms arms⟩

theorem signal_apply (e : Escalation) : Watchdog.signal e =
    ((restart e).1.map fun _ => (), (restart e).2) := by
  show (restart >>= fun _ => pure () : Act Escalation Unit) e = _
  rw [Act.bind_apply]
  rcases restart e with ⟨fault | id, f⟩ <;> rfl

/-- Progress is an activation, and one more if that was refused. -/
theorem kicked_cases (e : Escalation) : Watchdog.kicked true e = (restart e).2 ∨
    ¬(∃ id, (restart e).1 = .ok id) ∧ Watchdog.kicked true e = (restart (restart e).2).2 := by
  simp only [Watchdog.kicked, ↓reduceIte, signal_apply]
  rcases restart e with ⟨fault | id, f⟩
  · cases fault with
    | refusal cause => exact .inr ⟨by simp, rfl⟩
    | abort cause => exact .inl rfl
  · exact .inl rfl

theorem kicked_alert (h : Within e → Fit e) (hw : Within (Watchdog.kicked true e)) :
    Fit (Watchdog.kicked true e) ∧ Alert (Watchdog.kicked true e) := by
  rcases kicked_cases e with once | ⟨refused, twice⟩
  · rw [once] at hw ⊢
    exact (restart_alert h hw).2
  · rw [twice] at hw
    exact absurd (restart_alert h (hw.of_suffix (adds_restart _))).1 refused

theorem deactivate_rests (h : Within e → Fit e) (hw : Within (deactivate e).2) :
    Fit (deactivate e).2 ∧ AtRest (deactivate e).2 := by
  have fit := h (hw.of_suffix (adds_deactivate e))
  obtain ⟨f, hd, continues, rests, still, queued⟩ := deactivate_of_taken fit.attentive hw.taken
  have accounts := accounted_deactivate e
  rw [hd] at accounts hw ⊢
  exact ⟨fit.shift (.rest continues rests still queued) accounts hw, rests, still⟩

theorem alert_put {a b : Alarm} (h : Alert e) (ha : e.alarms[level]? = some a)
    (hp : a.phase = .active → b.phase = .active) : Alert (put level b e) := by
  obtain ⟨active, first, hfirst, armed⟩ := h
  refine ⟨active, ?_⟩
  change ∃ d, (e.alarms.set level _)[0]? = some d ∧ _
  by_cases hl : level = 0
  · subst hl
    obtain rfl : first = a := Option.some.inj (hfirst.symm.trans ha)
    exact ⟨_, List.getElem?_set_self (List.getElem?_eq_some_iff.1 ha).1, hp armed⟩
  · exact ⟨first, by rw [List.getElem?_set_ne hl, hfirst], armed⟩

theorem alert_modify {g : Alarm → Alarm} (h : Alert e)
    (hg : ∀ a : Alarm, e.alarms[level]? = some a → a.phase = .active → (g a).phase = .active) :
    Alert { e with alarms := e.alarms.modify level g } := by
  obtain ⟨active, first, hfirst, armed⟩ := h
  refine ⟨active, _, by rw [List.getElem?_modify, hfirst]; rfl, ?_⟩
  split
  · rename_i hl
    subst hl
    exact hg first hfirst armed
  · exact armed

/-- Nothing but its expiry takes the first level out of its phase, and no late news does. -/
theorem alert_after (hf : Attentive e) (h : Alert e) {m : Move} (hm : m.opens = none)
    (quiet : e.expires m = false) : Alert (e.after m) := by
  have timeout : ∀ level t, Alert (setTimeoutAt level t e).2 := by
    intro level t
    cases ha : e.alarms[level]? with
    | none =>
      rw [setTimeoutAt, onLevel, ha]
      exact h
    | some a =>
      rw [setTimeoutAt, onLevel_of_some ha]
      exact alert_put h ha fun armed => (Alarm.setTimeout_same t a).trans armed
  cases m with
  | call c =>
    cases c with
    | setTimeout t =>
      have same : e.after (.call (.setTimeout t)) = (setTimeoutAt 0 t e).2 := by
        show ((setTimeoutAt 0 t >>= fun _ => pure none : Act Escalation _) e).2 = _
        rw [Act.bind_apply]
        rcases setTimeoutAt 0 t e with ⟨fault | u, f⟩ <;> rfl
      rw [same]
      exact timeout 0 t
    | _ => cases hm
  | setTimeoutAt level t => exact timeout level t
  | expire level count =>
    refine alert_modify h fun a ha armed => ?_
    have none : count = 0 := by simpa [expires, ha, Alarm.takesExpiry, armed] using quiet
    simpa [Alarm.expire, none] using armed
  | deliver level =>
    rw [after, deliver]
    cases hb : e.alarms[level]?.bind Alarm.beginJob with
    | none => exact h
    | some job =>
      obtain ⟨job, b⟩ := job
      obtain ⟨a, ha, hbegin⟩ := Option.bind_eq_some_iff.1 hb
      obtain ⟨continues, waits⟩ := Alarm.continues_beginJob hbegin
      obtain ⟨-, first, hfirst, armed⟩ := id h
      -- news of the armed level in its present cycle would find it armed no more
      have old : ¬(put level b e).isCurrent level job = true := fun current =>
        hf.still ha waits current 0 first hfirst armed
      simp only [escalate, if_neg old]
      exact alert_put h ha fun armed => (Alarm.beginJob_same hbegin).1.trans armed
  | endBark level =>
    refine alert_modify h fun a ha armed => ?_
    unfold Alarm.finishJob
    split
    · exact armed
    · simp [armed]
  | beginCallback =>
    simp only [after, beginCallback]
    split <;> exact h
  | finishCallback => exact h

theorem atRest_after (h : AtRest e) (hs : Shift e f none) : AtRest f := by
  cases hs with
  | goOn continues active _ => exact ⟨active.trans h.1, h.2.continues continues⟩
  | climb active =>
    rw [h.1] at active
    cases active
  | top active =>
    rw [h.1] at active
    cases active

theorem heeds : Watchdog.Heeds course (fun e => Within e → Fit e) (fun e => Within e → Alert e)
    (fun e => Within e → AtRest e) (fun _ => True) where
  wakes e h := ⟨fun hw => (restart_alert h hw).2.1, fun hw => (restart_alert h hw).2.2⟩
  goesOn e h := ⟨fun hw => (kicked_alert h hw).1, fun _ hw => (kicked_alert h hw).2⟩
  rests e h := ⟨fun hw => (deactivate_rests h hw).1, fun hw => (deactivate_rests h hw).2⟩
  hears _ _ := trivial
  after e m h := by
    have before : Within (e.after m) → Within e := fun hw => hw.of_suffix (settings_after e m)
    have shift : Within (e.after m) → Shift e (e.after m) none := fun hw => by
      have fit := h (before hw)
      have happens := shift_of_after fit.attentive fit.positive m hw.taken
      rw [m.2] at happens
      exact happens
    refine ⟨fun hw => ?_, fun rests hw => atRest_after (rests (before hw)) (shift hw),
      fun alert quiet hw => ?_⟩
    · exact (h (before hw)).shift (shift hw) (accounts_after e m) hw
    · exact alert_after (h (before hw)).attentive (alert (before hw)) m.2 quiet

end Demands

section Runs

variable {timeouts : List Duration} {source : Nat → Except Error Countdown.Source} {e : Escalation}
  {es : List (Patrol.Event Stir)} {p : Patrol Escalation}

theorem fit_of_new (h : Escalation.new timeouts source = .ok e) : Fit e := by
  obtain ⟨some_level, levels, -, -, fresh⟩ := new_inversion h
  obtain ⟨-, -, -, made⟩ := made_of_new h
  refine ⟨?_, (Vigil.vigilant_begin h).attentive, fun a ha => ?_, fun l a ha => ?_⟩
  · rw [levels]
    exact List.length_pos_iff.2 some_level
  · obtain ⟨timeout, -, _, _, -, hnew⟩ := made a ha
    exact Alarm.timeout_of_new hnew
  · rw [(fresh a (List.mem_of_getElem? ha)).1.2.1]
    exact Nat.zero_le _

/-- While nothing is in flight no level is armed, and none is remembered. While something is and no
level has expired since the latest activation of tasks or report of the hardware, the first level is
armed, and it is the one remembered. -/
theorem attends (h : Escalation.new timeouts source = .ok e)
    (hp : Patrol.run course es (.begin e) = p) (ht : p.watchdog.Taken)
    (hb : ∀ level, p.watchdog.armings level < UInt64.size) :
    (p.scheduler.queue.inFlight = false → p.watchdog.activeLevel = none ∧
      ∀ a ∈ p.watchdog.alarms, a.phase ≠ .active) ∧
    (p.scheduler.queue.inFlight = true → p.latest ≠ some .expiry →
      p.watchdog.activeLevel = some 0 ∧
        ∃ a : Alarm, p.watchdog.alarms[0]? = some a ∧ a.phase = .active) := by
  subst hp
  have fit := fit_of_new h
  have resting : AtRest e := by
    obtain ⟨-, -, none_active, -, -⟩ := new_inversion h
    exact ⟨none_active, fit.attentive.still_of_none none_active⟩
  obtain ⟨-, rests, armed⟩ := Patrol.attended_run heeds
    (Patrol.attended_begin (fun _ => fit) fun _ => resting) es
  refine ⟨fun idle => ?_, fun busy unexpired => armed busy ?_ ⟨ht, hb⟩⟩
  · obtain ⟨none_active, still⟩ := rests idle ⟨ht, hb⟩
    refine ⟨none_active, fun a ha => ?_⟩
    obtain ⟨l, hl⟩ := List.mem_iff_getElem?.1 ha
    exact still l a hl
  · cases hl : (Patrol.run course es (.begin e)).latest with
    | none => exact trivial
    | some sign =>
      cases sign with
      | promotion => exact trivial
      | completion found => exact trivial
      | expiry => exact absurd hl unexpired

/-- The news of an expiry comes late, after a report of the hardware. -/
def lateReport : List (Patrol.Event Stir) :=
  [.call .openUp, .call (.submit ⟨default, .ok [⟨.instruction, 0, 64⟩, ⟨.instruction, 64, 64⟩]⟩),
    .call .next, .call .next, .move ⟨.expire 0 1, rfl⟩,
    .call (.complete ⟨0, 0, ⟨.instruction, 0, 64⟩⟩), .move ⟨.deliver 0, rfl⟩,
    .move ⟨.endBark 0, rfl⟩]

/-- It is dropped, and the first level is armed for the transfer that is left. -/
theorem attends_to_late_report : ∃ e p, Escalation.new [⟨1000⟩, ⟨2000⟩]
      (fun _ => .ok (.manual [])) = .ok e ∧ Patrol.run course lateReport (.begin e) = p ∧
    p.scheduler.queue.inFlight = true ∧ p.latest ≠ some .expiry ∧
    p.watchdog.activeLevel = some 0 ∧
      ∃ a : Alarm, p.watchdog.alarms[0]? = some a ∧ a.phase = .active := by
  obtain ⟨e, he⟩ : ∃ e, Escalation.new [⟨1000⟩, ⟨2000⟩] (fun _ => .ok (.manual [])) = .ok e :=
    ⟨_, rfl⟩
  have seen : (Escalation.new [⟨1000⟩, ⟨2000⟩] (fun _ => .ok (.manual []))).toOption.map (fun e =>
      let p := Patrol.run course lateReport (.begin e)
      decide ((∀ x ∈ p.watchdog.settings, x.2.refused = false) ∧
        p.watchdog.settings.length = 2 ∧
        p.scheduler.queue.inFlight = true ∧ p.latest ≠ some .expiry)) = some true := by
    decide +kernel
  rw [he] at seen
  obtain ⟨taken, two, busy, unexpired⟩ := of_decide_eq_true (Option.some.inj seen)
  have bounded : ∀ level, (Patrol.run course lateReport (.begin e)).watchdog.armings level <
      UInt64.size := by
    intro level
    refine Nat.lt_of_le_of_lt List.countP_le_length ?_
    rw [two]
    decide
  exact ⟨e, _, he, rfl, busy, unexpired, (attends he rfl taken bounded).2 busy unexpired⟩

end Runs

end Escalation

end TensorQueue
