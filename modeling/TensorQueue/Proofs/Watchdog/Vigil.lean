import TensorQueue.Proofs.Watchdog.Escalating
import Mathlib.Data.List.Induction

/-!
# Silence climbs level by level

A vigil is an escalation with a record that is kept from outside. The record
has one page from each call to the next: which levels came into a new cycle, and
which callbacks were handed on. However late news of an expiry is, on each page
the levels hand their callbacks on one after the other from the first, each for
a cycle that began on the same page, and none does after the chain was put to
rest.
-/

set_option autoImplicit false

namespace TensorQueue

/-- What happened from one call to the next: the call, the levels armed after it and the callbacks
handed on, each with its cycle. -/
structure Page where
  opened : Option Watchdog.Call
  armed : List (Nat × UInt64)
  enqueued : List (Nat × UInt64)
  deriving DecidableEq, Repr, Inhabited

/-- Since this call silence is counted. -/
def Page.Counts (p : Page) : Prop := ∃ c, p.opened = some c ∧ c ≠ .deactivate

/-- The callbacks handed on are those of the first levels, in order; there are none if silence is
not counted. -/
def Page.Climbs (levels : Nat) (p : Page) : Prop :=
  ∃ k ≤ levels, p.enqueued.map Prod.fst = List.range k ∧ (¬p.Counts → k = 0)

/-- The present page and those before it, the latest first. -/
structure Vigil where
  escalation : Escalation
  current : Page
  past : List Page
  deriving DecidableEq, Repr, Inhabited

namespace Vigil

open Escalation

def begin (e : Escalation) : Vigil := ⟨e, ⟨none, [], []⟩, []⟩

def pages (v : Vigil) : List Page := v.current :: v.past

/-- All that was armed, on these pages. -/
def armings (pages : List Page) : List (Nat × UInt64) := pages.flatMap Page.armed

/-- How often a level was armed. -/
def count (level : Nat) (pages : List Page) : Nat := (armings pages).countP fun x => x.1 = level

/-- Where the second list differs from the first, with the new values. -/
def changes : Nat → List UInt64 → List UInt64 → List (Nat × UInt64)
  | level, x :: xs, y :: ys => (if x = y then [] else [(level, y)]) ++ changes (level + 1) xs ys
  | _, _, _ => []

/-- The escalation as it is found now. A level was armed if it is in another cycle than before, and
a callback was handed on if it is new at the end of the queue. -/
def observe (v : Vigil) (e : Escalation) (opens : Option Watchdog.Call) : Vigil :=
  let armed := changes 0 v.escalation.ordinals e.ordinals
  let enqueued := e.queued.drop v.escalation.queued.length
  match opens with
  | none =>
    ⟨e, ⟨v.current.opened, v.current.armed ++ armed, v.current.enqueued ++ enqueued⟩, v.past⟩
  | some c => ⟨e, ⟨some c, armed, enqueued⟩, v.current :: v.past⟩

def step (v : Vigil) (m : Move) : Vigil := v.observe (v.escalation.after m) m.opens

def run (ms : List Move) (v : Vigil) : Vigil := ms.foldl step v

section Changes

theorem changes_self (level : Nat) (xs : List UInt64) : changes level xs xs = [] := by
  induction xs generalizing level with
  | nil => rfl
  | cons x xs ih => rw [changes, if_pos rfl, ih, List.append_nil]

theorem changes_set {xs : List UInt64} {l : Nat} {x y : UInt64} (hx : xs[l]? = some x)
    (hne : x ≠ y) (level : Nat) : changes level xs (xs.set l y) = [(level + l, y)] := by
  induction xs generalizing level l with
  | nil => cases hx
  | cons z zs ih =>
    cases l with
    | zero =>
      obtain rfl : z = x := by simpa using hx
      rw [List.set_cons_zero, changes, if_neg hne, changes_self, List.append_nil, Nat.add_zero]
    | succ l =>
      have hx' : zs[l]? = some x := by simpa using hx
      rw [List.set_cons_succ, changes, if_pos rfl, ih hx', List.nil_append]
      congr 2
      omega

end Changes

/-- The record fits the cycles that the levels are in. -/
structure Recorded (ordinals : List UInt64) (current : Page) (past : List Page) : Prop where
  counted : ∀ l id, ordinals[l]? = some id →
    count l (current :: past) = id.toNat
  known : ∀ x ∈ armings (current :: past), ∀ id, ordinals[x.1]? = some id →
    x.2.toNat ≤ id.toNat
  apart : (current :: past).Pairwise fun later earlier => ∀ x ∈ later.armed, x ∉ earlier.armed
  rightly : ∀ p ∈ current :: past, ∀ x ∈ p.enqueued, x ∈ p.armed
  climbs : ∀ p ∈ current :: past, p.Climbs ordinals.length

section Recorded

variable {ordinals : List UInt64} {current : Page} {past : List Page}

theorem count_armed (level l : Nat) (id : UInt64) :
    count level ({ current with armed := current.armed ++ [(l, id)] } :: past) =
      count level (current :: past) + if l = level then 1 else 0 := by
  simp only [count, armings, List.flatMap_cons, List.countP_append, List.countP_singleton,
    decide_eq_true_eq]
  omega

theorem Recorded.turn (h : Recorded ordinals current past) (c : Option Watchdog.Call) :
    Recorded ordinals ⟨c, [], []⟩ (current :: past) where
  counted := h.counted
  known := h.known
  apart := List.pairwise_cons.2 ⟨by simp, h.apart⟩
  rightly := List.forall_mem_cons.2 ⟨by simp, h.rightly⟩
  climbs := List.forall_mem_cons.2 ⟨⟨0, Nat.zero_le _, rfl, fun _ => rfl⟩, h.climbs⟩

theorem Recorded.enqueue (h : Recorded ordinals current past) {l : Nat} {id : UInt64}
    (hc : current.Counts) (hl : l < ordinals.length) (ha : (l, id) ∈ current.armed)
    (hk : current.enqueued.map Prod.fst = List.range l) :
    Recorded ordinals { current with enqueued := current.enqueued ++ [(l, id)] } past where
  counted := h.counted
  known := h.known
  apart := List.pairwise_cons.2 (List.pairwise_cons.1 h.apart)
  rightly := by
    obtain ⟨first, others⟩ := List.forall_mem_cons.1 h.rightly
    refine List.forall_mem_cons.2 ⟨fun x hx => ?_, others⟩
    rcases List.mem_append.1 hx with hx | hx
    · exact first x hx
    · rw [List.mem_singleton.1 hx]
      exact ha
  climbs := by
    refine List.forall_mem_cons.2 ⟨⟨l + 1, hl, ?_, fun idle => absurd hc idle⟩,
      (List.forall_mem_cons.1 h.climbs).2⟩
    rw [List.map_append, hk, List.range_succ]
    rfl

theorem Recorded.arm (h : Recorded ordinals current past) {l : Nat} {id : UInt64}
    (hid : ordinals[l]? = some id) (room : id.toNat + 1 < UInt64.size) :
    Recorded (ordinals.set l (id + 1))
      { current with armed := current.armed ++ [(l, id + 1)] } past := by
  have next : (id + 1).toNat = id.toNat + 1 := by
    rw [UInt64.toNat_add]
    exact Nat.mod_eq_of_lt room
  have bound : l < ordinals.length := (List.getElem?_eq_some_iff.1 hid).1
  have fresh : ∀ p ∈ current :: past, (l, id + 1) ∉ p.armed := by
    intro p hp hmem
    have := h.known (l, id + 1) (List.mem_flatMap.2 ⟨p, hp, hmem⟩) id hid
    simp only [next] at this
    omega
  have later : ∀ (j : Nat) (new : UInt64), (ordinals.set l (id + 1))[j]? = some new →
      l = j ∧ new = id + 1 ∨ l ≠ j ∧ ordinals[j]? = some new := by
    intro j new hj
    rw [List.getElem?_set] at hj
    split at hj
    · rename_i hlj
      exact .inl ⟨hlj, (Option.some.inj hj).symm⟩
    · rename_i hlj
      exact .inr ⟨hlj, hj⟩
  constructor
  case counted =>
    intro j new hj
    rw [count_armed]
    rcases later j new hj with ⟨rfl, rfl⟩ | ⟨hne, hj⟩
    · rw [h.counted l id hid, if_pos rfl, next]
    · rw [h.counted j new hj, if_neg hne, Nat.add_zero]
  case known =>
    intro x hx new hnew
    have old : x = (l, id + 1) ∨ x ∈ armings (current :: past) := by
      simp only [armings, List.flatMap_cons, List.mem_append, List.mem_singleton] at hx ⊢
      tauto
    rcases later x.1 new hnew with ⟨hl, rfl⟩ | ⟨hne, hj⟩
    · rcases old with rfl | old
      · exact Nat.le_refl _
      · have := h.known x old id (by rw [← hl]; exact hid)
        omega
    · rcases old with rfl | old
      · exact absurd rfl hne
      · exact h.known x old new hj
  case apart =>
    obtain ⟨first, others⟩ := List.pairwise_cons.1 h.apart
    refine List.pairwise_cons.2 ⟨fun p hp x hx => ?_, others⟩
    rcases List.mem_append.1 hx with hx | hx
    · exact first p hp x hx
    · rw [List.mem_singleton.1 hx]
      exact fresh p (List.mem_cons_of_mem _ hp)
  case rightly =>
    obtain ⟨first, others⟩ := List.forall_mem_cons.1 h.rightly
    exact List.forall_mem_cons.2 ⟨fun x hx => List.mem_append_left _ (first x hx), others⟩
  case climbs =>
    rw [List.length_set]
    obtain ⟨first, others⟩ := List.forall_mem_cons.1 h.climbs
    exact List.forall_mem_cons.2 ⟨first, others⟩

end Recorded

/-- What every run of a vigil keeps. The level that is armed comes next on the present page, in a
cycle that began there. -/
structure Vigilant (v : Vigil) : Prop where
  attentive : v.escalation.Attentive
  recorded : Recorded v.escalation.ordinals v.current v.past
  standing : ∀ l, v.escalation.activeLevel = some l → v.current.Counts ∧
    v.current.enqueued.map Prod.fst = List.range l ∧
    ∀ id, v.escalation.cycles[l]? = some id → (l, id) ∈ v.current.armed

section Vigilant

variable {v : Vigil} {e f m : Escalation}

theorem ordinals_of_arms {level : Nat} (h : Arms level e f) : ∃ id, e.ordinals[level]? = some id ∧
    f.ordinals = e.ordinals.set level (id + 1) ∧ f.cycles = e.cycles.set level (id + 1) := by
  obtain ⟨a, c, ha, hcycles, halarms⟩ := h.alarm
  refine ⟨a.cycle, by rw [getElem?_ordinals, ha]; rfl, ?_, hcycles⟩
  rw [ordinals, halarms, List.map_set]
  rfl

theorem ne_next (id : UInt64) : id ≠ id + 1 := by
  intro h
  have : (1 : UInt64) = 0 := by simpa using h.symm
  exact absurd this (by decide)

/-- A level comes into its next cycle on the present page. -/
theorem Recorded.arms {current : Page} {past : List Page} {level : Nat}
    (h : Recorded e.ordinals current past) (ha : Arms level e f)
    (hb : count level ({ current with armed := current.armed ++ changes 0 e.ordinals f.ordinals } ::
      past) < UInt64.size) :
    (∀ a : Alarm, e.alarms[level]? = some a → a.cycle.toNat + 1 < UInt64.size) ∧
    Recorded f.ordinals
      { current with armed := current.armed ++ changes 0 e.ordinals f.ordinals } past ∧
    ∀ id, e.cycles.length = e.levels → f.cycles[level]? = some id →
      (level, id) ∈ changes 0 e.ordinals f.ordinals := by
  obtain ⟨id, hid, hordinals, hcycles⟩ := ordinals_of_arms ha
  have new : changes 0 e.ordinals f.ordinals = [(level, id + 1)] := by
    rw [hordinals, changes_set hid (ne_next id) 0, Nat.zero_add]
  have bound : level < e.ordinals.length := (List.getElem?_eq_some_iff.1 hid).1
  rw [new] at hb ⊢
  rw [count_armed, if_pos rfl, h.counted level id hid] at hb
  refine ⟨fun a hea => ?_, ?_, fun old hlen hold => ?_⟩
  · rw [getElem?_ordinals, hea] at hid
    rw [Option.some.inj hid]
    exact hb
  · rw [hordinals]
    exact h.arm hid hb
  · have inside : level < e.cycles.length := by
      rw [hlen]
      simpa [ordinals, levels] using bound
    rw [hcycles, List.getElem?_set_self inside] at hold
    rw [Option.some.inj hold]
    exact List.mem_singleton_self _

theorem changes_of_continues (h : Continues e f) : changes 0 e.ordinals f.ordinals = [] := by
  rw [h.ordinals, changes_self]

/-- The callback of the level that is armed may be handed on. -/
theorem Vigilant.tell {level : Nat} {id : UInt64} (h : Vigilant v)
    (active : v.escalation.activeLevel = some level)
    (cycle : v.escalation.cycles[level]? = some id) : Recorded v.escalation.ordinals
      { v.current with enqueued := v.current.enqueued ++ [(level, id)] } v.past := by
  obtain ⟨counts, levels, armed⟩ := h.standing level active
  obtain ⟨a, ha, -⟩ := h.attentive.current level active
  have bound : level < v.escalation.ordinals.length := by
    simpa [ordinals] using (List.getElem?_eq_some_iff.1 ha).1
  exact h.recorded.enqueue counts bound (armed id cycle) levels

theorem Vigilant.observe {opens : Option Watchdog.Call} (h : Vigilant v)
    (hs : Shift v.escalation f opens)
    (hb : ∀ l, count l (v.observe f opens).pages < UInt64.size) : Vigilant (v.observe f opens) := by
  cases hs with
  | goOn continues active shorter =>
    have armed := changes_of_continues continues
    have enqueued : f.queued.drop v.escalation.queued.length = [] := List.drop_eq_nil_of_le shorter
    simp only [Vigil.observe, armed, enqueued, List.append_nil]
    refine ⟨h.attentive.continues continues active, ?_, ?_⟩
    · rw [continues.ordinals]
      exact h.recorded
    · rw [active, continues.cycles]
      exact h.standing
  | rest continues rests still queued =>
    have armed := changes_of_continues continues
    have enqueued : f.queued.drop v.escalation.queued.length = [] := by
      rw [queued, List.drop_length]
    simp only [Vigil.observe, armed, enqueued]
    refine ⟨h.attentive.rest continues rests still, ?_, fun l hl => ?_⟩
    · rw [continues.ordinals]
      exact h.recorded.turn _
    · rw [rests] at hl
      cases hl
  | @restart m c counts continues rests still queued arms =>
    have enqueued : f.queued.drop v.escalation.queued.length = [] := by
      rw [arms.queued, queued, List.drop_length]
    have attentive := h.attentive.rest continues rests still
    have turned := h.recorded.turn (some c)
    rw [← continues.ordinals] at turned
    simp only [Vigil.observe, enqueued, pages, ← continues.ordinals] at hb ⊢
    obtain ⟨room, recorded, mem⟩ := turned.arms arms (hb 0)
    refine ⟨attentive.arms still arms room, recorded, fun l hl => ?_⟩
    obtain rfl : 0 = l := Option.some.inj (arms.activeLevel.symm.trans hl)
    exact ⟨⟨c, rfl, counts⟩, rfl, fun id hid => mem id attentive.remembered hid⟩
  | @climb m level id active cycle continues same still queued arms =>
    obtain ⟨counts, levels, -⟩ := h.standing level active
    have enqueued : f.queued.drop v.escalation.queued.length = [(level, id)] := by
      rw [arms.queued, queued, List.drop_left]
    have attentive := h.attentive.continues continues same
    have told := h.tell active cycle
    rw [← continues.ordinals] at told
    simp only [Vigil.observe, enqueued, pages, ← continues.ordinals] at hb ⊢
    obtain ⟨room, recorded, mem⟩ := told.arms arms (hb (level + 1))
    refine ⟨attentive.arms still arms room, recorded, fun l hl => ?_⟩
    obtain rfl : level + 1 = l := Option.some.inj (arms.activeLevel.symm.trans hl)
    refine ⟨counts, ?_, fun id hid =>
      List.mem_append_right _ (mem id attentive.remembered hid)⟩
    rw [List.map_append, levels, List.range_succ]
    rfl
  | @top level id active cycle continues rests still queued above =>
    have unchanged := changes_of_continues continues
    have enqueued : f.queued.drop v.escalation.queued.length = [(level, id)] := by
      rw [queued, List.drop_left]
    simp only [Vigil.observe, unchanged, enqueued, List.append_nil]
    refine ⟨h.attentive.rest continues rests still, ?_, fun l hl => ?_⟩
    · rw [continues.ordinals]
      exact h.tell active cycle
    · rw [rests] at hl
      cases hl

end Vigilant

section Beginning

variable {timeouts : List Duration} {source : Nat → Except Error Countdown.Source} {e : Escalation}

theorem vigilant_begin (h : Escalation.new timeouts source = .ok e) : Vigilant (begin e) := by
  obtain ⟨-, -, none_active, lengths, fresh⟩ := new_inversion h
  have fresh' : ∀ (l : Nat) (a : Alarm), e.alarms[l]? = some a →
      a.phase = .inactive ∧ a.cycle = 0 ∧ a.queued = [] :=
    fun l a ha => (fresh a (List.mem_of_getElem? ha)).1
  have never : ∀ l, ¬e.activeLevel = some l := by simp [none_active]
  constructor
  case attentive =>
    refine ⟨lengths, fun l a ha hp => ?_, fun l hl => absurd hl (never l), fun l a ha => ?_⟩
    · rw [(fresh' l a ha).1] at hp
      cases hp
    · intro id hid
      rw [(fresh' l a ha).2.2] at hid
      cases hid
  case recorded =>
    refine ⟨fun l id hid => ?_, by simp [armings, begin], by simp [begin], by simp [begin], ?_⟩
    · obtain ⟨a, ha, rfl⟩ := Option.map_eq_some_iff.1 ((getElem?_ordinals e l).symm.trans hid)
      rw [(fresh' l a ha).2.1]
      rfl
    · simp only [begin, List.forall_mem_cons]
      exact ⟨⟨0, Nat.zero_le _, rfl, fun _ => rfl⟩, by simp⟩
  case standing => exact fun l hl => absurd hl (never l)

end Beginning

section Runs

variable {timeouts : List Duration} {source : Nat → Except Error Countdown.Source} {e : Escalation}
  {v : Vigil} {ms : List Move}

theorem run_concat (ms : List Move) (m : Move) (v : Vigil) :
    run (ms ++ [m]) v = (run ms v).step m := by
  rw [run, List.foldl_append]
  rfl

theorem escalation_step (v : Vigil) (m : Move) :
    (v.step m).escalation = v.escalation.after m := by
  unfold step Vigil.observe
  dsimp only
  split <;> rfl

theorem count_step (v : Vigil) (m : Move) (l : Nat) : count l v.pages ≤ count l (v.step m).pages := by
  unfold step Vigil.observe count armings pages
  dsimp only
  split <;> simp only [List.flatMap_cons, List.countP_append] <;> omega

theorem levels_of_shift {f : Escalation} {opens : Option Watchdog.Call}
    (h : Shift e f opens) : f.levels = e.levels := by
  have armed : ∀ {level : Nat} {m f : Escalation}, Arms level m f → f.levels = m.levels := by
    intro level m f ha
    obtain ⟨a, c, -, -, halarms⟩ := ha.alarm
    rw [levels, halarms, List.length_set]
    rfl
  cases h with
  | goOn continues _ _ => exact levels_of_ordinals continues.ordinals
  | rest continues _ _ _ => exact levels_of_ordinals continues.ordinals
  | restart _ continues _ _ _ arms =>
    exact (armed arms).trans (levels_of_ordinals continues.ordinals)
  | climb _ _ continues _ _ _ arms =>
    exact (armed arms).trans (levels_of_ordinals continues.ordinals)
  | top _ _ continues _ _ _ _ => exact levels_of_ordinals continues.ordinals

theorem run_vigilant (hv : Vigilant v) (hl : 0 < v.escalation.levels)
    (ht : Taken (run ms v).escalation) (hb : ∀ l, count l (run ms v).pages < UInt64.size) :
    Vigilant (run ms v) ∧ (run ms v).escalation.levels = v.escalation.levels := by
  induction ms using List.reverseRecOn with
  | nil => exact ⟨hv, rfl⟩
  | append_singleton ms m ih =>
    rw [run_concat] at ht hb ⊢
    rw [escalation_step] at ht
    obtain ⟨vigilant, same⟩ := ih (ht.of_suffix (settings_after _ m)) fun l =>
      Nat.lt_of_le_of_lt (count_step _ m l) (hb l)
    have shift := shift_of_after vigilant.attentive (by rw [same]; exact hl) m ht
    refine ⟨vigilant.observe shift hb, ?_⟩
    rw [escalation_step, levels_of_shift shift, same]

/-- From one call to the next the callbacks handed on are those of the first levels, in order and
each once, and there are none after the chain was put to rest. Each is for a cycle that began since
that call, and not before it. A level that is armed is the one remembered, in the cycle remembered
with it. -/
theorem silence_climbs (h : Escalation.new timeouts source = .ok e)
    (hv : run ms (begin e) = v) (ht : Taken v.escalation)
    (hb : ∀ l, count l v.pages < UInt64.size) :
    (∀ p ∈ v.pages,
      (∃ k ≤ timeouts.length, p.enqueued.map Prod.fst = List.range k) ∧
      (p.opened = none ∨ p.opened = some .deactivate → p.enqueued = []) ∧
      ∀ x ∈ p.enqueued, x ∈ p.armed) ∧
    (v.pages.Pairwise fun later earlier => ∀ x ∈ later.enqueued, x ∉ earlier.armed) ∧
    ∀ (l : Nat) (a : Alarm), v.escalation.alarms[l]? = some a → a.phase = .active →
      v.escalation.activeLevel = some l ∧ v.escalation.cycles[l]? = some a.cycle := by
  subst hv
  obtain ⟨some_level, levels, -⟩ := new_inversion h
  have positive : 0 < (begin e).escalation.levels := by
    rw [begin, levels]
    exact List.length_pos_iff.2 some_level
  obtain ⟨⟨attentive, recorded, -⟩, same⟩ := run_vigilant (vigilant_begin h) positive ht hb
  have length : (run ms (begin e)).escalation.ordinals.length = timeouts.length := by
    rw [← levels]
    exact (List.length_map _).trans same
  refine ⟨fun p hp => ?_, ?_, fun l a ha hp => ?_⟩
  · obtain ⟨k, hk, climbs, idle⟩ := recorded.climbs p hp
    rw [length] at hk
    refine ⟨⟨k, hk, climbs⟩, fun hopened => ?_, recorded.rightly p hp⟩
    have resting : ¬p.Counts := by
      rintro ⟨c, hc, hne⟩
      rcases hopened with hn | hd
      · rw [hn] at hc
        cases hc
      · rw [hd] at hc
        exact hne (Option.some.inj hc).symm
    rw [idle resting] at climbs
    exact List.map_eq_nil_iff.1 climbs
  · refine recorded.apart.imp_of_mem fun {later earlier} hl _ hapart x hx => ?_
    exact hapart x (recorded.rightly later hl x hx)
  · have active := attentive.active l a ha hp
    obtain ⟨b, hb, hcycle⟩ := attentive.current l active
    obtain rfl : a = b := Option.some.inj (ha.symm.trans hb)
    exact ⟨active, hcycle⟩

end Runs

section Late

/-- The news of an expiry comes only after a signal, which has armed the first level anew. -/
def lateNews : List Move :=
  [.call .activate, .expire 0 1, .call .signal, .deliver 0, .endBark 0, .expire 0 1, .deliver 0,
    .endBark 0, .expire 1 1, .deliver 1]

/-- The silence before the signal counts for nothing, and the one after it climbs both levels. -/
theorem late_news_climbs : ∃ e v, Escalation.new [⟨1000⟩, ⟨2000⟩]
      (fun _ => .ok (.manual [])) = .ok e ∧ run lateNews (begin e) = v ∧
    v.pages.map Page.enqueued = [[(0, 2), (1, 1)], [], []] ∧
    (∀ p ∈ v.pages,
      (∃ k ≤ 2, p.enqueued.map Prod.fst = List.range k) ∧
      (p.opened = none ∨ p.opened = some .deactivate → p.enqueued = []) ∧
      ∀ x ∈ p.enqueued, x ∈ p.armed) ∧
    (v.pages.Pairwise fun later earlier => ∀ x ∈ later.enqueued, x ∉ earlier.armed) ∧
    ∀ (l : Nat) (a : Alarm), v.escalation.alarms[l]? = some a → a.phase = .active →
      v.escalation.activeLevel = some l ∧ v.escalation.cycles[l]? = some a.cycle := by
  obtain ⟨e, he⟩ : ∃ e, Escalation.new [⟨1000⟩, ⟨2000⟩] (fun _ => .ok (.manual [])) = .ok e :=
    ⟨_, rfl⟩
  have seen : (Escalation.new [⟨1000⟩, ⟨2000⟩] (fun _ => .ok (.manual []))).toOption.map (fun e =>
      decide ((∀ x ∈ (run lateNews (begin e)).escalation.settings, x.2.refused = false) ∧
        (armings (run lateNews (begin e)).pages).length = 3 ∧
        (run lateNews (begin e)).pages.map Page.enqueued = [[(0, 2), (1, 1)], [], []])) =
      some true := by
    decide +kernel
  rw [he] at seen
  obtain ⟨taken, three, enqueued⟩ := of_decide_eq_true (Option.some.inj seen)
  have bounded : ∀ l, count l (run lateNews (begin e)).pages < UInt64.size := by
    intro l
    have := List.countP_le_length (p := fun x : Nat × UInt64 => x.1 = l)
      (l := armings (run lateNews (begin e)).pages)
    rw [three] at this
    exact Nat.lt_of_le_of_lt this (by decide)
  exact ⟨e, _, he, rfl, enqueued, silence_climbs he rfl taken bounded⟩

end Late

end Vigil

end TensorQueue
