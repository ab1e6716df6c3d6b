import Mathlib.Data.List.Forall2
import TensorQueue.Config.Environment
import TensorQueue.Proofs.Outcomes
import TensorQueue.Proofs.Text.Readings

/-!
# Which environments configure a driver

A grammar says what each variable may hold and what it then gives. A driver is
configured from an environment just if each variable that is set keeps to the
grammar, and then from the values that they give. Nothing else is needed: what
keeps to it passes the check, and a zero, which the readers let through, is what
the check is there for.
-/

set_option autoImplicit false

namespace TensorQueue.Config

section Grammar

/-- A positive number of milliseconds in a 64-bit word, with white space around it. -/
def SpellsMillis (raw : List Char) (d : Duration) : Prop :=
  ∃ numeral n, Text.Around raw numeral ∧ Text.Numeral numeral n ∧ 0 < n ∧ n < UInt64.size ∧
    d = .ofMillis n

/-- One such number or more, with commas between them. -/
def SpellsLevels (raw : List Char) (levels : List Duration) : Prop :=
  ∃ items, items ≠ [] ∧ raw = [','].intercalate items ∧ List.Forall₂ SpellsMillis items levels

/-- One of the words, its ASCII letters in either case, with white space around it. -/
def SpellsWord (words : List String) (raw : List Char) : Prop :=
  ∃ core, Text.Around raw core ∧ String.ofList (core.map Char.toLower) ∈ words

def SpellsFlag (raw : List Char) (flag : Bool) : Prop :=
  SpellsWord (if flag then trueWords else falseWords) raw

def SpellsTimer (raw : List Char) (timer : Countdown.Backend) : Prop :=
  SpellsWord [timer.text] raw

/-- What a variable spells if it is set, and otherwise the standing value. -/
def Gives {α : Type} (environment : String → Option String) (key : String) (standing : α)
    (Spells : List Char → α → Prop) (value : α) : Prop :=
  match environment key with
  | none => value = standing
  | some raw => Spells raw.toList value

/-- The configuration has what the variables give, and is the standard one apart from that. -/
structure Spelled (environment : String → Option String) (c : Config) : Prop where
  levels : Gives environment Variable.levels standard.levels SpellsLevels c.levels
  timer : Gives environment Variable.timer standard.timer SpellsTimer c.timer
  realTime : Gives environment Variable.realTime standard.realTime SpellsFlag c.realTime
  pollTimeout :
    Gives environment Variable.pollTimeout standard.pollTimeout SpellsMillis c.pollTimeout
  inactiveMultiple : c.inactiveMultiple = standard.inactiveMultiple

/-- Each variable that is set spells something. -/
structure WellFormed (environment : String → Option String) : Prop where
  levels : ∀ raw ∈ environment Variable.levels, ∃ levels, SpellsLevels raw.toList levels
  timer : ∀ raw ∈ environment Variable.timer, ∃ timer, SpellsTimer raw.toList timer
  realTime : ∀ raw ∈ environment Variable.realTime, ∃ flag, SpellsFlag raw.toList flag
  pollTimeout : ∀ raw ∈ environment Variable.pollTimeout, ∃ d, SpellsMillis raw.toList d

end Grammar

section Words

variable {raw : List Char} {words : List String}

theorem word_mem_iff (h : ∀ w ∈ words, Text.Firm w.toList) :
    word raw ∈ words ↔ SpellsWord words raw := by
  constructor
  · intro listed
    exact ⟨Text.trim raw, Text.around_trim raw, listed⟩
  · rintro ⟨core, around, listed⟩
    have firm := h _ listed
    rw [String.toList_ofList] at firm
    rwa [word, Text.trim_of_around around (Text.firm_of_map_toLower firm)]

theorem spellsFlag_iff {flag : Bool} :
    SpellsFlag raw flag ↔ word raw ∈ if flag then trueWords else falseWords := by
  refine (word_mem_iff ?_).symm
  cases flag <;> decide

theorem spellsTimer_iff {timer : Countdown.Backend} :
    SpellsTimer raw timer ↔ word raw = timer.text := by
  rw [← List.mem_singleton]
  refine (word_mem_iff ?_).symm
  cases timer <;> decide

theorem readFlag_eq_ok_iff {key : String} {flag : Bool} :
    readFlag key raw = .ok flag ↔ SpellsFlag raw flag := by
  have apart : ∀ w ∈ trueWords, w ∉ falseWords := by decide
  rw [spellsFlag_iff, readFlag]
  by_cases ht : word raw ∈ trueWords
  · have hf := apart _ ht
    cases flag <;> simp [ht, hf]
  · by_cases hf : word raw ∈ falseWords
    · cases flag <;> simp [ht, hf]
    · cases flag <;> simp [ht, hf]

theorem readTimer_eq_ok_iff {timer : Countdown.Backend} :
    readTimer raw = .ok timer ↔ SpellsTimer raw timer := by
  have apart : Countdown.Backend.condvar.text ≠ Countdown.Backend.timerfd.text := by decide
  rw [spellsTimer_iff, readTimer]
  by_cases hc : word raw = Countdown.Backend.condvar.text
  · cases timer <;> simp [hc, apart]
  · by_cases ht : word raw = Countdown.Backend.timerfd.text
    · cases timer <;> simp [ht, apart.symm]
    · cases timer <;> simp [hc, ht]

end Words

section Numbers

variable {raw : List Char} {key : String} {d : Duration} {levels : List Duration}

theorem isZero_ofMillis {n : Nat} : (Duration.ofMillis n).isZero = false ↔ 0 < n := by
  rw [Duration.isZero, decide_eq_false_iff_not]
  show ¬ n * 1000000 = 0 ↔ 0 < n
  omega

theorem readMillis_eq_ok_iff :
    readMillis key raw = .ok d ∧ d.isZero = false ↔ SpellsMillis raw d := by
  have word : 0 < UInt64.size := by decide
  rw [readMillis]
  constructor
  · rintro ⟨read, positive⟩
    cases h : Text.readUnsigned UInt64.size (Text.trim raw) with
    | error cause =>
      rw [h] at read
      cases read
    | ok n =>
      rw [h] at read
      cases read
      obtain ⟨numeral, inside⟩ := (Text.readUnsigned_eq_ok_iff word).1 h
      exact ⟨_, n, Text.around_trim raw, numeral, isZero_ofMillis.1 positive, inside, rfl⟩
  · rintro ⟨numeral, n, around, denotes, positive, inside, rfl⟩
    rw [Text.trim_of_around around denotes.firm,
      (Text.readUnsigned_eq_ok_iff word).2 ⟨denotes, inside⟩]
    exact ⟨rfl, isZero_ofMillis.2 positive⟩

theorem mapM_readMillis_iff {items : List (List Char)} :
    items.mapM (readMillis key) = .ok levels ∧ (∀ level ∈ levels, level.isZero = false) ↔
      List.Forall₂ SpellsMillis items levels := by
  induction items generalizing levels with
  | nil =>
    rw [List.forall₂_nil_left_iff]
    constructor
    · rintro ⟨read, -⟩
      cases read
      rfl
    · rintro rfl
      exact ⟨rfl, by simp⟩
  | cons item rest ih =>
    rw [List.mapM_cons]
    constructor
    · rintro ⟨read, positive⟩
      obtain ⟨level, first, read⟩ := exists_of_except_bind read
      obtain ⟨others, second, read⟩ := exists_of_except_bind read
      cases read
      rw [List.forall_mem_cons] at positive
      exact .cons (readMillis_eq_ok_iff.1 ⟨first, positive.1⟩) (ih.1 ⟨second, positive.2⟩)
    · rintro (_ | ⟨spelled, others⟩)
      obtain ⟨first, positive⟩ := readMillis_eq_ok_iff.2 spelled
      obtain ⟨second, all⟩ := ih.2 others
      rw [first, second, List.forall_mem_cons]
      exact ⟨rfl, positive, all⟩

theorem SpellsMillis.no_comma (h : SpellsMillis raw d) : ',' ∉ raw := by
  obtain ⟨numeral, n, around, denotes, -⟩ := h
  refine around.not_mem (by decide) fun mem => ?_
  rcases denotes.sign_or_digit ',' mem with same | digit
  · cases same
  · cases digit

theorem no_comma_of_forall₂ {items : List (List Char)}
    (h : List.Forall₂ SpellsMillis items levels) : ∀ item ∈ items, ',' ∉ item := by
  induction h with
  | nil => simp
  | cons spelled _ ih => exact List.forall_mem_cons.2 ⟨spelled.no_comma, ih⟩

/-- At least one level, and none of them zero. -/
def LevelsSound (levels : List Duration) : Prop :=
  levels ≠ [] ∧ ∀ level ∈ levels, level.isZero = false

theorem readLevels_eq_ok_iff :
    readLevels raw = .ok levels ∧ LevelsSound levels ↔ SpellsLevels raw levels := by
  rw [readLevels]
  constructor
  · rintro ⟨read, -, positive⟩
    exact ⟨_, Text.fields_ne_nil ',' raw, (Text.intercalate_fields ',' raw).symm,
      mapM_readMillis_iff.1 ⟨read, positive⟩⟩
  · rintro ⟨items, some, rfl, spelled⟩
    rw [Text.fields_intercalate (no_comma_of_forall₂ spelled) some]
    obtain ⟨read, positive⟩ := mapM_readMillis_iff.2 spelled
    refine ⟨read, ?_, positive⟩
    rintro rfl
    exact some (List.forall₂_nil_right_iff.1 spelled)

end Numbers

section Variables

variable {α : Type} {environment : String → Option String} {key : String} {standing value : α}
  {readValue : List Char → Except Error α} {Spells : List Char → α → Prop} {P : α → Prop}

theorem override_eq_ok_iff : override environment key standing readValue = .ok value ↔
    Gives environment key standing (fun raw v => readValue raw = .ok v) value := by
  unfold override Gives
  cases environment key with
  | none => simp [eq_comm]
  | some raw => rfl

theorem gives_congr {Spells' : List Char → α → Prop} (h : ∀ raw v, Spells raw v ↔ Spells' raw v) :
    Gives environment key standing Spells value ↔ Gives environment key standing Spells' value := by
  unfold Gives
  cases environment key with
  | none => rfl
  | some raw => exact h raw.toList value

/-- What holds of the standing value and of whatever is spelled. -/
theorem gives_and_iff (h : P standing) :
    Gives environment key standing (fun raw v => Spells raw v ∧ P v) value ↔
      Gives environment key standing Spells value ∧ P value := by
  unfold Gives
  cases environment key with
  | none =>
    constructor
    · rintro rfl
      exact ⟨rfl, h⟩
    · exact And.left
  | some raw => rfl

theorem exists_gives_iff : (∃ value, Gives environment key standing Spells value) ↔
    ∀ raw ∈ environment key, ∃ value, Spells raw.toList value := by
  unfold Gives
  cases environment key with
  | none => simp
  | some raw => simp

theorem override_iff (hr : ∀ raw v, readValue raw = .ok v ↔ Spells raw v) :
    override environment key standing readValue = .ok value ↔
      Gives environment key standing Spells value := by
  rw [override_eq_ok_iff]
  exact gives_congr hr

theorem gives_update_iff {other : String} {raw : Option String} (h : key ≠ other) :
    Gives (Function.update environment other raw) key standing Spells value ↔
      Gives environment key standing Spells value := by
  unfold Gives
  rw [Function.update_of_ne h]

/-- A variable is read, and what the check asks of its value holds of it. -/
theorem override_and_iff (hr : ∀ raw v, readValue raw = .ok v ∧ P v ↔ Spells raw v)
    (h : P standing) : override environment key standing readValue = .ok value ∧ P value ↔
      Gives environment key standing Spells value := by
  rw [override_eq_ok_iff, ← gives_and_iff h]
  exact gives_congr hr

theorem kind_of_override {cause : Error}
    (hr : ∀ raw cause, readValue raw = .error cause → cause.kind = .invalidArgument)
    (h : override environment key standing readValue = .error cause) :
    cause.kind = .invalidArgument := by
  unfold override at h
  split at h
  · cases h
  · exact hr _ _ h

end Variables

section Refusals

variable {raw : List Char} {key : String} {cause : Error}

theorem kind_of_readMillis (h : readMillis key raw = .error cause) :
    cause.kind = .invalidArgument := by
  unfold readMillis at h
  split at h
  · cases h
  · cases h
    rfl

theorem exists_of_mapM_error {α β : Type} {f : α → Except Error β} {xs : List α}
    (h : xs.mapM f = .error cause) : ∃ x ∈ xs, f x = .error cause := by
  induction xs with
  | nil => cases h
  | cons x xs ih =>
    rw [List.mapM_cons] at h
    rcases error_of_except_bind h with failed | ⟨y, -, h⟩
    · exact ⟨x, List.mem_cons_self, failed⟩
    · rcases error_of_except_bind h with failed | ⟨ys, -, h⟩
      · obtain ⟨w, hw, failed⟩ := ih failed
        exact ⟨w, List.mem_cons_of_mem x hw, failed⟩
      · cases h

theorem kind_of_readLevels (h : readLevels raw = .error cause) :
    cause.kind = .invalidArgument := by
  obtain ⟨item, -, failed⟩ := exists_of_mapM_error h
  exact kind_of_readMillis failed

theorem kind_of_readFlag (h : readFlag key raw = .error cause) :
    cause.kind = .invalidArgument := by
  unfold readFlag at h
  split at h
  · cases h
  · split at h
    · cases h
    · cases h
      rfl

theorem kind_of_readTimer (h : readTimer raw = .error cause) :
    cause.kind = .invalidArgument := by
  unfold readTimer at h
  split at h
  · cases h
  · split at h
    · cases h
    · cases h
      rfl

theorem kind_of_check {c : Config} (h : c.check = .error cause) :
    cause.kind = .invalidArgument := by
  unfold check at h
  split at h
  · cases h
    rfl
  · split at h
    · cases h
      rfl
    · split at h
      · cases h
        rfl
      · split at h
        · cases h
          rfl
        · cases h

end Refusals

section Environments

variable {environment : String → Option String} {c : Config} {cause : Error}

theorem ofEnvironment_eq_ok_iff : ofEnvironment environment = .ok c ↔
    override environment Variable.levels standard.levels readLevels = .ok c.levels ∧
    override environment Variable.timer standard.timer readTimer = .ok c.timer ∧
    override environment Variable.realTime standard.realTime (readFlag Variable.realTime) =
      .ok c.realTime ∧
    override environment Variable.pollTimeout standard.pollTimeout
      (readMillis Variable.pollTimeout) = .ok c.pollTimeout ∧
    c.inactiveMultiple = standard.inactiveMultiple ∧ c.Sound := by
  rw [ofEnvironment]
  constructor
  · intro h
    obtain ⟨levels, hl, h⟩ := exists_of_except_bind h
    obtain ⟨timer, ht, h⟩ := exists_of_except_bind h
    obtain ⟨realTime, hr, h⟩ := exists_of_except_bind h
    obtain ⟨pollTimeout, hp, h⟩ := exists_of_except_bind h
    obtain ⟨⟨⟩, checked, h⟩ := exists_of_except_bind h
    cases h
    exact ⟨hl, ht, hr, hp, rfl, check_eq_ok_iff.1 checked⟩
  · rintro ⟨hl, ht, hr, hp, multiple, sound⟩
    have whole : (⟨c.levels, c.timer, c.realTime, standard.inactiveMultiple, c.pollTimeout⟩ :
        Config) = c := by
      rw [← multiple]
    have checked := check_eq_ok_iff.2 sound
    rw [hl, ht, hr, hp]
    simp only [bind, Except.bind, whole, checked]

theorem sound_iff : c.Sound ↔
    LevelsSound c.levels ∧ c.pollTimeout.isZero = false ∧ c.inactiveMultiple ≠ 0 := by
  constructor
  · intro h
    exact ⟨⟨h.levels_ne_nil, h.level_ne_zero⟩, h.pollTimeout_ne_zero, h.multiple_ne_zero⟩
  · rintro ⟨⟨some, positive⟩, poll, multiple⟩
    exact ⟨some, positive, poll, multiple⟩

theorem ofEnvironment_iff_spelled :
    ofEnvironment environment = .ok c ↔ Spelled environment c := by
  have standingLevels : LevelsSound standard.levels := ⟨by decide, by decide⟩
  have standingPoll : standard.pollTimeout.isZero = false := rfl
  rw [ofEnvironment_eq_ok_iff, sound_iff]
  constructor
  · rintro ⟨hl, ht, hr, hp, multiple, sound, positive, -⟩
    exact
      { levels := (override_and_iff (fun _ _ => readLevels_eq_ok_iff) standingLevels).1 ⟨hl, sound⟩
        timer := (override_iff fun _ _ => readTimer_eq_ok_iff).1 ht
        realTime := (override_iff fun _ _ => readFlag_eq_ok_iff).1 hr
        pollTimeout :=
          (override_and_iff (fun _ _ => readMillis_eq_ok_iff) standingPoll).1 ⟨hp, positive⟩
        inactiveMultiple := multiple }
  · intro h
    obtain ⟨hl, sound⟩ :=
      (override_and_iff (fun _ _ => readLevels_eq_ok_iff) standingLevels).2 h.levels
    obtain ⟨hp, positive⟩ :=
      (override_and_iff (fun _ _ => readMillis_eq_ok_iff) standingPoll).2 h.pollTimeout
    have multiple : c.inactiveMultiple ≠ 0 := by
      rw [h.inactiveMultiple]
      decide
    exact ⟨hl, (override_iff fun _ _ => readTimer_eq_ok_iff).2 h.timer,
      (override_iff fun _ _ => readFlag_eq_ok_iff).2 h.realTime, hp, h.inactiveMultiple, sound,
      positive, multiple⟩

/-- Something is spelled just if whatever is set is well formed. -/
theorem exists_spelled_iff : (∃ c, Spelled environment c) ↔ WellFormed environment := by
  constructor
  · rintro ⟨c, h⟩
    exact ⟨exists_gives_iff.1 ⟨_, h.levels⟩, exists_gives_iff.1 ⟨_, h.timer⟩,
      exists_gives_iff.1 ⟨_, h.realTime⟩, exists_gives_iff.1 ⟨_, h.pollTimeout⟩⟩
  · intro h
    obtain ⟨levels, hl⟩ := exists_gives_iff.2 h.levels
    obtain ⟨timer, ht⟩ := exists_gives_iff.2 h.timer
    obtain ⟨realTime, hr⟩ := exists_gives_iff.2 h.realTime
    obtain ⟨pollTimeout, hp⟩ := exists_gives_iff.2 h.pollTimeout
    exact ⟨⟨levels, timer, realTime, standard.inactiveMultiple, pollTimeout⟩, hl, ht, hr, hp, rfl⟩

theorem kind_of_ofEnvironment (h : ofEnvironment environment = .error cause) :
    cause.kind = .invalidArgument := by
  rw [ofEnvironment] at h
  rcases error_of_except_bind h with failed | ⟨levels, -, h⟩
  · exact kind_of_override (fun _ _ => kind_of_readLevels) failed
  rcases error_of_except_bind h with failed | ⟨timer, -, h⟩
  · exact kind_of_override (fun _ _ => kind_of_readTimer) failed
  rcases error_of_except_bind h with failed | ⟨realTime, -, h⟩
  · exact kind_of_override (fun _ _ => kind_of_readFlag) failed
  rcases error_of_except_bind h with failed | ⟨pollTimeout, -, h⟩
  · exact kind_of_override (fun _ _ => kind_of_readMillis) failed
  rcases error_of_except_bind h with failed | ⟨-, -, h⟩
  · exact kind_of_check failed
  · cases h

end Environments

section Printing

/-- A positive number as it may stand in a list, with white space before and after it. -/
structure Item where
  before : String
  millis : UInt64
  after : String
  positive : 0 < millis
  blank_before : Text.Blank before.toList
  blank_after : Text.Blank after.toList

def Item.text (i : Item) : String := i.before ++ toString i.millis ++ i.after

def Item.level (i : Item) : Duration := .ofMillis i.millis.toNat

/-- The numbers in decimal, with commas between them. -/
def printed (items : List Item) : String := ",".intercalate (items.map Item.text)

variable {environment : String → Option String} {c : Config} {items : List Item}

theorem Item.spells_level (i : Item) : SpellsMillis i.text.toList i.level := by
  have around : Text.Around i.text.toList (toString i.millis).toList := by
    refine ⟨i.before.toList, i.after.toList, i.blank_before, i.blank_after, ?_⟩
    rw [text, String.toList_append, String.toList_append]
  exact ⟨_, i.millis.toNat, around, Text.numeral_toString _,
    UInt64.lt_iff_toNat_lt.1 i.positive, i.millis.toNat_lt, rfl⟩

theorem spells_printed (h : items ≠ []) :
    SpellsLevels (printed items).toList (items.map Item.level) := by
  refine ⟨items.map fun i => i.text.toList, by simpa using h, ?_, ?_⟩
  · rw [printed, String.toList_intercalate, List.map_map]
    rfl
  · rw [List.forall₂_map_left_iff, List.forall₂_map_right_iff, List.forall₂_same]
    exact fun i _ => i.spells_level

/-- Whatever else is configured, printed levels are read back. -/
theorem Spelled.update_levels (h : Spelled environment c) (hi : items ≠ []) :
    Spelled (Function.update environment Variable.levels (some (printed items)))
      { c with levels := items.map Item.level } where
  levels := by
    unfold Gives
    rw [Function.update_self]
    exact spells_printed hi
  timer := (gives_update_iff (by decide)).2 h.timer
  realTime := (gives_update_iff (by decide)).2 h.realTime
  pollTimeout := (gives_update_iff (by decide)).2 h.pollTimeout
  inactiveMultiple := h.inactiveMultiple

end Printing

section Whole

section Overrides

/-- Every variable is set, in either case and with white space. -/
def overrides : String → Option String := fun key =>
  [(Variable.levels, "50, +200 ,1000"), (Variable.timer, "TimerFd"), (Variable.realTime, " ON"),
    (Variable.pollTimeout, "007\t")].lookup key

def outermost : List Item :=
  [⟨"", 0xffffffffffffffff, " ", by decide, by decide, by decide⟩,
    ⟨"\t", 1, "\n", by decide, by decide, by decide⟩]

end Overrides

end Whole

end TensorQueue.Config
