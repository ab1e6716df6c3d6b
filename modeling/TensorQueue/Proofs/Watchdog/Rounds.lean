import TensorQueue.Watchdog.WorkCount

/-!
# Rounds of counted work

A count of work stands over any watchdog, whatever this answers to each call and
even if it aborts. A move takes up one unit or puts one down. All that a move can
come to is one of eight entries, by the depth that it finds and by what the
watchdog answers. So the depth is what was taken up and not put down again, and
as long as the watchdog does what it is asked for, its calls make up rounds: it is
armed, signalled and disarmed, and a round is open just while there is work.
-/

set_option autoImplicit false

namespace TensorQueue

namespace Watchdog

/-- A call and how it ended, an abort included. -/
structure Exchange where
  call : Call
  outcome : Except Fault Unit

/-- A watchdog with a list of all that was asked of it, in order. -/
structure Overheard (W : Type) where
  watchdog : W
  exchanges : List Exchange

namespace Overheard

variable {W : Type}

def listen {α : Type} (call : Call) (act : Act W α) : Act (Overheard W) α := fun s =>
  ((act s.watchdog).1,
    ⟨(act s.watchdog).2, s.exchanges ++ [⟨call, (act s.watchdog).1.map fun _ => ()⟩]⟩)

instance [Watchdog W] : Watchdog (Overheard W) where
  activate := listen .activate Watchdog.activate
  signal := listen .signal Watchdog.signal
  deactivate := listen .deactivate Watchdog.deactivate
  setTimeout timeout := listen (.setTimeout timeout) (Watchdog.setTimeout timeout)

section Calls

variable [Watchdog W] (w : W) (exchanges : List Exchange)

theorem activate_eq : Watchdog.activate (⟨w, exchanges⟩ : Overheard W) =
    ((Watchdog.activate w).1, ⟨(Watchdog.activate w).2,
      exchanges ++ [⟨.activate, (Watchdog.activate w).1.map fun _ => ()⟩]⟩) := rfl

theorem map_unit (outcome : Except Fault Unit) : (outcome.map fun _ => ()) = outcome := by
  cases outcome <;> rfl

theorem signal_eq : Watchdog.signal (⟨w, exchanges⟩ : Overheard W) =
    ((Watchdog.signal w).1,
      ⟨(Watchdog.signal w).2, exchanges ++ [⟨.signal, (Watchdog.signal w).1⟩]⟩) := by
  show (_, (⟨_, exchanges ++ [⟨.signal, (Watchdog.signal w).1.map _⟩]⟩ : Overheard W)) = _
  rw [map_unit]

theorem deactivate_eq : Watchdog.deactivate (⟨w, exchanges⟩ : Overheard W) =
    ((Watchdog.deactivate w).1,
      ⟨(Watchdog.deactivate w).2, exchanges ++ [⟨.deactivate, (Watchdog.deactivate w).1⟩]⟩) := by
  show (_, (⟨_, exchanges ++ [⟨.deactivate, (Watchdog.deactivate w).1.map _⟩]⟩ : Overheard W)) = _
  rw [map_unit]

end Calls

end Overheard

/-- The watchdog says that it was not armed. -/
def Lapsed (outcome : Except Fault Unit) : Prop :=
  ∃ cause, outcome = .error (.refusal cause) ∧ cause.kind = .failedPrecondition

end Watchdog

namespace WorkCount

open Watchdog

variable {W : Type}

/-- One unit of work more, or one less. -/
inductive Move where
  | takeUp
  | putDown
  deriving DecidableEq

/-- What one move came to, and what was asked of the watchdog in it. -/
structure Entry where
  move : Move
  before : UInt64
  after : UInt64
  outcome : Except Fault Unit
  exchanges : List Exchange

namespace Entry

def calls (e : Entry) : List Call := e.exchanges.map Exchange.call

/-- A unit is taken up only if that is answered with success. -/
def takesUp (e : Entry) : Bool := e.move = .takeUp && e.outcome.isOk

/-- A unit is put down whatever is answered, if there is one. -/
def putsDown (e : Entry) : Bool := e.move = .putDown && e.before ≠ 0

/-- All that a move can come to. -/
inductive Possible : Entry → Prop
  | full : Possible ⟨.takeUp, maximum, maximum, .error (.refusal .watchCountOverflow), []⟩
  | armed : Possible ⟨.takeUp, 0, 1, .ok (), [⟨.activate, .ok ()⟩]⟩
  | unarmed (fault : Fault) :
      Possible ⟨.takeUp, 0, 0, .error fault, [⟨.activate, .error fault⟩]⟩
  | joined {depth : UInt64} : depth ≠ 0 → depth ≠ maximum →
      Possible ⟨.takeUp, depth, depth + 1, .ok (), []⟩
  | nothing : Possible ⟨.putDown, 0, 0, .error (.refusal .watchCountUnderflow), []⟩
  | disarmed (answer : Except Fault Unit) :
      Possible ⟨.putDown, 1, 0, answer, [⟨.deactivate, answer⟩]⟩
  | signalled {depth : UInt64} (answer : Except Fault Unit) : depth ≠ 0 → depth ≠ 1 →
      ¬ Lapsed answer → Possible ⟨.putDown, depth, depth - 1, answer, [⟨.signal, answer⟩]⟩
  | rearmed {depth : UInt64} (signal answer : Except Fault Unit) : depth ≠ 0 → depth ≠ 1 →
      Lapsed signal →
      Possible ⟨.putDown, depth, depth - 1, answer, [⟨.signal, signal⟩, ⟨.activate, answer⟩]⟩

end Entry

section Moves

variable [Watchdog W] {s : WorkCount W}

def Move.perform : Move → Act (WorkCount W) Unit
  | .takeUp => increment
  | .putDown => decrement

/-- The same count, with the watchdog overheard. -/
def overheard (s : WorkCount W) (exchanges : List Exchange) : WorkCount (Overheard W) :=
  ⟨s.depth, ⟨s.watchdog, exchanges⟩⟩

/-- What the move comes to, and what can be overheard in it. -/
def Move.entry (s : WorkCount W) (move : Move) : Entry :=
  let (outcome, t) := move.perform s
  ⟨move, s.depth, t.depth, outcome, (move.perform (s.overheard [])).2.watchdog.exchanges⟩

def Move.leaves (s : WorkCount W) (move : Move) : WorkCount W := (move.perform s).2

theorem one_ne_zero : (1 : UInt64) ≠ 0 := by decide

theorem sub_one_ne_zero {depth : UInt64} (h : depth ≠ 1) : depth - 1 ≠ 0 := by
  intro hd
  rw [UInt64.sub_eq_iff_eq_add] at hd
  exact h (by simpa using hd)

theorem toNat_add_one {depth : UInt64} (h : depth ≠ maximum) :
    (depth + 1).toNat = depth.toNat + 1 := by
  have below : depth.toNat ≠ maximum.toNat := fun hd => h (UInt64.toNat_inj.1 hd)
  have bound := depth.toNat_lt
  simp only [maximum, UInt64.reduceToNat] at below
  rw [UInt64.toNat_add, UInt64.toNat_one]
  omega

theorem toNat_sub_one {depth : UInt64} (h : depth ≠ 0) : (depth - 1).toNat + 1 = depth.toNat := by
  have above : depth.toNat ≠ 0 := fun hd => h (UInt64.toNat_inj.1 hd)
  have bound := depth.toNat_lt
  rw [UInt64.toNat_sub, UInt64.toNat_one]
  omega

theorem add_one_ne_zero {depth : UInt64} (h : depth ≠ maximum) : depth + 1 ≠ 0 := by
  intro hd
  have counted := toNat_add_one h
  rw [hd, UInt64.toNat_zero] at counted
  omega

theorem increment_of_maximum (h : s.depth = maximum) :
    increment s = (.error (.refusal .watchCountOverflow), s) := by
  simp [increment, Act.bind_apply, h]

theorem increment_of_busy (h : s.depth ≠ 0) (hm : s.depth ≠ maximum) :
    increment s = (.ok (), ⟨s.depth + 1, s.watchdog⟩) := by
  simp [increment, Act.bind_apply, h, hm]

theorem increment_of_idle (h : s.depth = 0) : increment s =
    match Watchdog.activate s.watchdog with
    | (.ok _, w) => (.ok (), ⟨1, w⟩)
    | (.error fault, w) => (.error fault, ⟨0, w⟩) := by
  have few : ¬ (0 : UInt64) = maximum := by decide
  simp only [increment, Act.bind_apply, Act.read_apply, h, few, if_false, if_true, onWatchdog,
    Act.within]
  rcases Watchdog.activate s.watchdog with ⟨fault | cycle, w⟩
  · rfl
  · rfl

theorem decrement_of_idle (h : s.depth = 0) :
    decrement s = (.error (.refusal .watchCountUnderflow), s) := by
  simp [decrement, Act.bind_apply, h]

theorem decrement_of_last (h : s.depth = 1) : decrement s =
    ((Watchdog.deactivate s.watchdog).1, ⟨0, (Watchdog.deactivate s.watchdog).2⟩) := by
  simp [decrement, Act.bind_apply, h, one_ne_zero, onWatchdog, Act.within]

theorem decrement_of_signalled (h : s.depth ≠ 0) (h1 : s.depth ≠ 1)
    (hs : ¬ Lapsed (Watchdog.signal s.watchdog).1) : decrement s =
      ((Watchdog.signal s.watchdog).1, ⟨s.depth - 1, (Watchdog.signal s.watchdog).2⟩) := by
  have more : ¬ s.depth - 1 = 0 := sub_one_ne_zero h1
  simp only [decrement, Act.bind_apply, Act.read_apply, Act.write_apply, h, more, if_false,
    Act.attempt, onWatchdog, Act.within]
  rcases hr : Watchdog.signal s.watchdog with ⟨fault | answer, w⟩
  · cases fault with
    | abort cause => rfl
    | refusal cause =>
      have other : ¬ cause.kind = .failedPrecondition := by
        intro hk
        exact hs ⟨cause, by rw [hr], hk⟩
      simp only [other, if_false, Act.refuse_apply]
  · rfl

theorem decrement_of_lapsed (h : s.depth ≠ 0) (h1 : s.depth ≠ 1)
    (hs : Lapsed (Watchdog.signal s.watchdog).1) : decrement s =
      ((Watchdog.activate (Watchdog.signal s.watchdog).2).1.map fun _ => (),
        ⟨s.depth - 1, (Watchdog.activate (Watchdog.signal s.watchdog).2).2⟩) := by
  have more : ¬ s.depth - 1 = 0 := sub_one_ne_zero h1
  obtain ⟨cause, hr, hk⟩ := hs
  simp only [decrement, Act.bind_apply, Act.read_apply, Act.write_apply, h, more, if_false,
    Act.attempt, onWatchdog, Act.within]
  rcases hw : Watchdog.signal s.watchdog with ⟨outcome, w⟩
  rw [hw] at hr
  cases hr
  simp only [hk, if_true, Act.bind_apply, Act.within]
  rcases Watchdog.activate w with ⟨fault | cycle, v⟩
  · rfl
  · rfl

/-- The move comes to this entry and leaves the watchdog so, also if the watchdog is overheard. -/
structure Entry.Tells (e : Entry) (s : WorkCount W) (w : W) : Prop where
  before : e.before = s.depth
  alone : e.move.perform s = (e.outcome, ⟨e.after, w⟩)
  overheard : ∀ earlier, e.move.perform (s.overheard earlier) =
    (e.outcome, overheard ⟨e.after, w⟩ (earlier ++ e.exchanges))

theorem Entry.Tells.of_unasked {move : Move} {before after : UInt64} {outcome : Except Fault Unit}
    {watchdog : W} (h : ∀ {V : Type} [Watchdog V] (v : V),
      move.perform (⟨before, v⟩ : WorkCount V) = (outcome, ⟨after, v⟩)) :
    (⟨move, before, after, outcome, []⟩ : Entry).Tells ⟨before, watchdog⟩ watchdog :=
  ⟨rfl, h watchdog, fun earlier => by rw [List.append_nil]; exact h _⟩

theorem takeUp_cases (s : WorkCount W) :
    ∃ e w, e.move = .takeUp ∧ Entry.Possible e ∧ e.Tells s w := by
  obtain ⟨depth, watchdog⟩ := s
  by_cases h0 : depth = 0
  · subst h0
    rcases ha : Watchdog.activate watchdog with ⟨fault | cycle, w⟩
    · refine ⟨_, w, rfl, .unarmed fault, rfl, ?_, fun earlier => ?_⟩
      · simp only [Move.perform, increment_of_idle, ha]
      · simp only [Move.perform, overheard, increment_of_idle, Overheard.activate_eq, ha,
          Except.map]
    · refine ⟨_, w, rfl, .armed, rfl, ?_, fun earlier => ?_⟩
      · simp only [Move.perform, increment_of_idle, ha]
      · simp only [Move.perform, overheard, increment_of_idle, Overheard.activate_eq, ha,
          Except.map]
  · by_cases hm : depth = maximum
    · subst hm
      exact ⟨_, watchdog, rfl, .full, .of_unasked fun v => increment_of_maximum rfl⟩
    · exact ⟨_, watchdog, rfl, .joined h0 hm, .of_unasked fun v => increment_of_busy h0 hm⟩

theorem putDown_cases (s : WorkCount W) :
    ∃ e w, e.move = .putDown ∧ Entry.Possible e ∧ e.Tells s w := by
  obtain ⟨depth, watchdog⟩ := s
  by_cases h0 : depth = 0
  · subst h0
    exact ⟨_, watchdog, rfl, .nothing, .of_unasked fun v => decrement_of_idle rfl⟩
  by_cases h1 : depth = 1
  · subst h1
    refine ⟨_, _, rfl, .disarmed _, rfl, decrement_of_last rfl, fun earlier => ?_⟩
    simp only [Move.perform, overheard, decrement_of_last, Overheard.deactivate_eq]
  -- what the watchdog answers to the signal decides whether it is armed again
  have heard : ∀ earlier, Watchdog.signal (overheard ⟨depth, watchdog⟩ earlier).watchdog = _ :=
    fun earlier => Overheard.signal_eq watchdog earlier
  by_cases hs : Lapsed (Watchdog.signal watchdog).1
  · refine ⟨_, _, rfl, .rearmed _ _ h0 h1 hs, rfl, decrement_of_lapsed h0 h1 hs,
      fun earlier => ?_⟩
    have same := decrement_of_lapsed (s := overheard ⟨depth, watchdog⟩ earlier) h0 h1
      (by rwa [heard])
    rwa [heard, Overheard.activate_eq, List.append_assoc] at same
  · refine ⟨_, _, rfl, .signalled _ h0 h1 hs, rfl, decrement_of_signalled h0 h1 hs,
      fun earlier => ?_⟩
    have same := decrement_of_signalled (s := overheard ⟨depth, watchdog⟩ earlier) h0 h1
      (by rwa [heard])
    rwa [heard] at same

theorem Move.cases (s : WorkCount W) (move : Move) :
    ∃ e w, e.move = move ∧ Entry.Possible e ∧ e.Tells s w := by
  cases move with
  | takeUp => exact takeUp_cases s
  | putDown => exact putDown_cases s

theorem Move.entry_tells (s : WorkCount W) (move : Move) : (move.entry s).move = move ∧
    (move.entry s).Possible ∧ (move.entry s).Tells s (move.leaves s).watchdog := by
  obtain ⟨e, w, rfl, possible, tells⟩ := Move.cases s move
  have same : e.move.entry s = e := by
    rw [entry, tells.alone, tells.overheard [], ← tells.before]
    rfl
  have left : (e.move.leaves s).watchdog = w := by
    rw [leaves, tells.alone]
  rw [same, left]
  exact ⟨rfl, possible, tells⟩

theorem Move.depth_leaves (s : WorkCount W) (move : Move) :
    (move.leaves s).depth = (move.entry s).after := rfl

theorem Move.leaves_overheard (s : WorkCount W) (move : Move) (earlier : List Exchange) :
    move.leaves (s.overheard earlier) =
      (move.leaves s).overheard (earlier ++ (move.entry s).exchanges) := by
  obtain ⟨same, -, tells⟩ := entry_tells s move
  have heard := tells.overheard earlier
  rw [same] at heard
  rw [leaves, heard, overheard, overheard, ← depth_leaves]

end Moves

section Entries

variable {e : Entry} {calls : List Call}

namespace Entry

/-- The rules for one move. -/
structure Regular (e : Entry) : Prop where
  refused : e.move = .takeUp → e.outcome ≠ .ok () → e.after = e.before
  nothing : e.move = .putDown → e.before = 0 → e.after = 0 ∧
    e.outcome = .error (.refusal .watchCountUnderflow) ∧ e.exchanges = []
  first : e.move = .takeUp → e.before = 0 → e.calls = [.activate]
  further : e.move = .takeUp → e.before ≠ 0 → e.calls = []
  last : e.move = .putDown → e.before = 1 → e.calls = [.deactivate]
  progress : e.move = .putDown → e.before ≠ 0 → e.before ≠ 1 → ∃ answer,
    (e.exchanges = [⟨.signal, answer⟩] ∧ ¬ Lapsed answer) ∨
      ∃ rearming, e.exchanges = [⟨.signal, answer⟩, ⟨.activate, rearming⟩] ∧ Lapsed answer

theorem Possible.regular (h : e.Possible) : e.Regular := by
  cases h with
  | signalled answer h0 h1 hs => constructor <;> simp_all [calls]
  | rearmed signal answer h0 h1 hs => constructor <;> simp_all [calls]
  | _ => constructor <;> simp_all [calls, maximum]

theorem Possible.counted (h : e.Possible) :
    e.after.toNat + (if e.putsDown = true then 1 else 0) =
      e.before.toNat + if e.takesUp = true then 1 else 0 := by
  cases h with
  | joined h0 hm => simp [putsDown, takesUp, toNat_add_one hm, Except.isOk, Except.toBool]
  | signalled answer h0 h1 hs => simp [putsDown, takesUp, toNat_sub_one h0, h0]
  | rearmed signal answer h0 h1 hs => simp [putsDown, takesUp, toNat_sub_one h0, h0]
  | _ => simp [putsDown, takesUp, Except.isOk, Except.toBool]

end Entry

/-- A round that was begun: armed, and signalled so many times. -/
def begun (signals : Nat) : List Call := .activate :: List.replicate signals .signal

def round (signals : Nat) : List Call := begun signals ++ [.deactivate]

/-- Whole rounds, and behind them one that was begun, just if there is work. -/
def Rounds (depth : UInt64) (calls : List Call) : Prop :=
  ∃ whole : List Nat, (depth = 0 ∧ calls = whole.flatMap round) ∨
    (depth ≠ 0 ∧ ∃ signals, calls = whole.flatMap round ++ begun signals)

theorem Entry.Possible.rounds (h : e.Possible) (answered : ∀ x ∈ e.exchanges, x.outcome.isOk = true)
    (hr : Rounds e.before calls) : Rounds e.after (calls ++ e.calls) := by
  cases h with
  | full => rwa [Entry.calls, List.map_nil, List.append_nil]
  | nothing => rwa [Entry.calls, List.map_nil, List.append_nil]
  | unarmed fault => simp [Except.isOk, Except.toBool] at answered
  | rearmed signal answer h0 h1 hs =>
    obtain ⟨cause, refused, -⟩ := hs
    simp [refused, Except.isOk, Except.toBool] at answered
  | armed =>
    obtain ⟨whole, ⟨-, rfl⟩ | ⟨busy, -⟩⟩ := hr
    · exact ⟨whole, .inr ⟨one_ne_zero, 0, rfl⟩⟩
    · exact absurd rfl busy
  | joined h0 hm =>
    obtain ⟨whole, ⟨idle, -⟩ | ⟨-, signals, rfl⟩⟩ := hr
    · exact absurd idle h0
    · exact ⟨whole, .inr ⟨add_one_ne_zero hm, signals, List.append_nil _⟩⟩
  | disarmed answer =>
    obtain ⟨whole, ⟨idle, -⟩ | ⟨-, signals, rfl⟩⟩ := hr
    · exact absurd idle one_ne_zero
    · refine ⟨whole ++ [signals], .inl ⟨rfl, ?_⟩⟩
      simp [Entry.calls, round]
  | signalled answer h0 h1 hs =>
    obtain ⟨whole, ⟨idle, -⟩ | ⟨-, signals, rfl⟩⟩ := hr
    · exact absurd idle h0
    · refine ⟨whole, .inr ⟨sub_one_ne_zero h1, signals + 1, ?_⟩⟩
      simp [Entry.calls, begun, List.replicate_succ']

end Entries

section Runs

variable [Watchdog W]

def run (moves : List Move) (s : WorkCount W) : WorkCount W := moves.foldl Move.leaves s

def entries : List Move → WorkCount W → List Entry
  | [], _ => []
  | move :: rest, s => move.entry s :: entries rest (move.leaves s)

theorem possible_of_mem_entries (moves : List Move) (s : WorkCount W) :
    ∀ e ∈ entries moves s, e.Possible := by
  induction moves generalizing s with
  | nil => simp [entries]
  | cons move rest ih =>
    simp only [entries, List.forall_mem_cons]
    exact ⟨(Move.entry_tells s move).2.1, ih _⟩

theorem run_overheard (moves : List Move) (s : WorkCount W) (earlier : List Exchange) :
    run moves (s.overheard earlier) =
      (run moves s).overheard (earlier ++ (entries moves s).flatMap Entry.exchanges) := by
  induction moves generalizing s earlier with
  | nil => simp [run, entries]
  | cons move rest ih =>
    rw [run, List.foldl_cons, Move.leaves_overheard, ← run, ih, entries, List.flatMap_cons,
      List.append_assoc]
    rfl

theorem run_counted (moves : List Move) (s : WorkCount W) :
    (run moves s).depth.toNat + (entries moves s).countP Entry.putsDown =
      s.depth.toNat + (entries moves s).countP Entry.takesUp := by
  induction moves generalizing s with
  | nil => rfl
  | cons move rest ih =>
    have later := ih (move.leaves s)
    obtain ⟨-, possible, tells⟩ := Move.entry_tells s move
    have now := possible.counted
    rw [tells.before, ← Move.depth_leaves] at now
    rw [run, List.foldl_cons, ← run, entries, List.countP_cons, List.countP_cons]
    omega

theorem run_rounds (moves : List Move) (s : WorkCount W) (calls : List Call)
    (answered : ∀ e ∈ entries moves s, ∀ x ∈ e.exchanges, x.outcome.isOk = true)
    (h : Rounds s.depth calls) :
    Rounds (run moves s).depth (calls ++ (entries moves s).flatMap Entry.calls) := by
  induction moves generalizing s calls with
  | nil => simpa [run, entries] using h
  | cons move rest ih =>
    obtain ⟨-, possible, tells⟩ := Move.entry_tells s move
    rw [entries, List.forall_mem_cons] at answered
    rw [← tells.before] at h
    have next := possible.rounds answered.1 h
    rw [← Move.depth_leaves] at next
    have whole := ih _ _ answered.2 next
    rwa [List.append_assoc] at whole

/-- Over any watchdog, whatever this answers and however many units are taken up and put down in
whatever order, the depth is what was taken up with success and not put down again. Each move obeys
the rules, and the watchdog hears just what its entry says. As long as it does all that it is asked
for, that is whole rounds, and one that is open just if there is work. -/
theorem work_accounted (watchdog : W) (moves : List Move) :
    let idle : WorkCount W := ⟨0, watchdog⟩
    let s := run moves idle
    let es := entries moves idle
    run moves (idle.overheard []) = s.overheard (es.flatMap Entry.exchanges) ∧
      es.countP Entry.takesUp = s.depth.toNat + es.countP Entry.putsDown ∧
      (∀ e ∈ es, e.Regular) ∧
      ((∀ e ∈ es, ∀ x ∈ e.exchanges, x.outcome.isOk = true) →
        Rounds s.depth (es.flatMap Entry.calls)) := by
  intro idle s es
  have counted : s.depth.toNat + es.countP Entry.putsDown =
      (0 : UInt64).toNat + es.countP Entry.takesUp := run_counted moves idle
  refine ⟨run_overheard moves idle [], ?_, ?_, ?_⟩
  · rw [UInt64.toNat_zero] at counted
    omega
  · intro e he
    exact (possible_of_mem_entries moves idle e he).regular
  · intro answered
    exact run_rounds moves idle [] answered ⟨[], .inl ⟨rfl, rfl⟩⟩

section Shift

/-- Three units are taken up and put down, and one more is taken up. -/
def shift : List Move := [.takeUp, .takeUp, .takeUp, .putDown, .putDown, .putDown, .takeUp]

/-- It cannot be armed at first, it has lapsed when it is signalled, and it cannot be disarmed. -/
def unwilling : Scripted :=
  ⟨[.failed .timerRefused], [.failed .signalWhileInactive], [.failed .timerRefused], 0⟩

theorem shift_accounted :
    (∀ e ∈ entries shift (⟨0, ⟨⟩⟩ : WorkCount Idle), ∀ x ∈ e.exchanges, x.outcome.isOk = true) ∧
      Rounds 1 [.activate, .signal, .signal, .deactivate, .activate] ∧
      (entries shift (⟨0, unwilling⟩ : WorkCount Scripted)).map Entry.calls =
        [[.activate], [.activate], [], [.signal, .activate], [.deactivate], [], [.activate]] ∧
      3 = (run shift (⟨0, unwilling⟩ : WorkCount Scripted)).depth.toNat + 2 := by
  have answered : ∀ e ∈ entries shift (⟨0, ⟨⟩⟩ : WorkCount Idle),
      ∀ x ∈ e.exchanges, x.outcome.isOk = true := by
    decide +kernel
  obtain ⟨-, -, -, rounds⟩ := work_accounted (⟨⟩ : Idle) shift
  obtain ⟨-, counted, -, -⟩ := work_accounted unwilling shift
  exact ⟨answered, rounds answered, by decide +kernel, counted⟩

end Shift

end Runs

end WorkCount

end TensorQueue
