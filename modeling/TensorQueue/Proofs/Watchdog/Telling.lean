import TensorQueue.Proofs.Queue.Calm
import TensorQueue.Proofs.Watchdog.Escalating

/-!
# Escalations that answer

A countdown of the system is aborted if the clock cannot tell the moment at
which it would run out. An escalation all of whose timeouts can be told is never
aborted by the calls of a scheduler, whatever its countdowns refuse.
-/

set_option autoImplicit false

namespace TensorQueue

open Countdown

/-- Setting a countdown of this source to this duration is not aborted, whichever of its moments the
clock shows then. -/
def Countdown.Tells (source : Source) (d : Duration) : Prop :=
  ∀ moments, source = .system .condvar moments →
    d.isZero = true ∨ ∀ now ∈ .zero :: moments, Clock.reaches now d = true

theorem Countdown.Tells.next {source : Source} {d : Duration} (h : Tells source d) :
    Tells source.next d := by
  cases source with
  | manual refusals =>
    intro moments hm
    cases hm
  | system backend moments =>
    match moments, h with
    | [], h => exact h
    | [now], h => exact h
    | now :: later :: rest, h =>
      rintro _ ⟨⟩
      refine (h _ rfl).imp_right fun told moment hmoment => told moment ?_
      rcases List.mem_cons.1 hmoment with rfl | hmoment
      · exact List.mem_cons_self
      · exact List.mem_cons_of_mem _ (List.mem_cons_of_mem _ hmoment)

theorem Countdown.set_meets (d timeout : Duration) :
    Act.Meets (fun c : Countdown => Tells c.source d ∧ Tells c.source timeout) (Countdown.set d)
      (fun _ c => Tells c.source timeout) (fun c => Tells c.source timeout) fun _ => False := by
  intro c hc
  have next : Tells c.source.next timeout := hc.2.next
  unfold Countdown.set
  dsimp only
  split
  · exact next
  · rename_i fault hv
    cases fault with
    | refusal cause => exact next
    | abort cause =>
      -- only the system's own countdown aborts, and it can tell this duration
      exfalso
      unfold check at hv
      split at hv
      · rename_i moments hs
        have told : (d.isZero || Clock.reaches (moments.headD .zero) d) = true := by
          rcases hc.1 moments hs with zero | told
          · rw [zero, Bool.true_or]
          · rw [told _ (by cases moments <;> simp), Bool.or_true]
        rw [if_pos told] at hv
        cases hv
      · split at hv <;> cases hv
      · split at hv <;> cases hv

namespace Alarm

/-- The alarm can be armed, as far as the clock is concerned. -/
def Tells (a : Alarm) : Prop := Countdown.Tells a.countdown.source a.timeout

theorem onCountdown_meets {d : Duration} {a : Alarm} (h : a.Tells)
    (hd : Countdown.Tells a.countdown.source d) :
    Act.Ends (fun _ => Tells) Tells (fun _ => False) (onCountdown (Countdown.set d) a) :=
  Act.Ends.within (Countdown.set_meets d a.timeout a.countdown ⟨hd, h⟩)

theorem calm : Watchdog.Calm Tells where
  activate := by
    show Act.Meets Tells activate _ _ _
    unfold activate
    refine Act.Meets.read fun a ha => ?_
    split
    · exact ha
    · refine (onCountdown_meets ha ha).bind fun _ => ?_
      refine (Act.Meets.modify fun _ h => ?_).bind fun _ => Act.Meets.value fun _ h => h
      exact h
  signal := by
    show Act.Meets Tells signal _ _ _
    unfold signal
    refine Act.Meets.read fun a ha => ?_
    cases a.phase with
    | active => exact onCountdown_meets ha ha
    | barking => exact ha
    | inactive => exact ha
  deactivate := by
    show Act.Meets Tells deactivate _ _ _
    unfold deactivate
    refine Act.Meets.read fun a ha => ?_
    split
    · refine (onCountdown_meets ha fun _ _ => .inl rfl).bind fun _ => ?_
      exact Act.Meets.modify fun _ h => h
    · exact ha

end Alarm

namespace Escalation

/-- There is a first level, the one that is armed exists, and every level can be armed. -/
structure Tells (e : Escalation) : Prop where
  first : 0 < e.levels
  active : ∀ level ∈ e.activeLevel, level < e.levels
  alarms : ∀ a ∈ e.alarms, a.Tells

theorem onLevel_meets {α : Type} {act : Act Alarm α} {level : Nat}
    (h : Act.Meets Alarm.Tells act (fun _ => Alarm.Tells) Alarm.Tells fun _ => False) :
    Act.Meets (fun e => e.Tells ∧ level < e.levels) (onLevel level act) (fun _ => Tells) Tells
      fun _ => False := by
  rintro e ⟨he, hl⟩
  have found : e.alarms[level]? = some e.alarms[level] := List.getElem?_eq_getElem hl
  have kept : ∀ a : Alarm, a.Tells → (put level a e).Tells := by
    intro a ha
    refine ⟨?_, ?_, fun b hb => ?_⟩
    · simpa [put, levels] using he.first
    · simpa [put, levels] using he.active
    · rcases List.mem_or_eq_of_mem_set hb with hb | rfl
      · exact he.alarms b hb
      · exact ha
  have ends := h _ (he.alarms _ (List.getElem_mem hl))
  unfold onLevel
  rw [found]
  dsimp only
  rcases hout : act e.alarms[level] with ⟨fault | a, b⟩ <;> rw [hout] at ends
  · cases fault with
    | refusal cause => exact kept b ends
    | abort cause => exact ends
  · exact kept b ends

theorem deactivate_meets :
    Act.Meets Tells deactivate (fun _ => Tells) Tells fun _ => False := by
  unfold deactivate
  refine Act.Meets.read fun e he => ?_
  cases ha : e.activeLevel with
  | none => exact he
  | some level =>
    exact onLevel_meets Alarm.calm.deactivate _
      ⟨⟨he.first, by simp, he.alarms⟩, he.active level ha⟩

theorem restart_meets : Act.Meets Tells restart (fun _ => Tells) Tells fun _ => False := by
  unfold restart
  refine deactivate_meets.bind fun _ => ?_
  refine Act.Meets.bind ((onLevel_meets Alarm.calm.activate).strengthen fun e he => ⟨he, he.first⟩)
    fun cycle => ?_
  have remembers : Act.Meets Tells (Act.modify (remember 0 cycle)) (fun _ => Tells) Tells
      fun _ => False := by
    refine Act.Meets.modify fun e he => ⟨he.first, ?_, he.alarms⟩
    rintro level ⟨⟩
    exact he.first
  exact remembers.bind fun _ => Act.Meets.value fun _ h => h

theorem calm : Watchdog.Calm Tells where
  activate := restart_meets
  signal := restart_meets.bind fun _ => Act.Meets.value fun _ h => h
  deactivate := deactivate_meets

theorem tells_of_new {timeouts : List Duration} {source : Nat → Except Error Countdown.Source}
    {e : Escalation} (h : Escalation.new timeouts source = .ok e)
    (ht : ∀ level found, source level = .ok found →
      ∀ timeout ∈ timeouts, Countdown.Tells found timeout) : e.Tells := by
  obtain ⟨some_level, shape, levels, made⟩ := made_of_new h
  refine ⟨?_, by rw [shape]; simp, fun a ha => ?_⟩
  · rw [levels]
    exact List.length_pos_iff.2 some_level
  · obtain ⟨timeout, hin, level, found, hfound, hnew⟩ := made a ha
    obtain ⟨-, -, hnew⟩ := exists_of_except_bind hnew
    cases hnew
    exact ht level found hfound timeout hin

end Escalation

end TensorQueue
