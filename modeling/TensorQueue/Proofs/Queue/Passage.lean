import TensorQueue.Queue.Task
import Mathlib.Data.List.DropRight

/-!
# The history of a queue

What passes between a queue and those around it, written down in the order in
which it happens: submissions that were accepted, as they were made, descriptors
that were handed out and taken back, reports that a task is done as a whole,
requests that were let go and drains. A window is what has happened since the
last drain.
-/

set_option autoImplicit false

namespace TensorQueue

/-- How a request is let go. -/
inductive Ending where
  | finished
  | cancelled
  deriving DecidableEq, Repr, Inhabited

/-- What a request is told at its end. -/
structure Notice where
  ticket : Ticket
  ending : Ending
  deriving DecidableEq, Repr, Inhabited

/-- A submission with the number under which it was accepted. -/
structure Submission where
  number : UInt64
  ticket : Ticket
  descriptors : List Descriptor
  deriving DecidableEq, Repr, Inhabited

/-- The task that a submission stands for: all its descriptors in their order, each of them still to
be handed out. -/
def Submission.task (s : Submission) : Task :=
  ⟨s.number, s.ticket, (s.descriptors.map fun d => Entry.mk d .pending).toArray⟩

@[simp] theorem Submission.task_mk (number : UInt64) (ticket : Ticket)
    (descriptors : List Descriptor) :
    Submission.task ⟨number, ticket, descriptors⟩ = Task.new number ticket descriptors := rfl

inductive Passage where
  | accepted (submission : Submission)
  | handedOut (handle : Handle)
  | takenBack (place : Place)
  /-- The hardware was reported to be done with the task of this number as a whole. -/
  | reported (number : UInt64)
  | notified (notice : Notice)
  | drained
  deriving DecidableEq, Repr, Inhabited

namespace Passage

def task? : Passage → Option Task
  | .accepted s => some s.task
  | _ => none

def handle? : Passage → Option Handle
  | .handedOut h => some h
  | _ => none

def notice? : Passage → Option Notice
  | .notified n => some n
  | _ => none

def isDrain : Passage → Bool
  | .drained => true
  | _ => false

/-- Whether this is about the descriptor in this place. -/
def concerns (p : Place) : Passage → Bool
  | .handedOut h => h.task = p.task ∧ h.index = p.index
  | .takenBack r => r = p
  | _ => false

theorem concerns_handedOut {h : Handle} (a : Place) :
    (handedOut h).concerns a = true ↔ a = ⟨h.task, h.index⟩ := by
  obtain ⟨task, index⟩ := a
  simp only [concerns, decide_eq_true_eq, Place.mk.injEq]
  exact and_congr eq_comm eq_comm

theorem concerns_takenBack {p : Place} (a : Place) :
    (takenBack p).concerns a = true ↔ a = p := by
  simp only [concerns, decide_eq_true_eq]
  exact eq_comm

end Passage

namespace History

/-- The tasks that the accepted submissions stand for, in the order of submission. -/
def accepted (log : List Passage) : List Task := log.filterMap Passage.task?

def handed (log : List Passage) : List Handle := log.filterMap Passage.handle?

def notices (log : List Passage) : List Notice := log.filterMap Passage.notice?

/-- What has happened to the descriptor in this place. -/
def dealings (log : List Passage) (p : Place) : List Passage := log.filter (Passage.concerns p)

/-- What has happened since the last drain. -/
def window (log : List Passage) : List Passage := log.rtakeWhile fun x => !x.isDrain

variable {log more : List Passage} {x : Passage}

theorem accepted_append : accepted (log ++ more) = accepted log ++ accepted more :=
  List.filterMap_append

theorem accepted_concat : accepted (log ++ [x]) = accepted log ++ x.task?.toList := by
  rw [accepted_append]
  cases h : x.task? <;> simp [accepted, h]

theorem handed_concat : handed (log ++ [x]) = handed log ++ x.handle?.toList := by
  rw [handed, List.filterMap_append]
  cases h : x.handle? <;> simp [handed, h]

theorem notices_concat : notices (log ++ [x]) = notices log ++ x.notice?.toList := by
  rw [notices, List.filterMap_append]
  cases h : x.notice? <;> simp [notices, h]

theorem dealings_concat_of_not {p : Place} (h : x.concerns p = false) :
    dealings (log ++ [x]) p = dealings log p := by
  simp [dealings, List.filter_append, h]

theorem dealings_concat {p : Place} (h : x.concerns p = true) :
    dealings (log ++ [x]) p = dealings log p ++ [x] := by
  simp [dealings, List.filter_append, h]

theorem window_concat (h : x.isDrain = false) : window (log ++ [x]) = window log ++ [x] :=
  List.rtakeWhile_concat_pos _ _ _ (by simp [h])

theorem window_drained : window (log ++ [.drained]) = [] :=
  List.rtakeWhile_concat_neg _ _ _ (by simp [Passage.isDrain])

/-- A stretch of the log without a drain that begins at the start or right behind a drain. -/
def Stretch (log part : List Passage) : Prop :=
  ∃ before after, log = before ++ part ++ after ∧
    (before = [] ∨ ∃ earlier, before = earlier ++ [.drained]) ∧ ∀ x ∈ part, x.isDrain = false

theorem window_of_append {before part : List Passage}
    (hb : before = [] ∨ ∃ earlier, before = earlier ++ [.drained])
    (hp : ∀ x ∈ part, x.isDrain = false) : window (before ++ part) = part := by
  induction part using List.reverseRecOn with
  | nil =>
    rcases hb with rfl | ⟨earlier, rfl⟩
    · rfl
    · rw [List.append_nil]
      exact window_drained
  | append_singleton part x ih =>
    have hx : x.isDrain = false := hp x (List.mem_append_right _ List.mem_cons_self)
    rw [← List.append_assoc, window_concat hx, ih fun y hy => hp y (List.mem_append_left _ hy)]

theorem stretch_concat {part : List Passage} (h : Stretch (log ++ [x]) part) :
    Stretch log part ∨ part = window (log ++ [x]) := by
  obtain ⟨before, after, hlog, hb, hp⟩ := h
  rcases List.eq_nil_or_concat' after with rfl | ⟨rest, y, rfl⟩
  · right
    rw [hlog, List.append_nil, window_of_append hb hp]
  · left
    rw [← List.append_assoc] at hlog
    exact ⟨before, rest, (List.append_inj' hlog rfl).1, hb, hp⟩

theorem accepted_window_subset {t : Task} (h : t ∈ accepted (window log)) : t ∈ accepted log :=
  List.filterMap_subset _ (List.IsSuffix.subset (List.rtakeWhile_suffix _ _)) h

end History

end TensorQueue
