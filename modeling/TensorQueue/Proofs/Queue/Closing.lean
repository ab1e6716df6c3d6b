import TensorQueue.Proofs.Queue.Chronicle
import TensorQueue.Proofs.Queue.Holdings

/-!
# What a close takes along

A close comes back at once, or it waits for the hardware and other calls come in
between. While nobody opens the scheduler it stays shut, takes nothing in and
lets tasks go from the front only. So a close has then cancelled nothing but
tasks that it found, and leaves a queue that is shut and empty. But a close that
waits looks at the hardware alone. If the scheduler is opened meanwhile, it
takes along what was submitted since, and comes back with the scheduler open.
-/

set_option autoImplicit false

namespace TensorQueue

open Dispatcher History

/-- Nothing gets into the queue any more, and what it holds is the last of these. -/
structure Queue.Dwindling (ts : List Ticket) (q : Queue) : Prop where
  shut : q.isOpen = false
  left : q.tickets <:+ ts

namespace Chronicle

variable {W : Type} [Watchdog W] {c d e : Chronicle W} {reply : Reply} {ts : List Ticket}

/-- A close called on the first chronicle comes back with the second one, with these to be told: at
once, or when it is woken after these turns. -/
inductive ComesBack (c : Chronicle W) : List Turn → List Notice → Chronicle W → Prop
  | atOnce {mode : CloseMode} {reply : Reply} {d : Chronicle W} :
      c.scheduler.queue.isOpen = true → perform (.close mode) c = some (reply, d) →
      d.waiting = c.waiting → ComesBack c [] reply.notices d
  | woken {between : List Turn} {first reply : Reply} {b d e : Chronicle W} :
      c.scheduler.queue.isOpen = true → perform (.close .graceful) c = some (first, b) →
      b.waiting = c.waiting + 1 → run between b = some d →
      perform .wake d = some (reply, e) → e.waiting + 1 = d.waiting →
      ComesBack c between reply.notices e

section Shut

theorem submit_shut {offer : Offer} (hq : c.scheduler.queue.isOpen = false)
    (h : perform (.submit offer) c = some (reply, d)) : d.scheduler.queue = c.scheduler.queue := by
  obtain ⟨-, rfl | ⟨ds, q, marks, hs, rfl⟩⟩ := submit_inversion h
  · rfl
  · have isOpen := (Queue.submit_eq_ok_iff.1 hs).2.1
    rw [hq] at isOpen
    cases isOpen

theorem submitAll_shut (offers : List Offer) : ∀ {c d : Chronicle W},
    c.scheduler.queue.isOpen = false → submitAll offers c = some d →
      d.scheduler.queue = c.scheduler.queue := by
  induction offers with
  | nil =>
    intro c d _ h
    cases h
    rfl
  | cons offer rest ih =>
    intro c d hq h
    obtain ⟨⟨reply, e⟩, he, hd⟩ := Option.bind_eq_some_iff.1 h
    have same := submit_shut hq he
    rw [ih (by rw [same]; exact hq) hd, same]

/-- The callbacks of those let go by a scheduler that is shut submit in vain. -/
theorem answer_shut (told : List Notice) : ∀ (inside : List (List Offer)) {c d : Chronicle W},
    c.scheduler.queue.isOpen = false → answer told inside c = some d →
      d.scheduler.queue = c.scheduler.queue := by
  induction told with
  | nil =>
    intro inside c d _ h
    cases h
    rfl
  | cons n rest ih =>
    intro inside c d hq h
    obtain ⟨e, he, hd⟩ := Option.bind_eq_some_iff.1 h
    have same := submitAll_shut _ (c := c.note (.notified n)) hq he
    rw [ih _ (by rw [same]; exact hq) hd, same]
    rfl

theorem progress_dwindling {f : Queue → Except Error (List Ticket × Queue)}
    {after : List Ticket → Chronicle W → Reply × Chronicle W}
    (hf : ∀ {q gone r}, f q = .ok (gone, r) → q.tickets = gone ++ r.tickets ∧ r.isOpen = q.isOpen)
    (ha : ∀ gone (x : Chronicle W), (after gone x).2.scheduler = x.scheduler)
    (hc : c.scheduler.queue.Dwindling ts)
    (h : attempt (Scheduler.progress f) after c = some (reply, d)) :
    d.scheduler.queue.Dwindling ts := by
  rcases progress_inversion h with ⟨-, rfl⟩ | ⟨gone, q, w, marks, hq, hd⟩
  · exact hc
  · have left : d.scheduler.queue = q := by
      rw [show d = (after gone { c with scheduler := ⟨q, w, marks⟩ }).2 from congrArg Prod.snd hd, ha]
    obtain ⟨tickets, isOpen⟩ := hf hq
    rw [left]
    refine ⟨isOpen.trans hc.shut, List.IsSuffix.trans ?_ hc.left⟩
    rw [tickets]
    exact List.suffix_append _ _

/-- While nobody opens it, a scheduler that is shut stays shut, and tasks only leave it. -/
theorem perform_dwindling {call : Call} (hn : call ≠ .openUp)
    (hc : c.scheduler.queue.Dwindling ts) (h : perform call c = some (reply, d)) :
    d.scheduler.queue.Dwindling ts := by
  cases call with
  | openUp => exact absurd rfl hn
  | submit offer =>
    rw [submit_shut hc.shut h]
    exact hc
  | next =>
    rw [(next_beat h).2.1, Queue.next_of_shut hc.shut]
    exact hc
  | complete k =>
    rw [perform] at h
    change attempt (Scheduler.progress (Queue.complete k)) _ c = _ at h
    exact progress_dwindling (fun hq => ⟨Queue.tickets_of_complete hq, Queue.isOpen_of_complete hq⟩)
      (fun _ _ => rfl) hc h
  | finishRequest =>
    rw [perform] at h
    change attempt (Scheduler.progress Queue.finishRequest) _ c = _ at h
    refine progress_dwindling (fun hq => ⟨Queue.tickets_of_finishRequest hq,
      congrArg Prod.fst (Queue.entrance_of_finishRequest hq)⟩) (fun _ x => ?_) hc h
    cases c.scheduler.queue.active.head? <;> rfl
  | close mode =>
    rcases Scheduler.close_cases mode c.scheduler with ⟨q, hq, -⟩ | ⟨cause, -, hs⟩
    · have isOpen := (Queue.shut_eq_ok_iff.1 hq).1
      rw [hc.shut] at isOpen
      cases isOpen
    · rw [perform, attempt_of_refusal hs] at h
      cases h
      exact hc
  | wake =>
    rw [perform] at h
    split at h
    · cases h
    · rcases Scheduler.finishClose_cases c.scheduler with ⟨-, hs⟩ | ⟨-, w, marks, hs | ⟨cause, hs⟩⟩
      · rw [attempt_of_ok hs] at h
        cases h
        exact hc
      · rw [attempt_of_ok hs] at h
        cases h
        exact ⟨hc.shut, List.nil_suffix⟩
      · rw [attempt_of_abort hs] at h
        cases h

theorem run_dwindling (turns : List Turn) : ∀ {c d : Chronicle W},
    (∀ t ∈ turns, t.call ≠ .openUp) → c.scheduler.queue.Dwindling ts → run turns c = some d →
      d.scheduler.queue.Dwindling ts := by
  induction turns with
  | nil =>
    intro c d _ hc h
    cases h
    exact hc
  | cons t rest ih =>
    intro c d hn hc h
    obtain ⟨⟨handle, e⟩, he, hd⟩ := Option.bind_eq_some_iff.1 h
    obtain ⟨⟨reply, f⟩, hf, he⟩ := Option.bind_eq_some_iff.1 he
    obtain ⟨g, hg, hout⟩ := Option.map_eq_some_iff.1 he
    cases hout
    obtain ⟨first, others⟩ := List.forall_mem_cons.1 hn
    have after := perform_dwindling first hc hf
    refine ih others ?_ hd
    rw [answer_shut _ _ after.shut hg]
    exact after

end Shut

section Accounts

/-- Who is still held came in last. -/
theorem tickets_of_beats {x y : Moment} (h : Beats x y)
    (hx : x.queue.tickets <:+ (accepted x.log).map Task.ticket) :
    y.queue.tickets <:+ (accepted y.log).map Task.ticket := by
  induction h with
  | refl => exact hx
  | tail _ beat ih =>
    have fewer : ∀ {q r : Queue} {gone : List Ticket} {log : List Passage} {x : Passage},
        q.tickets = gone ++ r.tickets → x.task? = none →
        q.tickets <:+ (accepted log).map Task.ticket →
          r.tickets <:+ (accepted (log ++ [x])).map Task.ticket := by
      intro q r gone log x tickets none held
      rw [accepted_concat, none, Option.toList_none, List.append_nil]
      exact List.IsSuffix.trans ⟨gone, tickets.symm⟩ held
    cases beat with
    | openUp ho =>
      rw [(Queue.openUp_eq_ok_iff.1 ho).2]
      exact ih
    | shut hs =>
      rw [(Queue.shut_eq_ok_iff.1 hs).2]
      exact ih
    | submit hs =>
      rw [accepted_concat, List.map_append, Queue.tickets_of_submit hs]
      obtain ⟨gone, held⟩ := ih
      exact ⟨gone, by rw [← List.append_assoc, held]; rfl⟩
    | @idle q log hn => exact List.IsSuffix.trans ⟨_, q.tickets_next.symm⟩ ih
    | @handOut q log k hn => exact fewer q.tickets_next rfl ih
    | takeBack hc => exact fewer (Queue.tickets_of_complete hc) rfl ih
    | report _ hf => exact fewer (Queue.tickets_of_finishRequest hf) rfl ih
    | @drain q log => exact List.nil_suffix
    | notify =>
      rw [accepted_concat]
      simpa [Passage.task?] using ih

theorem tickets_of_run {w : W} {turns : List Turn} (h : run turns (begin w) = some c) :
    c.scheduler.queue.tickets <:+ (accepted c.passages).map Task.ticket :=
  tickets_of_beats (run_beats turns h) List.nil_suffix

end Accounts

section Close

variable {w : W} {told : List Notice} {turns between : List Turn} {inside : List (List Offer)}

omit [Watchdog W] in
/-- A close that comes back cancels all that is held by then. -/
theorem drained_of_close {act : Act (Scheduler W) Closing} {waiting : Nat} {q : Queue}
    (h : ∃ w marks, act c.scheduler = (.ok (.closed q.drain.1), ⟨q.drain.2, w, marks⟩) ∨
      ∃ cause, act c.scheduler = (.error (.abort cause), ⟨q.drain.2, w, marks⟩))
    (ha : attempt act (settleClose waiting) c = some (reply, d)) :
    d.waiting = waiting ∧ reply.notices = cancelled q.tickets ∧
      d.scheduler.queue = q.drain.2 := by
  obtain ⟨w, marks, hs | ⟨cause, hs⟩⟩ := h
  · rw [attempt_of_ok hs] at ha
    cases ha
    exact ⟨rfl, rfl, rfl⟩
  · rw [attempt_of_abort hs] at ha
    cases ha

/-- A close that is accepted waits with the queue shut, or it has come back. -/
theorem close_inversion {mode : CloseMode} (ho : c.scheduler.queue.isOpen = true)
    (h : perform (.close mode) c = some (reply, d)) :
    (d.waiting = c.waiting + 1 ∧
      d.scheduler.queue = { c.scheduler.queue with isOpen := false }) ∨
    (d.waiting = c.waiting ∧ reply.notices = cancelled c.scheduler.queue.tickets ∧
      d.scheduler.queue = ({ c.scheduler.queue with isOpen := false } : Queue).drain.2) := by
  rcases Scheduler.close_cases mode c.scheduler with ⟨q, hq, waits⟩ | ⟨cause, hq, -⟩
  · obtain ⟨-, rfl⟩ := Queue.shut_eq_ok_iff.1 hq
    rcases waits with ⟨-, -, hs⟩ | hs
    · rw [perform, attempt_of_ok hs] at h
      cases h
      exact .inl ⟨rfl, rfl⟩
    · exact .inr (drained_of_close hs h)
  · simp [Queue.shut, ho] at hq

/-- One of the closes that wait goes on waiting, or it comes back. -/
theorem wake_inversion (h : perform .wake c = some (reply, d)) :
    d.waiting = c.waiting ∨ (reply.notices = cancelled c.scheduler.queue.tickets ∧
      d.scheduler.queue = c.scheduler.queue.drain.2) := by
  rw [perform] at h
  split at h
  · cases h
  · rename_i others hw
    rcases Scheduler.finishClose_cases c.scheduler with ⟨-, hs⟩ | ⟨-, hs⟩
    · rw [attempt_of_ok hs] at h
      cases h
      exact .inl hw.symm
    · exact .inr (drained_of_close hs h).2

/-- These turns, then a graceful close that waits during the others, and is woken to come back. -/
def closing (turns between : List Turn) (w : W) :
    Option (Chronicle W × List Notice × Chronicle W) := do
  let c ← run turns (begin w)
  let (_, b) ← perform (.close .graceful) c
  let d ← run between b
  let (reply, e) ← perform .wake d
  if c.scheduler.queue.isOpen = true ∧ b.waiting = c.waiting + 1 ∧ e.waiting + 1 = d.waiting then
    some (c, reply.notices, e)
  else none

theorem comesBack_of_closing (h : closing turns between w = some (c, told, d)) :
    run turns (begin w) = some c ∧ ComesBack c between told d := by
  simp only [closing, Option.bind_eq_bind, Option.bind_eq_some_iff] at h
  obtain ⟨c', hr, ⟨first, b⟩, hp, f, hf, ⟨reply, e⟩, hk, hout⟩ := h
  split at hout
  · rename_i waits
    cases hout
    exact ⟨hr, .woken waits.1 hp waits.2.1 hf hk waits.2.2⟩
  · cases hout

/-- The queue that a close drains in the end holds nothing but what the close found, if nobody opened
it meanwhile. -/
theorem ComesBack.drains (h : ComesBack c between told d) : ∃ q : Queue,
    told = cancelled q.tickets ∧ d.scheduler.queue = q.drain.2 ∧
      ((∀ t ∈ between, t.call ≠ .openUp) → q.Dwindling c.scheduler.queue.tickets) := by
  cases h with
  | atOnce ho hp hw =>
    rcases close_inversion ho hp with ⟨waits, -⟩ | ⟨-, tells, left⟩
    · omega
    · exact ⟨{ c.scheduler.queue with isOpen := false }, tells, left, fun _ =>
        ⟨rfl, List.suffix_refl _⟩⟩
  | @woken _ _ _ b _ _ ho hp hw hr hk hf =>
    have shut : b.scheduler.queue = { c.scheduler.queue with isOpen := false } := by
      rcases close_inversion ho hp with ⟨-, shut⟩ | ⟨back, -, -⟩
      · exact shut
      · omega
    rcases wake_inversion hk with waits | ⟨tells, left⟩
    · omega
    · refine ⟨_, tells, left, fun hn => run_dwindling between hn ?_ hr⟩
      rw [shut]
      exact ⟨rfl, List.suffix_refl _⟩

/-- A close that comes back has cancelled requests only and leaves nothing in the queue. If nobody
opened the scheduler in between, those cancelled were held when the close was called, so they had
been accepted before, and once they have been told the scheduler is still shut and empty. -/
theorem close_cancels_what_it_found (h : run turns (begin w) = some c)
    (hc : ComesBack c between told d) (ha : answer told inside d = some e) :
    d.scheduler.queue.isEmpty = true ∧ ∃ gone, told = cancelled gone ∧
      ((∀ t ∈ between, t.call ≠ .openUp) →
        gone <:+ c.scheduler.queue.tickets ∧
        gone <:+ (accepted c.passages).map Task.ticket ∧
        e.scheduler.queue.isOpen = false ∧ e.scheduler.queue.isEmpty = true) := by
  obtain ⟨q, tells, left, unopened⟩ := hc.drains
  refine ⟨by rw [left]; rfl, q.tickets, tells, fun hn => ?_⟩
  obtain ⟨shut, fewer⟩ := unopened hn
  -- what the callbacks submit is refused, so the queue stays as the close left it
  have same := answer_shut told inside (by rw [left]; exact shut) ha
  rw [same, left]
  exact ⟨fewer, fewer.trans (tickets_of_run h), shut, rfl⟩

/-- Two requests, the first of which has a descriptor with the hardware. -/
def handedOver : List Turn :=
  [⟨.openUp, []⟩,
    ⟨.submit ⟨default, .ok [⟨.instruction, 0, 64⟩, Descriptor.marker .globalFence]⟩, []⟩,
    ⟨.submit ⟨{ (default : Ticket) with key := 1 }, .ok [⟨.instruction, 64, 64⟩]⟩, []⟩,
    ⟨.next, []⟩]

/-- While a close waits, a submission and another close are refused and the hardware finishes. -/
def windingUp : List Turn :=
  [⟨.submit ⟨{ (default : Ticket) with key := 2 }, .ok [⟨.instruction, 128, 64⟩]⟩, []⟩,
    ⟨.close .graceful, []⟩, ⟨.next, []⟩, ⟨.complete ⟨0, 0, ⟨.instruction, 0, 64⟩⟩, []⟩]

theorem winding_up_cancels_both : ∃ c d e : Chronicle Watchdog.Idle, ∃ told,
    run handedOver (begin ⟨⟩) = some c ∧ ComesBack c windingUp told d ∧
      answer told [] d = some e ∧ told.map (fun n => n.ticket.key) = [0, 1] ∧
      d.scheduler.queue.isEmpty = true ∧ ∃ gone, told = cancelled gone ∧
        gone <:+ c.scheduler.queue.tickets ∧ gone <:+ (accepted c.passages).map Task.ticket ∧
        e.scheduler.queue.isOpen = false ∧ e.scheduler.queue.isEmpty = true := by
  have seen : (closing handedOver windingUp Watchdog.Idle.mk).bind (fun (_, told, d) =>
      (answer told [] d).map fun _ => told.map fun n => n.ticket.key) = some [0, 1] := by
    decide +kernel
  obtain ⟨⟨c, told, d⟩, h, hd⟩ := Option.bind_eq_some_iff.1 seen
  obtain ⟨e, ha, keys⟩ := Option.map_eq_some_iff.1 hd
  obtain ⟨hr, hc⟩ := comesBack_of_closing h
  obtain ⟨empty, gone, cancels, unopened⟩ := close_cancels_what_it_found hr hc ha
  exact ⟨c, d, e, told, hr, hc, ha, keys, empty, gone, cancels, unopened (by simp [windingUp])⟩

/-- While a close waits, the scheduler is opened and takes another request. -/
def reopening : List Turn :=
  [⟨.openUp, []⟩,
    ⟨.submit ⟨{ (default : Ticket) with key := 2 }, .ok [⟨.instruction, 128, 64⟩]⟩, []⟩,
    ⟨.complete ⟨0, 0, ⟨.instruction, 0, 64⟩⟩, []⟩]

/-- The close comes back with the scheduler open, and has cancelled a request that was accepted only
after the close was called. -/
theorem reopening_undoes_close : ∃ c d : Chronicle Watchdog.Idle, ∃ told,
    run handedOver (begin ⟨⟩) = some c ∧ ComesBack c reopening told d ∧
      (∃ n ∈ told, n.ending = .cancelled ∧ n.ticket ∉ (accepted c.passages).map Task.ticket) ∧
      d.scheduler.queue.isOpen = true := by
  have seen : (closing handedOver reopening Watchdog.Idle.mk).map (fun (c, told, d) =>
      decide ((∃ n ∈ told, n.ending = .cancelled ∧
        n.ticket ∉ (accepted c.passages).map Task.ticket) ∧
          d.scheduler.queue.isOpen = true)) = some true := by
    decide +kernel
  obtain ⟨⟨c, told, d⟩, h, hd⟩ := Option.map_eq_some_iff.1 seen
  obtain ⟨hr, hc⟩ := comesBack_of_closing h
  exact ⟨c, d, told, hr, hc, of_decide_eq_true hd⟩

end Close

end Chronicle

end TensorQueue
