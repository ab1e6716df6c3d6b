import TensorQueue.Proofs.Driver.Books
import TensorQueue.Proofs.Queue.Holdings

/-!
# What the driver does to its books

Everything that the driver does is posting after posting, however it ends. Who
has left the dispatcher is owed an end until he has been told. An action that
ends with a value or is refused leaves nobody owed whom it has taken on. An
abort may leave some behind. The done callbacks are run in the middle of all
this, with others still owed an end, and have to heed the books as well.
-/

set_option autoImplicit false

namespace TensorQueue

open Dispatcher Books

/-- A driver over a supervised queue behind a desk. -/
abbrev Site (W : Type) := Driver (RealTime (Scheduler W))

namespace Driver

variable {W α : Type} {b : Books} {owed : List Nat} {d : Site W} {key number : Nat}

/-- The books, with these keys owed an end. -/
def books (owed : List Nat) (d : Site W) : Books :=
  ⟨d.requests, d.claims, d.reports, d.fired, d.dispatcher.backing.queue.keys, owed⟩

/-- The books as they were have come to these by postings. -/
def Kept (b : Books) (owed : List Nat) (d : Site W) : Prop := Postings b (d.books owed)

/-- So have these, but for what an abort does to them, and whoever is still owed an end. -/
def Broken (b : Books) (d : Site W) : Prop :=
  ∃ owed c, Postings b c ∧ Torn c (d.books owed)

theorem Kept.broken (h : Kept b owed d) : Broken b d := ⟨owed, _, h, .whole⟩

/-- However it ends, the action is postings, and unless it is aborted the same are owed an end
afterwards as before, whoever they are. -/
def Keeps (b : Books) (act : Act (Site W) α) : Prop :=
  ∀ owed, Act.Meets (Kept b owed) act (fun _ => Kept b owed) (Kept b owed) (Broken b)

/-- So are the done callbacks, and they are not refused. -/
def Heedful (W : Type) [DoneCallbacks (RealTime (Scheduler W))] : Prop :=
  ∀ (b : Books) (owed : List Nat) (number : Nat) (status : Status),
    Act.Meets (Kept b owed) (DoneCallbacks.run number status) (fun _ => Kept (W := W) b owed)
      (fun _ => False) (Broken b)

theorem heedful_silent : @Heedful W silent := fun _ _ _ _ => Act.Meets.value fun _ h => h

theorem Kept.post {c : Books} (h : Kept b owed d) (hp : Posting (d.books owed) c) : Postings b c :=
  h.tail hp

theorem Kept.owe (h : Kept b owed d) (key : Nat) : Kept b (key :: owed) d := h.post (.owe key)

theorem Kept.waive (h : Kept b (key :: owed) d)
    (hk : ∀ number, d.claims[key]? ≠ some (some number)) : Kept b owed d :=
  h.post (.waive rfl (.inr hk))

theorem Kept.of_books {e : Site W} (h : Kept b owed d) (he : e.books owed = d.books owed) :
    Kept b owed e := by
  unfold Kept
  rw [he]
  exact h

section Marks

theorem books_heed (mark : Mark) : (heed mark d).books owed = d.books owed := by
  cases mark with
  | submitted key =>
    have same : (alterHardware key HardwareRequest.markSubmitted d).claims = d.claims :=
      claims_alterHardware_same fun _ => rfl
    simp only [books, heed, same]
    rfl
  | activated key =>
    have same : (alterHardware key HardwareRequest.markActive d).claims = d.claims :=
      claims_alterHardware_same fun _ => rfl
    simp only [books, heed, same]
    rfl
  | consulted consultation => rfl
  | announced => rfl

theorem books_heedAll (marks : List Mark) (d : Site W) :
    (heedAll marks d).books owed = d.books owed := by
  induction marks generalizing d with
  | nil => rfl
  | cons mark rest ih => exact (ih (heed mark d)).trans (books_heed mark)

variable [Watchdog W]

theorem books_collect : d.collect.books owed = d.books owed := books_heedAll _ _

/-- All that an action of the dispatcher does to the books is what it does to the keys held. -/
theorem perform_ends {act : Act (RealTime (Scheduler W)) α} {after : α → Site W → Prop}
    {refused aborted : Site W → Prop} (owed : List Nat)
    (h : Act.Ends
      (fun a s => ∀ e : Site W, e.books owed =
        { d.books owed with held := s.backing.queue.keys } → after a e)
      (fun s => ∀ e : Site W, e.books owed =
        { d.books owed with held := s.backing.queue.keys } → refused e)
      (fun s => ∀ e : Site W, e.books owed =
        { d.books owed with held := s.backing.queue.keys } → aborted e)
      (act d.dispatcher)) : Act.Ends after refused aborted (perform act d) := by
  apply Act.Ends.closing
  apply Act.Ends.within
  apply h.weaken
  · intro a s hs
    exact hs _ books_collect
  · intro s hs
    exact hs _ books_collect
  · intro s hs
    exact hs _ books_collect

/-- Whom the dispatcher lets go is owed an end. -/
theorem perform_keeps {act : Act (Scheduler W) α} {tickets : α → List Ticket}
    (h : Scheduler.Releasing act tickets) :
    Act.Meets (Kept b owed) (perform (RealTime.onBacking act))
      (fun a => Kept b ((tickets a).map Ticket.key ++ owed)) (Kept b owed) (Broken b) := by
  intro d hd
  have released : ∀ gone (s : Scheduler W), d.dispatcher.backing.queue.keys = gone ++ s.queue.keys →
      ∀ e : Site W, e.books owed = { d.books owed with held := s.queue.keys } →
        Kept b (gone ++ owed) e := by
    intro gone s hs e he
    have posted := hd.post (.release hs)
    have same : e.books (gone ++ owed) = { e.books owed with owed := gone ++ owed } := rfl
    rw [Kept, same, he]
    exact posted
  apply perform_ends owed
  apply Act.Ends.within
  apply (h _ d.dispatcher.backing rfl).weaken
  · intro a s hs
    exact released _ s hs
  · intro s hs e he
    rw [hs] at he
    exact hd.of_books he
  · rintro s ⟨gone, hs⟩ e he
    exact (released gone s hs e he).broken

theorem submitHardware_ends (key : Nat) (owed : List Nat) (d : Site W) : Act.Ends
    (fun _ e => e.books owed =
      { d.books owed with held := d.dispatcher.backing.queue.keys ++ [key] } ∨
        d.hardware[key]? = none ∧ e = d)
    (fun e => e.books owed = d.books owed) (fun e => e.books owed = d.books owed)
    (submitHardware key d) := by
  unfold submitHardware
  apply Act.Ends.read
  cases hk : d.hardware[key]? with
  | none => exact .inr ⟨rfl, rfl⟩
  | some r =>
    apply perform_ends owed
    apply (RealTime.submit_holds ⟨ticket key r, r.descriptors⟩ d.dispatcher rfl).weaken
    · intro _ s hs e he
      rw [hs] at he
      exact .inl he
    · intro s hs e he
      rw [hs] at he
      exact he
    · intro s hs e he
      rw [hs] at he
      exact he

/-- A key that is accepted needs no other end than that of the queue. -/
theorem submitHardware_keeps : Act.Meets (Kept b (key :: owed)) (submitHardware key)
    (fun _ => Kept (W := W) b owed) (Kept b (key :: owed)) (Broken b) := by
  intro d hd
  apply (submitHardware_ends key (key :: owed) d).weaken
  · rintro _ e (he | ⟨hk, rfl⟩)
    · have held : Postings b (e.books (key :: owed)) := by
        rw [he]
        exact hd.post (.hold key)
      have mem : key ∈ (e.books (key :: owed)).held := by
        rw [he]
        simp
      exact held.tail (.waive rfl (.inl mem))
    · apply hd.waive
      simp [getElem?_claims, hk]
  · intro e he
    exact hd.of_books he
  · intro e he
    exact (hd.of_books he).broken

theorem submitHardware_keeps_all : Act.Meets (Kept b owed) (submitHardware key)
    (fun _ => Kept (W := W) b owed) (Kept b owed) (Broken b) := by
  intro d hd
  apply (submitHardware_ends key owed d).weaken
  · rintro _ e (he | ⟨-, rfl⟩)
    · rw [Kept, he]
      exact hd.post (.hold key)
    · exact hd
  · intro e he
    exact hd.of_books he
  · intro e he
    exact (hd.of_books he).broken

end Marks

section Ends

theorem tell_keeps {event : Event} (h : event.fired? = none) :
    Act.Meets (Kept b owed) (tell event) (fun _ => Kept (W := W) b owed) (fun _ => False)
      (Broken b) := by
  apply Act.Meets.modify
  intro d hd
  apply hd.of_books
  simp [books, fired, h, claims]

theorem addHardware_keeps {r : HardwareRequest} (h : r.claim = none) :
    Act.Meets (Kept b owed) (addHardware r)
      (fun key d => Kept (W := W) b owed d ∧ d.hardware[key]? = some r) (fun _ => False)
      (Broken b) := by
  intro d hd
  show Kept b owed _ ∧ _
  constructor
  · have made : ({ d with hardware := d.hardware.push r } : Site W).books owed =
        { d.books owed with claims := (d.books owed).claims ++ [none] } := by
      simp [books, claims, h, fired]
    rw [Kept, made]
    exact hd.post .make
  · simp

/-- A request is told, and then its done callback may be run. -/
theorem onRequest_ends [DoneCallbacks (RealTime (Scheduler W))] (hc : Heedful W)
    {f : Request → Option Status × Request}
    (h : ∀ e : Site W, (∀ owed, e.books owed = (d.books owed).tell number f) → Kept b owed e) :
    Act.Ends (fun _ => Kept b owed) (fun _ => False) (Broken b) (onRequest number f d) := by
  simp only [onRequest, Act.bind_apply, Act.read_apply]
  cases hr : d.requests[number]? with
  | none =>
    apply h d
    simp [books, Books.tell, hr]
  | some r =>
    simp only [conclude, Act.bind_apply, Act.modify_apply]
    cases ho : (f r).1 with
    | none =>
      apply h
      simp [books, Books.tell, hr, Books.conclude, ho, putRequest, claims, fired]
    | some status =>
      apply hc b owed number status
      apply h
      simp [books, Books.tell, hr, Books.conclude, ho, putRequest, claims, fired, Event.fired?]

variable [Watchdog W]

theorem followUp_keeps (plans : List HardwareRequest.Plan) (executable : Executable) :
    Act.Meets (Kept b owed) (followUp plans executable) (fun _ => Kept (W := W) b owed)
      (fun _ => False) (Broken b) := by
  cases plans with
  | nil => exact Act.Meets.value fun _ hd => hd
  | cons plan rest =>
    apply (addHardware_keeps rfl).bind
    intro key
    apply (submitHardware_keeps_all.attempt_both.strengthen fun _ hd => hd.1).bind
    intro outcome
    exact tell_keeps rfl

omit [Watchdog W] in
theorem books_alterHardware {f : HardwareRequest → HardwareRequest} {r : HardwareRequest}
    (hk : d.hardware[key]? = some r) (hf : (f r).claim = r.claim) :
    (alterHardware key f d).books owed = d.books owed := by
  have free : d.claims[key]? = some r.claim := by rw [getElem?_claims, hk, Option.map_some]
  obtain ⟨hlt, heq⟩ := List.getElem?_eq_some_iff.1 free
  have same : (alterHardware key f d).claims = d.claims := by
    rw [claims_alterHardware hk, hf, ← heq]
    exact List.set_getElem_self hlt
  simp only [books, same]
  rfl

section Completion

variable [DoneCallbacks (RealTime (Scheduler W))] (hc : Heedful W)

omit [Watchdog W] in
/-- A part that ends has told its request, and is owed no end any more when the done callback is
run. -/
theorem settlePart_ends (hc : Heedful W) (status : Status) (hd : Kept b (key :: owed) d)
    {r : HardwareRequest} (hk : d.hardware[key]? = some r)
    (hr : r.callback = some (.part number)) (hopen : ¬ r.completed = true) :
    Act.Ends (fun _ => Kept b owed) (fun _ => False) (Broken b)
      (onRequest number (fun whole => whole.partDone r.complete.stamps status)
        { alterHardware key HardwareRequest.complete d with
          reports := ⟨number, status⟩ :: d.reports }) := by
  have claimed : d.claims[key]? = some (some number) := by
    rw [getElem?_claims, hk]
    simp [HardwareRequest.claim, hopen, hr]
  have ended : (alterHardware key HardwareRequest.complete d).claims = d.claims.set key none :=
    claims_alterHardware hk
  apply onRequest_ends hc
  intro e hbooks
  have settled : e.books (key :: owed) =
      (d.books (key :: owed)).settle key number status r.complete.stamps := by
    rw [hbooks, Books.settle, books, books, ← ended]
    rfl
  have kept : Kept b (key :: owed) e := by
    rw [Kept, settled]
    exact hd.post (.settle status _ claimed)
  have none_left : e.claims = d.claims.set key none := by
    have claims := congrArg Books.claims settled
    rw [Books.settle, claims_tell] at claims
    exact claims
  apply kept.waive
  simp [none_left, List.getElem?_set]

include hc

theorem completeHardware_keeps (status : Status) :
    Act.Meets (Kept b (key :: owed)) (completeHardware key status)
      (fun _ => Kept (W := W) b owed) (fun _ => False) (Broken b) := by
  intro d hd
  unfold completeHardware
  apply Act.Ends.read
  cases hk : d.hardware[key]? with
  | none =>
    apply hd.waive
    simp [getElem?_claims, hk]
  | some r =>
    have nobody : r.claim = none → Kept b owed d := by
      intro hc
      apply hd.waive
      simp [getElem?_claims, hk, hc]
    by_cases hdone : r.completed = true
    · simp only [hdone]
      apply nobody
      simp [HardwareRequest.claim, hdone]
    · simp only [hdone]
      show Act.Ends _ _ _ (runCallback key r status (alterHardware key HardwareRequest.complete d))
      have apart : r.claim = none → Kept b owed (alterHardware key HardwareRequest.complete d) := by
        intro hc
        exact (nobody hc).of_books (books_alterHardware hk (r.claim_complete.trans hc.symm))
      cases hr : r.callback with
      | none =>
        simp only [runCallback, hr]
        exact apart (by simp [HardwareRequest.claim, hr])
      | some callback =>
        cases callback with
        | report plans =>
          have kept := apart (by simp [HardwareRequest.claim, hr])
          simp only [runCallback, hr]
          exact ((tell_keeps rfl).bind fun _ => followUp_keeps plans r.executable) _ kept
        | part number =>
          simp only [runCallback, hr]
          exact settlePart_ends hc status hd hk hr hdone

theorem finishAll_keeps (ts : List Ticket) :
    Act.Meets (Kept b (ts.map Ticket.key ++ owed)) (finishAll ts) (fun _ => Kept (W := W) b owed)
      (fun _ => False) (Broken b) := by
  induction ts with
  | nil => exact Act.Meets.value fun _ hd => hd
  | cons t rest ih => exact (completeHardware_keeps hc .ok).bind fun _ => ih

theorem cancelAll_keeps (ts : List Ticket) :
    Act.Meets (Kept b (ts.map Ticket.key ++ owed)) (cancelAll ts) (fun _ => Kept (W := W) b owed)
      (fun _ => False) (Broken b) := by
  induction ts with
  | nil => exact Act.Meets.value fun _ hd => hd
  | cons t rest ih => exact (completeHardware_keeps hc _).bind fun _ => ih

end Completion

end Ends

section Calls

variable [Watchdog W]

theorem openUp_keeps : Keeps b (openUp : Act (Site W) Unit) :=
  fun _ => perform_keeps Scheduler.openUp_releasing

variable [DoneCallbacks (RealTime (Scheduler W))] (hc : Heedful W)

include hc

theorem next_keeps : Keeps b (next : Act (Site W) _) := by
  intro owed
  apply (perform_keeps Scheduler.next_releasing).bind
  rintro ⟨handle, finished⟩
  apply (finishAll_keeps hc finished).of_unrefused.bind
  intro _
  exact Act.Meets.value fun _ hd => hd

theorem complete_keeps (h : Handle) : Keeps (W := W) b (complete h) := by
  intro owed
  apply (perform_keeps (Scheduler.progress_releasing Queue.keys_of_complete)).bind
  intro finished
  exact (finishAll_keeps hc finished).of_unrefused

theorem finishRequest_keeps : Keeps b (finishRequest : Act (Site W) Unit) := by
  intro owed
  apply (perform_keeps (Scheduler.progress_releasing Queue.keys_of_finishRequest)).bind
  intro finished
  exact (finishAll_keeps hc finished).of_unrefused

theorem endClosing_keeps (closing : Closing) :
    Act.Meets (Kept b (closing.tickets.map Ticket.key ++ owed)) (endClosing closing)
      (fun _ => Kept (W := W) b owed) (Kept b owed) (Broken b) := by
  cases closing with
  | waiting => exact Act.Meets.value fun _ hd => hd
  | closed cancelled =>
    apply (cancelAll_keeps hc cancelled).of_unrefused.bind
    intro _
    exact Act.Meets.value fun _ hd => hd

theorem close_keeps (mode : CloseMode) : Keeps (W := W) b (close mode) :=
  fun _ => (perform_keeps (Scheduler.close_releasing mode)).bind (endClosing_keeps hc)

theorem finishClose_keeps : Keeps b (finishClose : Act (Site W) Bool) :=
  fun _ => (perform_keeps Scheduler.finishClose_releasing).bind (endClosing_keeps hc)

theorem notify_keeps (key : Nat) (status : Status) :
    Keeps (W := W) b (completeHardware key status) :=
  fun _ => ((completeHardware_keeps hc status).strengthen fun _ h => h.owe key).of_unrefused

end Calls

end Driver

end TensorQueue
