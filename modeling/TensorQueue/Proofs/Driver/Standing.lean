import TensorQueue.Proofs.Driver.Books

/-!
# The standing of one request

Of all the books, one request depends on itself, on how many parts it has, on
what these have told and on its done callback. What any entry in the books
means for it is said once, and what it may count on follows from that: its
parts and their answers add up, and it is done exactly when the last answer
has come.
-/

set_option autoImplicit false

namespace TensorQueue

structure Standing where
  request : Option Request
  /-- How many hardware requests are a part of it. -/
  parts : Nat
  /-- What its parts have told, the latest first. -/
  answers : List Status
  /-- What its done callback was fired with, the latest first. -/
  dones : List Status

namespace Standing

def tell (f : Request → Option Status × Request) (s : Standing) : Standing :=
  match s.request with
  | none => s
  | some r => { s with request := some (f r).2, dones := (f r).1.toList ++ s.dones }

/-- What a posting means for one request. -/
inductive Posted : Standing → Standing → Prop
  | same {s} : Posted s s
  | enlisted {parts answers dones} (id : UInt64) {executable : Executable} :
      executable.Sound →
      Posted ⟨none, parts, answers, dones⟩ ⟨some (.new id executable), parts, answers, dones⟩
  | configured {r t parts answers dones} : r.phase = .initial → Books.Configured r t →
      Posted ⟨some r, parts, answers, dones⟩ ⟨some t, parts, answers, dones⟩
  | claimed {r parts answers dones} : r.phase = .prepared → r.prepared ≠ r.required →
      Posted ⟨some r, parts, answers, dones⟩
        ⟨some { r with prepared := r.prepared + 1 }, parts + 1, answers, dones⟩
  | settled {request parts answers dones} (status : Status) (stamps : Request.Stamps) :
      Posted ⟨request, parts + 1, answers, dones⟩
        (tell (fun r => r.partDone stamps status) ⟨request, parts, status :: answers, dones⟩)

/-- What a liberty means for one request. -/
inductive Taken : Standing → Standing → Prop
  | same {s} : Taken s s
  | claimed {r parts answers dones} : r.phase = .prepared → r.prepared ≠ r.required →
      Taken ⟨some r, parts, answers, dones⟩
        ⟨some { r with prepared := r.prepared + 1 }, parts + 1, answers, dones⟩
  | overclaimed {r parts answers dones} : r.phase = .prepared → r.prepared ≠ r.required →
      ¬ r.executable.Roomy →
      Taken ⟨some r, parts, answers, dones⟩ ⟨some r, parts + 1, answers, dones⟩
  | abandoned {s} (cause : Error) : Taken s (s.tell fun r => r.failUnprepared cause)

end Standing

namespace Books

variable {b c : Books} {key number other : Nat}

def parts (number : Nat) (b : Books) : Nat := b.claims.count (some number)

def answers (number : Nat) (b : Books) : List Status :=
  (b.reports.filter fun x => x.request = number).map Driver.Report.status

def dones (number : Nat) (b : Books) : List Status :=
  (b.fired.filter fun x => x.1 = number).map Prod.snd

def standing (number : Nat) (b : Books) : Standing :=
  ⟨b.requests[number]?, b.parts number, b.answers number, b.dones number⟩

theorem standing_tell (number : Nat) (f : Request → Option Status × Request) (b : Books) :
    (b.tell number f).standing number = (b.standing number).tell f := by
  unfold tell Standing.tell
  cases hr : b.requests[number]? with
  | none => simp [standing, hr]
  | some r =>
    obtain ⟨hlt, rfl⟩ := Array.getElem?_eq_some_iff.1 hr
    cases ho : (f b.requests[number]).1 <;>
      simp [standing, conclude, hlt, ho, parts, answers, dones]

theorem standing_tell_of_ne (h : other ≠ number) (f : Request → Option Status × Request)
    (b : Books) : (b.tell other f).standing number = b.standing number := by
  unfold tell
  cases hr : b.requests[other]? with
  | none => rfl
  | some r =>
    cases ho : (f r).1 <;> simp [standing, conclude, h, ho, parts, answers, dones]

theorem count_set {claims : List (Option Nat)} {old : Option Nat} (h : claims[key]? = some old)
    (new : Option Nat) (number : Nat) :
    (claims.set key new).count (some number) + (if old = some number then 1 else 0) =
      claims.count (some number) + if new = some number then 1 else 0 := by
  obtain ⟨hlt, rfl⟩ := List.getElem?_eq_some_iff.1 h
  have counted := List.count_set (a := new) (b := some number) hlt
  have positive : claims[key] = some number → 0 < claims.count (some number) := by
    intro heq
    rw [← heq]
    exact List.count_pos_iff.2 (List.getElem_mem hlt)
  by_cases hold : claims[key] = some number
  · have := positive hold
    simp only [hold, beq_self_eq_true, if_true] at counted ⊢
    by_cases hnew : new = some number
    · simp only [hnew, beq_self_eq_true, if_true] at counted ⊢
      omega
    · simp only [beq_iff_eq, hnew, if_false] at counted ⊢
      omega
  · simp only [beq_iff_eq, hold, if_false] at counted ⊢
    omega

theorem parts_claimed (h : b.claims[key]? = some none) (other number : Nat) :
    (b.claims.set key (some other)).count (some number) =
      b.parts number + if other = number then 1 else 0 := by
  have counted := count_set h (some other) number
  simpa [parts] using counted

theorem parts_settled (h : b.claims[key]? = some (some other)) (number : Nat) :
    (b.claims.set key none).count (some number) + (if other = number then 1 else 0) =
      b.parts number := by
  have counted := count_set h none number
  simpa [parts] using counted

theorem standing_enlist (b : Books) (r : Request) :
    b.standing b.requests.size = ⟨none, b.parts b.requests.size, b.answers b.requests.size,
        b.dones b.requests.size⟩ ∧
      ({ b with requests := b.requests.push r } : Books).standing b.requests.size =
        ⟨some r, b.parts b.requests.size, b.answers b.requests.size, b.dones b.requests.size⟩ := by
  constructor <;> simp [standing, parts, answers, dones]

theorem standing_enlist_of_ne (h : b.requests.size ≠ number) (r : Request) :
    ({ b with requests := b.requests.push r } : Books).standing number = b.standing number := by
  simp [standing, parts, answers, dones, Array.getElem?_push, Ne.symm h]

theorem standing_configure {r : Request} (hr : b.requests[number]? = some r) (t : Request) :
    b.standing number = ⟨some r, b.parts number, b.answers number, b.dones number⟩ ∧
      ({ b with requests := b.requests.setIfInBounds number t } : Books).standing number =
        ⟨some t, b.parts number, b.answers number, b.dones number⟩ := by
  have hlt := (Array.getElem?_eq_some_iff.1 hr).1
  constructor
  · rw [standing, hr]
  · simp [standing, parts, answers, dones, hlt]

theorem standing_configure_of_ne (h : other ≠ number) (t : Request) :
    ({ b with requests := b.requests.setIfInBounds other t } : Books).standing number =
      b.standing number := by
  simp [standing, parts, answers, dones, h]

theorem standing_claim_of_ne {r : Request} (h : other ≠ number)
    (hk : b.claims[key]? = some none) :
    (b.claim key other r).standing number = b.standing number := by
  have counted := parts_claimed hk other number
  rw [if_neg h] at counted
  simp [standing, claim, parts, answers, dones, h, counted]

theorem standing_claim {r : Request} (h : b.Claimable key number r) :
    b.standing number = ⟨some r, b.parts number, b.answers number, b.dones number⟩ ∧
      (b.claim key number r).standing number =
        ⟨some { r with prepared := r.prepared + 1 }, b.parts number + 1, b.answers number,
          b.dones number⟩ := by
  have counted := parts_claimed h.free number number
  have hlt := (Array.getElem?_eq_some_iff.1 h.request).1
  rw [if_pos rfl] at counted
  constructor
  · rw [standing, h.request]
  · simp [standing, claim, answers, dones, hlt, parts, counted]

theorem standing_overclaim {r : Request} (h : b.Claimable key number r) :
    ({ b with claims := b.claims.set key (some number) } : Books).standing number =
      ⟨some r, b.parts number + 1, b.answers number, b.dones number⟩ := by
  have counted := parts_claimed h.free number number
  rw [if_pos rfl] at counted
  simp [standing, h.request, parts, counted, answers, dones]

theorem standing_overclaim_of_ne (h : other ≠ number) (hk : b.claims[key]? = some none) :
    ({ b with claims := b.claims.set key (some other) } : Books).standing number =
      b.standing number := by
  have counted := parts_claimed hk other number
  rw [if_neg h] at counted
  simp [standing, parts, counted, answers, dones]

/-- The part that is settled is one less, and it has told. -/
theorem standing_settle (hc : b.claims[key]? = some (some number)) (status : Status)
    (stamps : Request.Stamps) :
    b.standing number = ⟨b.requests[number]?, (b.claims.set key none).count (some number) + 1,
        b.answers number, b.dones number⟩ ∧
      (b.settle key number status stamps).standing number =
        Standing.tell (fun r => r.partDone stamps status) ⟨b.requests[number]?,
          (b.claims.set key none).count (some number), status :: b.answers number,
          b.dones number⟩ := by
  have counted := parts_settled hc number
  rw [if_pos rfl] at counted
  constructor
  · rw [standing, counted]
  · rw [Books.settle, standing_tell]
    congr 1
    simp [standing, parts, answers, dones]

theorem standing_settle_of_ne (h : other ≠ number) (hc : b.claims[key]? = some (some other))
    (status : Status) (stamps : Request.Stamps) :
    (b.settle key other status stamps).standing number = b.standing number := by
  have counted := parts_settled hc number
  rw [if_neg h, Nat.add_zero, parts] at counted
  rw [Books.settle, standing_tell_of_ne h]
  simp [standing, parts, answers, dones, h, counted]

theorem Posting.posted (h : Posting b c) (number : Nat) :
    (b.standing number).Posted (c.standing number) := by
  cases h with
  | @enlist id executable sound =>
    by_cases hn : b.requests.size = number
    · subst hn
      obtain ⟨before, after⟩ := b.standing_enlist (.new id executable)
      rw [before, after]
      exact .enlisted id sound
    · rw [standing_enlist_of_ne hn]
      exact .same
  | @configure other r t hr hp ht =>
    by_cases hn : other = number
    · subst hn
      obtain ⟨before, after⟩ := standing_configure hr t
      rw [before, after]
      exact .configured hp ht
    · rw [standing_configure_of_ne hn]
      exact .same
  | make =>
    have same : ({ b with claims := b.claims ++ [none] } : Books).standing number =
        b.standing number := by
      simp [standing, parts, answers, dones]
    rw [same]
    exact .same
  | hold key => exact .same
  | release h => exact .same
  | owe key => exact .same
  | waive h hk => exact .same
  | @claim key other r hc ho =>
    by_cases hn : other = number
    · subst hn
      obtain ⟨before, after⟩ := standing_claim hc
      rw [before, after]
      exact .claimed hc.phase hc.missing
    · rw [standing_claim_of_ne hn hc.free]
      exact .same
  | @settle key other status stamps hc =>
    by_cases hn : other = number
    · subst hn
      obtain ⟨before, after⟩ := standing_settle hc status stamps
      rw [before, after]
      exact .settled status stamps
    · rw [standing_settle_of_ne hn hc]
      exact .same

/-- A liberty means nothing for other requests. -/
theorem Liberty.standing_of_ne (h : Liberty other b c) (hn : other ≠ number) :
    c.standing number = b.standing number := by
  cases h with
  | claim hc => exact standing_claim_of_ne hn hc.free
  | overclaim hc full => exact standing_overclaim_of_ne hn hc.free
  | abandon cause => exact standing_tell_of_ne hn _ b

theorem Liberty.taken (h : Liberty other b c) (number : Nat) :
    (b.standing number).Taken (c.standing number) := by
  by_cases hn : other = number
  · subst hn
    cases h with
    | claim hc =>
      obtain ⟨before, after⟩ := standing_claim hc
      rw [before, after]
      exact .claimed hc.phase hc.missing
    | overclaim hc full =>
      rw [(standing_claim hc).1, standing_overclaim hc]
      exact .overclaimed hc.phase hc.missing full
    | abandon cause =>
      rw [standing_tell]
      exact .abandoned cause
  · rw [h.standing_of_ne hn]
    exact .same

theorem Torn.taken (h : Torn b c) (number : Nat) :
    (b.standing number).Taken (c.standing number) := by
  cases h with
  | whole => exact .same
  | overclaimed hc full => exact (Liberty.overclaim hc full).taken number

end Books

end TensorQueue
