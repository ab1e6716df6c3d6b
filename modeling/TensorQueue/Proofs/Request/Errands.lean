import TensorQueue.Proofs.Request.Affairs

/-!
# Errands

An errand is one call that somebody makes on a request or on a hardware
request. The dossier of a request says how its driver was left, which hardware
requests were prepared for it, and what was heard of them and of those that
will never be. All that an errand can do is one of few entries in the account
of the request.
-/

set_option autoImplicit false

namespace TensorQueue

open Dispatcher

/-- A cancel is a completion with a failure. -/
inductive Errand where
  | newRequest (id : UInt64) (executable : Executable)
  | changeRequest (number : Nat) (change : Request.Change)
  | failUnprepared (number : Nat) (cause : Error)
  | newHardware (id : UInt64) (executable : Executable)
  | changeHardware (key : Nat) (change : HardwareRequest.Change)
  | prepareBatch (number key : Nat)
  | complete (key : Nat) (status : Status)

namespace Driver

variable {S : Type}

/-- The request is prepared and lacks parts. -/
def lacksParts (number : Nat) (d : Driver S) : Bool :=
  d.requests[number]?.any fun r => r.phase = .prepared && r.remaining ≠ 0

end Driver

namespace Errand

variable {S : Type}

/-- The hardware request that the errand prepares for the request of this number, if it can. -/
def part (number : Nat) (d : Driver S) : Errand → List Nat
  | .prepareBatch other key =>
    if other = number ∧ other < d.requests.size ∧ key < d.hardware.size then [key] else []
  | _ => []

def perform [Dispatcher S] : Errand → Act (Driver S) Unit
  | .newRequest id executable => do
    let executable ← Act.settle executable.build
    let _ ← Driver.addRequest (.new id executable)
  | .changeRequest number change => Driver.changeRequest number change.apply
  | .failUnprepared number cause => Driver.onRequest number fun r => r.failUnprepared cause
  | .newHardware id executable => do
    let _ ← Driver.addHardware (.new id executable)
  | .changeHardware key change => Act.change fun d =>
    match d.hardware[key]? with
    | none => .ok d
    | some r => (change.apply r).map fun changed => Driver.alterHardware key (fun _ => changed) d
  | .prepareBatch number key => Driver.prepareBatch number key
  | .complete key status => Driver.completeHardware key status

end Errand

structure Dossier (S : Type) where
  driver : Driver S
  /-- The hardware requests that were prepared for the request, in order. -/
  prepared : List Nat
  /-- Those for whose batch there was no room. -/
  stray : List Nat
  /-- How prepared ones ended, and why missing ones were given up, in order. -/
  tidings : List Status

namespace Dossier

variable {S : Type}

def begin (dispatcher : S) : Dossier S := ⟨.new dispatcher, [], [], []⟩

def unfinished (d : Dossier S) : List Nat := d.prepared.filter d.driver.isOpen

/-- What will be heard from this errand. -/
def news (number : Nat) (d : Dossier S) : Errand → List Status
  | .complete key status => if key ∈ d.unfinished then [status] else []
  | .failUnprepared other cause =>
    if other = number ∧ d.driver.lacksParts number then [.failed cause] else []
  | _ => []

/-- None of those for which there was no room has completed. -/
def Unspoilt (d : Dossier S) : Prop := ∀ key ∈ d.stray, d.driver.isOpen key = true

variable [Dispatcher S]

def note (number : Nat) (errand : Errand) (d : Dossier S) : Dossier S :=
  let part := errand.part number d.driver
  let (outcome, driver) := errand.perform d.driver
  { driver := driver
    prepared := if outcome.isOk then d.prepared ++ part else d.prepared
    stray := if Rig.isAbort outcome then d.stray ++ part else d.stray
    tidings := d.tidings ++ d.news number errand }

def run (number : Nat) (errands : List Errand) (d : Dossier S) : Dossier S :=
  errands.foldl (fun d errand => d.note number errand) d

end Dossier

/-- The affairs of a request, with what its dossier says. -/
structure Account extends Affairs where
  prepared : List Nat
  stray : List Nat
  tidings : List Status

namespace Account

/-- What an errand can enter. A completion is heard of if it is that of a prepared one. -/
inductive Entered : Account → Account → Prop
  | same {a} : Entered a a
  | enlisted {a} (id : UInt64) {executable : Executable} : 0 < executable.hardwareBatch →
      a.request = none → Entered a { a with request := some (.new id executable) }
  | configured {a r s} : a.request = some r → r.phase = .initial → Books.Configured r s →
      Entered a { a with request := some s }
  | abandoned {a r} (cause : Error) : a.request = some r → r.phase = .prepared → r.remaining ≠ 0 →
      Entered a { a with
        toAffairs := a.tell fun r => r.failUnprepared cause
        tidings := a.tidings ++ [.failed cause] }
  | prepared {a r key} : a.request = some r → r.phase = .prepared → r.prepared ≠ r.required →
      a.bond key = .free → Entered a { a with
        toAffairs := { a.tie key .bound with request := some { r with prepared := r.prepared + 1 } }
        prepared := a.prepared ++ [key] }
  | strayed {a r key} : a.request = some r → r.phase = .prepared → a.bond key = .free →
      Entered a { a with toAffairs := a.tie key .bound, stray := a.stray ++ [key] }
  | completed {a key} (status : Status) : a.bond key = .free → Entered a { a with
      toAffairs := a.tie key .ended
      tidings := a.tidings ++ if key ∈ a.prepared then [status] else [] }
  | settled {a key} (status : Status) (stamps : Request.Stamps) : a.bond key = .bound →
      Entered a { a with
        toAffairs := (a.tie key .ended).tell fun r => r.partDone stamps status
        tidings := a.tidings ++ if key ∈ a.prepared then [status] else [] }

end Account

namespace Dossier

open Account (Entered)

variable {S : Type} {number : Nat} {d : Dossier S}

def account (number : Nat) (d : Dossier S) : Account :=
  ⟨d.driver.affairs number, d.prepared, d.stray, d.tidings⟩

variable [Dispatcher S] {errand : Errand}

/-- An errand that prepares nothing can do no more than change the driver and be heard of. -/
theorem account_note (h : errand.part number d.driver = []) :
    (d.note number errand).account number = { d.account number with
      toAffairs := (errand.perform d.driver).2.affairs number
      tidings := d.tidings ++ d.news number errand } := by
  simp [note, account, h]

theorem account_note_of_quiet (hp : errand.part number d.driver = [])
    (hn : d.news number errand = []) : (d.note number errand).account number =
      { d.account number with toAffairs := (errand.perform d.driver).2.affairs number } := by
  rw [account_note hp, hn, List.append_nil]
  rfl

theorem Entered.of_spared (hp : errand.part number d.driver = []) (hn : d.news number errand = [])
    (h : (errand.perform d.driver).2.affairs number = d.driver.affairs number) :
    Entered (d.account number) ((d.note number errand).account number) := by
  rw [account_note_of_quiet hp hn, h]
  exact .same

theorem entered_newRequest (id : UInt64) (executable : Executable) :
    Entered (d.account number) ((d.note number (.newRequest id executable)).account number) := by
  cases hb : executable.build with
  | error cause =>
    apply Entered.of_spared rfl rfl
    simp [Errand.perform, hb, Act.settle, Act.bind_apply]
  | ok built =>
    have pushed : ((Errand.newRequest id executable).perform d.driver).2 =
        { d.driver with requests := d.driver.requests.push (.new id built) } := by
      simp [Errand.perform, hb, Act.settle, Act.bind_apply, Driver.addRequest]
    by_cases hn : number = d.driver.requests.size
    · rw [account_note_of_quiet rfl rfl, pushed]
      have enlisted := Entered.enlisted (a := d.account number) id
        (Executable.batch_pos_of_build hb) (by simp [account, Driver.affairs, hn])
      have made : ({ d.driver with requests := d.driver.requests.push (.new id built) }
          : Driver S).affairs number =
          { d.driver.affairs number with request := some (.new id built) } := by
        simp only [Driver.affairs, hn, Array.getElem?_push_size]
        rfl
      rw [made]
      exact enlisted
    · apply Entered.of_spared rfl rfl
      rw [pushed]
      simp only [Driver.affairs, Array.getElem?_push, hn, if_false]
      rfl

theorem entered_changeRequest (other : Nat) (change : Request.Change) :
    Entered (d.account number) ((d.note number (.changeRequest other change)).account number) := by
  cases hr : d.driver.requests[other]? with
  | none =>
    apply Entered.of_spared rfl rfl
    simp [Errand.perform, Driver.changeRequest, Act.change, hr]
  | some r =>
    cases hs : change.apply r with
    | error cause =>
      apply Entered.of_spared rfl rfl
      simp [Errand.perform, Driver.changeRequest, Act.change, hr, hs, bind, Except.bind]
    | ok s =>
      have changed : ((Errand.changeRequest other change).perform d.driver).2 =
          Driver.putRequest other s d.driver := by
        simp [Errand.perform, Driver.changeRequest, Act.change, hr, hs, bind, Except.bind]
      have put : (Driver.putRequest other s d.driver).affairs number = _ :=
        Driver.affairs_putRequest s (Option.isSome_of_eq_some hr)
      by_cases ho : other = number
      · subst ho
        rw [if_pos rfl] at put
        obtain ⟨hp, hc⟩ := Request.Change.configured hs
        rw [account_note_of_quiet rfl rfl, changed, put]
        exact .configured hr hp hc
      · rw [if_neg ho] at put
        apply Entered.of_spared rfl rfl
        rw [changed, put]

theorem entered_failUnprepared (other : Nat) (cause : Error) :
    Entered (d.account number) ((d.note number (.failUnprepared other cause)).account number) := by
  obtain ⟨e, he, told⟩ : ∃ e, Driver.onRequest other (fun r => r.failUnprepared cause) d.driver =
      (.ok (), e) ∧ e.affairs number = _ := Driver.affairs_onRequest _ d.driver
  have ran : ((Errand.failUnprepared other cause).perform d.driver).2 = e := congrArg Prod.snd he
  by_cases ho : other = number
  · subst ho
    rw [if_pos rfl] at told
    cases hl : d.driver.lacksParts other with
    | true =>
      obtain ⟨r, hr, lacks⟩ := (Option.any_eq_true _ _).1 hl
      simp only [ne_eq, Bool.and_eq_true, decide_eq_true_eq] at lacks
      have heard : d.news other (.failUnprepared other cause) = [.failed cause] := by
        simp [news, hl]
      rw [account_note rfl, ran, told, heard]
      exact .abandoned cause hr lacks.1 (by simpa using lacks.2)
    | false =>
      apply Entered.of_spared rfl (by simp [news, hl])
      rw [ran, told]
      apply Affairs.tell_of_same
      intro r hr
      have complete : ¬(r.phase = .prepared ∧ r.remaining ≠ 0) := by
        have hr : d.driver.requests[other]? = some r := hr
        simpa [Driver.lacksParts, hr] using hl
      simp only [Request.failUnprepared, if_neg complete]
  · apply Entered.of_spared rfl (by simp [news, ho])
    rw [ran, told, if_neg ho]

theorem entered_changeHardware (key : Nat) (change : HardwareRequest.Change) :
    Entered (d.account number) ((d.note number (.changeHardware key change)).account number) := by
  apply Entered.of_spared rfl rfl
  simp only [Errand.perform, Act.change]
  cases hr : d.driver.hardware[key]? with
  | none => rfl
  | some r =>
    cases hs : change.apply r with
    | error cause => simp [hs, Except.map]
    | ok s =>
      simp only [hs, Except.map]
      exact Driver.affairs_alterHardware_self hr (HardwareRequest.Change.bond_apply hs)

omit [Dispatcher S] in
/-- The affairs of a request of which a part was claimed, with or without room for its batch. -/
theorem affairs_claimed {other key : Nat} {r q : Request} {part claimed : HardwareRequest}
    (hr : d.driver.requests[other]? = some r) (hk : d.driver.hardware[key]? = some part)
    (hp : part.bond number = .free) (hc : claimed.claim = some other) :
    (Driver.alterHardware key (fun _ => claimed) (Driver.putRequest other q d.driver)).affairs
        number = if other = number then
          { (d.driver.affairs number).tie key .bound with request := some q }
        else d.driver.affairs number := by
  have put : (Driver.putRequest other q d.driver).affairs number = _ :=
    Driver.affairs_putRequest q (Option.isSome_of_eq_some hr)
  have there : (Driver.putRequest other q d.driver).hardware[key]? = some part := hk
  by_cases ho : other = number
  · subst ho
    rw [Driver.affairs_alterHardware there, put, HardwareRequest.bond_of_claim hc]
    simp only [↓reduceIte]
    rfl
  · rw [if_neg ho] at put ⊢
    rw [← put]
    apply Driver.affairs_alterHardware_self there
    rw [hp, HardwareRequest.bond_of_claim hc, if_neg ho]

omit [Dispatcher S] in
/-- Neither the request nor the hardware request has changed. -/
theorem affairs_unclaimed {other key : Nat} {r : Request} {part : HardwareRequest}
    (hr : d.driver.requests[other]? = some r) (hk : d.driver.hardware[key]? = some part) :
    (Driver.alterHardware key (fun _ => part) (Driver.putRequest other r d.driver)).affairs number =
      d.driver.affairs number := by
  have there : (Driver.putRequest other r d.driver).hardware[key]? = some part := hk
  rw [Driver.affairs_alterHardware_self there rfl, Driver.putRequest, Books.setRequest_self hr]

theorem account_prepareBatch {other key : Nat} {r : Request} {part : HardwareRequest}
    (hr : d.driver.requests[other]? = some r) (hk : d.driver.hardware[key]? = some part) :
    let out := Request.prepareBatch other (r, part)
    (d.note number (.prepareBatch other key)).account number =
      { toAffairs := (Driver.alterHardware key (fun _ => out.2.2)
          (Driver.putRequest other out.2.1 d.driver)).affairs number
        prepared := if out.1.isOk then d.prepared ++ if other = number then [key] else []
          else d.prepared
        stray := if Rig.isAbort out.1 then d.stray ++ if other = number then [key] else []
          else d.stray
        tidings := d.tidings } := by
  intro out
  have hlt := (Array.getElem?_eq_some_iff.1 hr).1
  have klt := (Array.getElem?_eq_some_iff.1 hk).1
  have candidate : (Errand.prepareBatch other key).part number d.driver =
      if other = number then [key] else [] := by
    simp [Errand.part, hlt, klt]
  have ran : (Errand.prepareBatch other key).perform d.driver = (out.1,
      Driver.alterHardware key (fun _ => out.2.2) (Driver.putRequest other out.2.1 d.driver)) := by
    simp [Errand.perform, Driver.prepareBatch, hr, hk, out]
  simp [note, account, candidate, ran, news]

theorem entered_prepareBatch (other key : Nat) :
    Entered (d.account number) ((d.note number (.prepareBatch other key)).account number) := by
  cases hr : d.driver.requests[other]? with
  | none =>
    have absent := Array.getElem?_eq_none_iff.1 hr
    apply Entered.of_spared (by simp [Errand.part]; omega) rfl
    simp [Errand.perform, Driver.prepareBatch, hr]
  | some r =>
    cases hk : d.driver.hardware[key]? with
    | none =>
      have absent := Array.getElem?_eq_none_iff.1 hk
      apply Entered.of_spared (by simp [Errand.part]; omega) rfl
      simp [Errand.perform, Driver.prepareBatch, hr, hk]
    | some part =>
      have own : d.driver.bond number key = part.bond number := by simp [Driver.bond, hk]
      have free : (∀ cause, (Request.prepareBatch other (r, part)).1 ≠ .error (.refusal cause)) →
          part.bond number = .free := by
        intro h
        obtain ⟨hopen, hnone⟩ := Request.free_of_prepareBatch h
        exact HardwareRequest.bond_eq_free hopen hnone
      rw [account_prepareBatch hr hk]
      rcases Request.prepareBatch_cases other r part with
        ⟨hp, hm, -, claimed, hc, h | ⟨-, cause, h⟩⟩ | ⟨-, cause, h⟩
      · have free := free (by rw [h]; simp)
        simp only [h, affairs_claimed hr hk free hc]
        by_cases ho : other = number
        · subst ho
          simp only [↓reduceIte]
          exact .prepared (a := d.account other) hr hp hm (own.trans free)
        · simp only [ho, if_false, List.append_nil, ite_self]
          exact .same
      · have free := free (by rw [h]; simp)
        simp only [h, affairs_claimed hr hk free hc]
        by_cases ho : other = number
        · subst ho
          simp only [↓reduceIte]
          have itself : { (d.driver.affairs other).tie key .bound with request := some r } =
              (d.driver.affairs other).tie key .bound := by
            rw [← hr]
            rfl
          rw [itself]
          exact .strayed (a := d.account other) hr hp (own.trans free)
        · simp only [ho, if_false, List.append_nil, ite_self]
          exact .same
      · simp only [h, affairs_unclaimed hr hk]
        exact .same

theorem entered_complete (key : Nat) (status : Status) :
    Entered (d.account number) ((d.note number (.complete key status)).account number) := by
  rcases Driver.completeHardware_cases number key status d.driver with ⟨shut, h⟩ | ⟨first, h⟩
  · apply Entered.of_spared rfl
    · simp [news, unfinished, shut]
    · exact congrArg (Driver.affairs number) h
  · have heard : d.news number (.complete key status) =
        if key ∈ (d.account number).prepared then [status] else [] := by
      by_cases hk : key ∈ d.prepared <;> simp [news, unfinished, first, account, hk]
    rw [account_note rfl, heard]
    rcases h with ⟨free, h⟩ | ⟨bound, stamps, h⟩
    · rw [show (Errand.perform (.complete key status) d.driver).2.affairs number = _ from h]
      exact .completed status free
    · rw [show (Errand.perform (.complete key status) d.driver).2.affairs number = _ from h]
      exact .settled status stamps bound

/-- Whatever the errand and however it ends, one entry says what it does. -/
theorem entered_note (number : Nat) (errand : Errand) (d : Dossier S) :
    Entered (d.account number) ((d.note number errand).account number) := by
  cases errand with
  | newRequest id executable => exact entered_newRequest id executable
  | changeRequest other change => exact entered_changeRequest other change
  | failUnprepared other cause => exact entered_failUnprepared other cause
  | newHardware id executable =>
    apply Entered.of_spared rfl rfl
    exact Driver.affairs_addHardware (HardwareRequest.bond_eq_free rfl rfl) d.driver
  | changeHardware key change => exact entered_changeHardware key change
  | prepareBatch other key => exact entered_prepareBatch other key
  | complete key status => exact entered_complete key status

end Dossier

end TensorQueue
