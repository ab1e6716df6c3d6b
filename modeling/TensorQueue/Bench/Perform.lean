import TensorQueue.Bench.World

/-!
# Performing operations

How each operation of a session is carried out on the bench. An operation that
makes no sense leaves the bench as it was.
-/

set_option autoImplicit false

namespace TensorQueue.Bench

open Dispatcher

/-- An operation on the bench, which may also make no sense there. -/
abbrev Move := World → Verdict Answer × World

namespace Move

def misuse (m : Misuse) : Move := fun w => (.misused m, w)

def reply (a : Answer) : Move := fun w => (.answered a, w)

def ofAct (act : Act World Answer) : Move := fun w =>
  match act w with
  | (.ok a, w) => (.answered a, w)
  | (.error fault, w) => (.faulted fault, w)

def run (act : Act World Unit) : Move := ofAct do
  act
  return .done

/-- Something of the bench that is needed for the operation. -/
def need {α : Type} (find : World → Option α) (m : Misuse) (move : α → Move) : Move := fun w =>
  match find w with
  | some a => move a w
  | none => (.misused m, w)

def when (condition : World → Bool) (m : Misuse) (move : Move) : Move := fun w =>
  if condition w then move w else (.misused m, w)

end Move

open Move

namespace World

def hasDispatcher (w : World) : Bool :=
  match w.front.fitting with
  | .bare => false
  | _ => true

def executable? (w : World) (index : Nat) : Option Executable := w.executables[index]?

def request? (w : World) (name : String) : Option (Nat × Request) := do
  let number ← w.requestNames.get? name
  let r ← w.driver.requests[number]?
  return (number, r)

def part? (w : World) (name : String) : Option (Nat × HardwareRequest) := do
  let key ← w.partNames.get? name
  let r ← w.driver.hardware[key]?
  return (key, r)

end World

def dispatching (act : Act (Driver Front) Answer) : Move :=
  when World.hasDispatcher .noDispatcher (ofAct (World.onDriver act))

/-- A request after something was done to it. -/
def afterCall (name : String) (act : Nat → Act World Unit) : Move :=
  need (·.request? name) (.unknownName name) fun (number, r) => ofAct do
    let outcome ← Act.attempt (act number)
    let w ← Act.read
    return .called outcome (w.driver.requests[number]?.getD r)

def callRequest (name : String) (f : Request → Except Error Request) : Move :=
  afterCall name fun number => World.onDriver (Driver.changeRequest number f)

def showRequest (name : String) : Move :=
  need (·.request? name) (.unknownName name) fun (_, r) => reply (.request r)

def showPart (name : String) : Move :=
  need (·.part? name) (.unknownName name) fun (_, r) => reply (.part r)

def reserveBytes (size : Nat) : Act World Unit := Capacity.reserve size 1

/-- The buffer that is asked for; a new one each time for new data. -/
def takeBuffer (spec : BufferSpec) : Act World Buffer := do
  reserveBytes spec.newBytes
  let w ← Act.read
  match w.host.buffer spec with
  | some (b, host) =>
    Act.write { w with host := host }
    return b
  | none => return .padding 0

def hasData (spec : BufferSpec) (w : World) : Bool := (w.host.buffer spec).isSome

/-- Adds buffers to a layer, up to the first that is refused. -/
def addBuffers (number : Nat) (direction : Direction) (layer : String) (spec : BufferSpec) :
    Nat → Act World Unit
  | 0 => return ()
  | more + 1 => do
    let b ← takeBuffer spec
    World.onDriver (Driver.changeRequest number fun r => r.addBuffer direction layer b)
    addBuffers number direction layer spec more

/-- Everything was cancelled, so the hardware holds nothing of the queue any more. -/
def forgetOutstanding : Act World Unit := Act.modify fun w => { w with outstanding := [] }

/-- A graceful close waits for the descriptors that are with the hardware. One that nobody could
end, because none of them is outstanding here, is not begun. -/
def close (mode : CloseMode) : Move := fun w =>
  if !w.hasDispatcher then misuse .noDispatcher w
  else if mode = .graceful ∧ w.closing then misuse .closePending w
  else if mode = .graceful ∧ w.hardwareBusy ∧ w.outstanding.isEmpty then misuse .closeWouldBlock w
  else
    ofAct (do
      if ← World.onDriver (Driver.close mode) then
        forgetOutstanding
        return .done
      else
        Act.modify fun w => { w with closing := true }
        return .pending) w

def wait : Move := fun w =>
  if !w.hasDispatcher then misuse .noDispatcher w
  else if Dispatcher.inFlight w.front then (.answered .pending, { w with waits := w.waits + 1 })
  else (.answered .done, w)

def submit (s : Submission) : Move :=
  need (·.executable? s.executable) (.unknownExecutable s.executable) fun executable =>
    dispatching do
      let key ← Driver.addHardware (.ofPlan s.plan s.plans executable)
      Driver.submitHardware key
      return .done

def submitPart (name : String) : Move :=
  need (·.part? name) (.unknownName name) fun (key, _) => dispatching do
    Driver.submitHardware key
    return .done

def next : Move :=
  when World.hasDispatcher .noDispatcher (ofAct do
    match ← World.onDriver Driver.next with
    | none => return .nothing
    | some h =>
      Act.modify (World.handOut h)
      return .handle h)

def completeHandle (h : Handle) : Act World Answer := do
  let outcome ← Act.attempt (World.onDriver (Driver.complete h))
  if outcome.isOk then Act.modify (World.takeBack h)
  return .completion h.task h.index outcome

/-- The position counts around the descriptors that are outstanding. -/
def complete (nth : Nat) : Move :=
  when World.hasDispatcher .noDispatcher (ofAct do
    let w ← Act.read
    match w.outstanding[nth % w.outstanding.length]? with
    | none => return .none
    | some h => completeHandle h)

def forged (task : UInt64) (index : Nat) : Handle := ⟨task, index, .marker .instruction⟩

def completeAt (task : UInt64) (index : Nat) : Move :=
  when World.hasDispatcher .noDispatcher (ofAct (completeHandle (forged task index)))

def onDesk (move : Desk → Move) : Move := need (·.front.desk?) .noDesk move

def putDesk (desk : Desk) : Act World Unit := Act.modify (·.alterFront (Front.putDesk desk))

def setRealTime (on : Bool) : Move := onDesk fun desk => ofAct do
  putDesk { desk with enabled := on }
  return .mode desk.enabled on (Dispatcher.isEmpty (← Act.read).front)

def changeDesk (f : Desk → Except Error Desk) : Move := onDesk fun desk => run do
  putDesk (← Act.settle (f desk))

def askDesk {α : Type} (f : Desk → Except Error α) (answer : α → Answer) : Move :=
  onDesk fun desk => ofAct do
    return answer (← Act.settle (f desk))

/-- The bench's clock is the one that the desk looks at. -/
def moveClock (m : Clock.Move) : Move := ofAct do
  return .time (← World.onFront
    (Act.within (fun f => ⟨f.clock⟩) (fun f c => { f with clock := c.now }) (Clock.move m)))

def callDog (call : Watchdog.Call) : Move :=
  when (·.dogAlive) .noDog (ofAct do
    match ← World.onDog (Watchdog.perform call) with
    | some cycle => return .number cycle
    | none => return .done)

def setTimeoutAt (level : Nat) (timeout : Duration) : Move :=
  when (·.dogAlive) .noDog fun w =>
    match w.dog with
    | .escalation e =>
      let (outcome, e) := Escalation.setTimeoutAt level timeout e
      run (fun w => (outcome, w)) (w.putDog (.escalation e))
    | _ => misuse .notACascade w

def expire (level : Nat) (count : UInt64) : Move :=
  when (·.dogAlive) .noDog fun w =>
    let (answer, w) := w.expire level count
    (.answered answer, w)

/-- Waiting fails once, and then nobody waits any more. -/
def failWait (level : Nat) : Move :=
  when (·.dogAlive) .noDog fun w =>
    if level ∈ w.deadLevels then (.answered .dead, w)
    else (.answered .ignored, { w with deadLevels := level :: w.deadLevels })

def dropDog : Move :=
  when (·.dogAlive) .noDog
    (when (fun w => !w.hasDispatcher && w.depth.isNone) .watchdogInUse
      (run (Act.modify World.dropDog)))

/-- A step of the counting watch. Its calls on the watchdog are told afterwards. -/
def count (act : Act (WorkCount (Watchdog.Watched Dog)) Unit) : Move :=
  need (·.depth) .noCount fun depth => run (Act.closing
    (fun w =>
      let (outcome, s) := act ⟨depth, w.front.dog⟩
      (outcome, { w.alterFront (fun f => { f with dog := s.watchdog }) with
        depth := some s.depth }))
    (fun w => { w with driver := w.driver.collect }))

def dropCount : Move :=
  need (·.depth) .noCount fun _ => run (Act.modify fun w => { w with depth := none })

/-- On a stack the poll timeout is the configured one. -/
def engineConfig (w : World) (e : Engine.Config) : Engine.Config :=
  match w.front.assembly? with
  | some a => Stack.engineConfig a.config e
  | none => e

/-- A new engine. If it cannot be started, the one before it stays. -/
def engine (config : Engine.Config) : Move :=
  when World.hasDispatcher .noDispatcher (ofAct do
    let w ← Act.read
    let e ← Engine.start (engineConfig w config)
    Act.modify fun w => { w with engine := some e }
    return .text e.record)

def step : Move := need (·.engine) .noEngine fun e => ofAct do
  return .stepped (← World.onEngine e Engine.step)

def runEngine : Move := need (·.engine) .noEngine fun e => ofAct do
  return .ran (← World.onEngine e Engine.runUntilIdle)

/-- A bench never waits without a bound. What is there already needs no timeout; what is not is
waited for as long as the timeout. -/
def pollUnbounded (offset value : UInt64) (timeout : Duration) : Move := fun w =>
  if w.registers.holds offset value then run (Registers.pollFor offset value .zero 0) w
  else run (Registers.poll offset value timeout) w

def newRequest (name : String) (id : UInt64) (index : Nat) : Move :=
  need (·.executable? index) (.unknownExecutable index) fun executable => ofAct do
    let r := Request.new id executable
    let number ← World.onDriver (Driver.addRequest r)
    Act.modify fun w => { w with requestNames := w.requestNames.put name number }
    return .request r

def newPart (name : String) (id : UInt64) (index : Nat) : Move :=
  need (·.executable? index) (.unknownExecutable index) fun executable => ofAct do
    let r := HardwareRequest.new id executable
    let key ← World.onDriver (Driver.addHardware r)
    Act.modify fun w => { w with partNames := w.partNames.put name key }
    return .part r

def failUnprepared (name : String) (cause : Error) : Move :=
  need (·.request? name) (.unknownName name) fun (number, r) => ofAct do
    World.onDriver (Driver.onRequest number fun r => r.failUnprepared cause)
    let w ← Act.read
    return .request (w.driver.requests[number]?.getD r)

def prepareBatch (request part : String) : Move :=
  need (·.request? request) (.unknownName request) fun (number, r) =>
    need (·.part? part) (.unknownName part) fun (key, p) => ofAct do
      let outcome ← Act.attempt (World.onDriver (Driver.prepareBatch number key))
      let w ← Act.read
      return .bothCalled outcome (w.driver.requests[number]?.getD r)
        (w.driver.hardware[key]?.getD p)

def submitRequest (name : String) : Move :=
  when (·.front.assembly?.isSome) .noStack
    (need (·.request? name) (.unknownName name) fun (number, r) => ofAct do
      let outcome ← Act.attempt (World.onDriver (Driver.submitRequest number))
      let w ← Act.read
      return .counted outcome (w.driver.requests[number]?.getD r))

/-- A hardware request after something was done to it. -/
def afterPart (name : String) (act : Nat → Act World Unit) : Move :=
  need (·.part? name) (.unknownName name) fun (key, r) => ofAct do
    act key
    let w ← Act.read
    return .part (w.driver.hardware[key]?.getD r)

def alterPart (name : String) (f : HardwareRequest → HardwareRequest) : Move :=
  afterPart name fun key => World.onDriver (Act.modify (Driver.alterHardware key f))

def setReport (name : String) : Move :=
  need (·.part? name) (.unknownName name) fun (key, r) => fun w =>
    match r.setCallback (.report []) with
    | .error cause => (.answered (.partCalled (.error cause) r), w)
    | .ok claimed =>
      ofAct (do
        World.onDriver (Act.modify (Driver.alterHardware key fun _ => claimed))
        return .partCalled (.ok ()) claimed) w

def setBuffers (name : String) (direction : Direction) (layer : String)
    (specs : List BufferSpec) : Move :=
  need (·.host.buffers specs) .noSuchData fun (buffers, host) => afterPart name fun key => do
    specs.forM fun spec => reserveBytes spec.newBytes
    Act.modify fun w => { w with host := host }
    World.onDriver (Act.modify
      (Driver.alterHardware key fun r => r.setBuffers direction layer buffers))

def notify (name : String) (notice : Notice) : Move :=
  match notice with
  | .submission => alterPart name HardwareRequest.markSubmitted
  | .active => alterPart name HardwareRequest.markActive
  | .cancel =>
    need (·.part? name) (.unknownName name) fun (_, r) =>
      afterPart name fun key => World.onDriver (Driver.cancelHardware key r.id)
  | .complete status =>
    afterPart name fun key => World.onDriver (Driver.completeHardware key status)

def showStack : Move :=
  need (·.front.assembly?) .noStack fun a w =>
    let record := Stack.record a.config a.watchdog.record (w.front.record.getD "")
    reply (.texts a.config.record record) w

def perform : Op → Move
  | .openUp => dispatching do
    Driver.openUp
    return .done
  | .submit submission => submit submission
  | .submitPart part => submitPart part
  | .next => next
  | .complete nth => complete nth
  | .completeAt task index => completeAt task index
  | .finishRequest => dispatching do
    Driver.finishRequest
    return .done
  | .close mode => close mode
  | .wait => wait
  | .dropDispatcher => run World.dropDispatcher
  | .setRealTime on => setRealTime on
  | .setContract executable update => changeDesk (Desk.setContract executable update)
  | .getContract executable => askDesk (·.contract executable) .contract
  | .removeContract executable => changeDesk (Desk.removeContract executable)
  | .lastArrival executable => askDesk (·.lastArrival executable) .time
  | .moveClock m => moveClock m
  | .callDog call => callDog call
  | .setTimeoutAt level timeout => setTimeoutAt level timeout
  | .expire level count => expire level count
  | .failWait level => failWait level
  | .hold => fun w => (.answered .done, { w with held := true })
  | .release => run (Act.modify World.releaseCallbacks)
  | .refuseSettings level count =>
    run (Act.modify fun w => w.putDog (w.dog.refuseSettings level count))
  | .dropDog => dropDog
  | .increment => count WorkCount.increment
  | .decrement => count WorkCount.decrement
  | .dropCount => dropCount
  | .read offset => ofAct do return .address (← RegisterFile.read offset)
  | .read32 offset => ofAct do return .number (← Registers.read32 offset).toUInt64
  | .write offset value => run (RegisterFile.write offset value)
  | .write32 offset value => run (Registers.write32 offset value)
  | .poll offset value timeout => run (Registers.poll offset value timeout)
  | .pollUnbounded offset value timeout => pollUnbounded offset value timeout
  | .engine config => engine config
  | .step => step
  | .run => runEngine
  | .makeBuffer name size =>
    run do
      reserveBytes size.toNat
      Act.modify fun w => { w with host := w.host.allocate name size }
  | .showBuffer spec => when (hasData spec) .noSuchData (ofAct do
    return .buffer (← takeBuffer spec))
  | .newRequest name id index => newRequest name id index
  | .addBuffers request direction layer spec times =>
    when (hasData spec) .noSuchData
      (afterCall request fun number => addBuffers number direction layer spec times)
  | .setPriority request priority => callRequest request (·.setPriority priority)
  | .setDone request => callRequest request Request.setDone
  | .prepare request => callRequest request Request.prepare
  | .failUnprepared request cause => failUnprepared request cause
  | .showRequest request => showRequest request
  | .prepareBatch request part => prepareBatch request part
  | .submitRequest request => submitRequest request
  | .newPart name id index => newPart name id index
  | .setReport part => setReport part
  | .setBuffers part direction layer specs => setBuffers part direction layer specs
  | .setDescriptors part descriptors =>
    alterPart part fun r => { r with source := .explicit descriptors }
  | .notify part notice => notify part notice
  | .showPart part => showPart part
  | .showStack => showStack

end TensorQueue.Bench
