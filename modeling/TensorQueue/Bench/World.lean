import TensorQueue.Bench.Op

/-!
# The bench

A bench holds everything that a session works on. It keeps track of the
descriptors that are with the hardware, of a close that is still waiting, and
of callbacks that are held back.
-/

set_option autoImplicit false

namespace TensorQueue.Bench

structure World where
  driver : Driver Front
  registers : Registers.Faulty
  tempo : Tempo
  engine : Option Engine
  host : Host
  executables : List Executable
  requestNames : Table String Nat
  partNames : Table String Nat
  /-- The descriptors handed out and not yet completed, the oldest first. -/
  outstanding : List Handle
  /-- Whether a graceful close is waiting. -/
  closing : Bool
  /-- How many waits for the requests in flight have not returned. -/
  waits : Nat
  /-- How many units the counting watch holds, if there is one. -/
  depth : Option UInt64
  dogAlive : Bool
  /-- The calls that each coming callback makes. -/
  scripts : List (List LabelledCall)
  held : Bool
  /-- The calls of the callback that is held back. -/
  blocked : Option (List LabelledCall)
  /-- The levels whose countdown nobody waits on any more. -/
  deadLevels : List Nat
  /-- What has run on behalf of expiries, the latest first. -/
  callbacks : List CallbackEvent

namespace World

def onDriver {α : Type} (act : Act (Driver Front) α) : Act World α :=
  Act.within World.driver (fun w d => { w with driver := d }) act

def front (w : World) : Front := w.driver.dispatcher

def alterFront (f : Front → Front) (w : World) : World :=
  { w with driver := { w.driver with dispatcher := f w.driver.dispatcher } }

def onFront {α : Type} (act : Act Front α) : Act World α :=
  Act.within World.front (fun w f => w.alterFront fun _ => f) act

/-- A call on the watchdog itself, of which nobody takes note. -/
def onDog {α : Type} (act : Act Dog α) : Act World α :=
  onFront (Act.within Front.dog (fun f d => { f with dog := d }) (Watchdog.Watched.onWatchdog act))

def dog (w : World) : Dog := w.front.dog.watchdog

def putDog (d : Dog) (w : World) : World :=
  w.alterFront fun f => { f with dog := { f.dog with watchdog := d } }

def tell (event : Event) : Act World Unit := onDriver (Driver.tell event)

def hardwareBusy (w : World) : Bool := (w.front.queue?.map Queue.hasActive).getD false

/-- Whether an engine step that fails half-way leaves its descriptor to be completed by hand. -/
def tracksEngine (w : World) : Bool := w.front.assembly?.isNone

def handOut (h : Handle) (w : World) : World := { w with outstanding := w.outstanding ++ [h] }

def takeBack (h : Handle) (w : World) : World :=
  { w with outstanding := w.outstanding.filter fun o => ¬(o.task = h.task ∧ o.index = h.index) }

def onRegisters {α : Type} (act : Act Registers.Faulty α) : Act World α :=
  Act.within World.registers (fun w r => { w with registers := r }) act

instance : RegisterFile World where
  read offset := onRegisters (RegisterFile.read offset)
  write offset value := do
    match ← Act.attempt (onRegisters (RegisterFile.write offset value)) with
    | .ok () => tell (.registerWritten offset value none)
    | .error cause =>
      tell (.registerWritten offset value (some cause))
      Act.refuse cause

instance : SystemClock World where
  now w := w.tempo.now
  looks timeout w := w.tempo.pauses timeout

instance : Feed World where
  next := do
    match ← onDriver Driver.next with
    | none => return none
    | some h =>
      Act.modify fun w => if w.tracksEngine then w.handOut h else w
      return some h
  peek := onFront Front.lookAhead
  complete h := do
    onDriver (Driver.complete h)
    Act.modify (takeBack h)
  finishRequest := onDriver Driver.finishRequest
  effort w := Feed.effort w.driver

/-- An action of the engine. What the engine has counted stays counted, however it ends. -/
def onEngine {α : Type} (e : Engine) (act : Act (Engine.Attached World) α) :
    Act World (EngineReport α) := fun w =>
  let (outcome, s) := (Act.attempt act) ⟨e, w⟩
  (outcome.map (⟨·, s.engine.stats⟩), { s.world with engine := some s.engine })

/-- A nested call of a callback, with its record. -/
def callFromCallback (c : LabelledCall) (w : World) : World :=
  let (outcome, w) := onDog (Watchdog.perform c.call) w
  { w with callbacks := .called c.label outcome :: w.callbacks }

def endCallback (calls : List LabelledCall) (w : World) : World :=
  let w := calls.foldl (fun w c => w.callFromCallback c) { w with blocked := none }
  w.putDog w.dog.finishCallback

/-- Runs the callbacks that can start, at most this many. One that is held back stops those
behind it. -/
def runCallbacks : Nat → World → World
  | 0, w => w
  | more + 1, w =>
    match w.dog.beginCallback with
    | none => w
    | some ((level, cycle), dog) =>
      let calls := w.scripts.headD []
      let w := { w.putDog dog with
        scripts := w.scripts.tail
        callbacks := .expired level cycle :: w.callbacks }
      if w.held then { w with blocked := some calls }
      else runCallbacks more (w.endCallback calls)

def runAllCallbacks (w : World) : World := w.runCallbacks w.dog.waiting

def releaseCallbacks (w : World) : World :=
  let w := { w with held := false }
  match w.blocked with
  | none => w
  | some calls => (w.endCallback calls).runAllCallbacks

/-- A countdown runs out, unless nobody waits on it. -/
def expire (level : Nat) (count : UInt64) (w : World) : Answer × World :=
  if level ∈ w.deadLevels then (.dead, w)
  else
    let answer := if w.dog.takesExpiry level count then Answer.barked else .ignored
    (answer, (w.putDog (w.dog.expire level count)).runAllCallbacks)

/-- The end of the watchdog: what was held back runs first. -/
def dropDog (w : World) : World :=
  let w := w.releaseCallbacks
  { w.putDog w.dog.drop with dogAlive := false }

/-- The end of the dispatcher, if there is one. If it is open, everything is cancelled. -/
def dropDispatcher : Act World Unit := do
  let w ← Act.read
  Act.write { w with driver := w.driver.forgetPlans, engine := none }
  if (w.front.queue?.map Queue.isOpen).getD false then
    let _ ← onDriver (Driver.close .asap)
  Act.modify fun w =>
    { w.alterFront (fun f => { f with fitting := .bare }) with
      outstanding := [], closing := false, waits := 0 }

end World

end TensorQueue.Bench
