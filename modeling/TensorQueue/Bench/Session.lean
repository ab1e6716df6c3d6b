import TensorQueue.Bench.Perform

/-!
# Sessions

A session is set up once and then takes operations one by one. If the queue
has called those who wait, a close ends if the hardware holds nothing any more,
and waits return if nothing is in flight. Then all that happened is reported.
-/

set_option autoImplicit false

namespace TensorQueue.Bench

namespace World

/-- A close that waits ends if no descriptor is with the hardware. -/
def endClose (w : World) : Option (Except Fault Unit) × World :=
  if w.closing && !w.hardwareBusy then
    let (outcome, w) := onDriver Driver.finishClose { w with closing := false }
    (some (outcome.map fun _ => ()), { w with outstanding := [] })
  else (none, w)

def endWaits (w : World) : Nat × World :=
  if Dispatcher.inFlight w.front then (0, w) else (w.waits, { w with waits := 0 })

/-- Those who wait look at the queue when they are called, and at no other time. -/
def wake (w : World) : Option (Except Fault Unit) × Nat × World :=
  if w.driver.called then
    let (closed, w) := w.endClose
    let (waited, w) := w.endWaits
    (closed, waited, { w with driver := { w.driver with called := false } })
  else (none, 0, w)

def queueView (w : World) : Option QueueView :=
  w.front.record.map fun record =>
    { record := record
      peek := Dispatcher.peek w.front
      cycles := Dispatcher.remainingCycles w.front
      oldest := (Dispatcher.oldest w.front).map (·.id)
      isEmpty := Dispatcher.isEmpty w.front
      level := w.front.level? }

/-- The watchdog of the bench; that of a stack is shown with its queue. -/
def dogView (w : World) : Option DogView :=
  if w.dogAlive then
    match w.dog with
    | .alarm a => some (.alarm a.phase a.cycle a.timeout a.record)
    | .escalation e => some (.escalation e.activeLevel e.levels e.record)
    | _ => none
  else none

def depthView (w : World) : Option (UInt64 × String) :=
  w.depth.map fun depth => (depth, WorkCount.record (⟨depth, ()⟩ : WorkCount Unit))

def report (verdict : Verdict Answer) (closed : Option (Except Fault Unit)) (waited : Nat)
    (w : World) : Step × World :=
  let (settings, dog) := w.dog.takeSettings
  let w := w.putDog dog
  let step : Step :=
    { verdict := verdict
      closed := closed
      waited := waited
      queue := w.queueView
      depth := w.depthView
      dog := w.dogView
      settings := settings
      callbacks := w.callbacks.reverse
      events := w.driver.log.reverse }
  (step, { w with callbacks := [], driver := { w.driver with log := [] } })

def take (op : Op) (w : World) : Step × World :=
  let (verdict, w) := perform op w
  let (closed, waited, w) := w.wake
  w.report verdict closed waited

end World

inductive DogSpec where
  | idle
  | scripted (script : Watchdog.Scripted)
  | alarm (timeout : Duration)
  | escalation (timeouts : List Duration) (failAt : Option Nat)

inductive DispatcherSpec where
  | absent
  | single
  | realTime (multiple : UInt32)
  | stack (config : Config) (ownClock : Bool)
  | rehearsed (feed : Rehearsed)

structure Setup where
  executables : List Executable
  clock : Duration
  /-- The system that the bench is on. Its clock is not seen to move. -/
  tempo : Tempo
  registers : Registers.Faulty
  dog : DogSpec
  scripts : List (List LabelledCall)
  counting : Bool
  dispatcher : DispatcherSpec
  /-- Every number that the session mentions. -/
  mentioned : List UInt64

namespace Setup

/-- A countdown that is fired by hand, unless it is the one that cannot be made. -/
def manual (failAt : Option Nat) (level : Nat) : Except Error Countdown.Source :=
  if failAt = some level then .error (.noTimer level) else .ok (.manual [])

def buildDog : DogSpec → Except Error Dog
  | .idle => .ok (.idle {})
  | .scripted script => .ok (.scripted script)
  | .alarm timeout => return .alarm (← Alarm.new timeout (.manual []))
  | .escalation timeouts failAt => return .escalation (← Escalation.new timeouts (manual failAt))

/-- What the bench drives. A stack leaves the watchdog of the bench alone. -/
def buildFront (clock : Duration) (tempo : Tempo) (dog : Dog) :
    DispatcherSpec → Except Error Front
  | .absent => .ok ⟨⟨dog, []⟩, clock, .bare, []⟩
  | .single => .ok ⟨⟨dog, []⟩, clock, .single .new, []⟩
  | .realTime multiple => .ok ⟨⟨dog, []⟩, clock, .realTime .new (.new multiple), []⟩
  | .stack config ownClock => do
    let stack ← Stack.build config clock fun _ => [tempo.now]
    let s := stack.dispatcher
    .ok ⟨⟨dog, []⟩, clock,
      .stack ⟨s.backing.queue, s.desk, s.backing.watchdog, config, ownClock⟩, []⟩
  | .rehearsed feed => .ok ⟨⟨dog, []⟩, clock, .rehearsed feed, []⟩

/-- Executables are built first, then the watchdog, then the dispatcher. -/
def build (s : Setup) : Except Error World := do
  let executables ← s.executables.mapM Executable.build
  let dog ← buildDog s.dog
  let front ← buildFront s.clock s.tempo dog s.dispatcher
  .ok
    { driver := .new front
      registers := s.registers
      tempo := s.tempo
      engine := none
      host := .new s.mentioned
      executables := executables
      requestNames := []
      partNames := []
      outstanding := []
      closing := false
      waits := 0
      depth := if s.counting then some 0 else none
      dogAlive := true
      scripts := s.scripts
      held := false
      blocked := none
      deadLevels := []
      callbacks := [] }

end Setup

end TensorQueue.Bench
