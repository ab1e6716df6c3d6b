import TensorQueue.Config.Basic
import TensorQueue.Text.Blank
import TensorQueue.Text.Fields

/-!
# Configuration from the environment

Variables replace single settings of the standard configuration. White space
around a value does not matter, and neither does the case of a word. The first
variable that cannot be read is the one that is reported.
-/

set_option autoImplicit false

namespace TensorQueue.Config

namespace Variable

def levels : String := "TPU_WATCHDOG_TIMEOUT_MS"
def timer : String := "TPU_WATCHDOG_TIMER"
def realTime : String := "TPU_REALTIME"
def pollTimeout : String := "TPU_REGISTER_POLL_TIMEOUT_MS"

end Variable

/-- The text as a word: trimmed, its ASCII letters in lower case. -/
def word (raw : List Char) : String := String.ofList ((Text.trim raw).map Char.toLower)

/-- A number of milliseconds in a 64-bit word. -/
def readMillis (key : String) (raw : List Char) : Except Error Duration :=
  match Text.readUnsigned UInt64.size (Text.trim raw) with
  | .ok n => .ok (.ofMillis n)
  | .error cause => .error (.badNumber key (String.ofList raw) cause)

/-- One number for each field between commas. -/
def readLevels (raw : List Char) : Except Error (List Duration) :=
  (Text.fields ',' raw).mapM (readMillis Variable.levels)

def trueWords : List String := ["1", "true", "yes", "on"]

def falseWords : List String := ["0", "false", "no", "off"]

def readFlag (key : String) (raw : List Char) : Except Error Bool :=
  if word raw ∈ trueWords then .ok true
  else if word raw ∈ falseWords then .ok false
  else .error (.badFlag key (String.ofList raw))

def readTimer (raw : List Char) : Except Error Countdown.Backend :=
  if word raw = Countdown.Backend.condvar.text then .ok .condvar
  else if word raw = Countdown.Backend.timerfd.text then .ok .timerfd
  else .error (.badTimerName Variable.timer (String.ofList raw))

/-- The value that a variable gives, or the standing one if the variable is not set. -/
def override {α : Type} (environment : String → Option String) (key : String) (standing : α)
    (readValue : List Char → Except Error α) : Except Error α :=
  match environment key with
  | none => .ok standing
  | some raw => readValue raw.toList

def ofEnvironment (environment : String → Option String) : Except Error Config := do
  let levels ← override environment Variable.levels standard.levels readLevels
  let timer ← override environment Variable.timer standard.timer readTimer
  let realTime ← override environment Variable.realTime standard.realTime
    (readFlag Variable.realTime)
  let pollTimeout ← override environment Variable.pollTimeout standard.pollTimeout
    (readMillis Variable.pollTimeout)
  let c : Config := { standard with levels, timer, realTime, pollTimeout }
  c.check
  .ok c

end TensorQueue.Config
