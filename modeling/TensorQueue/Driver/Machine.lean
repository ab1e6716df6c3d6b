import TensorQueue.Driver.Basic

/-!
# Machines

A driver, the registers of its device and the system that they are on:
everything that an engine needs to work.
-/

set_option autoImplicit false

namespace TensorQueue

structure Machine (S R : Type) where
  driver : Driver S
  registers : R
  tempo : Tempo

namespace Machine

variable {S R : Type}

def onDriver {α : Type} (act : Act (Driver S) α) : Act (Machine S R) α :=
  Act.within Machine.driver (fun m d => { m with driver := d }) act

def onRegisters {α : Type} (act : Act R α) : Act (Machine S R) α :=
  Act.within Machine.registers (fun m r => { m with registers := r }) act

instance [RegisterFile R] : RegisterFile (Machine S R) where
  read offset := onRegisters (RegisterFile.read offset)
  write offset value := onRegisters (RegisterFile.write offset value)

instance : SystemClock (Machine S R) where
  now m := m.tempo.now
  looks timeout m := m.tempo.pauses timeout

instance [Dispatcher S] [DoneCallbacks S] : Feed (Machine S R) where
  next := onDriver Feed.next
  peek := onDriver Feed.peek
  complete h := onDriver (Feed.complete h)
  finishRequest := onDriver Feed.finishRequest
  effort m := Feed.effort m.driver

end Machine

end TensorQueue
