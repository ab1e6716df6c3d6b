import TensorQueue.Bench.Session
import TensorQueue.Main
import TensorQueue.Watchdog.Silence
import TensorQueue.Proofs.Queue.Soundness
import TensorQueue.Proofs.Queue.Preservation
import TensorQueue.Proofs.Queue.Operations
import TensorQueue.Proofs.Queue.Supervision
import TensorQueue.Proofs.Queue.Chronicle
import TensorQueue.Proofs.Queue.Reachable
import TensorQueue.Proofs.Queue.Custody
import TensorQueue.Proofs.Queue.Order
import TensorQueue.Proofs.Outcomes
import TensorQueue.Proofs.Queue.Holdings
import TensorQueue.Proofs.Driver.Bookkeeping
import TensorQueue.Proofs.Driver.Parts
import TensorQueue.Proofs.Driver.Standing
import TensorQueue.Proofs.Driver.Tally
import TensorQueue.Proofs.Driver.Safekeeping
import TensorQueue.Proofs.Driver.Engines
import TensorQueue.Proofs.Driver.Rig
import TensorQueue.Proofs.Driver.Runs
import TensorQueue.Proofs.Driver.DoneOnce
import TensorQueue.Proofs.Queue.Stillness
import TensorQueue.Proofs.Queue.Calm
import TensorQueue.Proofs.Queue.Progress
import TensorQueue.Proofs.Queue.Emptying
import TensorQueue.Proofs.Admission.Deadlines
import TensorQueue.Proofs.Admission.Runs
import TensorQueue.Proofs.Admission.Isolation
import TensorQueue.Proofs.Watchdog.Alarms
import TensorQueue.Proofs.Watchdog.Escalating
import TensorQueue.Proofs.Watchdog.Vigil
import TensorQueue.Proofs.Watchdog.Telling
import TensorQueue.Proofs.Engine.Feeding
import TensorQueue.Proofs.Engine.Works
import TensorQueue.Proofs.Engine.Drain
import TensorQueue.Proofs.Queue.Closing
import TensorQueue.Proofs.Queue.Patrol
import TensorQueue.Proofs.Watchdog.Rearming
import TensorQueue.Proofs.Queue.Absorption
import TensorQueue.Proofs.Watchdog.Attendance
import TensorQueue.Proofs.Queue.Confluence
import TensorQueue.Proofs.Admission.Bookings
import TensorQueue.Proofs.Admission.Passing
import TensorQueue.Proofs.Watchdog.Cycles
import TensorQueue.Proofs.Request.Accounting
import TensorQueue.Proofs.Queue.Handles
import TensorQueue.Proofs.Admission.Decision
import TensorQueue.Proofs.Tables
import TensorQueue.Proofs.Request.Batches
import TensorQueue.Proofs.Driver.Reckoning
import TensorQueue.Proofs.Driver.Submission
import TensorQueue.Proofs.Driver.Rejection
import TensorQueue.Proofs.Watchdog.Tracking
import TensorQueue.Proofs.Admission.Contracts
import TensorQueue.Proofs.Queue.Foresight
import TensorQueue.Proofs.Engine.Faults
import TensorQueue.Proofs.Registers.Recall
import TensorQueue.Proofs.Request.Sizes
import TensorQueue.Proofs.Watchdog.Rounds
import TensorQueue.Proofs.Text.Readings
import TensorQueue.Proofs.Config.Grammar
