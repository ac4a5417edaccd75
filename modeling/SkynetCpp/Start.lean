import Mathlib.Logic.Function.Basic
import SkynetCpp.Foundation.Run
import SkynetCpp.Socket

namespace SkynetCpp.Start

open Foundation

/-!
# The threads of a node

`Start` runs a timer thread, a socket thread and workers, which share a
`MonitorThread`: a mutex, a condition variable and the flags that go with them.
An access to a shared field, an operation on the mutex or on the condition
variable, and a call of another module is one step.  What the other modules
answer comes from outside.

The monitor thread only reads, and `SIGHUP` only reaches the logger; neither is
part of the model.
-/

/-- The threads that share `MonitorThread`; there are `thread` workers. -/
inductive ThreadName (thread : Nat) where
  | timer
  | socket
  | worker (id : Fin thread)
  deriving Repr, DecidableEq

/-- Where `ThreadWorker` stands; the comments name what comes next. -/
inductive WorkerAt where
  /-- The test of `quit` in the loop. -/
  | loop (message_queue : Option Nat)
  /-- `MessageDispatch`. -/
  | dispatch (message_queue : Option Nat)
  /-- Locking the mutex. -/
  | lock
  /-- `++m->sleep`. -/
  | asleep
  /-- The test of `quit` before waiting. -/
  | test
  /-- `cond_var.wait`: the predicate, under the lock. -/
  | predicate
  /-- `cond_var.wait`: waiting to be notified, and for the lock. -/
  | waiting
  /-- `--m->sleep`. -/
  | awake
  /-- Unlocking the mutex. -/
  | unlock
  | returned
  deriving Repr, DecidableEq

/-- Where `ThreadTimer` stands; the comments name what comes next. -/
inductive TimerAt where
  /-- `Updatetime` and `SocketUpdatetime`. -/
  | update
  /-- The test of `ContextTotal`. -/
  | total
  /-- `WakeUp`: the test of `sleep`. -/
  | wakeUp
  /-- `WakeUp`: `notify_all`. -/
  | notify
  /-- `SocketExit`. -/
  | exit
  /-- Locking the mutex. -/
  | lock
  /-- `m->quit = 1`. -/
  | quit
  /-- The last `notify_all`. -/
  | notifyAll
  /-- Unlocking the mutex. -/
  | unlock
  | returned
  deriving Repr, DecidableEq

/-- Where `ThreadSocket` stands; the comments name what comes next. -/
inductive SocketAt where
  /-- `SocketPoll`. -/
  | poll
  /-- The test of `ContextTotal`. -/
  | total
  /-- `WakeUp`: the test of `sleep`. -/
  | wakeUp
  /-- `WakeUp`: `notify_all`. -/
  | notify
  /-- The loop was left, because `SocketPoll` returned 0 or for `ContextTotal`. -/
  | returned (exited : Bool)
  deriving Repr, DecidableEq

/--
What the threads share, and where they stand.  The last three fields record the
run: which workers were notified since they began to wait, whether `SocketExit`
or `SocketServer::Exit` sent an exit request, and whether a method of the
socket server was called after its destruction.
-/
structure State (thread : Nat) where
  count : Int
  thread_unlock : Bool
  sleep : Int
  quit : Int
  mutex : Option (ThreadName thread)
  /-- The workers that wait and that the condition variable has notified. -/
  notified : Fin thread → Bool
  /-- `ContextTotal`. -/
  contextTotal : Nat
  /-- Whether the socket server was destroyed. -/
  destroyed : Bool
  worker : Fin thread → WorkerAt
  timer : TimerAt
  socket : SocketAt
  noticed : Fin thread → Bool
  exitRequest : Bool
  usedAfterDestruction : Bool

/-- The state in which `Start` leaves its threads to run. -/
def initial (thread contextTotal : Nat) : State thread where
  count := thread
  thread_unlock := false
  sleep := 0
  quit := 0
  mutex := none
  notified := fun _ => false
  contextTotal := contextTotal
  destroyed := false
  worker := fun _ => .loop none
  timer := .update
  socket := .poll
  noticed := fun _ => false
  exitRequest := false
  usedAfterDestruction := false

/-- What the other modules answer. -/
structure Answer where
  /-- What `MessageDispatch` returns. -/
  message_queue : Option Nat
  /-- Whether a service that runs calls the socket server. -/
  callsSocket : Bool
  /-- What `Poll` returns. -/
  report : Report
  /-- What `Poll` leaves in `more`. -/
  more : Bool
  deriving Repr, DecidableEq

/-- What happens next. -/
inductive Move (thread : Nat) where
  /-- A thread takes a step. -/
  | step (name : ThreadName thread) (answer : Answer)
  /-- Services are launched or end. -/
  | services (contextTotal : Nat)
  deriving Repr, DecidableEq

variable {thread : Nat}

namespace State

/-- `lock` of the mutex. -/
def lock
    (s : State thread)
    (name : ThreadName thread) : Option (State thread) :=
  if s.mutex = none then some { s with mutex := some name } else none

/-- `unlock` of the mutex. -/
def unlock (s : State thread) : State thread :=
  { s with mutex := none }

/-- `notify_all` of the condition variable. -/
def notifyAll (s : State thread) : State thread :=
  { s with
    notified := fun id => s.notified id || s.worker id = .waiting
    noticed := fun id => s.noticed id || s.worker id = .waiting }

/-- A call of a method of the socket server. -/
def callSocket (s : State thread) : State thread :=
  { s with usedAfterDestruction := s.usedAfterDestruction || s.destroyed }

/-- The test of `WakeUp`. -/
def wakes
    (s : State thread)
    (busy : Int) : Bool :=
  s.count - busy ≤ s.sleep

/-- Move a worker. -/
def workerTo
    (s : State thread)
    (id : Fin thread)
    (place : WorkerAt) : State thread :=
  { s with worker := Function.update s.worker id place }

end State

/-- `SocketExit`, which is meant to send an exit request. -/
def socketExit (s : State thread) : State thread :=
  { s.callSocket with destroyed := true }

/-- `SocketPoll` on what `Poll` returns. -/
def socketPoll
    (report : Report)
    (more : Bool) : Int :=
  match report with
  | .kSocketExit => 0
  | .kSocketRst | .kSocketMore => -1
  | _ => if more then -1 else 1

/-- `ThreadWorker`. -/
def threadWorker
    (s : State thread)
    (id : Fin thread)
    (answer : Answer) : Option (State thread) :=
  match s.worker id with
  | .loop message_queue =>
      some
        (s.workerTo id
          (if s.quit ≠ 0 then .returned else .dispatch message_queue))
  | .dispatch _ =>
      let s := if answer.callsSocket then s.callSocket else s
      some
        (s.workerTo id
          (if answer.message_queue.isSome then .loop answer.message_queue
            else .lock))
  | .lock => (s.lock (.worker id)).map (·.workerTo id .asleep)
  | .asleep => some ({ s with sleep := s.sleep + 1 }.workerTo id .test)
  | .test =>
      if s.quit = 0 then
        some
          ({ s with noticed := Function.update s.noticed id false }.workerTo
            id .predicate)
      else
        some (s.workerTo id .awake)
  | .predicate =>
      if s.thread_unlock then
        some (s.workerTo id .awake)
      else
        some
          ({ s with
              notified := Function.update s.notified id false }.unlock.workerTo
            id .waiting)
  | .waiting =>
      if s.notified id then
        (s.lock (.worker id)).map (·.workerTo id .predicate)
      else
        none
  | .awake => some ({ s with sleep := s.sleep - 1 }.workerTo id .unlock)
  | .unlock => some (s.unlock.workerTo id (.loop none))
  | .returned => none

/-- `ThreadTimer`. -/
def threadTimer (s : State thread) : Option (State thread) :=
  match s.timer with
  | .update => some { s.callSocket with timer := .total }
  | .total =>
      some
        { s with timer := if s.contextTotal = 0 then .exit else .wakeUp }
  | .wakeUp =>
      some
        { s with
          timer := if s.wakes (s.count - 1) then .notify else .update }
  | .notify => some { s.notifyAll with timer := .update }
  | .exit => some { socketExit s with timer := .lock }
  | .lock => (s.lock .timer).map ({ · with timer := .quit })
  | .quit => some { s with quit := 1, timer := .notifyAll }
  | .notifyAll => some { s.notifyAll with timer := .unlock }
  | .unlock => some { s.unlock with timer := .returned }
  | .returned => none

/--
`ThreadSocket`.  As long as the server is there, `Poll` returns `kSocketExit`
only for an exit request.
-/
def threadSocket
    (s : State thread)
    (answer : Answer) : Option (State thread) :=
  match s.socket with
  | .poll =>
      if answer.report = .kSocketExit ∧ !s.exitRequest ∧ !s.destroyed then
        none
      else
        let r := socketPoll answer.report answer.more
        some
          { s.callSocket with
            socket :=
              if r = 0 then .returned true
              else if r < 0 then .total
              else .wakeUp }
  | .total =>
      some
        { s with
          socket := if s.contextTotal = 0 then .returned false else .poll }
  | .wakeUp =>
      some { s with socket := if s.wakes 0 then .notify else .poll }
  | .notify => some { s.notifyAll with socket := .poll }
  | .returned _ => none

/-- One step of one thread. -/
def stepOf
    (s : State thread)
    (name : ThreadName thread)
    (answer : Answer) : Option (State thread) :=
  match name with
  | .timer => threadTimer s
  | .socket => threadSocket s answer
  | .worker id => threadWorker s id answer

/-- What happens next to the node. -/
def next?
    (s : State thread) : Move thread → Option (State thread)
  | .step name answer => stepOf s name answer
  | .services contextTotal => some { s with contextTotal := contextTotal }

end SkynetCpp.Start
