import ServiceHost.Log

/-!
# Stopping modules

Every module is told to stop, in the order of registration, and holds a guard until it has
cleaned up.  The calls follow each other, and each can take time of its own.  The host then waits for
all guards until a deadline.  A module that fails to stop has released its guard all the same; one
that breaks down takes the whole procedure with it.
-/

namespace ServiceHost

/-- How a module cleans up once it was told to stop. -/
inductive Cleanup where
  /-- It is done before it returns. -/
  | atOnce
  /-- A task of its own cleans up and takes some milliseconds. -/
  | task (duration : Nat)
  /-- A task of its own breaks down. -/
  | brokenTask
  /-- A task of its own waits for the deadline or the cancellation of everything. -/
  | untilDone
  /-- It never finishes. -/
  | never
  deriving DecidableEq, Repr

/-- How the call that tells a module to stop ends. -/
inductive StopOutcome where
  | returned
  | failed (error : String)
  | broken (message : String)
  deriving DecidableEq, Repr

/-- How a module stops. -/
structure StopPlan where
  name : String
  /-- How long it takes to tell it, in milliseconds. -/
  callTime : Nat := 0
  cleanup : Cleanup := .atOnce
  outcome : StopOutcome := .returned
  deriving DecidableEq, Repr

/-- What modules are told when they have to stop. -/
structure StopContext where
  /-- When they are told, in milliseconds. -/
  start : Nat := 0
  deadline : Nat
  /-- When everything is cancelled, if it is. -/
  cancelAt : Option Nat := none
  deriving DecidableEq, Repr

namespace StopContext

/-- Whether the time to clean up is over. -/
def isDone (context : StopContext) (now : Nat) : Bool :=
  context.deadline ≤ now || context.cancelAt.any (· ≤ now)

/-- Whether everything is cancelled. -/
def isCancelled (context : StopContext) (now : Nat) : Bool :=
  context.cancelAt.any (· ≤ now)

/-- Whether the cancellation comes before the deadline. -/
def cancelComesFirst (context : StopContext) : Bool :=
  context.cancelAt.any (· < context.deadline)

/-- When the time to clean up is over for whoever asks from a moment on. -/
def doneAt (context : StopContext) (now : Nat) : Nat :=
  max now (min context.deadline (context.cancelAt.getD context.deadline))

end StopContext

/-- What happens while modules stop. -/
inductive StopEvent where
  /-- A module is told to stop. -/
  | told (module : String)
  /-- The task of a module has cleaned up. -/
  | cleaned (module : String)
  /-- The task of a module has waited for the end. -/
  | waited (module : String)
  deriving DecidableEq, Repr

/-- How the procedure ends. -/
inductive StopResult where
  | allStopped
  /-- Some guards were still held at the deadline. -/
  | late (pending : Nat)
  | broken (message : String)
  deriving DecidableEq, Repr

/-- The procedure as it went. -/
structure StopRun where
  result : StopResult
  /-- When it ended. -/
  ended : Nat
  trace : List (Nat × StopEvent)
  events : List Event
  deriving Repr

namespace StopPlan

/-- The report of a module that fails to stop. -/
def failure? (plan : StopPlan) : Option Event :=
  match plan.outcome with
  | .failed error =>
    some (Event.warn "Module stop failed"
      [("module", .string plan.name), ("error", .string error)])
  | _ => none

/-- The message of a module that breaks down. -/
def breakdown? (plan : StopPlan) : Option String :=
  match plan.outcome with
  | .broken message => some message
  | _ => none

end StopPlan

/-- A module that is told to stop, and when. -/
structure StopCall where
  toldAt : Nat
  plan : StopPlan
  deriving DecidableEq, Repr

namespace StopCall

/-- When the call has ended. -/
def endedAt (call : StopCall) : Nat :=
  call.toldAt + call.plan.callTime

/-- When the guard is released, if the module does not release it at once. -/
def releaseTime? (context : StopContext) (call : StopCall) : Option Nat :=
  match call.plan.cleanup with
  | .atOnce | .never => none
  | .task duration => some (call.toldAt + duration)
  | .brokenTask => some call.toldAt
  | .untilDone => some (context.doneAt call.toldAt)

/-- Whether the guard is still held at a moment after the call. -/
def isHeldAt (context : StopContext) (moment : Nat) (call : StopCall) : Bool :=
  match call.plan.cleanup with
  | .atOnce => false
  | _ => (call.releaseTime? context).all (moment ≤ ·)

/-- What the task of a module shows, with its place among the events of one moment: a task that
the cancellation wakes comes after those that the clock wakes. -/
def taskEvent? (context : StopContext) (call : StopCall) : Option ((Nat × Nat) × StopEvent) :=
  match call.plan.cleanup with
  | .task duration => some ((call.toldAt + duration, 0), .cleaned call.plan.name)
  | .untilDone =>
    let doneAt := context.doneAt call.toldAt
    let woken := context.cancelComesFirst && call.toldAt < doneAt
    some ((doneAt, if woken then 1 else 0), .waited call.plan.name)
  | _ => none

end StopCall

namespace StopRun

/-- The report of modules that are late. -/
def lateness (pending : Nat) : Event :=
  Event.warn "Modules did not finish stopping before the deadline" [("pending", .nat pending)]

/-- The calls from a moment on: to all modules, or to those up to the first that breaks down. -/
def callsFrom (now : Nat) : List StopPlan → List StopCall
  | [] => []
  | plan :: rest =>
    ⟨now, plan⟩ ::
      if plan.breakdown?.isSome then [] else callsFrom (now + plan.callTime) rest

/-- When the last of the calls has ended. -/
def callsEnd (start : Nat) (calls : List StopCall) : Nat :=
  (calls.getLast?.map (·.endedAt)).getD start

/-- The events of telling modules to stop. -/
def tellings (calls : List StopCall) : List (Nat × StopEvent) :=
  calls.map fun call => (call.toldAt, .told call.plan.name)

/-- The events of tasks up to a moment, in the order in which they come up. -/
def taskTrace (context : StopContext) (calls : List StopCall) (limit : Nat) :
    List (Nat × StopEvent) :=
  let events := calls.filterMap (·.taskEvent? context)
  let inOrder := events.mergeSort fun a b => a.1.1 < b.1.1 || (a.1.1 == b.1.1 && a.1.2 ≤ b.1.2)
  (inOrder.filter fun e => e.1.1 ≤ limit).map fun e => (e.1.1, e.2)

/-- When the last guard is released, from a moment on. -/
def lastRelease (context : StopContext) (now : Nat) (calls : List StopCall) : Nat :=
  (calls.filterMap (·.releaseTime? context)).foldl max now

/-- Stop modules.  What their tasks show stands behind the calls. -/
def run (context : StopContext) (plans : List StopPlan) : StopRun :=
  let calls := callsFrom context.start plans
  let called := callsEnd context.start calls
  let failures := calls.filterMap (·.plan.failure?)
  match calls.findSome? (·.plan.breakdown?) with
  | some message =>
    { result := .broken message, ended := called, trace := tellings calls, events := failures }
  | none =>
    let limit := max called context.deadline
    let pending := calls.countP (·.isHeldAt context limit)
    if pending = 0 then
      let ended := lastRelease context called calls
      { result := .allStopped, ended
        trace := tellings calls ++ taskTrace context calls ended, events := failures }
    else
      { result := .late pending, ended := limit
        trace := tellings calls ++ taskTrace context calls limit
        events := failures ++ [lateness pending] }

end StopRun

end ServiceHost
