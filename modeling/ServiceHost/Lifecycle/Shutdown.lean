import ServiceHost.Clock
import ServiceHost.Lifecycle.Stop

/-!
# Shutdown

A host goes down in a fixed order: it is no longer ready, metrics end, the last log records are
sent, requests are finished, modules stop, and everything else is cancelled.  A step that fails
is reported, and the next one follows.  Requests and modules share one deadline; one that the clock
cannot count to breaks the shutdown down.
-/

namespace ServiceHost

/-- How a part of the host closes: how long it takes, and why it fails if it does. -/
structure Closing where
  duration : Nat := 0
  failure : Option String := none
  deriving DecidableEq, Repr

/-- A closing that is waited for during a limited time and then given up.  What is over when it is
asked for is seen even if there is no time left. -/
def Closing.within (limit : Nat) (lateness : String) (closing : Closing) : Closing :=
  if closing.duration < limit ∨ closing.duration = 0 then closing
  else { duration := limit, failure := some lateness }

/-- The closing of a log shipper: its worker sends what is left, and has a time of its own for that. -/
def Closing.ofShipper (limit : Nat) (worker : Closing) : Closing :=
  worker.within limit "timed out flushing logs"

/-- What is to be shut down. -/
structure ShutdownPlan where
  /-- When the shutdown starts, in milliseconds. -/
  start : Nat := 0
  logShipper : Option Closing := none
  /-- The end of all requests; it is waited for until the deadline. -/
  httpServer : Option Closing := none
  hasMetrics : Bool := false
  modules : List StopPlan := []
  deriving DecidableEq, Repr

/-- What the shutdown managed to do. -/
structure ShutdownReport where
  httpGraceful : Bool
  modulesStopped : Bool
  logShipperClosed : Bool
  deriving DecidableEq, Repr

/-- One step of the shutdown. -/
inductive ShutdownStep where
  | notReady
  | metricsEnded
  | shipperClosed
  | requestsFinished
  /-- A module is told to stop. -/
  | told (module : String)
  | rootTriggered
  deriving DecidableEq, Repr

/-- The shutdown as it went. -/
structure ShutdownRun where
  /-- None if a module or the deadline broke down, which ends the shutdown. -/
  report : Option ShutdownReport
  steps : List ShutdownStep
  ended : Nat
  trace : List (Nat × StopEvent)
  events : List Event
  deriving Repr

/-- When the last log records are sent; the time of the shutdown counts from then. -/
def ShutdownPlan.recordsSentAt (plan : ShutdownPlan) : Nat :=
  plan.start + (plan.logShipper.map (·.duration)).getD 0

namespace ShutdownRun

/-- What a drain that takes too long says. -/
def drainTimeout : String := "in-flight requests still running at the deadline"

/-- The end of all requests by a deadline, from a moment on. -/
def drain (start deadline : Nat) (closing : Closing) : Closing :=
  closing.within (deadline - start) drainTimeout

/-- The report of a part that failed to close. -/
def closeFailure (message : String) (closing : Option Closing) : List Event :=
  ((closing.bind (·.failure)).map fun error => Event.warn message [("error", .string error)]).toList

/-- Whether a part has closed; one that is not there has. -/
def isClosed (closing : Option Closing) : Bool :=
  closing.all fun c => c.failure.isNone

/-- The modules among stop events that were told to stop. -/
def toldModules (trace : List (Nat × StopEvent)) : List ShutdownStep :=
  trace.filterMap fun
    | (_, .told module) => some (.told module)
    | _ => none

/-- The steps before the deadline is set. -/
def earlySteps (plan : ShutdownPlan) : List ShutdownStep :=
  [.notReady] ++ (if plan.hasMetrics then [.metricsEnded] else []) ++
    (if plan.logShipper.isSome then [.shipperClosed] else [])

/-- What is reported before the deadline is set. -/
def earlyEvents (plan : ShutdownPlan) : List Event :=
  closeFailure "Log shipping client close failed" plan.logShipper

/-- What modules are told when the requests are finished. -/
def stopContext (plan : ShutdownPlan) (deadline : Nat) (cancelAt : Option Nat) : StopContext :=
  let server := plan.httpServer.map (drain plan.recordsSentAt deadline)
  { start := plan.recordsSentAt + (server.map (·.duration)).getD 0, deadline, cancelAt }

/-- The shutdown with its deadline. -/
def runUntil (plan : ShutdownPlan) (deadline : Nat) (cancelAt : Option Nat) : ShutdownRun :=
  let server := plan.httpServer.map (drain plan.recordsSentAt deadline)
  let stop := StopRun.run (stopContext plan deadline cancelAt) plan.modules
  let steps := earlySteps plan ++ (if plan.httpServer.isSome then [.requestsFinished] else []) ++
    toldModules stop.trace
  let events := earlyEvents plan ++ closeFailure "Server forced to shutdown" server ++ stop.events
  match stop.result with
  | .broken _ => { report := none, steps, ended := stop.ended, trace := stop.trace, events }
  | result =>
    { report := some
        { httpGraceful := isClosed server
          modulesStopped := result == .allStopped
          logShipperClosed := isClosed plan.logShipper }
      steps := steps ++ [.rootTriggered], ended := stop.ended, trace := stop.trace, events }

/-- Shut a host down within a time. -/
def run (plan : ShutdownPlan) (timeout : Nat) (cancelAt : Option Nat) : ShutdownRun :=
  let deadline := plan.recordsSentAt + timeout
  if Clock.reaches deadline then runUntil plan deadline cancelAt
  else
    { report := none, steps := earlySteps plan, ended := plan.recordsSentAt, trace := []
      events := earlyEvents plan }

end ShutdownRun

end ServiceHost
