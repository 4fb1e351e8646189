import ServiceHost.Lifecycle.Stage
import ServiceHost.Log

/-!
# Startup

The stages of the startup run one after the other, each over all modules in the order of their
registration.  The first failure ends the startup; what was done before stays done.
-/

namespace ServiceHost

/-- How modules behave: what they are called, and what entering a stage does to a module and to
the context that all modules share. -/
structure StageBehaviour (μ κ : Type) where
  name : μ → String
  /-- The module and the context after the stage, and why it failed if it did. -/
  enter : Stage → μ → κ → μ × κ × Option String

/-- A failed startup. -/
structure StartupError where
  module : String
  stage : Stage
  source : String
  deriving DecidableEq, Repr

/-- The reason in words. -/
def StartupError.message (e : StartupError) : String :=
  "module '" ++ e.module ++ "' failed during " ++ e.stage.name ++ ": " ++ e.source

/-- The report of a failed startup. -/
def StartupError.event (e : StartupError) : Event :=
  Event.error "Lifecycle stage failed"
    [("module", .string e.module), ("stage", .string e.stage.name), ("error", .string e.source)]

/-- A startup under way or over: the modules and the context as they are now, the calls made so
far, as stages and positions of modules, and the failure if there was one. -/
structure Startup (μ κ : Type) where
  modules : List μ
  context : κ
  calls : List (Stage × Nat) := []
  failure : Option StartupError := none

namespace Startup

variable {μ κ : Type}

/-- Let modules enter a stage one after the other; `done` of them have entered it before. -/
def enterAll (behaviour : StageBehaviour μ κ) (stage : Stage) (done : List μ) :
    List μ → κ → List (Stage × Nat) → Startup μ κ
  | [], context, calls => { modules := done, context, calls }
  | module :: rest, context, calls =>
    let calls := calls ++ [(stage, done.length)]
    match behaviour.enter stage module context with
    | (module, context, none) =>
      enterAll behaviour stage (done ++ [module]) rest context calls
    | (module, context, some source) =>
      { modules := done ++ module :: rest, context, calls
        failure := some { module := behaviour.name module, stage, source } }

/-- Run stages one after the other. -/
def runStages (behaviour : StageBehaviour μ κ) : List Stage → Startup μ κ → Startup μ κ
  | [], s => s
  | stage :: rest, s =>
    match s.failure with
    | some _ => s
    | none => runStages behaviour rest (enterAll behaviour stage [] s.modules s.context s.calls)

/-- Run the startup. -/
def run (behaviour : StageBehaviour μ κ) (modules : List μ) (context : κ) : Startup μ κ :=
  runStages behaviour Stage.startup { modules, context }

end Startup

end ServiceHost
