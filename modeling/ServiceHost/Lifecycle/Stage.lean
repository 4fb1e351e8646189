/-!
# Stages

The stages that a module goes through.  All modules finish a stage of the startup before any
enters the next.
-/

namespace ServiceHost

/-- A stage. -/
inductive Stage where
  | preInit
  | init
  | postInit
  | load
  | start
  | stop
  deriving DecidableEq, Repr

namespace Stage

/-- The stages of the startup, in order. -/
def startup : List Stage := [preInit, init, postInit, load, start]

/-- The name of a stage. -/
def name : Stage → String
  | preInit => "pre_init"
  | init => "init"
  | postInit => "post_init"
  | load => "load"
  | start => "start"
  | stop => "stop"

end Stage

end ServiceHost
