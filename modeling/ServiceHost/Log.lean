import ServiceHost.Json.Basic

/-!
# Log events

What the host reports about itself, in the order in which it happens.
-/

namespace ServiceHost

/-- How grave an event is. -/
inductive Level where
  | trace
  | debug
  | info
  | warn
  | error
  deriving DecidableEq, Repr

/-- The name of a level. -/
def Level.name : Level → String
  | .trace => "TRACE"
  | .debug => "DEBUG"
  | .info => "INFO"
  | .warn => "WARN"
  | .error => "ERROR"

/-- Whether events of this level tell of something that went wrong. -/
def Level.isGrave : Level → Bool
  | .warn | .error => true
  | _ => false

/-- One event: its level, its message, and what it is about. -/
structure Event where
  level : Level
  message : String
  fields : Json.Members := []
  deriving Repr

namespace Event

/-- A warning. -/
def warn (message : String) (fields : List (String × Json)) : Event :=
  { level := .warn, message, fields := Json.Members.ofList fields }

/-- An error. -/
def error (message : String) (fields : List (String × Json)) : Event :=
  { level := .error, message, fields := Json.Members.ofList fields }

/-- A detail for diagnosis. -/
def debug (message : String) (fields : List (String × Json)) : Event :=
  { level := .debug, message, fields := Json.Members.ofList fields }

end Event

end ServiceHost
