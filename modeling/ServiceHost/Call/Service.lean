import ServiceHost.Binding.Rule
import ServiceHost.Call.Envelope
import ServiceHost.Json.Record

/-!
# Services

A service is a named list of methods, and each method has a handler and the rules that bind it to
HTTP.  Handlers work on JSON; a typed handler reads its request as a record first and writes its
reply last, and both can fail.
-/

namespace ServiceHost

/-- What a handler is called with. -/
structure Request where
  /-- The headers of the call. -/
  metadata : Headers := []
  message : Json
  /-- Whether the host says that it is ready. -/
  ready : Bool := false
  deriving Repr

/-- What becomes of a call. -/
inductive Outcome where
  /-- A reply and the headers that go with it. -/
  | reply (message : Json) (metadata : Headers)
  /-- The call fails. -/
  | failed (status : Status)
  /-- The handler breaks down with this message. -/
  | broken (message : String)
  deriving Repr

/-- The code behind a method. -/
abbrev Handler := Request → Outcome

/-- What a typed handler decides. -/
inductive Decision where
  | reply (payload : Payload) (metadata : Headers)
  | failed (status : Status)
  | broken (message : String)
  deriving Repr

namespace Decision

/-- A reply is written as JSON, which can fail. -/
def toOutcome : Decision → Outcome
  | .reply (.value message) metadata => .reply message metadata
  | .reply (.unwritable reason) _ =>
    .failed { code := .internal, message := "failed to encode response: " ++ reason }
  | .reply (.fatal message) _ => .broken message
  | .failed status => .failed status
  | .broken message => .broken message

end Decision

namespace Handler

/-- The answer to a request that does not fit. -/
def misfit (mismatch : Mismatch) : Status :=
  { code := .invalidArgument, message := "invalid request message: " ++ mismatch.message }

/-- A handler of requests that are read first. -/
def typed {α : Type} (read : Json → Except Mismatch α) (run : Request → α → Decision) : Handler :=
  fun request =>
    match read request.message with
    | .ok value => (run request value).toOutcome
    | .error mismatch => .failed (misfit mismatch)

/-- A handler of any request. -/
def untyped (run : Request → Decision) : Handler :=
  typed .ok fun request _ => run request

end Handler

/-- One method of a service. -/
structure Method where
  name : String
  /-- The path by which it is called. -/
  path : String
  handler : Handler
  rules : List Rule := []

/-- A named list of methods. -/
structure Service where
  name : String
  methods : List Method := []

namespace Service

/-- The path of a method. -/
def pathOf (service method : String) : String :=
  "/" ++ service ++ "/" ++ method

/-- Add a method. -/
def withMethod (service : Service) (name : String) (handler : Handler) : Service :=
  { service with
    methods := service.methods ++ [{ name, path := pathOf service.name name, handler }] }

/-- The report of a rule that has no method. -/
def strayRule (service : Service) (rule : Rule) : Event :=
  Event.warn "HTTP rule declared before any method, ignoring"
    [("service", .string service.name), ("template", .string rule.template)]

/-- Bind the method added last to HTTP; without a method the rule is reported and has no
effect. -/
def withRule (service : Service) (rule : Rule) : Service × List Event :=
  match service.methods.reverse with
  | [] => (service, [service.strayRule rule])
  | last :: earlier =>
    ({ service with
       methods := earlier.reverse ++ [{ last with rules := last.rules ++ [rule] }] }, [])

/-- Bind the method added last by several rules. -/
def withRules (service : Service) (rules : List Rule) : Service × List Event :=
  rules.foldl (fun (service, events) rule =>
    let (service, more) := service.withRule rule
    (service, events ++ more)) (service, [])

end Service

end ServiceHost
