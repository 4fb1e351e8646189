import ServiceHost.Binding.Message
import ServiceHost.Binding.Table
import ServiceHost.Call.Client
import ServiceHost.Gateway.Forwarding
import ServiceHost.Services.Health

/-!
# The gateway

A request is matched against the rules of all services, its parts are put together to one
message, and the answer of the call is put into an envelope.  The health of the host can be asked
for under a path of its own.
-/

namespace ServiceHost

/-- The gateway. -/
structure Gateway where
  table : RoutingTable := {}
  forwarding : Forwarding := {}
  /-- Whether the gateway answers for the health of the host. -/
  healthz : Bool := true
  /-- The longest request body. -/
  maxBodyBytes : Nat
  deriving Repr

namespace Gateway

/-- The gateway that settings describe, and what is reported about them. -/
def ofSettings (settings : GatewaySettings) (maxBodyBytes : Nat) : Gateway × List Event :=
  let (forwarding, events) := Forwarding.ofSettings settings
  ({ forwarding, healthz := settings.healthz, maxBodyBytes }, events)

/-- Add rules of one method; those before the first bad one stay. -/
def addRules (path : String) (table : RoutingTable) : List Rule → RoutingTable × Option TemplateError
  | [] => (table, none)
  | rule :: rest =>
    match table.add path rule with
    | .ok table => addRules path table rest
    | .error e => (table, some e)

/-- Add the rules of methods; those before the first bad one stay. -/
def addMethods (table : RoutingTable) : List Method → RoutingTable × Option TemplateError
  | [] => (table, none)
  | method :: rest =>
    match addRules method.path table method.rules with
    | (table, none) => addMethods table rest
    | (table, some e) => (table, some e)

/-- Add all rules of a service. -/
def add (gateway : Gateway) (service : Service) : Gateway × Option TemplateError :=
  let (table, error) := addMethods gateway.table service.methods
  ({ gateway with table }, error)

/-- Making a call: its path, metadata and message. -/
abbrev Caller := String → Headers → Json → CallResult × List Report

/-- The answer to a path that no rule has. -/
def notFound : Status := { code := .notFound, message := "Not Found" }

/-- The answer to a path that rules have for other methods. -/
def methodNotAllowed : Status := { code := .unimplemented, message := "Method Not Allowed" }

/-- The answer to a body that is too long. -/
def longBody : Status :=
  { code := .invalidArgument, message := "failed to read request body: length limit exceeded" }

/-- The answer of a host that is not ready. -/
def notServing : Status := { code := .unavailable, message := "service not serving" }

/-- The envelope of a reply, with the headers that cross. -/
def replyResponse (gateway : Gateway) (message : Json) (metadata : Headers) : Response :=
  let response := Envelope.success message
  { response with headers := response.headers.replace (gateway.forwarding.responseHeaders metadata) }

/-- Answer a request that a rule matches. -/
def forward (gateway : Gateway) (call : Caller) (route : Route) (params : List (String × String))
    (request : HttpRequest) : Response × List Report :=
  if gateway.maxBodyBytes < request.body.length then (Envelope.failure longBody, [])
  else
    match Message.build route.body request.body params request.target.query with
    | .error refusal => (Envelope.failure refusal.status, [])
    | .ok message =>
      match call route.target (gateway.forwarding.metadata request.headers) message with
      | (.ok (reply, metadata), reports) => (gateway.replyResponse reply metadata, reports)
      | (.error status, reports) => (Envelope.failure status, reports)

/-- Answer for the health of the host. -/
def health (call : Caller) : Response × List Report :=
  match call Health.checkPath [] (.ofList [("service", .string "")]) with
  | (.ok (reply, _), reports) =>
    (match reply.get? "status" with
     | some (.string word) =>
       if word = Health.word true then Envelope.success reply else Envelope.failure notServing
     | _ => Envelope.failure notServing, reports)
  | (.error status, reports) => (Envelope.failure status, reports)

/-- Answer a request by the rules. -/
def route (gateway : Gateway) (call : Caller) (request : HttpRequest) : Response × List Report :=
  match gateway.table.lookup request.method request.target.path with
  | .notFound => (Envelope.failure notFound, [])
  | .methodNotAllowed => (Envelope.failure methodNotAllowed, [])
  | .found route params => gateway.forward call route params request

/-- Whether a request asks for the health of the host. -/
def asksForHealth (gateway : Gateway) (request : HttpRequest) : Bool :=
  gateway.healthz && request.target.path == "/healthz" && request.method == "GET"

/-- Answer a request whose target is relative to the gateway.  Every answer but that for the
health of the host is counted. -/
def serve (gateway : Gateway) (call : Caller) (request : HttpRequest) : Response × List Report :=
  if gateway.asksForHealth request then health call
  else
    let (response, reports) := gateway.route call request
    (response, reports ++ [.sample (.gatewayCall response.status)])

end Gateway

end ServiceHost
