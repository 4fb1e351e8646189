import ServiceHost.Call.Service

/-!
# Health

One flag says whether the host is ready, and every way of asking for its health answers from it:
a page of its own and a method.
-/

namespace ServiceHost.Health

/-- The name of the health service. -/
def serviceName : String := "grpc.health.v1.Health"

/-- The path of the method. -/
def checkPath : String := Service.pathOf serviceName "Check"

/-- How a request for health is read; it may name a service, which changes nothing. -/
def checkShape : RecordShape String where
  name := "HealthCheckRequest"
  fields := [{ name := "service", set := fun value _ => value.asText, isRequired := false }]
  start := ""

/-- The health of the host in one word. -/
def word (ready : Bool) : String :=
  if ready then "SERVING" else "NOT_SERVING"

/-- The answer of the method. -/
def reply (ready : Bool) : Json :=
  .ofList [("status", .string (word ready))]

/-- The method. -/
def check : Handler :=
  .typed checkShape.read fun request _ => .reply (.value (reply request.ready)) []

/-- The health service. -/
def service : Service :=
  ({ name := serviceName : Service }).withMethod "Check" check

/-- The health page. -/
def page (ready : Bool) : Response :=
  Response.json (if ready then 200 else 503)
    (Utf8.encode (Json.ofList
      [("status", .string (if ready then "ok" else "unavailable"))]).write)

end ServiceHost.Health
