import ServiceHost.Call.Service

/-!
# Ping

A service for checking that calls arrive, with one method that succeeds and one that fails.
-/

namespace ServiceHost.Ping

/-- The name of the service. -/
def serviceName : String := "ping.v1.PingService"

/-- The code of a failure that names no other. -/
def defaultCode : Int32 := 10001

/-- What is sent back for an empty message. -/
def defaultMessage : String := "pong"

/-- What a failure says. -/
def failureMessage : String := "ping failed"

/-- How a ping is read: it may have a message. -/
def pingShape : RecordShape String where
  name := "PingRequest"
  fields := [{ name := "message", set := fun value _ => value.asText, isRequired := false }]
  start := ""

/-- Answer with the message of a ping. -/
def ping : Handler :=
  .typed pingShape.read fun _ message =>
    .reply (.value (.ofList
      [("message", .string (if message.isEmpty then defaultMessage else message))])) []

/-- How a request for a failure is read: it may have a code, as text. -/
def failShape : RecordShape String where
  name := "PingErrRequest"
  fields := [{ name := "code", set := fun value _ => value.asText, isRequired := false }]
  start := ""

/-- The code that a text asks for: a number of 32 bits other than zero. -/
def codeOf (text : String) : Int32 :=
  match parseInt32? text.toList with
  | some code => if code = 0 then defaultCode else code
  | none => defaultCode

/-- Fail with the code of the request. -/
def fail : Handler :=
  .typed failShape.read fun _ code => .failed (.ofCode (codeOf code) failureMessage)

/-- The service, with its rules. -/
def service : Service where
  name := serviceName
  methods :=
    [{ name := "Ping", path := Service.pathOf serviceName "Ping", handler := ping
       rules := [{ method := "POST", template := "/v1/ping", body := .all }] },
     { name := "PingErr", path := Service.pathOf serviceName "PingErr", handler := fail
       rules := [{ method := "GET", template := "/v1/ping/err", body := .none }] }]

end ServiceHost.Ping
