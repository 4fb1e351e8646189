import ServiceHost.Call.Server

/-!
# The call client

The gateway makes its calls over a connection, as any caller does.  Some headers belong to the
connection and are never taken from metadata.  A connection is a function from requests to
responses; one that cannot be opened fails every call.  An unknown failure of the connection makes
the server unavailable, which no status of the server itself does.
-/

namespace ServiceHost

/-- What becomes of a call as its caller sees it: the reply and its headers, or a status. -/
abbrev CallResult := Except Status (Json × Headers)

/-- A connection to a call server. -/
abbrev Connection := HttpRequest → Except Status (Response × List Report)

namespace CallClient

/-- The headers that belong to the connection. -/
def reservedNames : List String :=
  ["content-type", "content-length", "te", "host", "connection", "transfer-encoding", "keep-alive",
   "upgrade", "grpc-timeout", "grpc-encoding", "grpc-accept-encoding"]

/-- The metadata that goes with a call. -/
def carried (metadata : Headers) : Headers :=
  metadata.without reservedNames

/-- The headers that every call has. -/
def ownHeaders : Headers :=
  [⟨"te", Octets.ascii "trailers"⟩, CallServer.typeHeader]

/-- A connection to an address where nothing listens. -/
def unreachable : Connection := fun _ =>
  .error { code := .unavailable, message := "tcp connect error" }

/-- A connection to a server. -/
def direct (server : CallServer) : Connection := fun request =>
  .ok (server.serve request)

/-- The answer to a call whose path is none. -/
def badPath : Status :=
  { code := .internal, message := "invalid method path: invalid uri character" }

/-- The answer to a reply without status. -/
def noStatus : Status :=
  { code := .unknown, message := "grpc-status header missing, mapped from HTTP status code 200" }

/-- The reply that a response holds; the headers behind it are among its headers. -/
def replyOf (limit : Nat) (response : Response) : CallResult :=
  match CallServer.statusOf response with
  | none => .error noStatus
  | some status =>
    if status.code = .ok then
      (CallServer.messageOf limit response.body).map fun message =>
        (message, response.headers.replace response.trailers)
    else .error status

/-- The request that a call makes. -/
def requestOf (target : Target) (metadata : Headers) (message : Json) : HttpRequest where
  method := "POST"
  target := target
  headers := .ofList (carried metadata ++ ownHeaders)
  body := Framing.frame (CallServer.writeMessage message)

/-- How a failure of the connection itself is reported. -/
def ofConnectionFailure (status : Status) : Status :=
  if status.code = .unknown && (status.metadata.first? Status.appCodeName).isNone then
    { code := .unavailable, message := "connection error: " ++ status.message }
  else status

/-- Make one call. -/
def call (connection : Connection) (limit : Nat) (path : String) (metadata : Headers)
    (message : Json) : CallResult × List Report :=
  match Target.ofPath? none none (Utf8.ofString path) with
  | none => (.error badPath, [])
  | some target =>
    match connection (requestOf target metadata message) with
    | .error status => (.error (ofConnectionFailure status), [])
    | .ok (response, reports) => (replyOf limit response, reports)

end CallClient

end ServiceHost
