import ServiceHost.Call.Status
import ServiceHost.Http.Response
import ServiceHost.Log

/-!
# Envelopes

The gateway answers a call with one JSON object: its data on success, or the code, message and
details of its status.  A reply that cannot be written is answered with an empty body and
reported.
-/

namespace ServiceHost

/-- Something to be written as JSON, which may turn out to be impossible. -/
inductive Payload where
  /-- A value. -/
  | value (value : Json)
  /-- Writing it fails for this reason. -/
  | unwritable (reason : String)
  /-- Writing it ends the task at hand with this message. -/
  | fatal (message : String)
  deriving Repr, Inhabited

namespace Envelope

/-- The text of a successful answer. -/
def successText (data : Json) : List Char :=
  "\x7b\"data\":".toList ++ data.write ++ ['}']

/-- The text of a failed answer: the code as the service sent it, the message, the details. -/
def errorText (status : Status) : List Char :=
  "\x7b\"code\":".toList ++ intText status.rawCode.toInt ++ ",\"message\":".toList ++
    Json.stringText status.message ++ ",\"error\":".toList ++
    (Json.array status.jsonDetails).write ++ ['}']

/-- The answer to a call that succeeded with a value. -/
def success (data : Json) : Response :=
  Response.json 200 (Utf8.encode (successText data))

/-- The answer to a call that succeeded with something to be written, and what is reported. -/
def ofPayload : Payload → Response × List Event
  | .value data => (success data, [])
  | .unwritable reason | .fatal reason =>
    (Response.json 200 [],
      [Event.error "Failed to serialize gateway response" [("error", .string reason)]])

/-- The answer to a call that failed. -/
def failure (status : Status) : Response :=
  Response.json status.httpStatus (Utf8.encode (errorText status))

end Envelope

end ServiceHost
