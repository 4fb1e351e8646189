import ServiceHost.Decimal.Integer
import ServiceHost.Json.Writer

/-!
# Metrics

What the host counts.  Every sample belongs to a series, which a name and labels identify; a
series shows how often its sample was taken.  Open sessions are the exception: they are one
gauge, which goes up and down.
-/

namespace ServiceHost

/-- One thing that is counted. -/
inductive Sample where
  /-- A connection was accepted; its class is a protocol or its rejection. -/
  | connection (kind : String)
  /-- An HTTP request was answered. -/
  | httpRequest (method : String) (status : Nat)
  /-- A call was answered. -/
  | call (path : String) (code : Int32)
  /-- The gateway answered a request. -/
  | gatewayCall (status : Nat)
  | sessionOpened
  | sessionClosed
  deriving DecidableEq, Repr

namespace Metrics

/-- A label value between quotes.  A backslash is doubled unless it is one of a pair or stands
before a quote, a quote gets one, and a line feed is written as a letter. -/
def labelText (pending : Bool) : List Char → List Char
  | [] => if pending then ['\\', '\\'] else []
  | '\n' :: rest => '\\' :: 'n' :: labelText pending rest
  | '"' :: rest => '\\' :: '"' :: labelText false rest
  | '\\' :: rest =>
    if pending then '\\' :: '\\' :: labelText false rest else labelText true rest
  | c :: rest =>
    if pending then '\\' :: '\\' :: c :: labelText false rest else c :: labelText false rest

/-- A label: its name and its value in quotes. -/
def label (name value : String) : String :=
  name ++ "=\"" ++ String.ofList (labelText false value.toList) ++ "\""

/-- A series: its name and its labels in braces. -/
def series (name : String) (labels : List (String × String)) : String :=
  name ++ "\x7b" ++ ",".intercalate (labels.map fun l => label l.1 l.2) ++ "\x7d"

/-- The labels of an answered HTTP request. -/
def httpLabels (method : String) (status : Nat) : List (String × String) :=
  [("method", method), ("status", String.ofList (natText status))]

/-- The series that count a sample. -/
def countedBy : Sample → List String
  | .connection kind => [series "kernel_connections_total" [("class", kind)]]
  | .httpRequest method status =>
    [series "kernel_http_requests_total" (httpLabels method status),
     series "kernel_http_request_duration_seconds_count" (httpLabels method status)]
  | .call path code =>
    [series "kernel_rpc_calls_total"
      [("method", path), ("code", String.ofList (intText code.toInt))]]
  | .gatewayCall status =>
    [series "kernel_gateway_calls_total" [("status", String.ofList (natText status))]]
  | .sessionOpened | .sessionClosed => []

/-- The gauge of open sessions, once a session was opened or closed. -/
def sessionGauge (samples : List Sample) : List String :=
  let opened := samples.count .sessionOpened
  let closed := samples.count .sessionClosed
  if opened + closed = 0 then []
  else ["kernel_streaming_sessions_active " ++ String.ofList (intText (opened - closed : Int))]

/-- The state of all series after some samples, one line each, in order. -/
def lines (samples : List Sample) : List String :=
  let counted := samples.eraseDups.flatMap fun sample =>
    (countedBy sample).map fun name =>
      name ++ " " ++ String.ofList (natText (samples.count sample))
  (counted ++ sessionGauge samples).mergeSort fun a b => a ≤ b

end Metrics

end ServiceHost
