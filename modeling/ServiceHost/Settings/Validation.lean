import ServiceHost.Http.Headers
import ServiceHost.Http.SocketAddress
import ServiceHost.Settings.Schema
import ServiceHost.Text.Utf8

/-!
# Checking settings

A host runs only with settings that have no problem.  All problems are reported, in the order
of the fields.
-/

namespace ServiceHost

/-- A field whose value cannot be used. -/
structure Problem where
  field : String
  message : String
  deriving DecidableEq, Repr

/-- The problem in one line. -/
def Problem.text (problem : Problem) : String :=
  problem.field ++ ": " ++ problem.message

namespace Settings

/-- A problem with a field, if there is one. -/
def problemUnless (good : Bool) (field message : String) : List Problem :=
  if good then [] else [⟨field, message⟩]

/-- Whether a text is a socket address. -/
def isAddress (text : String) : Bool :=
  (SocketAddress.parse? text).isSome

/-- What is wrong with a text that is no socket address. -/
def noAddress (text : String) : String :=
  "'" ++ text ++ "' is not a socket address"

/-- Whether a gateway can be mounted under a path: it starts with a slash, and has more than that,
and ends with something else. -/
def isMountPath (path : String) : Bool :=
  path.toList.head? == some '/' && path.toList.getLast? != some '/'

/-- Whether a text is the name of a header. -/
def isHeaderName (name : String) : Bool :=
  (headerName? (Utf8.ofString name)).isSome

/-- The problems of the shared socket. -/
def listenerProblems (s : ListenerSettings) : List Problem :=
  problemUnless (isAddress s.bindAddress) "listener.bind_address" (noAddress s.bindAddress) ++
  problemUnless (s.maxConnections != 0) "listener.max_connections" "must be > 0" ++
  problemUnless (s.sniffTimeoutMs != 0) "listener.sniff_timeout_ms" "must be > 0" ++
  problemUnless (64 ≤ s.maxSniffBytes) "listener.max_sniff_bytes" "must be >= 64"

/-- The problems of the gateway. -/
def gatewayProblems (s : GatewaySettings) : List Problem :=
  problemUnless (isMountPath s.mountPath) "gateway.prefix"
    ("'" ++ s.mountPath ++ "' must start with '/', be non-root and have no trailing '/'") ++
  (s.incomingHeaders ++ s.outgoingHeaders).flatMap fun name =>
    problemUnless (isHeaderName name) "gateway.headers" ("'" ++ name ++ "' is not a valid header name")

/-- The problems of the call server. -/
def rpcProblems (s : RpcSettings) : List Problem :=
  problemUnless (s.maxMessageBytes != 0) "rpc.max_message_bytes" "must be > 0" ++
  problemUnless (s.maxConcurrentStreams != some 0) "rpc.max_concurrent_streams" "must be > 0" ++
  problemUnless (s.keepaliveIntervalSecs != some 0) "rpc.keepalive_interval_secs" "must be > 0"

/-- The problems of streaming sessions. -/
def streamingProblems (s : StreamingSettings) : List Problem :=
  problemUnless (s.keepAliveSecs != 0) "streaming.keep_alive_secs" "must be > 0" ++
  problemUnless (s.keepAliveSecs < s.sessionTimeoutSecs) "streaming.session_timeout_secs"
    "must be greater than keep_alive_secs"

/-- The problems of metrics, which matter only when they are on. -/
def observabilityProblems (s : ObservabilitySettings) : List Problem :=
  problemUnless (!s.metricsEnabled || isAddress s.metricsAddress) "observability.metrics_address"
    (noAddress s.metricsAddress)

/-- The problems of sending log records, which matter only when it is on. -/
def logShippingProblems (s : LogShippingSettings) : List Problem :=
  if s.enabled then
    problemUnless (!s.endpoint.isEmpty) "log_shipping.endpoint" "required when enabled" ++
    problemUnless (s.batchSize != 0) "log_shipping.batch_size" "must be > 0" ++
    problemUnless (s.flushIntervalMs != 0) "log_shipping.flush_interval_ms" "must be > 0"
  else []

/-- Everything that is wrong with settings. -/
def problems (s : Settings) : List Problem :=
  listenerProblems s.listener ++ gatewayProblems s.gateway ++ rpcProblems s.rpc ++
  problemUnless (s.http.requestTimeoutSecs != 0) "http.request_timeout_secs" "must be > 0" ++
  streamingProblems s.streaming ++
  problemUnless (s.shutdown.timeoutSecs != 0) "shutdown.timeout_secs" "must be > 0" ++
  observabilityProblems s.observability ++ logShippingProblems s.logShipping

/-- Whether a host runs with these settings. -/
def isValid (s : Settings) : Bool :=
  s.problems.isEmpty

end Settings

end ServiceHost
