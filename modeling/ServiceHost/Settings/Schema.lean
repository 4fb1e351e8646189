/-!
# Settings

Everything that can be configured, with its defaults.  Counts of octets and connections and
times have 64 bits.
-/

namespace ServiceHost

/-- How much the host says about itself. -/
inductive RunMode where
  | debug
  | release
  deriving DecidableEq, Repr

/-- How the console log is written. -/
inductive LogFormat where
  | pretty
  | json
  deriving DecidableEq, Repr

/-- The shared socket. -/
structure ListenerSettings where
  /-- Where the socket listens. -/
  bindAddress : String := "0.0.0.0:8080"
  /-- How many connections are open at one time. -/
  maxConnections : UInt64 := 10000
  /-- How long a connection may take to show its protocol, in milliseconds. -/
  sniffTimeoutMs : UInt64 := 5000
  /-- How many octets are gathered before it has shown it. -/
  maxSniffBytes : UInt64 := 16384
  deriving DecidableEq, Repr

/-- The gateway from HTTP to calls. -/
structure GatewaySettings where
  /-- The path under which the gateway is mounted. -/
  mountPath : String := "/grpc"
  /-- The request headers that become metadata of a call. -/
  incomingHeaders : List String :=
    ["authorization", "x-request-id", "user-agent", "x-forwarded-for", "accept-language"]
  /-- The metadata of a reply that becomes response headers. -/
  outgoingHeaders : List String := ["x-request-id"]
  /-- Whether the gateway answers for the health of the host. -/
  healthz : Bool := true
  deriving DecidableEq, Repr

/-- The call server. -/
structure RpcSettings where
  /-- The largest message of a request. -/
  maxMessageBytes : UInt64 := 4194304
  /-- How many calls one connection may have open. -/
  maxConcurrentStreams : Option UInt32 := none
  /-- The seconds between two probes of a connection. -/
  keepaliveIntervalSecs : Option UInt64 := none
  deriving DecidableEq, Repr

/-- The HTTP server. -/
structure HttpSettings where
  /-- How long a response head may take, in seconds. -/
  requestTimeoutSecs : UInt64 := 30
  /-- The largest body of a request. -/
  maxBodyBytes : UInt64 := 2097152
  /-- Whether pages of any origin may send requests. -/
  cors : Bool := true
  deriving DecidableEq, Repr

/-- Streaming sessions. -/
structure StreamingSettings where
  /-- The seconds between two signs of life. -/
  keepAliveSecs : UInt64 := 10
  /-- The seconds after which a session ends. -/
  sessionTimeoutSecs : UInt64 := 3600
  deriving DecidableEq, Repr

/-- Shutting down. -/
structure ShutdownSettings where
  /-- The seconds that requests and modules have to finish. -/
  timeoutSecs : UInt64 := 5
  deriving DecidableEq, Repr

/-- Logs and metrics. -/
structure ObservabilitySettings where
  logLevel : String := "info"
  logFormat : LogFormat := .pretty
  metricsEnabled : Bool := false
  metricsAddress : String := "0.0.0.0:9090"
  deriving DecidableEq, Repr

/-- Sending log records to a collector. -/
structure LogShippingSettings where
  enabled : Bool := false
  /-- Where the collector takes records. -/
  endpoint : String := ""
  /-- How many records go together. -/
  batchSize : UInt64 := 128
  /-- How long records wait for others, in milliseconds. -/
  flushIntervalMs : UInt64 := 1000
  /-- How long the last batch may take, in milliseconds. -/
  closeTimeoutMs : UInt64 := 2000
  deriving DecidableEq, Repr

/-- The settings of a host. -/
structure Settings where
  mode : RunMode := .release
  listener : ListenerSettings := {}
  gateway : GatewaySettings := {}
  rpc : RpcSettings := {}
  http : HttpSettings := {}
  streaming : StreamingSettings := {}
  shutdown : ShutdownSettings := {}
  observability : ObservabilitySettings := {}
  logShipping : LogShippingSettings := {}
  deriving DecidableEq, Repr

/-- Whether a host runs in debug mode. -/
def Settings.isDebug (settings : Settings) : Bool :=
  settings.mode == .debug

end ServiceHost
