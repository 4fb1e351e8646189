import ServiceHost.Json.Basic
import ServiceHost.Settings.Schema

/-!
# Settings as JSON

Settings are written with all their fields, under the names by which they are read.
-/

namespace ServiceHost.Settings

/-- Texts in a list. -/
def ofTexts (texts : List String) : Json :=
  .array (texts.map .string)

/-- A word of 64 bits. -/
def ofWord (word : UInt64) : Json :=
  .nat word.toNat

/-- The shared socket. -/
def listenerJson (s : ListenerSettings) : Json := .ofList
  [("bind_address", .string s.bindAddress), ("max_connections", ofWord s.maxConnections),
   ("sniff_timeout_ms", ofWord s.sniffTimeoutMs), ("max_sniff_bytes", ofWord s.maxSniffBytes)]

/-- The gateway. -/
def gatewayJson (s : GatewaySettings) : Json := .ofList
  [("prefix", .string s.mountPath), ("incoming_headers", ofTexts s.incomingHeaders),
   ("outgoing_headers", ofTexts s.outgoingHeaders), ("healthz", .bool s.healthz)]

/-- The call server; an explicit null stands for what is left out. -/
def rpcJson (s : RpcSettings) : Json := .ofList
  [("max_message_bytes", ofWord s.maxMessageBytes),
   ("max_concurrent_streams", (s.maxConcurrentStreams.map fun n => .nat n.toNat).getD .null),
   ("keepalive_interval_secs", (s.keepaliveIntervalSecs.map ofWord).getD .null)]

/-- The HTTP server. -/
def httpJson (s : HttpSettings) : Json := .ofList
  [("request_timeout_secs", ofWord s.requestTimeoutSecs),
   ("max_body_bytes", ofWord s.maxBodyBytes), ("cors", .bool s.cors)]

/-- Streaming sessions. -/
def streamingJson (s : StreamingSettings) : Json := .ofList
  [("keep_alive_secs", ofWord s.keepAliveSecs),
   ("session_timeout_secs", ofWord s.sessionTimeoutSecs)]

/-- Logs and metrics. -/
def observabilityJson (s : ObservabilitySettings) : Json := .ofList
  [("log_level", .string s.logLevel),
   ("log_format", .string (match s.logFormat with | .pretty => "pretty" | .json => "json")),
   ("metrics_enabled", .bool s.metricsEnabled), ("metrics_address", .string s.metricsAddress)]

/-- Sending log records. -/
def logShippingJson (s : LogShippingSettings) : Json := .ofList
  [("enabled", .bool s.enabled), ("endpoint", .string s.endpoint),
   ("batch_size", ofWord s.batchSize), ("flush_interval_ms", ofWord s.flushIntervalMs),
   ("close_timeout_ms", ofWord s.closeTimeoutMs)]

/-- All settings. -/
def toJson (s : Settings) : Json := .ofList
  [("mode", .string (match s.mode with | .debug => "debug" | .release => "release")),
   ("listener", listenerJson s.listener), ("gateway", gatewayJson s.gateway),
   ("rpc", rpcJson s.rpc), ("http", httpJson s.http),
   ("streaming", streamingJson s.streaming),
   ("shutdown", .ofList [("timeout_secs", ofWord s.shutdown.timeoutSecs)]),
   ("observability", observabilityJson s.observability),
   ("log_shipping", logShippingJson s.logShipping)]

end ServiceHost.Settings
