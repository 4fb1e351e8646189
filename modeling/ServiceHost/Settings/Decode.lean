import ServiceHost.Settings.Node
import ServiceHost.Settings.Schema

/-!
# Settings from a document

A record is read from a table, where keys that it does not know are ignored and missing ones keep
their defaults, or from a list of its fields in order.  Two notations of documents differ in
small ways, which a dialect states.
-/

namespace ServiceHost

/-- What the notation of a document decides. -/
structure Dialect where
  /-- Whether a list may have more items than the record has fields. -/
  surplusItems : Bool
  /-- Whether a node can stand for "no contents" behind the name of a choice. -/
  isEmptyContents : Node → Bool

namespace Dialect

/-- Documents in TOML. -/
def toml : Dialect where
  surplusItems := true
  isEmptyContents
    | .list items => items.isEmpty
    | .table entries => entries.isEmpty
    | _ => false

/-- Documents in JSON. -/
def json : Dialect where
  surplusItems := false
  isEmptyContents
    | .nothing => true
    | _ => false

end Dialect

namespace Settings

/-- Reading a value from a node. -/
abbrev Decoder (α : Type) := Dialect → Node → Option α

/-- A field of a record: its name, and how it is set. -/
abbrev FieldOf (α : Type) := String × (Dialect → Node → α → Option α)

/-- A field with a decoder and a setter. -/
def fieldOf {α β : Type} (name : String) (decode : Decoder β) (set : α → β → α) : FieldOf α :=
  (name, fun dialect node record => (decode dialect node).map (set record))

/-- Set the fields that a table has entries for. -/
def ofEntries {α : Type} (dialect : Dialect) (fields : List (FieldOf α)) :
    List (String × Node) → α → Option α
  | [], record => some record
  | (key, node) :: rest, record =>
    match fields.find? fun f => f.1 == key with
    | some (_, set) => (set dialect node record).bind (ofEntries dialect fields rest)
    | none => ofEntries dialect fields rest record

/-- Set the fields in order. -/
def ofItems {α : Type} (dialect : Dialect) : List (FieldOf α) → List Node → α → Option α
  | _, [], record => some record
  | [], _ :: _, record => if dialect.surplusItems then some record else none
  | (_, set) :: fields, node :: rest, record =>
    (set dialect node record).bind (ofItems dialect fields rest)

/-- A record with defaults for the fields that are missing. -/
def record {α : Type} (default : α) (fields : List (FieldOf α)) : Decoder α := fun dialect node =>
  match node with
  | .table entries => ofEntries dialect fields entries default
  | .list items => ofItems dialect fields items default
  | .moment => some default
  | _ => none

/-- A truth value. -/
def flag : Decoder Bool := fun _ node =>
  match node with
  | .flag value => some value
  | _ => none

/-- A text. -/
def text : Decoder String := fun _ node =>
  match node with
  | .text value => some value
  | _ => none

/-- Texts in a list. -/
def texts : Decoder (List String) := fun dialect node =>
  match node with
  | .list items => items.mapM (text dialect)
  | _ => none

/-- An integer from zero up to but not including a limit. -/
def natBelow (limit : Nat) : Decoder Nat := fun _ node =>
  match node with
  | .integer value => if 0 ≤ value ∧ value < limit then some value.toNat else none
  | _ => none

/-- An integer of 64 bits without sign. -/
def word64 : Decoder UInt64 := fun dialect node =>
  (natBelow 0x10000000000000000 dialect node).map UInt64.ofNat

/-- An integer of 32 bits without sign. -/
def word32 : Decoder UInt32 := fun dialect node =>
  (natBelow 0x100000000 dialect node).map UInt32.ofNat

/-- A value that may be left out explicitly. -/
def optional {α : Type} (decode : Decoder α) : Decoder (Option α) := fun dialect node =>
  match node with
  | .nothing => some none
  | node => (decode dialect node).map some

/-- One of several names, as a text or as the only key of a table with nothing behind it. -/
def choice {α : Type} (names : List (String × α)) : Decoder α := fun dialect node =>
  match node with
  | .text name => names.lookup name
  | .table [(name, contents)] =>
    if dialect.isEmptyContents contents then names.lookup name else none
  | _ => none

/-- The shared socket. -/
def listenerDecoder : Decoder ListenerSettings := record {}
  [fieldOf "bind_address" text fun r x => { r with bindAddress := x },
   fieldOf "max_connections" word64 fun r x => { r with maxConnections := x },
   fieldOf "sniff_timeout_ms" word64 fun r x => { r with sniffTimeoutMs := x },
   fieldOf "max_sniff_bytes" word64 fun r x => { r with maxSniffBytes := x }]

/-- The gateway. -/
def gatewayDecoder : Decoder GatewaySettings := record {}
  [fieldOf "prefix" text fun r x => { r with mountPath := x },
   fieldOf "incoming_headers" texts fun r x => { r with incomingHeaders := x },
   fieldOf "outgoing_headers" texts fun r x => { r with outgoingHeaders := x },
   fieldOf "healthz" flag fun r x => { r with healthz := x }]

/-- The call server. -/
def rpcDecoder : Decoder RpcSettings := record {}
  [fieldOf "max_message_bytes" word64 fun r x => { r with maxMessageBytes := x },
   fieldOf "max_concurrent_streams" (optional word32) fun r x =>
     { r with maxConcurrentStreams := x },
   fieldOf "keepalive_interval_secs" (optional word64) fun r x =>
     { r with keepaliveIntervalSecs := x }]

/-- The HTTP server. -/
def httpDecoder : Decoder HttpSettings := record {}
  [fieldOf "request_timeout_secs" word64 fun r x => { r with requestTimeoutSecs := x },
   fieldOf "max_body_bytes" word64 fun r x => { r with maxBodyBytes := x },
   fieldOf "cors" flag fun r x => { r with cors := x }]

/-- Streaming sessions. -/
def streamingDecoder : Decoder StreamingSettings := record {}
  [fieldOf "keep_alive_secs" word64 fun r x => { r with keepAliveSecs := x },
   fieldOf "session_timeout_secs" word64 fun r x => { r with sessionTimeoutSecs := x }]

/-- Shutting down. -/
def shutdownDecoder : Decoder ShutdownSettings := record {}
  [fieldOf "timeout_secs" word64 fun r x => { r with timeoutSecs := x }]

/-- Logs and metrics. -/
def observabilityDecoder : Decoder ObservabilitySettings := record {}
  [fieldOf "log_level" text fun r x => { r with logLevel := x },
   fieldOf "log_format" (choice [("pretty", .pretty), ("json", .json)]) fun r x =>
     { r with logFormat := x },
   fieldOf "metrics_enabled" flag fun r x => { r with metricsEnabled := x },
   fieldOf "metrics_address" text fun r x => { r with metricsAddress := x }]

/-- Sending log records. -/
def logShippingDecoder : Decoder LogShippingSettings := record {}
  [fieldOf "enabled" flag fun r x => { r with enabled := x },
   fieldOf "endpoint" text fun r x => { r with endpoint := x },
   fieldOf "batch_size" word64 fun r x => { r with batchSize := x },
   fieldOf "flush_interval_ms" word64 fun r x => { r with flushIntervalMs := x },
   fieldOf "close_timeout_ms" word64 fun r x => { r with closeTimeoutMs := x }]

/-- All settings. -/
def decoder : Decoder Settings := record {}
  [fieldOf "mode" (choice [("debug", .debug), ("release", .release)]) fun r x =>
     { r with mode := x },
   fieldOf "listener" listenerDecoder fun r x => { r with listener := x },
   fieldOf "gateway" gatewayDecoder fun r x => { r with gateway := x },
   fieldOf "rpc" rpcDecoder fun r x => { r with rpc := x },
   fieldOf "http" httpDecoder fun r x => { r with http := x },
   fieldOf "streaming" streamingDecoder fun r x => { r with streaming := x },
   fieldOf "shutdown" shutdownDecoder fun r x => { r with shutdown := x },
   fieldOf "observability" observabilityDecoder fun r x => { r with observability := x },
   fieldOf "log_shipping" logShippingDecoder fun r x => { r with logShipping := x }]

/-- The settings of a JSON value; without one they are the defaults. -/
def ofJson? : Json → Option Settings
  | .null => some {}
  | value => decoder .json (Node.ofJson value)

end Settings

end ServiceHost
