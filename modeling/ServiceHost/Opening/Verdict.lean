/-!
# Verdicts on a connection

The first octets of a connection decide which of two protocols it speaks.  A verdict is a
protocol, a rejection with its reason, or the answer that more octets are needed.
-/

namespace ServiceHost

/-- The two protocols behind the shared socket. -/
inductive Protocol where
  /-- Framed calls over HTTP/2. -/
  | rpc
  /-- HTTP/1 requests. -/
  | http
  deriving DecidableEq, Repr

/-- The name under which a protocol is counted and logged. -/
def Protocol.name : Protocol → String
  | .rpc => "rpc"
  | .http => "http"

/-- Why an opening belongs to neither protocol. -/
inductive Rejection where
  /-- No request line starts like this. -/
  | notRequest
  /-- The first line is complete and no request line. -/
  | badRequestLine
  /-- Another frame stands inside a header block. -/
  | interleaved
  /-- A headers frame is too short for its padding and priority field. -/
  | malformedHeaders
  /-- A frame stands before the headers that only belongs behind them. -/
  | frameBeforeHeaders
  /-- The header block cannot be decompressed. -/
  | undecodable
  /-- The headers do not announce a framed call. -/
  | otherContent
  deriving DecidableEq, Repr

/-- The reason in words. -/
def Rejection.message : Rejection → String
  | .notRequest => "not an HTTP/1 request"
  | .badRequestLine => "invalid HTTP/1 request line"
  | .interleaved => "frame interleaved with header block"
  | .malformedHeaders => "malformed HEADERS frame"
  | .frameBeforeHeaders => "unexpected frame before HEADERS"
  | .undecodable => "undecodable header block"
  | .otherContent => "HTTP/2 without RPC content-type"

/-- What the octets of a connection so far say about it. -/
inductive Verdict where
  /-- The connection speaks this protocol. -/
  | matched (protocol : Protocol)
  /-- The octets are the beginning of several kinds of connection. -/
  | needMore
  /-- The connection is to be closed. -/
  | reject (reason : Rejection)
  deriving DecidableEq, Repr

end ServiceHost
