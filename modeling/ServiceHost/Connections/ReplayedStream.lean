import ServiceHost.Octets

/-!
# Replaying

A routed connection is read from its very start: first the octets that sniffing has read, then
what else arrives.
-/

namespace ServiceHost

/-- A connection to be read from its start. -/
structure ReplayedStream where
  /-- The sniffed octets that were not read again so far. -/
  replay : Octets
  /-- The octets that wait behind them. -/
  socket : Octets
  deriving DecidableEq, Repr

namespace ReplayedStream

/-- One read: there is room for `size` octets, and `ready` of those behind the sniffed ones have
arrived. -/
structure Request where
  size : Nat
  ready : Nat
  deriving DecidableEq, Repr

/-- Read once.  No read reaches from the sniffed octets into those behind them. -/
def read (request : Request) (stream : ReplayedStream) : Octets × ReplayedStream :=
  if stream.replay.isEmpty then
    let count := min request.size request.ready
    (stream.socket.take count, { stream with socket := stream.socket.drop count })
  else
    (stream.replay.take request.size, { stream with replay := stream.replay.drop request.size })

/-- Read several times: what each read brings, and the stream behind them. -/
def reads (stream : ReplayedStream) : List Request → List Octets × ReplayedStream
  | [] => ([], stream)
  | request :: requests =>
    let (octets, stream) := stream.read request
    let (others, stream) := stream.reads requests
    (octets :: others, stream)

/-- Everything that was not read so far. -/
def rest (stream : ReplayedStream) : Octets :=
  stream.replay ++ stream.socket

end ReplayedStream

end ServiceHost
