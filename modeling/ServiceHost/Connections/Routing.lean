import ServiceHost.Opening.Verdict

/-!
# Routing connections

Connections come in one after the other and are then independent of each other: each is sniffed,
waits for a place in the queue of its protocol, waits in the queue, and is served.  Each holds a
permit until it is closed.  The loop that accepts connections takes a permit first and then waits
for a connection.

The whole is a machine whose moves come in any order; `Routing.move?` says what a move changes and
whether it is possible.
-/

namespace ServiceHost

/-- Where a connection is. -/
inductive ConnectionStage where
  | sniffed
  /-- Its protocol is known and it waits for a place in the queue. -/
  | offered (protocol : Protocol)
  | queued (protocol : Protocol)
  | served (protocol : Protocol)
  | closed
  deriving DecidableEq, Repr

/-- The class under which a connection is counted. -/
inductive ConnectionClass where
  | routed (protocol : Protocol)
  | rejected
  deriving DecidableEq, Repr

/-- What the accepting loop does. -/
inductive AcceptPhase where
  /-- It waits for a permit. -/
  | idle
  /-- It holds a permit and waits for a connection. -/
  | accepting
  | stopped
  deriving DecidableEq, Repr

/-- All connections and what lies between them and the servers. -/
structure Routing where
  /-- The permits that nobody holds. -/
  available : Nat
  phase : AcceptPhase := .idle
  /-- All connections so far, by number. -/
  connections : List ConnectionStage := []
  /-- The connections that wait to be served, the oldest first. -/
  rpcQueue : List Nat := []
  httpQueue : List Nat := []
  /-- Whether the servers still take connections. -/
  rpcOpen : Bool := true
  httpOpen : Bool := true
  /-- The classes of the connections whose sniffing is over, the latest first. -/
  counted : List (Nat × ConnectionClass) := []
  /-- The connections that reached a server, the latest first. -/
  delivered : List (Nat × Protocol) := []
  deriving DecidableEq, Repr

/-- A move. -/
inductive RoutingMove where
  /-- The loop takes a permit. -/
  | acquire
  /-- The loop accepts a connection, which gets its permit. -/
  | accept
  /-- Accepting fails for the moment; the loop gives its permit back and starts anew. -/
  | retry
  /-- The loop ends, on shutdown or because the socket failed. -/
  | stop
  /-- The opening of a connection is recognised. -/
  | recognise (connection : Nat) (protocol : Protocol)
  /-- A connection is rejected, or it took too long. -/
  | reject (connection : Nat)
  /-- A connection finds a place in its queue. -/
  | enqueue (connection : Nat)
  /-- A connection finds that its server takes none any more. -/
  | abandon (connection : Nat)
  /-- A server takes the oldest connection of its queue. -/
  | serve (protocol : Protocol)
  /-- A served connection ends. -/
  | close (connection : Nat)
  /-- A server takes no more connections. -/
  | leave (protocol : Protocol)
  /-- The oldest connection in the queue of a server that has left is closed. -/
  | discard (protocol : Protocol)
  deriving DecidableEq, Repr

namespace Routing

/-- How many connections a queue holds. -/
def backlog : Nat := 128

/-- Before the first connection. -/
def start (maxConnections : Nat) : Routing :=
  { available := maxConnections }

/-- The queue of a protocol. -/
def queue (r : Routing) : Protocol → List Nat
  | .rpc => r.rpcQueue
  | .http => r.httpQueue

/-- The queue of a protocol replaced. -/
def withQueue (r : Routing) (protocol : Protocol) (queue : List Nat) : Routing :=
  match protocol with
  | .rpc => { r with rpcQueue := queue }
  | .http => { r with httpQueue := queue }

/-- Whether the server of a protocol takes connections. -/
def isOpen (r : Routing) : Protocol → Bool
  | .rpc => r.rpcOpen
  | .http => r.httpOpen

/-- The server of a protocol takes no more connections. -/
def shut (r : Routing) : Protocol → Routing
  | .rpc => { r with rpcOpen := false }
  | .http => { r with httpOpen := false }

/-- A connection goes on to another stage. -/
def toStage (r : Routing) (connection : Nat) (stage : ConnectionStage) : Routing :=
  { r with connections := r.connections.set connection stage }

/-- A connection is closed, and its permit is given back. -/
def finish (r : Routing) (connection : Nat) : Routing :=
  { r.toStage connection .closed with available := r.available + 1 }

/-- A connection is counted. -/
def count (r : Routing) (connection : Nat) (kind : ConnectionClass) : Routing :=
  { r with counted := (connection, kind) :: r.counted }

/-- A connection reaches a server. -/
def deliver (r : Routing) (connection : Nat) (protocol : Protocol) : Routing :=
  { r with delivered := (connection, protocol) :: r.delivered }

/-- The loop ends and gives its permit back. -/
def stopped (r : Routing) : Routing :=
  match r.phase with
  | .accepting => { r with phase := .stopped, available := r.available + 1 }
  | _ => { r with phase := .stopped }

/-- What a move changes; none if it is not possible. -/
def move? (r : Routing) : RoutingMove → Option Routing
  | .acquire =>
    if r.phase = .idle ∧ 0 < r.available then
      some { r with phase := .accepting, available := r.available - 1 }
    else none
  | .accept =>
    if r.phase = .accepting then
      some { r with phase := .idle, connections := r.connections ++ [.sniffed] }
    else none
  | .retry =>
    if r.phase = .accepting then
      some { r with phase := .idle, available := r.available + 1 }
    else none
  | .stop => if r.phase = .stopped then none else some r.stopped
  | .recognise connection protocol =>
    if r.connections[connection]? = some .sniffed then
      some ((r.count connection (.routed protocol)).toStage connection (.offered protocol))
    else none
  | .reject connection =>
    if r.connections[connection]? = some .sniffed then
      some ((r.count connection .rejected).finish connection)
    else none
  | .enqueue connection =>
    match r.connections[connection]? with
    | some (.offered protocol) =>
      if r.isOpen protocol ∧ (r.queue protocol).length < backlog then
        some ((r.withQueue protocol (r.queue protocol ++ [connection])).toStage connection
          (.queued protocol))
      else none
    | _ => none
  | .abandon connection =>
    match r.connections[connection]? with
    | some (.offered protocol) =>
      if r.isOpen protocol then none else some (r.finish connection)
    | _ => none
  | .serve protocol =>
    if r.isOpen protocol then
      match r.queue protocol with
      | [] => none
      | connection :: rest =>
        some (((r.withQueue protocol rest).deliver connection protocol).toStage connection
          (.served protocol))
    else none
  | .close connection =>
    match r.connections[connection]? with
    | some (.served _) => some (r.finish connection)
    | _ => none
  | .leave protocol => if r.isOpen protocol then some (r.shut protocol) else none
  | .discard protocol =>
    if r.isOpen protocol then none
    else
      match r.queue protocol with
      | [] => none
      | connection :: rest => some ((r.withQueue protocol rest).finish connection)

/-- Moves one after the other; none if one of them is not possible. -/
def moves? (r : Routing) (moves : List RoutingMove) : Option Routing :=
  moves.foldlM move? r

/-- The states that moves lead to, all connections and orders considered. -/
inductive Reachable (maxConnections : Nat) : Routing → Prop where
  | start : Reachable maxConnections (.start maxConnections)
  | next {r s : Routing} (move : RoutingMove) :
      Reachable maxConnections r → r.move? move = some s → Reachable maxConnections s

/-- How many connections are not closed. -/
def openConnections (r : Routing) : Nat :=
  r.connections.countP (· != .closed)

end Routing

end ServiceHost
