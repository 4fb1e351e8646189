import ServiceHost.Http.SocketAddress
import ServiceHost.Settings.Schema

/-!
# The listener

One socket accepts connections.  It gives out permits, one for each connection that may be open
at one time, and takes a permit before it waits for a connection.
-/

namespace ServiceHost

/-- Why there is no listener. -/
inductive ListenError where
  /-- The configured text is no socket address. -/
  | noAddress
  /-- The address belongs to another host or is taken. -/
  | unavailable
  /-- There cannot be so many permits; the host breaks down. -/
  | tooManyPermits
  deriving DecidableEq, Repr

/-- The reason in words. -/
def ListenError.message : ListenError → String
  | .noAddress => "Failed to bind: invalid socket address syntax"
  | .unavailable => "Failed to bind: Cannot assign requested address (os error 99)"
  | .tooManyPermits => "Too many connections"

/-- A listener. -/
structure Listener where
  address : SocketAddress
  maxConnections : Nat
  /-- How many permits are held. -/
  held : Nat := 0
  deriving DecidableEq, Repr

namespace Listener

/-- The most permits there can be. -/
def permitLimit : Nat := 0x1FFFFFFFFFFFFFFF

/-- Whether this host has an address: it stands for all interfaces or for the host itself. -/
def isLocal (address : SocketAddress) : Bool :=
  match address.loopback.host with
  | .v4 octets => octets.head? == some 127
  | .v6 groups _ => groups == [0, 0, 0, 0, 0, 0, 0, 1]

/-- Listen at a socket that is there, with a permit for every connection. -/
def ofSocket (address : SocketAddress) (maxConnections : Nat) : Except ListenError Listener :=
  if permitLimit < maxConnections then .error .tooManyPermits
  else .ok { address, maxConnections }

/-- Listen as configured.  The port is `freePort` where the settings leave it open; `isTaken` says
which addresses are in use. -/
def bind (settings : ListenerSettings) (freePort : Nat) (isTaken : SocketAddress → Bool) :
    Except ListenError Listener :=
  match SocketAddress.parse? settings.bindAddress with
  | none => .error .noAddress
  | some address =>
    let address := if address.port = 0 then { address with port := freePort } else address
    if !isLocal address || isTaken address then .error .unavailable
    else ofSocket address settings.maxConnections.toNat

/-- How many permits are left. -/
def available (listener : Listener) : Nat :=
  listener.maxConnections - listener.held

/-- Take a permit, if one is left. -/
def acquire? (listener : Listener) : Option Listener :=
  if listener.held < listener.maxConnections then some { listener with held := listener.held + 1 }
  else none

/-- Give a permit back. -/
def release (listener : Listener) : Listener :=
  { listener with held := listener.held - 1 }

end Listener

end ServiceHost
