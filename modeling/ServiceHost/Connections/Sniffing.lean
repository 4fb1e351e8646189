import ServiceHost.Opening.Classify

/-!
# Sniffing

A connection is read until its opening shows its protocol.  Every read goes into one buffer, which
has room for at least 1024 more octets whenever it is asked for more; the limit on its length is
checked before each read.  A client that stops behind its HTTP/2 preface is sent the settings of
the server, and its acknowledgement is taken out of what will be read again.

`Sniffing.settle` does everything that needs no further octets, and `Sniffing.take` takes the
result of one read.
-/

namespace ServiceHost

/-- Why a connection is closed before it is routed. -/
inductive SniffFailure where
  /-- Its opening belongs to neither protocol. -/
  | rejected (reason : Rejection)
  /-- Its opening is too long. -/
  | limitExceeded
  | readError
  | writeError
  /-- It was closed from the other side. -/
  | closedEarly
  /-- It took too long. -/
  | timedOut
  deriving DecidableEq, Repr

/-- The reason in words. -/
def SniffFailure.message : SniffFailure → String
  | .rejected reason => reason.message
  | .limitExceeded => "sniff limit exceeded"
  | .readError => "read error"
  | .writeError => "write error"
  | .closedEarly => "closed before classification"
  | .timedOut => "Closing connection: classification timed out"

/-- The result of one read. -/
inductive Arrival where
  /-- Some octets, at least one. -/
  | octets (octets : Octets)
  /-- The end of what the client sends. -/
  | ended
  | broken
  /-- Nothing, up to the end of the time a connection has. -/
  | late
  deriving DecidableEq, Repr

/-- A connection that is being sniffed. -/
structure Sniffer where
  buffer : Octets := []
  /-- How many octets fit into the buffer. -/
  capacity : Nat := 1024
  /-- Whether the client was sent the settings of the server. -/
  settingsSent : Bool := false
  /-- Everything that was written to the client. -/
  sent : Octets := []
  /-- The protocol, once only the acknowledgement of the settings is missing. -/
  protocol : Option Protocol := none
  /-- Whether the client can be written to. -/
  isWritable : Bool := true
  deriving DecidableEq, Repr

/-- Where sniffing stands. -/
inductive Sniffing where
  /-- More octets are needed. -/
  | waiting (sniffer : Sniffer)
  /-- The connection is handed on, to be read again from the start; `sent` was written to the
  client meanwhile. -/
  | routed (protocol : Protocol) (replay sent : Octets)
  /-- The connection is closed. -/
  | failed (reason : SniffFailure)
  deriving DecidableEq, Repr

namespace Sniffer

/-- The room that a read has at least. -/
def leastRoom : Nat := 1024

/-- The buffer made larger, if it has less room than that. -/
def grown (s : Sniffer) : Sniffer :=
  if s.capacity < s.buffer.length + leastRoom then
    { s with capacity := max (2 * s.capacity) (s.buffer.length + leastRoom) }
  else s

/-- How many octets the next read takes at most. -/
def room (s : Sniffer) : Nat :=
  s.capacity - s.buffer.length

/-- Ask for more octets. -/
def askForMore (limit : Nat) (s : Sniffer) : Sniffing :=
  if limit ≤ s.buffer.length then .failed .limitExceeded else .waiting s.grown

/-- Hand the connection on, without the acknowledgement of settings that were sent. -/
def finish (limit : Nat) (s : Sniffer) (protocol : Protocol) : Sniffing :=
  if s.settingsSent then
    match Preface.withoutSettingsAck? s.buffer with
    | some replay => .routed protocol replay s.sent
    | none => askForMore limit { s with protocol := some protocol }
  else .routed protocol s.buffer s.sent

/-- Whether the client waits for the settings of the server. -/
def needsSettings (s : Sniffer) : Bool :=
  !s.settingsSent && Preface.octets.isPrefixOf s.buffer

/-- Write the settings of the server to the client. -/
def sendSettings (s : Sniffer) : Sniffer :=
  { s with settingsSent := true, sent := s.sent ++ Preface.serverSettings }

/-- Go on as far as the octets in the buffer allow. -/
def settle (decompress : Preface.Decompress) (limit : Nat) (s : Sniffer) : Sniffing :=
  match s.protocol with
  | some protocol => s.finish limit protocol
  | none =>
    match classifyWith decompress s.buffer with
    | .matched protocol => s.finish limit protocol
    | .reject reason => .failed (.rejected reason)
    | .needMore =>
      if s.needsSettings then
        if s.isWritable then askForMore limit s.sendSettings
        else .failed .writeError
      else askForMore limit s

end Sniffer

namespace Sniffing

/-- A new connection. -/
def start (decompress : Preface.Decompress) (limit : Nat) (isWritable : Bool) : Sniffing :=
  Sniffer.settle decompress limit { isWritable }

/-- Take the result of one read. -/
def take (decompress : Preface.Decompress) (limit : Nat) (s : Sniffing) (arrival : Arrival) :
    Sniffing :=
  match s, arrival with
  | .waiting s, .octets octets =>
    Sniffer.settle decompress limit { s with buffer := s.buffer ++ octets }
  | .waiting _, .ended => .failed .closedEarly
  | .waiting _, .broken => .failed .readError
  | .waiting _, .late => .failed .timedOut
  | s, _ => s

/-- Sniff a connection whose reads have these results. -/
def run (decompress : Preface.Decompress) (limit : Nat) (isWritable : Bool)
    (arrivals : List Arrival) : Sniffing :=
  arrivals.foldl (take decompress limit) (start decompress limit isWritable)

/-- Whether a read may have this result: its octets are at least one and fit into the buffer. -/
def admits : Sniffing → Arrival → Bool
  | .waiting s, .octets octets => 0 < octets.length && octets.length ≤ s.room
  | _, _ => true

/-- Read all octets that have arrived, as far as sniffing needs them: how it stands then, and the
octets that are left.  There are at most as many reads as octets. -/
def feed (decompress : Preface.Decompress) (limit : Nat) : Nat → Sniffing → Octets →
    Sniffing × Octets
  | 0, s, octets => (s, octets)
  | reads + 1, s, octets =>
    match s with
    | .waiting sniffer =>
      if octets.isEmpty then (s, octets)
      else
        feed decompress limit reads (take decompress limit s (.octets (octets.take sniffer.room)))
          (octets.drop sniffer.room)
    | s => (s, octets)

/-- Under which name the connection is counted once sniffing is over. -/
def countedAs? : Sniffing → Option String
  | .waiting _ => none
  | .routed protocol _ _ => some protocol.name
  | .failed _ => some "rejected"

end Sniffing

end ServiceHost
