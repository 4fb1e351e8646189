import ServiceHost.Log
import ServiceHost.Text.Split

/-!
# Log records

A record is what the collector gets of an event.  Events of the parts that send records are never
sent themselves, as a collector that fails would feed on its own failures.
-/

namespace ServiceHost

/-- A record. -/
structure LogRecord where
  /-- Milliseconds since the epoch. -/
  timestamp : Nat := 0
  /-- The part of the host that reports. -/
  target : String
  event : Event
  deriving Repr

namespace LogRecord

/-- Whether events of a part are not sent, given how the names of the parts that send begin. -/
def isSilenced (senders : List String) (target : String) : Bool :=
  senders.any fun name => (dropLeading? name target).isSome

/-- A record as the collector gets it; the message is one of the fields. -/
def toJson (record : LogRecord) : Json :=
  .ofList
    [("timestamp", .nat record.timestamp), ("level", .string record.event.level.name),
     ("target", .string record.target),
     ("fields", .ofList (("message", .string record.event.message) :: record.event.fields))]

end LogRecord

end ServiceHost
