import ServiceHost.Http.WebAddress
import ServiceHost.Settings.Schema
import ServiceHost.Shipping.Record

/-!
# Sending log records

Accepted records wait in a queue of limited length, and a worker takes them from there into a
batch.  A batch is sent when it is full, when records have waited long enough, and when the
shipper closes; whether or not the collector takes it, it is not sent again.  The last batch holds
all that is left, and its failure is the failure of the shipper.

Records come up in many places at once.  Whoever reports one looks whether the shipper is open, and
then puts the record into the queue; the shipper can close in between.  The worker waits while a
batch is on its way, and what happens meanwhile concerns only the queue, so sending is one move.
What comes to the queue behind the last batch is never read and counts as dropped.
-/

namespace ServiceHost

/-- Why there is no shipper. -/
inductive ShipperError where
  /-- The configured text is no address. -/
  | noEndpoint (text : String)
  deriving DecidableEq, Repr

/-- The reason in words. -/
def ShipperError.message : ShipperError → String
  | .noEndpoint text => "invalid collector endpoint '" ++ text ++ "'"

/-- How the worker ends. -/
inductive ShipperEnd where
  | done
  /-- The collector did not take the last batch. -/
  | lastBatchLost
  deriving DecidableEq, Repr

/-- A batch as it was sent. -/
structure Shipment (ρ : Type) where
  records : List ρ
  isTaken : Bool
  deriving DecidableEq, Repr

/-- A shipper and its worker. -/
structure Shipper (ρ : Type) where
  /-- How many records make a batch full; at least one. -/
  batchSize : Nat
  /-- Whether records are accepted. -/
  isOpen : Bool := true
  /-- The records that came up while the shipper was open and that are on their way to the queue. -/
  arriving : List ρ := []
  /-- The accepted records, the oldest first, that the worker has not taken. -/
  queue : List ρ := []
  /-- The records that the worker has taken and not sent. -/
  batch : List ρ := []
  /-- What was sent, the oldest first. -/
  shipments : List (Shipment ρ) := []
  /-- How the worker ended, if it has. -/
  result : Option ShipperEnd := none
  deriving DecidableEq, Repr

/-- Whether the collector takes a batch, given how many were sent before. -/
abbrev Collector := Nat → Bool

/-- What happens to a shipper. -/
inductive ShipperMove (ρ : Type) where
  /-- A record comes up, and whoever reports it looks whether the shipper is open. -/
  | arrive (record : ρ)
  /-- One of the records on their way comes to the queue. -/
  | enqueue (i : Nat)
  /-- The worker takes the oldest record of the queue. -/
  | take
  /-- Records have waited long enough. -/
  | tick
  /-- No more records are accepted. -/
  | close
  /-- The worker sees that the shipper closes. -/
  | finish
  deriving DecidableEq, Repr

namespace Shipper

variable {ρ : Type}

/-- How many records the queue holds. -/
def queueCapacity : Nat := 8192

/-- A shipper at its start; even the smallest batch has a record. -/
def ofBatchSize (size : Nat) : Shipper ρ :=
  { batchSize := max size 1 }

/-- The shipper that settings describe, if shipping is enabled. -/
def ofSettings (settings : LogShippingSettings) : Except ShipperError (Option (Shipper ρ)) :=
  if !settings.enabled then .ok none
  else if WebAddress.isValid settings.endpoint then
    .ok (some (ofBatchSize settings.batchSize.toNat))
  else .error (.noEndpoint settings.endpoint)

/-- Whether the queue takes a record: the worker still reads it, and it is not full. -/
def hasRoom (shipper : Shipper ρ) : Bool :=
  shipper.result.isNone && shipper.queue.length < queueCapacity

/-- A record comes up; it is dropped when the shipper is closed. -/
def arrive (shipper : Shipper ρ) (record : ρ) : Shipper ρ :=
  if shipper.isOpen then { shipper with arriving := shipper.arriving ++ [record] } else shipper

/-- A record comes to the queue; it is dropped when there is no room. -/
def enqueue (shipper : Shipper ρ) (i : Nat) : Shipper ρ :=
  match shipper.arriving[i]? with
  | none => shipper
  | some record =>
    { shipper with
      arriving := shipper.arriving.eraseIdx i
      queue := if shipper.hasRoom then shipper.queue ++ [record] else shipper.queue }

/-- A record comes up and goes to the queue at once. -/
def offer (shipper : Shipper ρ) (record : ρ) : Shipper ρ :=
  (shipper.arrive record).enqueue shipper.arriving.length

/-- Send the batch. -/
def ship (collector : Collector) (shipper : Shipper ρ) : Shipper ρ :=
  let shipment : Shipment ρ :=
    { records := shipper.batch, isTaken := collector shipper.shipments.length }
  { shipper with batch := [], shipments := shipper.shipments ++ [shipment] }

/-- Take a record into the batch, and send the batch when it is full. -/
def take (collector : Collector) (shipper : Shipper ρ) : Shipper ρ :=
  match shipper.queue with
  | [] => shipper
  | record :: rest =>
    let shipper := { shipper with queue := rest, batch := shipper.batch ++ [record] }
    if shipper.batchSize ≤ shipper.batch.length then shipper.ship collector else shipper

/-- Send what is in the batch. -/
def tick (collector : Collector) (shipper : Shipper ρ) : Shipper ρ :=
  if shipper.batch.isEmpty then shipper else shipper.ship collector

/-- Accept no more records. -/
def close (shipper : Shipper ρ) : Shipper ρ :=
  { shipper with isOpen := false }

/-- Send all that is left in one batch, and end. -/
def finish (collector : Collector) (shipper : Shipper ρ) : Shipper ρ :=
  let rest := { shipper with queue := [], batch := shipper.batch ++ shipper.queue }
  if rest.batch.isEmpty then { rest with result := some .done }
  else
    let result := if collector rest.shipments.length then .done else .lastBatchLost
    { rest.ship collector with result := some result }

/-- What a move changes.  The worker moves until it has ended, and it ends only after the shipper
was closed. -/
def move (collector : Collector) (shipper : Shipper ρ) : ShipperMove ρ → Shipper ρ
  | .arrive record => shipper.arrive record
  | .enqueue i => shipper.enqueue i
  | .close => shipper.close
  | .take => if shipper.result.isNone then shipper.take collector else shipper
  | .tick => if shipper.result.isNone then shipper.tick collector else shipper
  | .finish =>
    if shipper.result.isNone && !shipper.isOpen then shipper.finish collector else shipper

/-- Several moves one after the other. -/
def run (collector : Collector) (shipper : Shipper ρ) (moves : List (ShipperMove ρ)) :
    Shipper ρ :=
  moves.foldl (move collector) shipper

/-- The worker takes everything from the queue. -/
def drain (collector : Collector) (shipper : Shipper ρ) : Shipper ρ :=
  shipper.run collector (shipper.queue.map fun _ => .take)

end Shipper

/-- Let an event come up; those of the parts that send are not offered. -/
def Shipper.report (senders : List String) (shipper : Shipper LogRecord) (record : LogRecord) :
    Shipper LogRecord :=
  if LogRecord.isSilenced senders record.target then shipper else shipper.offer record

end ServiceHost
