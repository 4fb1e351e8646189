import ServiceHost.Metrics.Sample
import ServiceHost.Session.Sink
import ServiceHost.Session.Writer

/-!
# A session against a clock

The writer of a session together with its producers, its sink and the time.  A producer hands a
value over and waits until the writer has taken it; there is room for one value between them, and
the others wait in line.  Time only passes when nothing more can happen, and jumps to the moment
for which the writer waits.
-/

namespace ServiceHost.Session

/-- A session at some moment. -/
structure Timeline where
  now : Nat := 0
  writer : Writer
  sink : Sink
  cancelled : Bool := false
  /-- Which publishers are still there. -/
  publishers : List Bool := [true]
  /-- The value that the writer can take. -/
  offered : Option Handover := none
  /-- The values that wait in line. -/
  waiting : List Handover := []
  /-- The hand-overs that the writer has taken and whose producers do not know it yet. -/
  taken : List Nat := []
  /-- The hand-overs that are over, and whether the writer has taken them. -/
  settled : List (Nat × Bool) := []
  /-- The number of the next hand-over. -/
  nextId : Nat := 0
  events : List Event := []
  deriving Repr

namespace Timeline

/-- Whether the session is over for its producers. -/
def isClosed (t : Timeline) : Bool :=
  t.writer.result?.isSome

/-- What the producers have for the writer. -/
def offer (t : Timeline) : Offer :=
  match t.offered with
  | some handover => .value handover
  | none =>
    if t.publishers.contains true || !t.waiting.isEmpty || !t.taken.isEmpty then .nothing
    else .finished

/-- What the writer meets now. -/
def situation (t : Timeline) : Situation where
  now := t.now
  cancelled := t.cancelled
  peerGone := t.sink.peerGone
  takesFrame := t.sink.takesFrame
  flushed := t.sink.flushed t.now
  offer := t.offer

/-- What an action of the writer changes. -/
def apply (t : Timeline) : Action → Timeline
  | .wrote frame => { t with sink := t.sink.write frame.text }
  | .beganFlush => { t with sink := t.sink.beginFlush t.now }
  | .flushed => { t with sink := t.sink.endFlush }
  | .refused _ | .flushFailed => t
  | .took handover => { t with offered := none, taken := t.taken ++ [handover.id] }
  | .reported event => { t with events := t.events ++ [event] }

/-- One step of the writer. -/
def stepWriter? (t : Timeline) : Option Timeline :=
  (t.writer.step? t.situation).map fun (writer, actions) => actions.foldl apply { t with writer }

/-- Let the writer go on until it has to wait, for at most some steps. -/
def runWriter : Nat → Timeline → Timeline
  | 0, t => t
  | steps + 1, t =>
    match t.stepWriter? with
    | some t => runWriter steps t
    | none => t

/-- Let the producers go on: they learn what the writer has taken, the first in line offers its
value, and all are turned away when the session is over. -/
def runProducers (t : Timeline) : Timeline :=
  let t := { t with taken := [], settled := t.settled ++ t.taken.map (·, true) }
  if t.isClosed then
    let lost := t.offered.toList ++ t.waiting
    { t with
      offered := none, waiting := []
      settled := t.settled ++ lost.map fun handover => (handover.id, false) }
  else
    match t.offered, t.waiting with
    | none, first :: rest => { t with offered := some first, waiting := rest }
    | _, _ => t

/-- The steps that the writer takes at most before it waits: it takes one value and a few signs
of life that are late, and writes the closing frames. -/
def turnLength : Nat := 64

/-- Let producers and writer take turns. -/
def takeTurns : Nat → Timeline → Timeline
  | 0, t => t
  | turns + 1, t => takeTurns turns (runWriter turnLength t.runProducers)

/-- Let everything happen that can happen now: each value in line takes one turn, and the end of
the session a few more. -/
def settle (t : Timeline) : Timeline :=
  (takeTurns (t.waiting.length + 6) (runWriter turnLength t)).runProducers

/-- The moment for which the writer waits. -/
def wakeTime? (t : Timeline) : Option Nat :=
  match t.writer.phase with
  | .waiting => some (min t.writer.deadline t.writer.pingDue)
  | .flushing _ => t.sink.flushEnd?
  | _ => none

/-- Let time pass until a moment, over at most some moments for which the writer waits. -/
def passTime (target : Nat) : Nat → Timeline → Timeline
  | 0, t => { t with now := target }.settle
  | wakes + 1, t =>
    match t.wakeTime? with
    | some wake =>
      if t.now < wake ∧ wake ≤ target then passTime target wakes { t with now := wake }.settle
      else { t with now := target }.settle
    | none => { t with now := target }.settle

/-- Let some milliseconds pass. -/
def wait (t : Timeline) (duration : Nat) : Timeline :=
  passTime (t.now + duration) duration t.settle

/-- Let time pass until the session is over, over at most some moments for which the writer
waits. -/
def untilClosed : Nat → Timeline → Timeline
  | 0, t => t
  | wakes + 1, t =>
    if t.isClosed then t
    else
      match t.wakeTime? with
      | some wake => untilClosed wakes { t with now := max t.now wake }.settle
      | none => t

/-- Whether there is a publisher of this number. -/
def hasPublisher (t : Timeline) (p : Nat) : Bool :=
  (t.publishers[p]?).getD false

/-- A publisher begins to hand a value over. -/
def send? (t : Timeline) (p : Nat) (payload : Payload) : Option Timeline :=
  if t.hasPublisher p then
    some { t with waiting := t.waiting ++ [⟨t.nextId, payload⟩], nextId := t.nextId + 1 }
  else none

/-- One more publisher. -/
def clone (t : Timeline) (p : Nat) : Timeline :=
  if t.hasPublisher p then { t with publishers := t.publishers ++ [true] } else t

/-- A publisher goes away. -/
def drop (t : Timeline) (p : Nat) : Timeline :=
  { t with publishers := t.publishers.set p false }

/-- The peer goes away. -/
def disconnect (t : Timeline) : Timeline :=
  { t with sink := t.sink.disconnect }

/-- The session is cancelled. -/
def cancel (t : Timeline) : Timeline :=
  { t with cancelled := true }

/-- Read up to some chunks of the body, and whether it has ended.  A body that has ended, or
whose reader is gone, has no more chunks. -/
def read : Nat → Timeline → List String × Bool × Timeline
  | 0, t => ([], false, t)
  | n + 1, t =>
    match t.sink with
    | .body channel flush =>
      match channel.read? with
      | some (chunk, channel) =>
        let (chunks, ended, t) := read n { t with sink := .body channel flush }
        (chunk :: chunks, ended, t)
      | none => if t.isClosed && !channel.readerGone then ([], true, t.disconnect) else ([], false, t)
    | _ => ([], false, t)

/-- The end of the script: all publishers go away and the session runs to its end.  The reader
of a body goes away as well. -/
def close (t : Timeline) : Timeline :=
  let t := { t with publishers := t.publishers.map fun _ => false }.settle
  match t.sink with
  | .body _ _ => t.disconnect.settle
  | .recorder _ => untilClosed (t.waiting.length + 16) t

/-- The samples that the session has caused. -/
def samples (t : Timeline) : List Sample :=
  .sessionOpened :: if t.isClosed then [.sessionClosed] else []

end Timeline

end ServiceHost.Session
