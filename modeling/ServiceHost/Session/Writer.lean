import ServiceHost.Call.Envelope
import ServiceHost.Clock
import ServiceHost.Session.Frame
import ServiceHost.Settings.Schema

/-!
# The writer of a session

One writer per session writes all frames.  It opens the stream, and then waits: for being
cancelled, for the peer to go away, for the deadline, for a value, or for the time of the next
sign of life, and it prefers them in this order.  When no more values can come, or at the
deadline, it writes the closing frames.

`Writer.step?` is one step of the writer.  What it meets, such as the time, the next value or
whether the peer takes a frame, is its situation; the writer never looks at anything else.  After
the first failure it writes nothing more.
-/

namespace ServiceHost.Session

/-- How long a session lasts, in milliseconds. -/
structure Options where
  /-- The time between two signs of life. -/
  keepAlive : Nat
  /-- The time from the opening to the deadline. -/
  timeout : Nat
  deriving DecidableEq, Repr

/-- The options that settings describe. -/
def Options.ofSettings (settings : StreamingSettings) : Options where
  keepAlive := settings.keepAliveSecs.toNat * 1000
  timeout := settings.sessionTimeoutSecs.toNat * 1000

/-- How a session ends. -/
inductive End where
  /-- All values were written, and no more come. -/
  | drained
  | timedOut
  | cancelled
  /-- The peer went away or took no more frames. -/
  | peerGone
  deriving DecidableEq, Repr

/-- What becomes of a writer. -/
inductive Result where
  | ended (how : End)
  /-- The writer breaks down with this message. -/
  | broken (message : String)
  deriving DecidableEq, Repr

/-- What the writer does when frames were written and flushed, or were not. -/
inductive Next where
  /-- The stream is open: set the clocks and wait. -/
  | opened
  /-- Wait again. -/
  | resumed
  /-- The deadline was announced: close the stream. -/
  | timedOut
  /-- The end was announced. -/
  | eof (timedOut : Bool)
  /-- The stream is closed. -/
  | closed (timedOut : Bool)
  deriving DecidableEq, Repr

/-- Where the writer is. -/
inductive Phase where
  /-- These frames are to be written and then flushed. -/
  | writing (frames : List Frame) (next : Next)
  | flushing (next : Next)
  | waiting
  | done (result : Result)
  deriving DecidableEq, Repr

/-- A writer. -/
structure Writer where
  options : Options
  phase : Phase := .writing [.ping, .opened] .opened
  /-- Whether a write or flush failed or was not tried. -/
  closed : Bool := false
  deadline : Nat := 0
  /-- When the next sign of life is due. -/
  pingDue : Nat := 0
  deriving DecidableEq, Repr

/-- A value on its way: the number of the hand-over, and the value. -/
structure Handover where
  id : Nat
  payload : Payload
  deriving Repr

/-- What the producers have for the writer. -/
inductive Offer where
  | nothing
  | value (handover : Handover)
  /-- No producer is left. -/
  | finished
  deriving Repr

/-- What a writer meets at one step. -/
structure Situation where
  /-- The time, in milliseconds. -/
  now : Nat
  cancelled : Bool := false
  /-- Whether the peer is known to be gone. -/
  peerGone : Bool := false
  /-- Whether the peer takes the next frame. -/
  takesFrame : Bool := true
  /-- Whether a flush has succeeded; nothing while it is under way. -/
  flushed : Option Bool := some true
  offer : Offer := .nothing
  deriving Repr

/-- What a writer does at one step. -/
inductive Action where
  /-- The peer took a frame. -/
  | wrote (frame : Frame)
  /-- The peer did not take a frame. -/
  | refused (frame : Frame)
  /-- A flush of the frames written so far began. -/
  | beganFlush
  /-- The frames written so far went out. -/
  | flushed
  /-- The flush failed. -/
  | flushFailed
  /-- A value was taken from the producers. -/
  | took (handover : Handover)
  | reported (event : Event)
  deriving Repr

/-- How late a sign of life may be before the next one is counted from it. -/
def lateness : Nat := 5

namespace Writer

/-- The end of a session whose frames are no longer taken. -/
def endEarly (s : Situation) : Result :=
  .ended (if s.cancelled then .cancelled else .peerGone)

/-- The report of a writer that breaks down. -/
def brokeDown (message : String) : Action :=
  .reported (Event.error "Streaming session writer panicked" [("panic", .string message)])

/-- The report of a value that cannot be written. -/
def skipped (reason : String) : Action :=
  .reported (Event.warn "Failed to serialize stream event, skipping" [("error", .string reason)])

/-- Stop with a result. -/
def finish (w : Writer) (result : Result) : Writer :=
  { w with phase := .done result }

/-- Break down. -/
def breakDown (w : Writer) (message : String) : Writer × List Action :=
  (w.finish (.broken message), [brokeDown message])

/-- Go on to write frames. -/
def emit (w : Writer) (frames : List Frame) (next : Next) : Writer :=
  { w with phase := .writing frames next }

/-- Set the clocks at the opening of the stream.  The time between two signs of life must be
positive, and the clock must reach the first of them. -/
def setClocks (w : Writer) (now : Nat) : Writer × List Action :=
  if !Clock.reaches (now + w.options.keepAlive) then
    w.breakDown "overflow when adding duration to instant"
  else if w.options.keepAlive = 0 then w.breakDown "`period` must be non-zero."
  else
    ({ w with
       phase := .waiting, deadline := Clock.timer now now w.options.timeout
       pingDue := now + w.options.keepAlive }, [])

/-- Go on after a flush or a failure.  The closing frames are tried in any case. -/
def proceed (w : Writer) (s : Situation) (ok : Bool) : Next → Writer × List Action
  | .opened => if ok then w.setClocks s.now else (w.finish (endEarly s), [])
  | .resumed => (if ok then { w with phase := .waiting } else w.finish (endEarly s), [])
  | .timedOut => (if ok then w.emit [.eof] (.eof true) else w.finish (endEarly s), [])
  | .eof timedOut => (w.emit [.closed] (.closed timedOut), [])
  | .closed timedOut => (w.finish (.ended (if timedOut then .timedOut else .drained)), [])

/-- Go on after a failure, and write nothing more. -/
def fail (w : Writer) (s : Situation) (next : Next) : Writer × List Action :=
  { w with closed := true }.proceed s false next

/-- An action in front of what a step does besides. -/
def preceded (action : Action) (step : Writer × List Action) : Writer × List Action :=
  (step.1, action :: step.2)

/-- When the sign of life after one at `now` is due: a period after the last one was due, or a
period from now when that was long ago. -/
def nextPing (w : Writer) (now : Nat) : Nat :=
  if w.pingDue + lateness < now then now + w.options.keepAlive
  else Clock.timer now w.pingDue w.options.keepAlive

/-- Take what the producers offer. -/
def take (w : Writer) (handover : Handover) : Writer × List Action :=
  match handover.payload with
  | .value value => (w.emit [.data value.render] .resumed, [.took handover])
  | .unwritable reason => (w, [.took handover, skipped reason])
  | .fatal message => (w.finish (.broken message), [.took handover, brokeDown message])

/-- What the writer does when it waits; nothing if nothing has happened. -/
def wait? (w : Writer) (s : Situation) : Option (Writer × List Action) :=
  if s.cancelled then some (w.finish (.ended .cancelled), [])
  else if s.peerGone then some (w.finish (.ended .peerGone), [])
  else if w.deadline ≤ s.now then some (w.emit [.timeout] .timedOut, [])
  else
    match s.offer with
    | .value handover => some (w.take handover)
    | .finished => some (w.emit [.eof] (.eof false), [])
    | .nothing =>
      if w.pingDue ≤ s.now then
        some ({ w with pingDue := w.nextPing s.now }.emit [.ping] .resumed, [])
      else none

/-- One step, unless the writer has to wait or is done. -/
def step? (w : Writer) (s : Situation) : Option (Writer × List Action) :=
  match w.phase with
  | .writing frames next =>
    if w.closed || s.cancelled then some (w.fail s next)
    else
      match frames with
      | [] => some ({ w with phase := .flushing next }, [.beganFlush])
      | frame :: rest =>
        if s.takesFrame then some (w.emit rest next, [.wrote frame])
        else some (preceded (.refused frame) (w.fail s next))
  | .flushing next =>
    s.flushed.map fun ok =>
      if ok then preceded .flushed (w.proceed s true next)
      else preceded .flushFailed (w.fail s next)
  | .waiting => w.wait? s
  | .done _ => none

/-- What became of the writer, when it is done. -/
def result? (w : Writer) : Option Result :=
  match w.phase with
  | .done result => some result
  | _ => none

end Writer

end ServiceHost.Session
