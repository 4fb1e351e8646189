import ServiceHost.Session.ChunkChannel

/-!
# Where a session writes to

A sink takes frames and flushes them.  A recorder keeps what was flushed, and can be told to be
slow or to fail; a body hands frames on to the reader of a response.
-/

namespace ServiceHost.Session

/-- A sink that keeps what it gets. -/
structure Recorder where
  /-- How many writes succeed; all when there is no number. -/
  goodWrites : Option Nat := none
  /-- How many flushes succeed. -/
  goodFlushes : Option Nat := none
  /-- How long a flush takes. -/
  flushTime : Nat := 0
  writes : Nat := 0
  flushes : Nat := 0
  /-- When the flush under way ends. -/
  flushEnd : Nat := 0
  /-- What was written since the last flush. -/
  buffer : String := ""
  /-- What was flushed. -/
  output : String := ""
  peerGone : Bool := false
  deriving Repr

/-- A flush that a body has begun. -/
inductive BodyFlush where
  | done
  | blocked (chunk : String)
  | broken
  deriving DecidableEq, Repr

/-- A sink. -/
inductive Sink where
  | recorder (recorder : Recorder)
  | body (channel : ChunkChannel) (flush : BodyFlush)
  deriving Repr

namespace Sink

/-- Whether one more of something succeeds. -/
def isWithin (limit : Option Nat) (count : Nat) : Bool :=
  limit.all fun n => count < n

/-- Whether the sink takes the next frame. -/
def takesFrame : Sink → Bool
  | recorder r => isWithin r.goodWrites r.writes
  | body channel _ => !channel.readerGone

/-- Whether the peer is known to be gone. -/
def peerGone : Sink → Bool
  | recorder r => r.peerGone
  | body channel _ => channel.readerGone

/-- Take a frame. -/
def write (text : String) : Sink → Sink
  | recorder r => recorder { r with writes := r.writes + 1, buffer := r.buffer ++ text }
  | body channel flush => body ((channel.write? text).getD channel) flush

/-- Begin a flush. -/
def beginFlush (now : Nat) : Sink → Sink
  | recorder r => recorder { r with flushEnd := now + r.flushTime }
  | body channel _ =>
    match channel.flush with
    | (.done, channel) => body channel .done
    | (.blocked chunk, channel) => body channel (.blocked chunk)
    | (.broken, channel) => body channel .broken

/-- Whether the flush under way has succeeded; nothing while it takes more time. -/
def flushed (now : Nat) : Sink → Option Bool
  | recorder r =>
    if r.flushEnd ≤ now then some (isWithin r.goodFlushes r.flushes) else none
  | body _ .done => some true
  | body _ .broken => some false
  | body channel (.blocked chunk) =>
    match channel.push chunk with
    | (.done, _) => some true
    | (.broken, _) => some false
    | (.blocked _, _) => none

/-- End a flush that has succeeded. -/
def endFlush : Sink → Sink
  | recorder r =>
    recorder { r with flushes := r.flushes + 1, output := r.output ++ r.buffer, buffer := "" }
  | body channel (.blocked chunk) => body (channel.push chunk).2 .done
  | body channel flush => body channel flush

/-- When a flush under way ends by itself. -/
def flushEnd? : Sink → Option Nat
  | recorder r => some r.flushEnd
  | body _ _ => none

/-- The peer goes away. -/
def disconnect : Sink → Sink
  | recorder r => recorder { r with peerGone := true }
  | body channel flush => body channel.dropReader flush

/-- What was flushed since the output was last taken, and the sink without it. -/
def takeOutput : Sink → String × Sink
  | recorder r => (r.output, recorder { r with output := "" })
  | sink => ("", sink)

end Sink

end ServiceHost.Session
