import ServiceHost.Json.Writer

/-!
# Frames of a session

A session sends an event stream to its peer.  Values travel in `data:` lines; everything else is
a comment or has a field that readers of event streams ignore.  Every frame but the last ends
with a blank line.
-/

namespace ServiceHost.Session

/-- One frame. -/
inductive Frame where
  /-- A sign of life. -/
  | ping
  | opened
  /-- The session has lasted as long as it may. -/
  | timeout
  /-- No more values come. -/
  | eof
  | closed
  /-- A value, as JSON text. -/
  | data (json : String)
  deriving DecidableEq, Repr

/-- What is written for a frame. -/
def Frame.text : Frame → String
  | .ping => ": ping\n\n"
  | .opened => "events: stream opened\n\n"
  | .timeout => "events: stream timeout\n\n"
  | .eof => "events: error\ndata: eof\n\n"
  | .closed => "events: stream closed"
  | .data json => "data: " ++ json ++ "\n\n"

end ServiceHost.Session
