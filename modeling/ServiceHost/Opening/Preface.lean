import ServiceHost.Http2.HeaderBlock
import ServiceHost.Http2.Frame
import ServiceHost.Opening.Verdict

/-!
# Recognising an HTTP/2 call

Behind the fixed preface stand frames.  Connection frames are passed over up to the first header
block, which may go on over several frames; its content type decides.  The verdict depends on
how a header block is decompressed only through a function from blocks to fields, so everything
here takes that function as a parameter.

A client may wait for the server's settings before it sends its first headers.  It is then sent
an empty settings frame, and its acknowledgement is taken out of what the server will read:
`withoutSettingsAck?` removes the first such frame and nothing else.
-/

namespace ServiceHost.Preface

/-- How a connection that speaks HTTP/2 begins. -/
def octets : Octets :=
  [0x50, 0x52, 0x49, 0x20, 0x2A, 0x20, 0x48, 0x54, 0x54, 0x50, 0x2F, 0x32, 0x2E, 0x30, 0x0D, 0x0A,
   0x0D, 0x0A, 0x53, 0x4D, 0x0D, 0x0A, 0x0D, 0x0A]

/-- The empty settings frame that a waiting client is sent. -/
def serverSettings : Octets :=
  Frame.encode { kind := Frame.settings, flags := 0, stream := 0, payload := [] }

/-- The name of the header that decides. -/
def contentType : Octets := Octets.ascii "content-type"

/-- What its value starts with on a framed call. -/
def callContent : Octets := Octets.ascii "application/grpc"

/-- Whether a field announces a framed call. -/
def announcesCall (field : Field) : Bool :=
  field.name.lower == contentType && callContent.isPrefixOf field.value

/-- How header blocks are decompressed. -/
abbrev Decompress := Octets → Option (List Field)

/-- The verdict on a complete header block. -/
def ofBlock (decompress : Decompress) (block : Octets) : Verdict :=
  match decompress block with
  | none => .reject .undecodable
  | some fields => if fields.any announcesCall then .matched .rpc else .reject .otherContent

/-- Whether a frame may stand before the first header block. -/
def isConnectionFrame (frame : Frame) : Bool :=
  [Frame.settings, Frame.windowUpdate, Frame.ping, Frame.priority].contains frame.kind

/-- Where the walk over the frames stands. -/
inductive Progress where
  /-- No header block has begun. -/
  | beforeHeaders
  /-- A header block has begun with these octets. -/
  | inBlock (block : Octets)
  /-- The first header block or a misplaced frame has decided. -/
  | decided (verdict : Verdict)
  deriving DecidableEq, Repr

/-- A header block grows by a fragment, and ends with it if the frame says so. -/
def grow (decompress : Decompress) (block : Octets) (frame : Frame) : Progress :=
  if frame.has Frame.endHeadersFlag then .decided (ofBlock decompress block) else .inBlock block

/-- Take the next frame into account. -/
def advance (decompress : Decompress) (progress : Progress) (frame : Frame) : Progress :=
  match progress with
  | .decided verdict => .decided verdict
  | .inBlock block =>
    if frame.kind = Frame.continuation then grow decompress (block ++ frame.payload) frame
    else .decided (.reject .interleaved)
  | .beforeHeaders =>
    if frame.kind = Frame.headers then
      match frame.fragment? with
      | none => .decided (.reject .malformedHeaders)
      | some fragment => grow decompress fragment frame
    else if isConnectionFrame frame then .beforeHeaders
    else .decided (.reject .frameBeforeHeaders)

/-- The verdict on the frames behind the preface. -/
def classifyFrames (decompress : Decompress) (progress : Progress) (frames : Octets) : Verdict :=
  match progress with
  | .decided verdict => verdict
  | progress =>
    match _h : Frame.read? frames with
    | none => .needMore
    | some (frame, rest) => classifyFrames decompress (advance decompress progress frame) rest
termination_by frames.length
decreasing_by
  have := Frame.length_read? _h
  simp only [Frame.headerLength] at this
  omega

/-- The frames without the first acknowledgement of settings, once one is there. -/
def framesWithoutAck? (frames : Octets) : Option Octets :=
  match _h : Frame.read? frames with
  | none => none
  | some (frame, rest) =>
    if frame.isSettingsAck then some rest
    else (framesWithoutAck? rest).map (frames.take (frames.length - rest.length) ++ ·)
termination_by frames.length
decreasing_by
  have := Frame.length_read? _h
  simp only [Frame.headerLength] at this
  omega

/-- A connection without the first acknowledgement of settings behind its preface, once one is
there. -/
def withoutSettingsAck? (connection : Octets) : Option Octets :=
  if octets.isPrefixOf connection then
    (framesWithoutAck? (connection.drop octets.length)).map (octets ++ ·)
  else none

end ServiceHost.Preface
