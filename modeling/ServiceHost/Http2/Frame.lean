import ServiceHost.Octets

/-!
# HTTP/2 frames

A frame is a kind, flags, a stream number and a payload behind a header of nine octets.
`Frame.encode` writes one and `Frame.read?` reads one off the front of a sequence; the reader
asks for nothing but enough octets, so it fails only where more could still arrive.
-/

namespace ServiceHost

/-- One HTTP/2 frame. -/
structure Frame where
  /-- What the payload means. -/
  kind : UInt8
  /-- Eight flags, whose meaning depends on the kind. -/
  flags : UInt8
  /-- The stream number with its reserved bit. -/
  stream : UInt32
  /-- Everything behind the header. -/
  payload : Octets
  deriving DecidableEq, Repr

namespace Frame

/-- The length of a frame header. -/
def headerLength : Nat := 9

/-- A header block starts here. -/
def headers : UInt8 := 0x1

/-- Stream priority, advisory only. -/
def priority : UInt8 := 0x2

/-- Connection parameters, or their acknowledgement. -/
def settings : UInt8 := 0x4

/-- A liveness probe. -/
def ping : UInt8 := 0x6

/-- Flow control credit. -/
def windowUpdate : UInt8 := 0x8

/-- A header block goes on here. -/
def continuation : UInt8 := 0x9

/-- The flag of a settings frame that acknowledges the peer's settings. -/
def ackFlag : UInt8 := 0x1

/-- The flag of the last frame of a header block. -/
def endHeadersFlag : UInt8 := 0x4

/-- The flag of a payload with padding. -/
def paddedFlag : UInt8 := 0x8

/-- The flag of a headers frame with a priority field. -/
def priorityFlag : UInt8 := 0x20

/-- Whether a flag is set. -/
def has (frame : Frame) (flag : UInt8) : Bool :=
  frame.flags &&& flag != 0

/-- The frame header and the payload.  The length field has 24 bits. -/
def encode (frame : Frame) : Octets :=
  Octets.ofNat 3 frame.payload.length ++ [frame.kind, frame.flags] ++
    Octets.ofNat 4 frame.stream.toNat ++ frame.payload

/-- The first frame of a sequence and the octets behind it, once all of it is there. -/
def read? (octets : Octets) : Option (Frame × Octets) :=
  match octets with
  | l₂ :: l₁ :: l₀ :: kind :: flags :: s₃ :: s₂ :: s₁ :: s₀ :: rest =>
    (Octets.splitExactly (Octets.toNat [l₂, l₁, l₀]) rest).map fun (payload, rest) =>
      ({ kind, flags, stream := (Octets.toNat [s₃, s₂, s₁, s₀]).toUInt32, payload }, rest)
  | _ => none

/-- A frame takes at least its header off the sequence. -/
theorem length_read? {octets rest : Octets} {frame : Frame}
    (h : read? octets = some (frame, rest)) :
    octets.length = headerLength + frame.payload.length + rest.length := by
  unfold read? at h
  split at h
  · obtain ⟨⟨payload, left⟩, hsplit, heq⟩ := Option.map_eq_some_iff.mp h
    simp only [Prod.mk.injEq] at heq
    obtain ⟨rfl, rfl⟩ := heq
    have hlen := congrArg List.length (Octets.length_splitExactly hsplit).1
    simp only [List.length_append] at hlen
    simp only [List.length_cons, headerLength]
    omega
  · simp at h

/-- Whether a frame acknowledges the peer's settings. -/
def isSettingsAck (frame : Frame) : Bool :=
  frame.kind == settings && frame.has ackFlag && frame.payload.isEmpty

/-- The part of a headers payload that belongs to the header block: padding and the priority
field are taken off, and a payload too short for what its flags promise has none. -/
def fragment? (frame : Frame) : Option Octets :=
  let priorityLength := if frame.has priorityFlag then 5 else 0
  if frame.has paddedFlag then
    match frame.payload with
    | [] => none
    | pad :: body =>
      if pad.toNat + priorityLength ≤ body.length then
        some ((body.take (body.length - pad.toNat)).drop priorityLength)
      else none
  else if priorityLength ≤ frame.payload.length then some (frame.payload.drop priorityLength)
  else none

end Frame

end ServiceHost
