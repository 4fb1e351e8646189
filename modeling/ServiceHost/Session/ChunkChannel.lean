/-!
# Chunks for a response body

Frames that are written to a response body gather in a buffer, and a flush hands them on as one
chunk.  Between the writer and the reader of the body there is room for some chunks; a flush that
finds no room has to wait.
-/

namespace ServiceHost.Session

/-- A response body under way. -/
structure ChunkChannel where
  capacity : Nat
  /-- What was written since the last flush. -/
  buffer : String := ""
  /-- The chunks that wait for the reader. -/
  chunks : List String := []
  readerGone : Bool := false
  deriving DecidableEq, Repr

/-- What becomes of a flush. -/
inductive FlushResult where
  | done
  /-- There is no room for this chunk, which has left the buffer. -/
  | blocked (chunk : String)
  | broken
  deriving DecidableEq, Repr

namespace ChunkChannel

/-- Write a frame into the buffer; this fails when the reader is gone. -/
def write? (channel : ChunkChannel) (text : String) : Option ChunkChannel :=
  if channel.readerGone then none else some { channel with buffer := channel.buffer ++ text }

/-- Hand a chunk to the reader. -/
def push (channel : ChunkChannel) (chunk : String) : FlushResult × ChunkChannel :=
  if channel.readerGone then (.broken, channel)
  else if channel.chunks.length < channel.capacity then
    (.done, { channel with chunks := channel.chunks ++ [chunk] })
  else (.blocked chunk, channel)

/-- Hand the buffer to the reader as one chunk; an empty buffer is left alone. -/
def flush (channel : ChunkChannel) : FlushResult × ChunkChannel :=
  if channel.buffer.isEmpty then (.done, channel)
  else { channel with buffer := "" }.push channel.buffer

/-- Read the next chunk, if there is one. -/
def read? (channel : ChunkChannel) : Option (String × ChunkChannel) :=
  match channel.chunks with
  | [] => none
  | chunk :: rest => some (chunk, { channel with chunks := rest })

/-- The reader goes away, and what waits for it is lost. -/
def dropReader (channel : ChunkChannel) : ChunkChannel :=
  { channel with chunks := [], readerGone := true }

end ChunkChannel

end ServiceHost.Session
