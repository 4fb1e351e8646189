import ServiceHost.Http.Headers

/-!
# Sessions as response bodies

A session can be the body of a response; the headers tell caches and proxies to hand it on at
once.
-/

namespace ServiceHost.Session

/-- The chunks that can wait for the reader of a body. -/
def bodyCapacity : Nat := 16

/-- The headers of the response. -/
def bodyHeaders : Headers :=
  [⟨"content-type", Octets.ascii "text/event-stream"⟩,
   ⟨"cache-control", Octets.ascii "no-cache"⟩,
   ⟨"connection", Octets.ascii "keep-alive"⟩,
   ⟨"x-accel-buffering", Octets.ascii "no"⟩]

end ServiceHost.Session
