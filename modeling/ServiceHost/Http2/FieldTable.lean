import ServiceHost.Octets

/-!
# The tables of header compression

A header field may be written as an index: 1 to 61 into a fixed table, larger ones into the
fields this connection has sent, newest first.  Those are bounded by the sum of their sizes, and
the oldest ones leave when a new field or a smaller bound asks for room.
-/

namespace ServiceHost

/-- One header field of a compressed block. -/
structure Field where
  /-- The field's name, pseudo-headers with their colon. -/
  name : Octets
  /-- The field's value. -/
  value : Octets
  deriving DecidableEq, Repr

/-- What a field counts towards the bound of a table. -/
def Field.size (field : Field) : Nat :=
  field.name.length + field.value.length + 32

/-- The fixed fields, in order of their indices from 1 on. -/
def staticFields : List Field :=
  [(":authority", ""), (":method", "GET"), (":method", "POST"), (":path", "/"),
   (":path", "/index.html"), (":scheme", "http"), (":scheme", "https"), (":status", "200"),
   (":status", "204"), (":status", "206"), (":status", "304"), (":status", "400"),
   (":status", "404"), (":status", "500"), ("accept-charset", ""),
   ("accept-encoding", "gzip, deflate"), ("accept-language", ""), ("accept-ranges", ""),
   ("accept", ""), ("access-control-allow-origin", ""), ("age", ""), ("allow", ""),
   ("authorization", ""), ("cache-control", ""), ("content-disposition", ""),
   ("content-encoding", ""), ("content-language", ""), ("content-length", ""),
   ("content-location", ""), ("content-range", ""), ("content-type", ""), ("cookie", ""),
   ("date", ""), ("etag", ""), ("expect", ""), ("expires", ""), ("from", ""), ("host", ""),
   ("if-match", ""), ("if-modified-since", ""), ("if-none-match", ""), ("if-range", ""),
   ("if-unmodified-since", ""), ("last-modified", ""), ("link", ""), ("location", ""),
   ("max-forwards", ""), ("proxy-authenticate", ""), ("proxy-authorization", ""), ("range", ""),
   ("referer", ""), ("refresh", ""), ("retry-after", ""), ("server", ""), ("set-cookie", ""),
   ("strict-transport-security", ""), ("transfer-encoding", ""), ("user-agent", ""),
   ("vary", ""), ("via", ""), ("www-authenticate", "")].map
    fun (name, value) => ⟨Octets.ascii name, Octets.ascii value⟩

/-- The fields that fit into `room`, counted from the newest on. -/
def newestFitting (room : Nat) : List Field → List Field
  | [] => []
  | field :: older => if field.size ≤ room then field :: newestFitting (room - field.size) older
    else []

/-- The fields a connection has sent, within a bound. -/
structure FieldTable where
  /-- The bound on the sum of the sizes. -/
  bound : Nat
  /-- The fields, newest first. -/
  recent : List Field
  deriving Repr

namespace FieldTable

/-- A connection starts with an empty table of 4096 octets. -/
def initial : FieldTable :=
  { bound := 4096, recent := [] }

/-- The field at an index. -/
def get? (table : FieldTable) : Nat → Option Field
  | 0 => none
  | n + 1 => (staticFields ++ table.recent)[n]?

/-- Enter a field; it may be too large to stay. -/
def push (table : FieldTable) (field : Field) : FieldTable :=
  { table with recent := newestFitting table.bound (field :: table.recent) }

/-- Change the bound. -/
def resize (table : FieldTable) (bound : Nat) : FieldTable :=
  { bound, recent := newestFitting bound table.recent }

end FieldTable

end ServiceHost
