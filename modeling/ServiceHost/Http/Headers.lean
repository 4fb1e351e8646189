import ServiceHost.Octets

/-!
# Header fields

A header has a name, which is a token in lower case, and a value of visible octets, blanks and
tabs.  A name may occur several times; its values keep their order.
-/

namespace ServiceHost

/-- One header field. -/
structure Header where
  name : String
  value : Octets
  deriving DecidableEq, Repr

/-- Header fields in order. -/
abbrev Headers := List Header

/-- The text of octets below 128, one character each. -/
def asciiText (octets : Octets) : String :=
  String.ofList (octets.map fun b => Char.ofNat b.toNat)

/-- The name of a header, in lower case: a token. -/
def headerName? (octets : Octets) : Option String :=
  if !octets.isEmpty && octets.all Octets.isTokenOctet && octets.length < 0x10000 then
    some (asciiText octets.lower)
  else none

/-- Whether an octet may stand in the value of a header. -/
def isHeaderValueOctet (b : UInt8) : Bool :=
  (0x20 ≤ b && b != 0x7F) || b == 0x09

/-- Whether an octet of a header value is visible, a blank or a tab of ASCII. -/
def isVisibleOctet (b : UInt8) : Bool :=
  (0x20 ≤ b && b < 0x7F) || b == 0x09

/-- Whether octets are the value of a header. -/
def isHeaderValue (octets : Octets) : Bool :=
  octets.all isHeaderValueOctet

/-- The text of a header value, if all of it is ASCII. -/
def visibleText? (value : Octets) : Option String :=
  if value.all isVisibleOctet then some (asciiText value) else none

namespace Headers

/-- The values of a name, in order. -/
def valuesOf (name : String) (headers : Headers) : List Octets :=
  (headers.filter (·.name == name)).map (·.value)

/-- The first value of a name. -/
def first? (name : String) (headers : Headers) : Option Octets :=
  (headers.find? (·.name == name)).map (·.value)

/-- Add a value behind the other values of its name. -/
def append (header : Header) : Headers → Headers
  | [] => [header]
  | h :: rest =>
    if h.name = header.name && rest.all (·.name != header.name) then h :: header :: rest
    else h :: append header rest

/-- Header fields one after the other, with the values of a name together. -/
def ofList (headers : List Header) : Headers :=
  headers.foldl (fun known header => append header known) []

/-- Replace the values of the names that others have. -/
def replace (headers others : Headers) : Headers :=
  ofList ((headers.filter fun h => others.all (·.name != h.name)) ++ others)

/-- The headers without those of some names. -/
def without (names : List String) (headers : Headers) : Headers :=
  headers.filter fun h => !names.contains h.name

end Headers

end ServiceHost
