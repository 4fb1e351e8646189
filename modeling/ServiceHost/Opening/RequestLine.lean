import ServiceHost.Octets
import ServiceHost.Opening.Verdict

/-!
# Recognising an HTTP/1 request

A known method and a space are enough.  Any other method needs its whole request line: method,
target and version with one space between them.  Before the line is complete the connection
stays open as long as its first word can still become a method.
-/

namespace ServiceHost.RequestLine

/-- The methods that are known by name. -/
def knownMethods : List Octets :=
  ["GET", "POST", "PUT", "DELETE", "HEAD", "OPTIONS", "PATCH", "CONNECT", "TRACE"].map Octets.ascii

/-- The longest method of a request line. -/
def maxMethodLength : Nat := 32

/-- The space between the parts of a request line. -/
def space : UInt8 := 0x20

/-- The end of a line. -/
def lineFeed : UInt8 := 0x0A

/-- The octet that may stand before the end of a line. -/
def carriageReturn : UInt8 := 0x0D

/-- Whether a known method and a space come first. -/
def startsWithKnownMethod (octets : Octets) : Bool :=
  knownMethods.any fun method => (method ++ [space]).isPrefixOf octets

/-- The octets of a method: not too many, and all of a token. -/
def isMethodText (method : Octets) : Bool :=
  method.length ≤ maxMethodLength && method.all Octets.isTokenOctet

/-- The octets of a request target. -/
def isTargetOctet (b : UInt8) : Bool :=
  0x20 < b && b != 0x7F

/-- The versions a request line may name. -/
def versions : List Octets :=
  ["HTTP/1.1", "HTTP/1.0"].map Octets.ascii

/-- Whether a line without its end is a request line. -/
def isRequestLine (line : Octets) : Bool :=
  match line.splitOn space with
  | [method, target, version] =>
    !method.isEmpty && isMethodText method && !target.isEmpty && target.all isTargetOctet &&
      versions.contains version
  | _ => false

/-- Whether octets without a line end can still become a request line: the first word is the
beginning of a method, and of a whole one once a space follows. -/
def mayBecomeRequestLine (octets : Octets) : Bool :=
  let method := octets.takeWhile (· != space)
  isMethodText method && !(method.isEmpty && method.length < octets.length)

/-- A line without the carriage return at its end. -/
def dropReturn (line : Octets) : Octets :=
  if line.getLast? = some carriageReturn then line.dropLast else line

/-- The verdict on octets that are no beginning of an HTTP/2 connection. -/
def classify (octets : Octets) : Verdict :=
  if startsWithKnownMethod octets then .matched .http
  else if octets.contains lineFeed then
    if isRequestLine (dropReturn (octets.takeWhile (· != lineFeed))) then .matched .http
    else .reject .badRequestLine
  else if mayBecomeRequestLine octets then .needMore
  else .reject .notRequest

end ServiceHost.RequestLine
