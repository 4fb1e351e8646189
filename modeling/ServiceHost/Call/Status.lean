import ServiceHost.Call.Code
import ServiceHost.Decimal.Integer
import ServiceHost.Http.Headers
import ServiceHost.Json.Reader
import ServiceHost.Json.Writer
import ServiceHost.Text.Base64
import ServiceHost.Text.Percent

/-!
# The status of a call

A failed call carries a code, a message, details and metadata.  A code outside the standard set
travels as the standard code `unknown` with the number in one metadata entry, and details are a
JSON array.  `Status.toHeaders` writes a status as response headers and `Status.ofHeaders?`
reads it back: the message is percent-encoded, the details are in base 64, and whatever other
headers there are become metadata.
-/

namespace ServiceHost

/-- How a call ended. -/
structure Status where
  code : Code
  message : String
  /-- Details as octets; empty when there are none. -/
  details : Octets := []
  /-- Further headers. -/
  metadata : Headers := []
  deriving DecidableEq, Repr

namespace Status

/-- The metadata entry of a code outside the standard set. -/
def appCodeName : String := "x-app-code"

/-- The octets of a number in decimal. -/
def decimal (n : Int) : Octets :=
  Utf8.encode (intText n)

/-- A status with any code. -/
def ofCode (code : Int32) (message : String) : Status :=
  match Code.ofInt? code.toInt with
  | some code => { code, message }
  | none => { code := .unknown, message, metadata := [⟨appCodeName, decimal code.toInt⟩] }

/-- A status with details. -/
def withDetails (code : Code) (message : String) (details : List Json) : Status :=
  { code, message, details := Utf8.encode (Json.write (.array details)) }

/-- The code that a metadata entry attaches, if its text is a number of 32 bits. -/
def appCode? (status : Status) : Option Int32 :=
  (status.metadata.first? appCodeName).bind fun value =>
  (visibleText? value).bind fun text => parseInt32? text.toList

/-- The code as the service sent it: an attached one where the standard code is `unknown`. -/
def rawCode (status : Status) : Int32 :=
  if status.code = .unknown then status.appCode?.getD (Int32.ofNat status.code.toNat)
  else Int32.ofNat status.code.toNat

/-- The details as JSON.  A value that is no array is the only detail, and details that are no
JSON are none. -/
def jsonDetails (status : Status) : List Json :=
  if status.details.isEmpty then []
  else
    match Json.read? status.details with
    | some (.array details) => details
    | some detail => [detail]
    | none => []

/-- The HTTP status that answers the call. -/
def httpStatus (status : Status) : Nat :=
  httpStatusOf status.rawCode

/-! ## On the wire -/

/-- The header of the code. -/
def codeHeader : String := "grpc-status"

/-- The header of the message. -/
def messageHeader : String := "grpc-message"

/-- The header of the details. -/
def detailsHeader : String := "grpc-status-details-bin"

/-- The headers that metadata may not set, as the transport writes them itself. -/
def transportHeaders : List String :=
  ["te", "content-type", "grpc-message", "grpc-message-type", "grpc-status"]

/-- Whether an octet of a message stands for itself: visible ASCII without a few marks. -/
def isPlainOctet (b : UInt8) : Bool :=
  0x20 < b && b < 0x7F && !(Octets.ascii "\"#%<>?`\x7b\x7d").contains b

/-- The names under which a status writes headers of its own, so that metadata may not.  Details
replace what metadata have under their name. -/
def ownNames (status : Status) : List String :=
  transportHeaders ++ if status.details.isEmpty then [] else [detailsHeader]

/-- The status as response headers.  An empty message and empty details are left out. -/
def toHeaders (status : Status) : Headers :=
  status.metadata.without status.ownNames ++
    [⟨codeHeader, decimal status.code.toNat⟩] ++
    (if status.message.isEmpty then []
     else [⟨messageHeader, Percent.encodeOctets isPlainOctet (Utf8.ofString status.message)⟩]) ++
    (if status.details.isEmpty then [] else [⟨detailsHeader, Base64.encode status.details⟩])

/-- The code of a header value; anything but a standard number is `unknown`. -/
def codeOfHeader (value : Octets) : Code :=
  (Code.all.find? fun code => decimal code.toNat == value).getD .unknown

/-- The code and message of headers: a message that is no text is a failure of its own. -/
def codeAndMessage (code : Code) (message : Option Octets) : Code × String :=
  match message with
  | none => (code, "")
  | some value =>
    match Utf8.decode? (Percent.decodeOctets value) with
    | some text => (code, String.ofList text)
    | none => (.unknown, "Error deserializing status message header: invalid utf-8 sequence")

/-- The details of a header value; without one there are none. -/
def detailsOf? : Option Octets → Option Octets
  | none => some []
  | some value => Base64.decode? value

/-- The status that response headers carry, if they carry one. -/
def ofHeaders? (headers : Headers) : Option Status :=
  (headers.first? codeHeader).bind fun codeValue =>
  (detailsOf? (headers.first? detailsHeader)).map fun details =>
  let (code, message) := codeAndMessage (codeOfHeader codeValue) (headers.first? messageHeader)
  { code, message, details
    metadata := headers.without [codeHeader, messageHeader, detailsHeader] }

end Status

end ServiceHost
