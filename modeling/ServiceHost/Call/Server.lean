import ServiceHost.Call.Framing
import ServiceHost.Call.Registry
import ServiceHost.Http.Target

/-!
# The call server

Calls arrive as requests: the path names the method and the body holds one message, framed.  The
reply is framed as well, and the status follows it; a call that fails before its reply is answered
with the status alone.
-/

namespace ServiceHost

/-- A request with its whole body. -/
structure HttpRequest where
  method : String
  target : Target
  headers : Headers := []
  body : Octets := []
  deriving Repr

/-- The call server: its methods, the longest message, and whether the host is ready. -/
structure CallServer where
  registry : Registry := {}
  maxMessageBytes : Nat
  ready : Bool := false

namespace CallServer

/-- The media type of calls. -/
def mediaType : Octets := Octets.ascii "application/grpc"

/-- The header that names the compression of messages. -/
def encodingHeader : String := "grpc-encoding"

/-- The header that names the compressions the server reads. -/
def acceptedHeader : String := "grpc-accept-encoding"

/-- The answer to a call without a message. -/
def missingMessage : Status :=
  { code := .internal, message := "Missing request message." }

/-- Octets as a list of numbers, for names that are no text. -/
def octetsText (octets : Octets) : String :=
  "[" ++ ", ".intercalate (octets.map fun b => Framing.numberText b.toNat) ++ "]"

/-- The answer to a call whose messages are compressed. -/
def unknownEncoding (name : Octets) : Status :=
  let shown := ((Utf8.decode? name).map String.ofList).getD (octetsText name)
  { code := .unimplemented
    message := "Content is compressed with `" ++ shown ++ "` which isn't supported"
    metadata := [⟨acceptedHeader, Octets.ascii "identity"⟩] }

/-- The answer to a message that is no JSON. -/
def badMessage : Status :=
  { code := .invalidArgument, message := "message is not valid JSON: malformed" }

/-- The answer to a message that is longer than the limit. -/
def longReply (length limit : Nat) : Status :=
  { code := .outOfRange
    message := "Error, encoded message length too large: found " ++ Framing.numberText length ++
      " bytes, the limit is: " ++ Framing.numberText limit ++ " bytes" }

/-- The JSON of a message; an empty message stands for the empty object. -/
def readMessage? (message : Octets) : Option Json :=
  if message.isEmpty then some Json.empty else Json.read? message

/-- The octets of a message. -/
def writeMessage (message : Json) : Octets :=
  Utf8.encode message.write

/-- The message of a request body: the first of its messages.  The others must be in order as
well. -/
def messageOf (limit : Nat) (body : Octets) : Except Status Json :=
  let (messages, fault) := Framing.messages limit body
  match messages.mapM readMessage?, fault with
  | none, _ => .error badMessage
  | _, some fault => .error fault.status
  | some (message :: _), none => .ok message
  | some [], none => .error missingMessage

/-- Whether messages may be compressed as a request says: not at all. -/
def checkEncoding (headers : Headers) : Except Status Unit :=
  match headers.first? encodingHeader with
  | none => .ok ()
  | some name =>
    if name = Octets.ascii "identity" then .ok () else .error (unknownEncoding name)

/-- The call that a request makes. -/
def requestOf (server : CallServer) (request : HttpRequest) : Except Status Request :=
  (checkEncoding request.headers).bind fun _ =>
  (messageOf server.maxMessageBytes request.body).map fun message =>
  { metadata := request.headers, message, ready := server.ready }

/-- The header of the media type. -/
def typeHeader : Header := ⟨"content-type", mediaType⟩

/-- The answer to a call that fails. -/
def failure (status : Status) : Response :=
  { status := 200, headers := .ofList (typeHeader :: status.toHeaders) }

/-- The answer to a call that succeeds; a reply that is too long is left out, and the status says
so. -/
def success (limit : Nat) (message : Json) (metadata : Headers) : Response :=
  let octets := writeMessage message
  let headers := metadata.without Status.transportHeaders ++ [typeHeader]
  if limit < octets.length then
    { status := 200, headers, trailers := (longReply octets.length limit).toHeaders }
  else
    { status := 200, headers, body := Framing.frame octets
      trailers := ({ code := .ok, message := "" : Status }).toHeaders }

/-- The answer to a method that calls are not made with. -/
def methodNotAllowed : Response :=
  { status := 405, headers := [⟨"allow", Octets.ascii "POST"⟩] }

/-- The route of a path.  Every registered path has one, and a route leads nowhere but to itself. -/
def route? (server : CallServer) (path : String) : Option String :=
  server.registry.paths.find? (· == path)

/-- Make the call of a request to the method of a route. -/
def call (server : CallServer) (route : String) (request : HttpRequest) : Response × List Report :=
  match server.requestOf request with
  | .error status => (failure status, [])
  | .ok called =>
    match server.registry.dispatch route called with
    | (.ok (message, metadata), reports) =>
      (success server.maxMessageBytes message metadata, reports)
    | (.error status, reports) => (failure status, reports)

/-- Answer a request. -/
def serve (server : CallServer) (request : HttpRequest) : Response × List Report :=
  match server.route? request.target.path with
  | some route =>
    if request.method = "POST" then server.call route request else (methodNotAllowed, [])
  | none =>
    let status := Registry.unknownMethod request.target.path
    (failure status, [Registry.answered request.target.path status.rawCode])

/-- How a call ended, as a client reads it from a response. -/
def statusOf (response : Response) : Option Status :=
  match Status.ofHeaders? response.trailers with
  | some status => some status
  | none => Status.ofHeaders? response.headers

end CallServer

end ServiceHost
