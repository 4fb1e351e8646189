import ServiceHost.Http.Headers
import ServiceHost.Log
import ServiceHost.Settings.Schema
import ServiceHost.Text.Blank
import ServiceHost.Text.Split
import ServiceHost.Text.Utf8

/-!
# Headers that cross the gateway

Request headers become metadata of the call when their names are permitted, or when the caller
marks them as metadata; metadata of the reply becomes response headers when its names are
permitted.
-/

namespace ServiceHost

/-- The names that may cross in each direction. -/
structure Forwarding where
  incoming : List String := []
  outgoing : List String := []
  deriving DecidableEq, Repr

namespace Forwarding

/-- What marks a request header as metadata. -/
def metadataMark : String := "grpc-metadata-"

/-- The name that a configured text stands for. -/
def configuredName? (text : String) : Option String :=
  headerName? (Utf8.ofString (trimBlanks text))

/-- The report of a configured text that is no name. -/
def ignoredName (text : String) : Event :=
  Event.warn "Ignoring invalid header name in gateway config" [("header", .string text)]

/-- The names of a configured list, and a report of each text that is none. -/
def configuredNames (texts : List String) : List String × List Event :=
  (texts.filterMap configuredName?,
   (texts.filter fun text => (configuredName? text).isNone).map ignoredName)

/-- The names that the settings permit. -/
def ofSettings (settings : GatewaySettings) : Forwarding × List Event :=
  let (incoming, ignoredIn) := configuredNames settings.incomingHeaders
  let (outgoing, ignoredOut) := configuredNames settings.outgoingHeaders
  ({ incoming, outgoing }, ignoredIn ++ ignoredOut)

/-- The name under which a request header becomes metadata, if it does: its own name when that is
permitted, and otherwise the name behind the mark. -/
def metadataName? (forwarding : Forwarding) (name : String) : Option String :=
  if forwarding.incoming.contains name then some name
  else (dropLeading? metadataMark name).bind fun rest => headerName? (Utf8.ofString rest)

/-- The metadata of a call. -/
def metadata (forwarding : Forwarding) (headers : Headers) : Headers :=
  .ofList (headers.filterMap fun h => (forwarding.metadataName? h.name).map fun name =>
    { h with name })

/-- The response headers of a reply. -/
def responseHeaders (forwarding : Forwarding) (metadata : Headers) : Headers :=
  metadata.filter fun h => forwarding.outgoing.contains h.name

end Forwarding

end ServiceHost
