import ServiceHost.Host.Module
import ServiceHost.Services.Ping

/-!
# The ping module

Pings over every way into a host: pages and a service.
-/

namespace ServiceHost.Ping

/-- A page that answers every ping, and tells whether the host runs in debug mode. -/
def page : Page where
  path := "/ping/v1"
  answer view := Response.json 200 (Utf8.encode (Json.ofList
    [("message", .string defaultMessage), ("debug", .bool view.settings.isDebug)]).write)

/-- A page that always fails. -/
def failingPage : Page where
  path := "/ping/v1/err"
  answer _ := Envelope.failure (.ofCode defaultCode failureMessage)

/-- The module. -/
def module : Module where
  name := "ping"
  enter stage context :=
    match stage with
    | .load => context.install [page, failingPage] [service]
    | _ => (context, none)
  onReload := some fun _ => none

end ServiceHost.Ping
