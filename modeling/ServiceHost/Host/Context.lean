import ServiceHost.Host.Pages
import ServiceHost.Http.SocketAddress

/-!
# What modules share

While the host starts, modules put their pages and services into one context.  A service is bound
to the gateway first and then registered for calls; a service whose rules cannot be bound is not
registered.  Once the gateway is mounted, bindings come too late.
-/

namespace ServiceHost

/-- What the modules of a host share. -/
structure HostContext where
  /-- The live settings. -/
  settings : Settings
  pages : Pages := {}
  registry : Registry := {}
  /-- The gateway, until it is mounted. -/
  gateway : Option Gateway := none
  /-- Where the gateway reaches the call server. -/
  target : SocketAddress
  /-- The longest message of a call; a reload does not change it. -/
  maxMessageBytes : Nat
  ready : Bool := false
  /-- Whether everything is cancelled. -/
  isCancelled : Bool := false
  /-- What was reported and nobody has read so far. -/
  events : List Event := []

namespace HostContext

/-- The address of this host, with no port. -/
def unknownTarget : SocketAddress := ⟨.v4 [127, 0, 0, 1], 0⟩

/-- Where a host listens as far as its settings tell. -/
def targetOf (settings : ListenerSettings) : SocketAddress :=
  ((SocketAddress.parse? settings.bindAddress).getD unknownTarget).loopback

/-- Report events. -/
def report (context : HostContext) (events : List Event) : HostContext :=
  { context with events := context.events ++ events }

/-- Register the methods of a service. -/
def addMethods (context : HostContext) (service : Service) : HostContext :=
  let (registry, events) := context.registry.add service
  ({ context with registry }).report events

/-- The context that modules start with: only the health of the host can be asked for. -/
def ofSettings (settings : Settings) : HostContext :=
  let (gateway, events) := Gateway.ofSettings settings.gateway settings.http.maxBodyBytes.toNat
  let context : HostContext :=
    { settings, gateway := some gateway, target := targetOf settings.listener
      maxMessageBytes := settings.rpc.maxMessageBytes.toNat, events }
  context.addMethods Health.service

/-- The report of a service whose rules come too late. -/
def bindingsIgnored (service : String) : Event :=
  Event.warn "Gateway already mounted; HTTP bindings ignored" [("service", .string service)]

/-- Register a service and its bindings. -/
def addService (context : HostContext) (service : Service) :
    HostContext × Option TemplateError :=
  match context.gateway with
  | none => ((context.report [bindingsIgnored service.name]).addMethods service, none)
  | some gateway =>
    match gateway.add service with
    | (gateway, none) => (({ context with gateway := some gateway }).addMethods service, none)
    | (gateway, some error) => ({ context with gateway := some gateway }, some error)

/-- Register services up to the first that fails. -/
def addServices (context : HostContext) : List Service → HostContext × Option TemplateError
  | [] => (context, none)
  | service :: rest =>
    match context.addService service with
    | (context, none) => context.addServices rest
    | (context, some error) => (context, some error)

/-- Add pages up to the first that fails. -/
def addPages (context : HostContext) : List Page → HostContext × Option PageError
  | [] => (context, none)
  | page :: rest =>
    match context.pages.add page with
    | .ok pages => ({ context with pages }).addPages rest
    | .error error => (context, some error)

/-- Add pages and then services: the context, and why it failed if it did. -/
def install (context : HostContext) (pages : List Page) (services : List Service) :
    HostContext × Option String :=
  match context.addPages pages with
  | (context, some error) => (context, some error.message)
  | (context, none) =>
    let (context, error) := context.addServices services
    (context, error.map (·.message))

/-- What pages see. -/
def view (context : HostContext) : HostView :=
  { ready := context.ready, settings := context.settings }

/-- The server of calls as it is now. -/
def callServer (context : HostContext) : CallServer :=
  { registry := context.registry, maxMessageBytes := context.maxMessageBytes
    ready := context.ready }

end HostContext

end ServiceHost
