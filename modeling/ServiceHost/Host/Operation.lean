import ServiceHost.Connections.Listener
import ServiceHost.Host.Module
import ServiceHost.Lifecycle.Shutdown

/-!
# Operating a host

A host gets its modules, starts them, serves, and shuts down.  Serving mounts the gateway and puts
the health page among the pages of the modules; it takes the methods as they are registered then.
A host ends when somebody asks for it, or when its socket accepts no more connections.
-/

namespace ServiceHost

/-- What a host serves. -/
structure Serving where
  /-- Where it listens. -/
  address : SocketAddress
  site : Site
  /-- The methods that can be called from outside. -/
  registry : Registry

/-- A host. -/
structure Host where
  context : HostContext
  modules : List Module := []
  /-- The modules that want to know about new settings. -/
  hooks : List ReloadHook := []
  logShipper : Option Closing := none
  hasMetrics : Bool := false
  serving : Option Serving := none
  /-- Whether the end of accepting connections would be noticed. -/
  isWatched : Bool := false

/-- Why a host ends. -/
inductive ExitReason where
  /-- Somebody asked for it. -/
  | signal
  /-- No more connections are accepted. -/
  | listenerFailed (reason : String)
  deriving DecidableEq, Repr

namespace Host

/-- A host without modules. -/
def ofSettings (settings : Settings) : Host :=
  { context := .ofSettings settings }

/-- Register a module. -/
def register (host : Host) (module : Module) : Host :=
  { host with modules := host.modules ++ [module], hooks := host.hooks ++ module.hook?.toList }

/-- Report events. -/
def report (host : Host) (events : List Event) : Host :=
  { host with context := host.context.report events }

/-- Start the modules: the host, the calls made, and the failure if there was one. -/
def start (host : Host) : Host × List (Stage × Nat) × Option StartupError :=
  let run := Startup.run Module.stages host.modules host.context
  let host := { host with modules := run.modules, context := run.context }
  (host.report (run.failure.map (·.event)).toList, run.calls, run.failure)

/-- Everything that is served over HTTP/1: the pages of the modules, the health page, and the
gateway unless it was mounted before. -/
def site (context : HostContext) : Except PageError Site :=
  match context.pages.add Page.health, context.gateway with
  | .error error, _ => .error error
  | .ok pages, none => .ok { pages }
  | .ok pages, some gateway =>
    let path := context.settings.gateway.mountPath
    match Mount.make? path gateway with
    | some mount => .ok { pages, mount := some mount }
    | none => .error (.notRoutable (Mount.pattern path))

/-- Serve at a listener.  A page or a gateway that cannot stand where it should breaks the host
down. -/
def serve (host : Host) (listener : Listener) : Except PageError Host :=
  (site host.context).map fun site =>
  let serving : Serving :=
    { address := listener.address, site, registry := host.context.registry }
  { host with
    context :=
      { host.context with
        pages := {}, gateway := none, target := listener.address.loopback, ready := true }
    serving := some serving
    isWatched := true }

/-- Whether an address is taken by the host itself. -/
def listensAt (host : Host) (address : SocketAddress) : Bool :=
  host.serving.any (·.address == address)

/-- How the gateway of a host makes its calls. -/
def caller (host : Host) (serving : Serving) : Gateway.Caller :=
  CallClient.call
    (CallClient.direct { host.context.callServer with registry := serving.registry })
    host.context.maxMessageBytes

/-- Answer a request that reaches a serving host. -/
def answer (host : Host) (serving : Serving) (request : HttpRequest) : Response × List Report :=
  serving.site.answer (host.caller serving) host.context.view request

/-- New settings: the host, and the modules as they were told. -/
def reload (host : Host) (settings : Settings) : Host × List HookCall :=
  let live : LiveSettings :=
    LiveSettings.publish host.hooks { current := host.context.settings } settings
  (({ host with context := { host.context with settings := live.current } }).report live.events,
   live.calls)

/-- Say whether the host is ready. -/
def setReady (host : Host) (ready : Bool) : Host :=
  { host with context := { host.context with ready } }

/-- Cancel everything. -/
def cancel (host : Host) : Host :=
  { host with context := { host.context with isCancelled := true } }

/-- Why the loop that accepts connections ends when everything is cancelled. -/
def acceptingEnded : String := "accept loop exited"

/-- Wait for the end of the host: why it ends, if it does.  The end of accepting connections is
noticed once. -/
def awaitEnd (host : Host) (isAsked : Bool) : Host × Option ExitReason :=
  if isAsked then (host, some .signal)
  else if host.isWatched && host.context.isCancelled then
    (({ host with isWatched := false }).report
      [Event.error "Listener failed" [("error", .string acceptingEnded)]],
     some (.listenerFailed acceptingEnded))
  else (host, none)

/-- What is to be shut down.  Requests end as soon as they are asked to. -/
def shutdownPlan (host : Host) : ShutdownPlan :=
  { logShipper := host.logShipper, hasMetrics := host.hasMetrics
    httpServer := host.serving.map fun _ => {}
    modules := host.modules.map (·.stopPlan) }

/-- Shut the host down. -/
def shutdown (host : Host) : ShutdownRun :=
  ShutdownRun.run host.shutdownPlan (host.context.settings.shutdown.timeoutSecs.toNat * 1000)
    (if host.context.isCancelled then some 0 else none)

end Host

end ServiceHost
