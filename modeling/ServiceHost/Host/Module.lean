import ServiceHost.Host.Context
import ServiceHost.Host.Reload
import ServiceHost.Lifecycle.Startup
import ServiceHost.Lifecycle.Stop

/-!
# Modules

A module brings features into a host.  It goes through the stages of the startup, may want to know
about new settings, and is told to stop in the end.
-/

namespace ServiceHost

/-- A module. -/
structure Module where
  name : String
  /-- What the module does in a stage: the context behind it, and why it failed if it did. -/
  enter : Stage → HostContext → HostContext × Option String := fun _ context => (context, none)
  /-- Why the module cannot use new settings, if it wants to know about them. -/
  onReload : Option (Settings → Option String) := none
  cleanup : Cleanup := .atOnce
  stopOutcome : StopOutcome := .returned

namespace Module

/-- How modules go through the stages. -/
def stages : StageBehaviour Module HostContext where
  name module := module.name
  enter stage module context :=
    let (context, failure) := module.enter stage context
    (module, context, failure)

/-- How a module stops. -/
def stopPlan (module : Module) : StopPlan :=
  { name := module.name, cleanup := module.cleanup, outcome := module.stopOutcome }

/-- What a module does about new settings, if it wants to know about them. -/
def hook? (module : Module) : Option ReloadHook :=
  module.onReload.map fun refusal => { module := module.name, refusal := fun _ => refusal }

end Module

end ServiceHost
