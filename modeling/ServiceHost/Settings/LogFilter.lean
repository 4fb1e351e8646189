import ServiceHost.Settings.Schema

/-!
# The filter of the console log

The configured level holds for the host and for its HTTP layers, and the connection machinery is
kept at `info`.  In debug mode the level is `debug` whatever is configured.
-/

namespace ServiceHost.Settings

/-- The level of the host's own events. -/
def effectiveLogLevel (settings : Settings) : String :=
  if settings.isDebug then "debug" else settings.observability.logLevel

/-- The filter, as a list of directives. -/
def logFilter (settings : Settings) : String :=
  settings.effectiveLogLevel ++ ",hyper=info,h2=info,tower_http=" ++ settings.effectiveLogLevel

end ServiceHost.Settings
