import ServiceHost.Http.SocketAddress
import ServiceHost.Settings.Schema

/-!
# The metrics endpoint

Metrics are served at an address of their own when they are enabled.
-/

namespace ServiceHost

/-- Why the metrics endpoint cannot start. -/
inductive EndpointError where
  /-- The configured text is no socket address. -/
  | noAddress (text : String)
  deriving DecidableEq, Repr

/-- The reason in words. -/
def EndpointError.message : EndpointError → String
  | .noAddress text => "invalid metrics address '" ++ text ++ "'"

/-- Where metrics are served, if they are. -/
def metricsAddress (settings : ObservabilitySettings) :
    Except EndpointError (Option SocketAddress) :=
  if settings.metricsEnabled then
    match SocketAddress.parse? settings.metricsAddress with
    | some address => .ok (some address)
    | none => .error (.noAddress settings.metricsAddress)
  else .ok none

end ServiceHost
