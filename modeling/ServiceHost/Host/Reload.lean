import ServiceHost.Settings.Load

/-!
# Reloading settings

Settings that can be loaded wait in line until the ones before them are told to everybody.  New
settings become the live ones first, and then every module that asked for it is told, in the
order of registration.  A module that cannot use them is reported and changes nothing for the
others.
-/

namespace ServiceHost

/-- A module as it was told about new settings. -/
structure HookCall where
  module : String
  /-- What it was told. -/
  settings : Settings
  /-- The live settings at that time. -/
  live : Settings
  refusal : Option String
  deriving DecidableEq, Repr

/-- What a module does about new settings. -/
structure ReloadHook where
  module : String
  /-- Why the module cannot use them, if it cannot.  It may remember everything that was told
  before. -/
  refusal : List HookCall → Settings → Option String

/-- What telling a module comes to, after some calls and with some live settings. -/
def ReloadHook.call (hook : ReloadHook) (before : List HookCall) (settings live : Settings) :
    HookCall :=
  { module := hook.module, settings, live, refusal := hook.refusal before settings }

/-- The live settings, and everything that was told and reported about them. -/
structure LiveSettings where
  current : Settings
  calls : List HookCall := []
  events : List Event := []
  deriving Repr

namespace LiveSettings

/-- The report of a module that cannot use new settings. -/
def refused (module refusal : String) : Event :=
  Event.warn "Config hook failed" [("module", .string module), ("error", .string refusal)]

/-- Tell one module. -/
def tell (settings : Settings) (live : LiveSettings) (hook : ReloadHook) : LiveSettings :=
  let call := hook.call live.calls settings live.current
  { live with
    calls := live.calls ++ [call]
    events := live.events ++ (call.refusal.map (refused hook.module)).toList }

/-- Make settings the live ones and tell all modules. -/
def publish (hooks : List ReloadHook) (live : LiveSettings) (settings : Settings) : LiveSettings :=
  hooks.foldl (tell settings) { live with current := settings }

end LiveSettings

/-- Settings on their way from a file to the modules. -/
structure ReloadFeed where
  /-- The settings that were loaded and are not live yet. -/
  queue : List Settings := []
  live : LiveSettings
  /-- Who is still to be told about what. -/
  untold : List (Settings × ReloadHook) := []

/-- What can happen to settings on their way.  Files are reloaded at any time. -/
inductive ReloadMove where
  /-- The file is reloaded, whatever is there. -/
  | attempt (file : FileState)
  /-- The next settings become the live ones. -/
  | publish
  /-- The next module is told. -/
  | tell
  deriving DecidableEq

namespace ReloadFeed

/-- Reload a file; one that cannot be loaded is reported and changes nothing else. -/
def attempt (parse : Settings.Parser) (feed : ReloadFeed) (file : FileState) : ReloadFeed :=
  let (settings, events) := Settings.reloadWith parse file
  { feed with
    queue := feed.queue ++ settings.toList
    live := { feed.live with events := feed.live.events ++ events } }

/-- Make the next settings the live ones, once all modules are told about those before. -/
def publish (hooks : List ReloadHook) (feed : ReloadFeed) : ReloadFeed :=
  match feed.queue, feed.untold with
  | settings :: queue, [] =>
    { queue, live := { feed.live with current := settings }, untold := hooks.map (settings, ·) }
  | _, _ => feed

/-- Tell the next module, if there is one. -/
def tell (feed : ReloadFeed) : ReloadFeed :=
  match feed.untold with
  | (settings, hook) :: untold => { feed with live := feed.live.tell settings hook, untold }
  | [] => feed

/-- One move. -/
def step (parse : Settings.Parser) (hooks : List ReloadHook) (feed : ReloadFeed) :
    ReloadMove → ReloadFeed
  | .attempt file => feed.attempt parse file
  | .publish => feed.publish hooks
  | .tell => feed.tell

/-- A run of moves. -/
def run (parse : Settings.Parser) (hooks : List ReloadHook) (feed : ReloadFeed)
    (moves : List ReloadMove) : ReloadFeed :=
  moves.foldl (step parse hooks) feed

end ReloadFeed

end ServiceHost
