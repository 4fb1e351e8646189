import ServiceHost.Host.Arguments
import ServiceHost.Host.Operation
import ServiceHost.Host.Ping
import ServiceHost.Json.Writer

/-!
# The command line

Checks that a host can run as configured: its settings are loaded, its modules go through the
startup, a listener is prepared and everything is shut down again.  What the host reports goes to
the error stream, and the exit code says whether all went well.
-/

namespace ServiceHost.CommandLine

/-- An event in one line. -/
def eventLine (event : Event) : String :=
  event.level.name ++ " " ++ event.message ++
    String.join (event.fields.map fun field => " " ++ field.1 ++ "=" ++ field.2.render)

/-- What stands at a path. -/
def readFile (path : String) : IO FileState := do
  try
    let contents ← IO.FS.readBinFile path
    return .file contents.toList
  catch _ => return .missing

/-- The settings of a command line, or what is wrong with their file. -/
def loadSettings (arguments : Arguments) : IO (Except String Settings) := do
  match arguments.config with
  | none => return .ok (arguments.settings {})
  | some path =>
    match Settings.load (← readFile path) with
    | .ok settings => return .ok (arguments.settings settings)
    | .error error => return .error (error.report path)

/-- Print events. -/
def printEvents (events : List Event) : IO Unit :=
  events.forM fun event => IO.eprintln (eventLine event)

/-- Start a host, prepare its listener, and shut it down. -/
def check (settings : Settings) : IO UInt32 := do
  let (host, _, failure) := ((Host.ofSettings settings).register Ping.module).start
  printEvents host.context.events
  if failure.isSome then return 1
  let listening := Listener.bind settings.listener 0 fun _ => false
  match listening with
  | .error error => IO.eprintln ("ERROR Failed to bind: " ++ error.message)
  | .ok listener =>
    match host.serve listener with
    | .error error => IO.eprintln ("ERROR Failed to start serving: " ++ error.message)
    | .ok _ => IO.println ("ready to serve at " ++ listener.address.text)
  printEvents host.shutdown.events
  return if listening.isOk then 0 else 1

end ServiceHost.CommandLine

open ServiceHost in
/-- Check a host as the command line says. -/
def main (words : List String) : IO UInt32 := do
  match Arguments.parse words with
  | .error error =>
    IO.eprintln error.message
    return 2
  | .ok arguments =>
    match ← CommandLine.loadSettings arguments with
    | .error message =>
      IO.eprintln message
      return 1
    | .ok settings => CommandLine.check settings
