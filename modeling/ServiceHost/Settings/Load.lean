import ServiceHost.Log
import ServiceHost.Settings.Decode
import ServiceHost.Settings.Validation
import ServiceHost.Toml.Document

/-!
# Loading settings

Settings are loaded from the contents of a file in UTF-8: the text is parsed, decoded and
checked.  A reload that fails at any of these is reported and changes nothing.  How a text is
parsed is a parameter wherever it does not matter.
-/

namespace ServiceHost

/-- Why there are no settings. -/
inductive LoadError where
  /-- The file is missing, no file, or no text. -/
  | unreadable
  /-- The text is no document, or its values have wrong types. -/
  | malformed
  /-- The values cannot be used. -/
  | invalid (problems : List Problem)
  deriving DecidableEq, Repr

/-- The reason in words. -/
def LoadError.message : LoadError → String
  | .unreadable => "IO error: unreadable"
  | .malformed => "Parse error: malformed"
  | .invalid problems =>
    "Validation failed: " ++ ", ".intercalate (problems.map Problem.text)

/-- What stands at the path of the settings. -/
inductive FileState where
  | missing
  | directory
  | file (contents : Octets)
  deriving DecidableEq, Repr

namespace Settings

/-- Parsing a text into settings, not checked yet. -/
abbrev Parser := String → Option Settings

/-- The settings of a text in TOML. -/
def ofToml? : Parser := fun text =>
  (Toml.read? text).bind (decoder .toml)

/-- The checked settings of a text. -/
def parseWith (parse : Parser) (text : String) : Except LoadError Settings :=
  match parse text with
  | none => .error .malformed
  | some settings => if settings.isValid then .ok settings else .error (.invalid settings.problems)

/-- The checked settings of a file. -/
def loadWith (parse : Parser) : FileState → Except LoadError Settings
  | .file contents =>
    match Utf8.decode? contents with
    | none => .error .unreadable
    | some text => parseWith parse (String.ofList text)
  | _ => .error .unreadable

/-- The checked settings of a file in TOML. -/
def load (state : FileState) : Except LoadError Settings :=
  loadWith ofToml? state

/-- What a reload publishes, and what it reports. -/
def reloadWith (parse : Parser) (state : FileState) : Option Settings × List Event :=
  match loadWith parse state with
  | .ok settings => (some settings, [])
  | .error e =>
    (none, [Event.error "Failed to reload config, keeping current configuration"
      [("error", .string e.message)]])

end Settings

end ServiceHost
