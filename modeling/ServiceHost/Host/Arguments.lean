import ServiceHost.Settings.Load

/-!
# Arguments

A host is told on its command line where its settings are, and it can be told to listen somewhere
else than they say.
-/

namespace ServiceHost

/-- What the command line says. -/
structure Arguments where
  /-- Where the settings are; without it, the defaults are used. -/
  config : Option String := none
  /-- Where to listen instead. -/
  bind : Option String := none
  deriving DecidableEq, Repr

/-- Why a command line cannot be used. -/
inductive ArgumentError where
  | unexpected (text : String)
  | missingValue (option : String)
  | repeated (option : String)
  deriving DecidableEq, Repr

/-- The reason in words. -/
def ArgumentError.message : ArgumentError → String
  | .unexpected text => "error: unexpected argument '" ++ text ++ "' found"
  | .missingValue option => "error: a value is required for '" ++ option ++ "' but none was supplied"
  | .repeated option =>
    "error: the argument '" ++ option ++ "' cannot be used multiple times"

namespace Arguments

/-- The options. -/
inductive Choice where
  | config
  | bind
  deriving DecidableEq, Repr

/-- An option as it is shown. -/
def Choice.name : Choice → String
  | .config => "--config <CONFIG>"
  | .bind => "--bind <BIND>"

/-- The option that a word stands for. -/
def choice? (word : String) : Option Choice :=
  if word = "-c" ∨ word = "--config" then some .config
  else if word = "-b" ∨ word = "--bind" then some .bind
  else none

/-- The value of an option so far. -/
def get? (arguments : Arguments) : Choice → Option String
  | .config => arguments.config
  | .bind => arguments.bind

/-- Set the value of an option. -/
def set (arguments : Arguments) (value : String) : Choice → Arguments
  | .config => { arguments with config := some value }
  | .bind => { arguments with bind := some value }

/-- Read the words of a command line behind those read before. -/
def parseFrom (arguments : Arguments) : List String → Except ArgumentError Arguments
  | [] => .ok arguments
  | word :: rest =>
    match choice? word, rest with
    | none, _ => .error (.unexpected word)
    | some choice, [] => .error (.missingValue choice.name)
    | some choice, value :: rest =>
      if (arguments.get? choice).isSome then .error (.repeated choice.name)
      else parseFrom (arguments.set value choice) rest

/-- Read a command line. -/
def parse (words : List String) : Except ArgumentError Arguments :=
  parseFrom {} words

/-- The settings that the command line asks for, given those of its file. -/
def settings (arguments : Arguments) (loaded : Settings) : Settings :=
  match arguments.bind with
  | none => loaded
  | some address => { loaded with listener := { loaded.listener with bindAddress := address } }

end Arguments

/-- What is said about settings that cannot be loaded. -/
def LoadError.report (path : String) (error : LoadError) : String :=
  "failed to load config " ++ path ++ ": " ++ error.message

end ServiceHost
