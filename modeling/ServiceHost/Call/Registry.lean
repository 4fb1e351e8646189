import ServiceHost.Call.Service
import ServiceHost.Report

/-!
# The registry of methods

Calls find their handler by path.  A method registered again under a path replaces the earlier
one.  A handler that breaks down fails its own call and nothing else.
-/

namespace ServiceHost

/-- The handlers by path. -/
structure Registry where
  /-- No path occurs twice. -/
  handlers : List (String × Handler) := []

namespace Registry

/-- The handler of a path. -/
def find? (registry : Registry) (path : String) : Option Handler :=
  (registry.handlers.find? (·.1 == path)).map (·.2)

/-- Whether a path has a handler. -/
def has (registry : Registry) (path : String) : Bool :=
  (registry.find? path).isSome

/-- The paths that have a handler. -/
def paths (registry : Registry) : List String :=
  registry.handlers.map (·.1)

/-- The number of paths. -/
def size (registry : Registry) : Nat :=
  registry.handlers.length

/-- Set the handler of a path. -/
def insert (registry : Registry) (path : String) (handler : Handler) : Registry :=
  { handlers := registry.handlers.filter (·.1 != path) ++ [(path, handler)] }

/-- The report of a path that had a handler before. -/
def replaced (path : String) : Event :=
  Event.warn "RPC method registered twice, replacing" [("method", .string path)]

/-- Register a method. -/
def addMethod (registry : Registry) (method : Method) : Registry × List Event :=
  (registry.insert method.path method.handler,
   if registry.has method.path then [replaced method.path] else [])

/-- Register every method of a service. -/
def add (registry : Registry) (service : Service) : Registry × List Event :=
  service.methods.foldl (fun (registry, events) method =>
    let (registry, more) := registry.addMethod method
    (registry, events ++ more)) (registry, [])

/-- The answer to a call of a path that has no handler. -/
def unknownMethod (path : String) : Status :=
  { code := .unimplemented, message := "unknown method " ++ path }

/-- The answer to a call whose handler breaks down. -/
def internalError : Status :=
  { code := .internal, message := "internal error" }

/-- The report of a handler that breaks down. -/
def handlerBroke (path message : String) : Event :=
  Event.error "RPC handler panicked" [("method", .string path), ("panic", .string message)]

/-- The report of an answered call. -/
def answered (path : String) (code : Int32) : Report :=
  .sample (.call path code)

/-- Call a method. -/
def dispatch (registry : Registry) (path : String) (request : Request) :
    Except Status (Json × Headers) × List Report :=
  match registry.find? path with
  | none => (.error (unknownMethod path), [answered path (unknownMethod path).rawCode])
  | some handler =>
    match handler request with
    | .reply message metadata => (.ok (message, metadata), [answered path 0])
    | .failed status => (.error status, [answered path status.rawCode])
    | .broken message =>
      (.error internalError,
       [.event (handlerBroke path message), answered path internalError.rawCode])

end Registry

end ServiceHost
