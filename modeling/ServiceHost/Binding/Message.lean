import ServiceHost.Binding.Rule
import ServiceHost.Call.Status
import ServiceHost.Json.Path
import ServiceHost.Text.Percent

/-!
# Building a message

The message of a bridged call is an object that gathers the request body, the query and the path
parameters, in this order.  A query field that occurs again becomes an array; a path parameter
replaces what stands in its place, and gives way only where its path leads through no object.
-/

namespace ServiceHost.Message

/-- Why a request has no message. -/
inductive Refusal where
  /-- The body is no JSON. -/
  | unreadable
  /-- The body is to be the whole message and is no object. -/
  | notAnObject
  deriving DecidableEq, Repr

/-- The status that answers a refused request. -/
def Refusal.status : Refusal → Status
  | .unreadable =>
    { code := .invalidArgument, message := "request body is not valid JSON: malformed document" }
  | .notAnObject =>
    { code := .invalidArgument, message := "request body must be a JSON object" }

/-- The members that the body contributes; an empty one contributes nothing. -/
def ofBody (rule : BodyRule) (body : Octets) : Except Refusal Json.Members :=
  if body.isEmpty then .ok []
  else
    match rule with
    | .none => .ok []
    | .all =>
      match Json.read? body with
      | some (.object members) => .ok members
      | some _ => .error .notAnObject
      | none => .error .unreadable
    | .field path =>
      match Json.read? body with
      | some value => .ok (Json.Members.assign (Json.pathOf path) value [])
      | none => .error .unreadable

/-- The text of a part of a query: a plus sign is a blank, and escapes are decoded. -/
def decodeComponent (text : List Char) : String :=
  Percent.decode (String.ofList (text.map fun c => if c = '+' then ' ' else c))

/-- The key and value of one part of a query; without an equals sign the value is empty. -/
def queryPair (part : List Char) : String × String :=
  match cutAt? '=' part with
  | some (key, value) => (decodeComponent key, decodeComponent value)
  | none => (decodeComponent part, "")

/-- The keys and values of a query, in order; empty keys are left out. -/
def queryPairs (query : String) : List (String × String) :=
  (((query.toList.splitOn '&').filter (!·.isEmpty)).map queryPair).filter (!·.1.isEmpty)

/-- Add the pairs of a query. -/
def addQuery (pairs : List (String × String)) (members : Json.Members) : Json.Members :=
  pairs.foldl (fun m (key, value) => m.append (Json.pathOf key) (.string value)) members

/-- Set the parameters of a path. -/
def setParams (params : List (String × String)) (members : Json.Members) : Json.Members :=
  params.foldl (fun m (name, value) => m.assign (Json.pathOf name) (.string value)) members

/-- The message of a request.  Where the body is the whole message the query is left out. -/
def build (rule : BodyRule) (body : Octets) (params : List (String × String))
    (query : Option String) : Except Refusal Json :=
  (ofBody rule body).map fun members =>
    let members :=
      if rule = .all then members else addQuery (queryPairs (query.getD "")) members
    .object (setParams params members)

end ServiceHost.Message
