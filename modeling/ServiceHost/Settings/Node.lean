import ServiceHost.Json.Basic

/-!
# Configuration trees

A configuration document, in whatever notation, is a tree of nodes.
-/

namespace ServiceHost

/-- A node of a configuration document. -/
inductive Node where
  | nothing
  | flag (value : Bool)
  | integer (value : Int)
  /-- A number that is no integer. -/
  | real
  | text (value : String)
  /-- A date, a time or both. -/
  | moment
  | list (items : List Node)
  | table (entries : List (String × Node))
  deriving Repr, Inhabited

mutual

/-- The node of a JSON value. -/
def Node.ofJson : Json → Node
  | .null => .nothing
  | .bool value => .flag value
  | .number (.int value) => .integer value
  | .number (.double _) => .real
  | .string value => .text value
  | .array items => .list (Node.ofItems items)
  | .object members => .table (Node.ofMembers members)

/-- The nodes of JSON values. -/
def Node.ofItems : List Json → List Node
  | [] => []
  | item :: rest => Node.ofJson item :: Node.ofItems rest

/-- The entries of JSON members. -/
def Node.ofMembers : List (String × Json) → List (String × Node)
  | [] => []
  | (key, value) :: rest => (key, Node.ofJson value) :: Node.ofMembers rest

end

end ServiceHost
