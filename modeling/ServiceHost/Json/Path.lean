import ServiceHost.Json.Basic
import ServiceHost.Text.Split

/-!
# Paths into a value

A dotted text names a member of nested objects.  A value is put in place by walking down the
path and making the objects that are missing on the way; where something else than an object
stands in the way, the walk ends and everything stays as it was.
-/

namespace ServiceHost.Json

/-- The keys that a dotted text names, outermost first.  There is always at least one. -/
def pathOf (dotted : String) : List String :=
  splitText '.' dotted

/-- The value at the end of a path. -/
def at? : List String → Json → Option Json
  | [], value => some value
  | key :: rest, value => (value.get? key).bind (at? rest)

namespace Members

/-- The value at the end of a path. -/
def at? (path : List String) (members : Members) : Option Json :=
  Json.at? path (.object members)

/-- Put a value at the end of a path, made from what stands there. -/
def update (make : Option Json → Json) : List String → Members → Members
  | [], members => members
  | [key], members => members.insert key (make (members.get? key))
  | key :: next :: rest, members =>
    match members.get? key with
    | some (.object inner) => members.insert key (.object (update make (next :: rest) inner))
    | some _ => members
    | none => members.insert key (.object (update make (next :: rest) []))

/-- Put a value at the end of a path, in place of what stands there. -/
def assign (path : List String) (value : Json) (members : Members) : Members :=
  members.update (fun _ => value) path

/-- A value behind what stands there: an array grows by it, and anything else becomes the first
of two items. -/
def joined (value : Json) : Option Json → Json
  | none => value
  | some (.array items) => .array (items ++ [value])
  | some first => .array [first, value]

/-- Put a value at the end of a path, behind what stands there. -/
def append (path : List String) (value : Json) (members : Members) : Members :=
  members.update (joined value) path

end Members

end ServiceHost.Json
