import ServiceHost.Text.Percent
import ServiceHost.Text.Split

/-!
# Path templates

A template is a path whose segments are literals or parameters in braces, as in
`/v1/users/{id}`.  A path matches a template with as many segments if each literal stands in its
place as written; a parameter takes the decoded text of its segment, which must not be empty.
-/

namespace ServiceHost

/-- One segment of a template. -/
inductive Segment where
  /-- A segment that stands for itself. -/
  | literal (text : String)
  /-- A segment whose text becomes the value of a parameter. -/
  | param (name : String)
  deriving DecidableEq, Repr

/-- Why a text is no template. -/
inductive TemplateError where
  /-- It does not start with a slash. -/
  | noLeadingSlash (template : String)
  /-- Nothing stands between two slashes, or behind the last one. -/
  | emptySegment (template : String)
  /-- Braces stand where no parameter is. -/
  | invalidParam (template segment : String)
  deriving DecidableEq, Repr

/-- The reason in words. -/
def TemplateError.message : TemplateError → String
  | .noLeadingSlash template => "template '" ++ template ++ "' must start with '/'"
  | .emptySegment template => "template '" ++ template ++ "' has an empty segment"
  | .invalidParam template segment =>
    "template '" ++ template ++ "' has an invalid parameter '" ++ segment ++ "'"

/-- A template and its segments. -/
structure Template where
  text : String
  segments : List Segment
  deriving DecidableEq, Repr

/-- The segments of a path behind its leading slash; the root has none. -/
def pathSegments? (path : String) : Option (List String) :=
  match path.toList with
  | '/' :: [] => some []
  | '/' :: rest => some ((rest.splitOn '/').map String.ofList)
  | _ => none

/-- A character of a parameter name. -/
def isNameChar (c : Char) : Bool :=
  c.isAlphanum || c == '_'

/-- Whether a text names a parameter: dotted parts of letters, digits and underscores. -/
def isParamName (name : String) : Bool :=
  !name.isEmpty && (splitText '.' name).all fun part => !part.isEmpty && part.toList.all isNameChar

/-- The segment that a part of a template stands for. -/
def Segment.parse? (part : String) : Option Segment :=
  match part.toList with
  | '{' :: inner =>
    let name := String.ofList inner.dropLast
    if inner.getLast? = some '}' ∧ isParamName name then some (.param name) else none
  | chars => if chars.contains '{' ∨ chars.contains '}' then none else some (.literal part)

namespace Template

/-- The segments of the parts of a template; the first part that is none decides the error. -/
def parseSegments (template : String) : List String → Except TemplateError (List Segment)
  | [] => .ok []
  | part :: rest =>
    if part.isEmpty then .error (.emptySegment template)
    else
      match Segment.parse? part with
      | none => .error (.invalidParam template part)
      | some segment => (parseSegments template rest).map (segment :: ·)

/-- The template that a text stands for. -/
def parse (text : String) : Except TemplateError Template :=
  match pathSegments? text with
  | none => .error (.noLeadingSlash text)
  | some parts => (parseSegments text parts).map fun segments => { text, segments }

/-- How many segments are literals. -/
def literalCount (template : Template) : Nat :=
  template.segments.countP fun
    | .literal _ => true
    | .param _ => false

/-- The parameters that the parts of a path give to segments, in order. -/
def capture? : List Segment → List String → Option (List (String × String))
  | [], [] => some []
  | .literal text :: segments, part :: parts =>
    if text = part then capture? segments parts else none
  | .param name :: segments, part :: parts =>
    if part.isEmpty then none
    else (capture? segments parts).map ((name, Percent.decode part) :: ·)
  | _, _ => none

/-- The parameters of a path that matches. -/
def match? (template : Template) (path : String) : Option (List (String × String)) :=
  (pathSegments? path).bind (capture? template.segments)

end Template

end ServiceHost
