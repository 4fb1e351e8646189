import ServiceHost.Binding.Rule
import ServiceHost.Binding.Template

/-!
# The routing table

A lookup finds the route of a method and a path.  Of several matching routes the one with most
literal segments wins, and of those the earliest.  A path that some route matches, but none with
this method, is told apart from one that no route matches.
-/

namespace ServiceHost

/-- One route: an HTTP method and a template, and the method of a service behind them. -/
structure Route where
  method : String
  template : Template
  /-- The full path of the method that is called. -/
  target : String
  body : BodyRule
  deriving DecidableEq, Repr

/-- All routes, in the order of their registration. -/
structure RoutingTable where
  routes : List Route := []
  deriving DecidableEq, Repr

/-- What a lookup finds. -/
inductive Lookup where
  /-- This route, with the parameters of the path. -/
  | found (route : Route) (params : List (String × String))
  /-- The path is known, but not with this method. -/
  | methodNotAllowed
  /-- The path is unknown. -/
  | notFound
  deriving DecidableEq, Repr

namespace RoutingTable

/-- How many routes there are. -/
def size (table : RoutingTable) : Nat := table.routes.length

/-- Add the route of a rule; a malformed template adds nothing. -/
def add (table : RoutingTable) (target : String) (rule : Rule) :
    Except TemplateError RoutingTable :=
  (Template.parse rule.template).map fun template =>
    { routes := table.routes ++ [{ method := rule.method, template, target, body := rule.body }] }

/-- A route whose template matches a path, with the parameters. -/
abbrev Candidate := Route × List (String × String)

/-- The routes whose template matches a path. -/
def candidates (table : RoutingTable) (path : String) : List Candidate :=
  table.routes.filterMap fun route => (route.template.match? path).map (route, ·)

/-- The first of the candidates with most literal segments. -/
def mostLiteral? : List Candidate → Option Candidate
  | [] => none
  | first :: rest =>
    some (rest.foldl (fun best next =>
      if best.1.template.literalCount < next.1.template.literalCount then next else best) first)

/-- The route of a method and a path. -/
def lookup (table : RoutingTable) (method path : String) : Lookup :=
  let known := table.candidates path
  match mostLiteral? (known.filter fun c => c.1.method == method) with
  | some (route, params) => .found route params
  | none => if known.isEmpty then .notFound else .methodNotAllowed

end RoutingTable

end ServiceHost
