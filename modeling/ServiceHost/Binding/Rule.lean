import ServiceHost.Octets

/-!
# Bindings of a method

A rule binds an HTTP method and a path template to a method of a service, and says which part
of the request body enters the message.
-/

namespace ServiceHost

/-- Whether a text can be the method of a request. -/
def isMethod (method : String) : Bool :=
  !method.isEmpty && method.toList.all fun c => c.toNat < 0x80 && Octets.isTokenOctet c.toNat.toUInt8

/-- Which part of the message the request body is. -/
inductive BodyRule where
  /-- The body is not read. -/
  | none
  /-- The body is the whole message, and the query is not read. -/
  | all
  /-- The body is the value of one field, named by a dotted path. -/
  | field (path : String)
  deriving DecidableEq, Repr

/-- The rule that a text stands for. -/
def BodyRule.ofText : String → BodyRule
  | "" => .none
  | "*" => .all
  | path => .field path

/-- One binding of a method. -/
structure Rule where
  method : String
  template : String
  body : BodyRule := .none
  deriving DecidableEq, Repr

end ServiceHost
