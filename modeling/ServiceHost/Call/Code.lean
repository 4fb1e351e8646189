/-!
# Status codes of calls

A call ends with one of seventeen standard codes.  Each is answered over HTTP with a status of
its own, and only success with one below 400.
-/

namespace ServiceHost

/-- The standard codes. -/
inductive Code where
  | ok
  | cancelled
  | unknown
  | invalidArgument
  | deadlineExceeded
  | notFound
  | alreadyExists
  | permissionDenied
  | resourceExhausted
  | failedPrecondition
  | aborted
  | outOfRange
  | unimplemented
  | internal
  | unavailable
  | dataLoss
  | unauthenticated
  deriving DecidableEq, Repr

namespace Code

/-- The codes in order of their numbers. -/
def all : List Code :=
  [ok, cancelled, unknown, invalidArgument, deadlineExceeded, notFound, alreadyExists,
   permissionDenied, resourceExhausted, failedPrecondition, aborted, outOfRange, unimplemented,
   internal, unavailable, dataLoss, unauthenticated]

/-- The number of a code. -/
def toNat : Code → Nat
  | ok => 0
  | cancelled => 1
  | unknown => 2
  | invalidArgument => 3
  | deadlineExceeded => 4
  | notFound => 5
  | alreadyExists => 6
  | permissionDenied => 7
  | resourceExhausted => 8
  | failedPrecondition => 9
  | aborted => 10
  | outOfRange => 11
  | unimplemented => 12
  | internal => 13
  | unavailable => 14
  | dataLoss => 15
  | unauthenticated => 16

/-- The code of a number, if it is a standard one. -/
def ofInt? (n : Int) : Option Code :=
  if 0 ≤ n then all[n.toNat]? else none

/-- The HTTP status that answers a code. -/
def httpStatus : Code → Nat
  | ok => 200
  | cancelled => 499
  | unknown => 500
  | invalidArgument => 400
  | deadlineExceeded => 504
  | notFound => 404
  | alreadyExists => 409
  | permissionDenied => 403
  | resourceExhausted => 429
  | failedPrecondition => 400
  | aborted => 409
  | outOfRange => 400
  | unimplemented => 501
  | internal => 500
  | unavailable => 503
  | dataLoss => 500
  | unauthenticated => 401

end Code

/-- The HTTP status that answers any number: a number that is no standard code is a failure of
the server. -/
def httpStatusOf (code : Int32) : Nat :=
  match Code.ofInt? code.toInt with
  | some code => code.httpStatus
  | none => 500

end ServiceHost
