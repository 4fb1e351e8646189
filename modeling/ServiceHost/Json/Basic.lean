import ServiceHost.Decimal.Double

/-!
# JSON values

A value is a tree.  The members of an object stand in increasing order of their keys, each key
once, so equal documents are equal trees.  A number is an integer, kept exactly, or a double.
-/

namespace ServiceHost

/-- A JSON number.  Integers lie between `-2 ^ 63` and `2 ^ 64 - 1`. -/
inductive Number where
  /-- A number written without fraction and exponent. -/
  | int (value : Int)
  /-- Any other number. -/
  | double (value : Double)
  deriving DecidableEq, Repr

/-- A JSON value. -/
inductive Json where
  | null
  | bool (value : Bool)
  | number (value : Number)
  | string (value : String)
  | array (items : List Json)
  | object (members : List (String × Json))
  deriving Repr, Inhabited

namespace Json

/-- The members of an object, in increasing order of their keys. -/
abbrev Members := List (String × Json)

/-- An integer as a value. -/
def int (n : Int) : Json := number (.int n)

/-- A count as a value. -/
def nat (n : Nat) : Json := int n

/-- The object without members. -/
def empty : Json := object []

namespace Members

/-- The value at a key. -/
def get? (key : String) : Members → Option Json
  | [] => none
  | (k, v) :: rest => if k = key then some v else get? key rest

/-- Set the value at a key, in the place its order asks for. -/
def insert (key : String) (value : Json) : Members → Members
  | [] => [(key, value)]
  | (k, v) :: rest =>
    if key < k then (key, value) :: (k, v) :: rest
    else if key = k then (key, value) :: rest
    else (k, v) :: insert key value rest

/-- The members of a list of pairs; of two with one key the later one stays. -/
def ofList (pairs : List (String × Json)) : Members :=
  pairs.foldl (fun members (key, value) => members.insert key value) []

end Members

/-- An object of a list of pairs; of two with one key the later one stays. -/
def ofList (pairs : List (String × Json)) : Json :=
  object (Members.ofList pairs)

/-- The member of an object at a key. -/
def get? (key : String) : Json → Option Json
  | object members => Members.get? key members
  | _ => none

/-- The text of a string. -/
def string? : Json → Option String
  | string text => some text
  | _ => none

/-- The value of an integer. -/
def int? : Json → Option Int
  | number (.int n) => some n
  | _ => none

/-- The value of an integer that is not negative. -/
def nat? : Json → Option Nat
  | number (.int n) => if 0 ≤ n then some n.toNat else none
  | _ => none

/-- The value of a truth value. -/
def bool? : Json → Option Bool
  | bool b => some b
  | _ => none

/-- The items of an array. -/
def items? : Json → Option (List Json)
  | array items => some items
  | _ => none

end Json

end ServiceHost
