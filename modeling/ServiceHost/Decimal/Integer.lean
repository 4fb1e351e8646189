import ServiceHost.Octets

/-!
# Reading integers

Decimal digits behind an optional sign, bounded to 32 bits where the number is a status code.
-/

namespace ServiceHost

/-- The number of a non-empty run of decimal digits. -/
def parseNat? (text : List Char) : Option Nat :=
  if !text.isEmpty && text.all Char.isDigit then
    some (text.foldl (fun n c => n * 10 + (c.toNat - 0x30)) 0)
  else none

/-- The number of decimal digits behind an optional sign. -/
def parseInt? : List Char → Option Int
  | '-' :: digits => (parseNat? digits).map fun n => -n
  | '+' :: digits => (parseNat? digits).map fun n => n
  | digits => (parseNat? digits).map fun n => n

/-- The number of 32 bits that a text stands for. -/
def parseInt32? (text : List Char) : Option Int32 :=
  (parseInt? text).bind fun n =>
    if -0x80000000 ≤ n ∧ n < 0x80000000 then some (Int32.ofInt n) else none

end ServiceHost
