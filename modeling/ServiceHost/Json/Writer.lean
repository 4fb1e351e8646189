import ServiceHost.Decimal.Shortest
import ServiceHost.Json.Basic

/-!
# Writing JSON

A value has one compact text: no blanks, members in the order of their keys.  A string escapes
the quote, the backslash and the control characters, and nothing else, so a text never holds a
line break.  A double is written by its shortest decimal, positionally from `10 ^ -5` up to but
not including `10 ^ 16`, with a digit on either side of the point.
-/

namespace ServiceHost

/-- The decimal digits of a natural number. -/
def natText (n : Nat) : List Char :=
  Nat.toDigits 10 n

/-- The decimal digits of an integer behind its minus sign. -/
def intText : Int → List Char
  | .ofNat n => natText n
  | .negSucc n => '-' :: natText (n + 1)

/-- A decimal written out.  With `n` digits the point stands behind the first `n + power` of
them; far to either side the exponent is written instead. -/
def Decimal.text (d : Decimal) : List Char :=
  let digits := natText d.digits
  let point := digits.length + d.power
  if 0 ≤ d.power ∧ point ≤ 16 then digits ++ List.replicate d.power.toNat '0' ++ ['.', '0']
  else if 0 < point ∧ point ≤ 16 then
    digits.take point.toNat ++ '.' :: digits.drop point.toNat
  else if -5 < point ∧ point ≤ 0 then '0' :: '.' :: List.replicate (-point).toNat '0' ++ digits
  else
    let fraction := if digits.length = 1 then [] else '.' :: digits.drop 1
    let sign := if point - 1 < 0 then '-' else '+'
    digits.take 1 ++ fraction ++ 'e' :: sign :: natText (point - 1).natAbs

/-- A double written out. -/
def Double.text (d : Double) : List Char :=
  let magnitude := if d.magnitude.isZero then ['0', '.', '0'] else d.magnitude.shortest.text
  if d.negative then '-' :: magnitude else magnitude

/-- A number written out. -/
def Number.text : Number → List Char
  | .int n => intText n
  | .double d => d.text

namespace Json

/-- A lower-case hexadecimal digit. -/
def hexDigit (n : Nat) : Char :=
  if n < 10 then Char.ofNat (0x30 + n) else Char.ofNat (0x57 + n)

/-- How a character stands inside a string. -/
def escapeChar (c : Char) : List Char :=
  if c = '"' then ['\\', '"']
  else if c = '\\' then ['\\', '\\']
  else if c = '\n' then ['\\', 'n']
  else if c = '\r' then ['\\', 'r']
  else if c = '\t' then ['\\', 't']
  else if c.toNat = 8 then ['\\', 'b']
  else if c.toNat = 12 then ['\\', 'f']
  else if c.toNat < 0x20 then
    ['\\', 'u', '0', '0', hexDigit (c.toNat / 16), hexDigit (c.toNat % 16)]
  else [c]

/-- A string with its quotes. -/
def stringText (text : String) : List Char :=
  '"' :: text.toList.flatMap escapeChar ++ ['"']

mutual

/-- The text of a value. -/
def write : Json → List Char
  | null => ['n', 'u', 'l', 'l']
  | bool true => ['t', 'r', 'u', 'e']
  | bool false => ['f', 'a', 'l', 's', 'e']
  | number n => n.text
  | string text => stringText text
  | array items => '[' :: writeItems items ++ [']']
  | object members => '{' :: writeMembers members ++ ['}']

/-- The items of an array with the commas between them. -/
def writeItems : List Json → List Char
  | [] => []
  | [item] => write item
  | item :: rest => write item ++ ',' :: writeItems rest

/-- The members of an object with the commas between them. -/
def writeMembers : List (String × Json) → List Char
  | [] => []
  | [(key, value)] => stringText key ++ ':' :: write value
  | (key, value) :: rest => stringText key ++ ':' :: (write value ++ ',' :: writeMembers rest)

end

/-- The text of a value as a string. -/
def render (value : Json) : String :=
  String.ofList (write value)

end Json

end ServiceHost
