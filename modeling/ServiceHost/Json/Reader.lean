import ServiceHost.Json.Basic
import ServiceHost.Text.Utf8

/-!
# Reading JSON

`Json.read?` reads one whole document and refuses everything else: text behind it, more than
127 nested arrays and objects, control characters in strings, lone surrogates, and numbers
beyond the largest double.

A number without fraction and exponent is an integer while it fits 64 bits.  Any other number
becomes a double in two roundings: the digits, as far as they fit 64 bits, are rounded first and
then scaled by a power of ten.
-/

namespace ServiceHost.Json

/-- What is left behind something read. -/
abbrev Rest := List Char

/-- Whether a character may stand between the parts of a document. -/
def isBlank (c : Char) : Bool :=
  c == ' ' || c == '\n' || c == '\r' || c == '\t'

/-- The text behind the blanks in front of it. -/
def skipBlanks (input : Rest) : Rest :=
  input.dropWhile isBlank

/-- The value of a hexadecimal digit in either case. -/
def hexDigit? (c : Char) : Option Nat :=
  if '0' ≤ c ∧ c ≤ '9' then some (c.toNat - 0x30)
  else if 'a' ≤ c ∧ c ≤ 'f' then some (c.toNat - 0x57)
  else if 'A' ≤ c ∧ c ≤ 'F' then some (c.toNat - 0x37)
  else none

/-- The number that four hexadecimal digits stand for. -/
def fourHex? (a b c d : Char) : Option Nat := do
  return (((← hexDigit? a) * 16 + (← hexDigit? b)) * 16 + (← hexDigit? c)) * 16 + (← hexDigit? d)

/-- The character of a short escape. -/
def shortEscape? : Char → Option Char
  | '"' => some '"'
  | '\\' => some '\\'
  | '/' => some '/'
  | 'b' => some '\x08'
  | 'f' => some '\x0c'
  | 'n' => some '\n'
  | 'r' => some '\r'
  | 't' => some '\t'
  | _ => none

/-- The character of two surrogates. -/
def surrogatePair? (high low : Nat) : Option Char :=
  if 0xDC00 ≤ low ∧ low < 0xE000 then
    some (Char.ofNat (0x10000 + (high - 0xD800) * 0x400 + (low - 0xDC00)))
  else none

/-- The rest of a string behind the characters already read, which stand in reverse. -/
def takeString (done : List Char) : Rest → Option (String × Rest)
  | [] => none
  | '"' :: rest => some (String.ofList done.reverse, rest)
  | '\\' :: 'u' :: a :: b :: c :: d :: rest =>
    match fourHex? a b c d with
    | none => none
    | some n =>
      if n < 0xD800 ∨ 0xE000 ≤ n then takeString (Char.ofNat n :: done) rest
      else if 0xDC00 ≤ n then none
      else
        match rest with
        | '\\' :: 'u' :: a :: b :: c :: d :: rest =>
          match (fourHex? a b c d).bind (surrogatePair? n) with
          | none => none
          | some ch => takeString (ch :: done) rest
        | _ => none
  | '\\' :: c :: rest =>
    match shortEscape? c with
    | none => none
    | some ch => takeString (ch :: done) rest
  | c :: rest => if c.toNat < 0x20 ∨ c = '\\' then none else takeString (c :: done) rest

/-! ## Numbers -/

/-- The largest number of 64 bits. -/
def maxDigits : Nat := 0xFFFFFFFFFFFFFFFF

/-- The value of a digit. -/
def digitValue (c : Char) : Nat := c.toNat - 0x30

/-- Add digits to a number while it fits 64 bits: the number and the digits left over. -/
def absorb (n : Nat) : List Char → Nat × List Char
  | [] => (n, [])
  | c :: rest =>
    if n * 10 + digitValue c ≤ maxDigits then absorb (n * 10 + digitValue c) rest
    else (n, c :: rest)

/-- Scale a double by a power of ten, or none if that is out of range.  Powers beyond `10 ^ 308`
are divided out step by step. -/
def scale? (f : Magnitude) (power : Int) : Option Magnitude :=
  if 308 < power then if f.isZero then some f else none
  else if -308 ≤ power then
    (Magnitude.nearest? (Nat.pow 10 power.natAbs) 1).bind fun ten =>
      if 0 ≤ power then f.mul? ten else f.div? ten
  else if f.isZero then some f
  else
    (Magnitude.nearest? (Nat.pow 10 308) 1).bind fun ten =>
    (f.div? ten).bind fun f => scale? f (power + 308)
termination_by power.natAbs
decreasing_by omega

/-- The double of digits and a power of ten. -/
def double? (negative : Bool) (digits : Nat) (power : Int) : Option Number :=
  (Magnitude.nearest? digits 1).bind fun f =>
  (scale? f power).map fun magnitude => .double ⟨negative, magnitude⟩

/-- Whether an exponent has a minus sign, and the text behind its sign. -/
def takeSign : Rest → Bool × Rest
  | '+' :: rest => (false, rest)
  | '-' :: rest => (true, rest)
  | input => (false, input)

/-- The exponent behind its letter, and what is left. -/
def takeExponent (input : Rest) : Option (Int × Rest) :=
  let (negative, input) := takeSign input
  let (digits, rest) := input.span Char.isDigit
  if digits.isEmpty then none
  else
    let n : Int := digits.foldl (fun n c => n * 10 + digitValue c) 0
    some (if negative then -n else n, rest)

/-- The end of a number: its exponent, if one is written. -/
def finish (negative : Bool) (digits : Nat) (power : Int) (input : Rest) :
    Option (Number × Rest) :=
  match input with
  | 'e' :: rest | 'E' :: rest =>
    (takeExponent rest).bind fun (exponent, rest) =>
    (double? negative digits (power + exponent)).map (·, rest)
  | input => (double? negative digits power).map (·, input)

/-- The number of digits without fraction and exponent, `excess` of them beyond 64 bits. -/
def wholeNumber? (negative : Bool) (digits excess : Nat) : Option Number :=
  if excess = 0 then
    if !negative then some (.int digits)
    else if 0 < digits ∧ digits ≤ 0x8000000000000000 then some (.int (-digits))
    else double? true digits 0
  else double? negative digits excess

/-- A number behind its sign. -/
def takeNumber (negative : Bool) (input : Rest) : Option (Number × Rest) :=
  let (whole, rest) := input.span Char.isDigit
  if whole.isEmpty ∨ (1 < whole.length ∧ whole.head? = some '0') then none
  else
    let (digits, excess) := absorb 0 whole
    let power : Int := excess.length
    match rest with
    | '.' :: rest =>
      let (fraction, rest) := rest.span Char.isDigit
      if fraction.isEmpty then none
      else
        let (digits, dropped) := absorb digits fraction
        finish negative digits (power - (fraction.length - dropped.length : Nat)) rest
    | 'e' :: _ | 'E' :: _ => finish negative digits power rest
    | rest => (wholeNumber? negative digits excess.length).map (·, rest)

/-! ## Values -/

/-- A value without parts. -/
def takeScalar : Rest → Option (Json × Rest)
  | 'n' :: 'u' :: 'l' :: 'l' :: rest => some (null, rest)
  | 't' :: 'r' :: 'u' :: 'e' :: rest => some (bool true, rest)
  | 'f' :: 'a' :: 'l' :: 's' :: 'e' :: rest => some (bool false, rest)
  | '"' :: rest => (takeString [] rest).map fun (text, rest) => (string text, rest)
  | '-' :: rest => (takeNumber true rest).map fun (n, rest) => (number n, rest)
  | input => (takeNumber false input).map fun (n, rest) => (number n, rest)

/-- The key of a member and the colon behind it. -/
def takeKey (input : Rest) : Option (String × Rest) :=
  match skipBlanks input with
  | '"' :: rest =>
    (takeString [] rest).bind fun (key, rest) =>
    match skipBlanks rest with
    | ':' :: rest => some (key, rest)
    | _ => none
  | _ => none

mutual

/-- A value with at most `room` levels of arrays and objects. -/
def takeValue : (fuel : Nat) → (room : Nat) → Rest → Option (Json × Rest)
  | 0, _, _ => none
  | fuel + 1, room, input =>
    match skipBlanks input with
    | '[' :: rest =>
      if room = 0 then none
      else
        match skipBlanks rest with
        | ']' :: rest => some (array [], rest)
        | rest => takeItems fuel (room - 1) [] rest
    | '{' :: rest =>
      if room = 0 then none
      else
        match skipBlanks rest with
        | '}' :: rest => some (object [], rest)
        | rest => takeMembers fuel (room - 1) [] rest
    | input => takeScalar input

/-- The rest of an array behind the items already read, which stand in reverse. -/
def takeItems : (fuel : Nat) → (room : Nat) → List Json → Rest → Option (Json × Rest)
  | 0, _, _, _ => none
  | fuel + 1, room, done, input =>
    match takeValue fuel room input with
    | none => none
    | some (item, rest) =>
      match skipBlanks rest with
      | ',' :: rest => takeItems fuel room (item :: done) rest
      | ']' :: rest => some (array (item :: done).reverse, rest)
      | _ => none

/-- The rest of an object behind the members already read; a later member replaces an earlier
one with its key. -/
def takeMembers : (fuel : Nat) → (room : Nat) → Members → Rest → Option (Json × Rest)
  | 0, _, _, _ => none
  | fuel + 1, room, done, input =>
    match takeKey input with
    | none => none
    | some (key, rest) =>
      match takeValue fuel room rest with
      | none => none
      | some (value, rest) =>
        match skipBlanks rest with
        | ',' :: rest => takeMembers fuel room (done.insert key value) rest
        | '}' :: rest => some (object (done.insert key value), rest)
        | _ => none

end

/-- The deepest nesting of arrays and objects that is read. -/
def maxDepth : Nat := 127

/-- The value of a text that is one whole document. -/
def readChars? (input : List Char) : Option Json :=
  match takeValue (2 * input.length + 2) maxDepth input with
  | some (value, rest) => if (skipBlanks rest).isEmpty then some value else none
  | none => none

/-- The value of octets that are one whole document in UTF-8. -/
def read? (octets : Octets) : Option Json :=
  (Utf8.decode? octets).bind readChars?

/-- The value of a string that is one whole document. -/
def ofString? (text : String) : Option Json :=
  readChars? text.toList

end ServiceHost.Json
