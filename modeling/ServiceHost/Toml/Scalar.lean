import ServiceHost.Decimal.Double
import ServiceHost.Decimal.Integer
import ServiceHost.Settings.Node

/-!
# Scalars of TOML

Strings in four notations, integers in four bases, floats, dates and times.  Each reader takes
its scalar off the front of the text and leaves the rest.
-/

namespace ServiceHost.Toml

/-- What is left behind something read. -/
abbrev Rest := List Char

/-- A blank inside a line. -/
def isBlank (c : Char) : Bool :=
  c == ' ' || c == '\t'

/-- The text behind blanks. -/
def skipBlanks (input : Rest) : Rest :=
  input.dropWhile isBlank

/-- The text behind a line end. -/
def afterNewline? : Rest → Option Rest
  | '\n' :: rest => some rest
  | '\r' :: '\n' :: rest => some rest
  | _ => none

/-- Whether a character may stand in a comment or a string: a tab, or no control character. -/
def isTextChar (c : Char) : Bool :=
  c == '\t' || (0x20 ≤ c.toNat && c.toNat != 0x7F)

/-! ## Strings -/

/-- The value of a hexadecimal digit. -/
def hexValue? (c : Char) : Option Nat :=
  if c.isDigit then some (c.toNat - 0x30)
  else if 'a' ≤ c ∧ c ≤ 'f' then some (c.toNat - 0x57)
  else if 'A' ≤ c ∧ c ≤ 'F' then some (c.toNat - 0x37)
  else none

/-- The character with a number in hexadecimal, if there is one. -/
def scalar? (digits : List Char) : Option Char :=
  (digits.foldlM (fun n c => (hexValue? c).map (n * 16 + ·)) 0).bind fun n =>
    if n.isValidChar then some (Char.ofNat n) else none

/-- The character of a short escape. -/
def shortEscape? : Char → Option Char
  | 'b' => some '\x08'
  | 't' => some '\t'
  | 'n' => some '\n'
  | 'f' => some '\x0c'
  | 'r' => some '\r'
  | '"' => some '"'
  | '\\' => some '\\'
  | _ => none

/-- A string and what is behind it. -/
abbrev Text := String × Rest

/-- The rest of a string in double quotes, behind the characters already read. -/
def takeBasic (done : List Char) : Rest → Option Text
  | '"' :: rest => some (String.ofList done.reverse, rest)
  | '\\' :: 'u' :: a :: b :: c :: d :: rest =>
    match scalar? [a, b, c, d] with
    | some ch => takeBasic (ch :: done) rest
    | none => none
  | '\\' :: 'U' :: a :: b :: c :: d :: e :: f :: g :: h :: rest =>
    match scalar? [a, b, c, d, e, f, g, h] with
    | some ch => takeBasic (ch :: done) rest
    | none => none
  | '\\' :: c :: rest =>
    match shortEscape? c with
    | some ch => takeBasic (ch :: done) rest
    | none => none
  | c :: rest => if isTextChar c ∧ c ≠ '\\' then takeBasic (c :: done) rest else none
  | [] => none

/-- The rest of a string in single quotes. -/
def takeLiteral (done : List Char) : Rest → Option Text
  | '\'' :: rest => some (String.ofList done.reverse, rest)
  | c :: rest => if isTextChar c then takeLiteral (c :: done) rest else none
  | [] => none

/-- The rest of a string over several lines in three double quotes.  A backslash at the end of a
line leaves out the line end and all blanks and line ends behind it; `skipping` says that this
is going on.  Up to two quotes may stand in front of the closing ones. -/
def takeBasicLines (skipping : Bool) (done : List Char) : Rest → Option Text
  | '"' :: '"' :: '"' :: '"' :: '"' :: rest =>
    some (String.ofList ('"' :: '"' :: done).reverse, rest)
  | '"' :: '"' :: '"' :: '"' :: rest => some (String.ofList ('"' :: done).reverse, rest)
  | '"' :: '"' :: '"' :: rest => some (String.ofList done.reverse, rest)
  | '\\' :: 'u' :: a :: b :: c :: d :: rest =>
    match scalar? [a, b, c, d] with
    | some ch => takeBasicLines false (ch :: done) rest
    | none => none
  | '\\' :: 'U' :: a :: b :: c :: d :: e :: f :: g :: h :: rest =>
    match scalar? [a, b, c, d, e, f, g, h] with
    | some ch => takeBasicLines false (ch :: done) rest
    | none => none
  | '\\' :: c :: rest =>
    match shortEscape? c with
    | some ch => takeBasicLines false (ch :: done) rest
    | none =>
      if (afterNewline? (skipBlanks (c :: rest))).isSome then takeBasicLines true done rest
      else none
  | '\r' :: '\n' :: rest =>
    if skipping then takeBasicLines true done rest else takeBasicLines false ('\n' :: done) rest
  | c :: rest =>
    if c = '\n' then takeBasicLines skipping (if skipping then done else '\n' :: done) rest
    else if skipping ∧ isBlank c then takeBasicLines true done rest
    else if isTextChar c ∧ c ≠ '\\' then takeBasicLines false (c :: done) rest
    else none
  | [] => none

/-- The rest of a string over several lines in three single quotes. -/
def takeLiteralLines (done : List Char) : Rest → Option Text
  | '\'' :: '\'' :: '\'' :: '\'' :: '\'' :: rest =>
    some (String.ofList ('\'' :: '\'' :: done).reverse, rest)
  | '\'' :: '\'' :: '\'' :: '\'' :: rest => some (String.ofList ('\'' :: done).reverse, rest)
  | '\'' :: '\'' :: '\'' :: rest => some (String.ofList done.reverse, rest)
  | '\r' :: '\n' :: rest => takeLiteralLines ('\n' :: done) rest
  | c :: rest => if isTextChar c ∨ c = '\n' then takeLiteralLines (c :: done) rest else none
  | [] => none

/-- A string over several lines leaves out a line end right behind its opening quotes. -/
def dropFirstNewline (input : Rest) : Rest :=
  (afterNewline? input).getD input

/-! ## Numbers -/

/-- The digits behind the first one of a number, each of which an underscore may precede. -/
def takeMoreDigits (isOne : Char → Bool) (done : List Char) : Rest → Option (List Char × Rest)
  | '_' :: c :: rest => if isOne c then takeMoreDigits isOne (c :: done) rest else none
  | c :: rest =>
    if isOne c then takeMoreDigits isOne (c :: done) rest
    else if c = '_' then none
    else some (done.reverse, c :: rest)
  | [] => some (done.reverse, [])

/-- One or more digits with underscores between them. -/
def takeDigits (isOne : Char → Bool) : Rest → Option (List Char × Rest)
  | c :: rest => if isOne c then takeMoreDigits isOne [c] rest else none
  | [] => none

/-- A sign, if there is one: whether it is a minus. -/
def takeSign : Rest → Bool × Rest
  | '-' :: rest => (true, rest)
  | '+' :: rest => (false, rest)
  | input => (false, input)

/-- Decimal digits without leading zeros. -/
def takeWhole (input : Rest) : Option (List Char × Rest) :=
  match input with
  | '0' :: rest => some (['0'], rest)
  | _ => takeDigits Char.isDigit input

/-- The number of digits in a base. -/
def numberIn (base : Nat) (digits : List Char) : Nat :=
  digits.foldl (fun n c => n * base + (hexValue? c).getD 0) 0

/-- An integer in a base, within 63 bits and a sign. -/
def boundedInteger (negative : Bool) (n : Nat) : Option Node :=
  let value : Int := if negative then -n else n
  if -0x8000000000000000 ≤ value ∧ value < 0x8000000000000000 then some (.integer value) else none

/-- An integer. -/
def takeInteger (input : Rest) : Option (Node × Rest) :=
  let inBase (base : Nat) (isOne : Char → Bool) (rest : Rest) : Option (Node × Rest) :=
    (takeDigits isOne rest).bind fun (digits, rest) =>
    (boundedInteger false (numberIn base digits)).map (·, rest)
  match input with
  | '0' :: 'x' :: rest => inBase 16 (fun c => (hexValue? c).isSome) rest
  | '0' :: 'o' :: rest => inBase 8 (fun c => '0' ≤ c && c ≤ '7') rest
  | '0' :: 'b' :: rest => inBase 2 (fun c => c == '0' || c == '1') rest
  | _ =>
    let (negative, rest) := takeSign input
    (takeWhole rest).bind fun (digits, rest) =>
    (boundedInteger negative (numberIn 10 digits)).map (·, rest)

/-- The exponent of a float: its sign and digits. -/
def takeExponent : Rest → Option ((Bool × List Char) × Rest)
  | c :: rest =>
    if c = 'e' ∨ c = 'E' then
      let (negative, rest) := takeSign rest
      (takeDigits Char.isDigit rest).map fun (digits, rest) => ((negative, digits), rest)
    else none
  | [] => none

/-- The fraction of a float. -/
def takeFraction : Rest → Option (List Char × Rest)
  | '.' :: rest => takeDigits Char.isDigit rest
  | _ => none

/-- Whether `digits · 10 ^ power` lies beyond all doubles. -/
def beyondDoubles (digits : List Char) (power : Int) : Bool :=
  let digits := digits.dropWhile (· == '0')
  let size := digits.length + power
  if digits.isEmpty || size < 300 then false
  else if 320 < size then true
  else
    let (n, d) := Magnitude.scaled (numberIn 10 digits) 10 power
    (Magnitude.nearest? n d).isNone

/-- A float of digits, a fraction and an exponent; a positive one must not lie beyond all
doubles. -/
def floatNode (negative : Bool) (whole fraction : List Char) (exponent : Bool × List Char) :
    Option Node :=
  let n : Int := numberIn 10 exponent.2
  let power := (if exponent.1 then -n else n) - fraction.length
  if !negative && beyondDoubles (whole ++ fraction) power then none else some .real

/-- A float: a fraction, an exponent, or both. -/
def takeFloat (input : Rest) : Option (Node × Rest) :=
  let (negative, rest) := takeSign input
  (takeWhole rest).bind fun (whole, rest) =>
  match rest with
  | '.' :: _ =>
    (takeFraction rest).bind fun (fraction, rest) =>
    match rest with
    | 'e' :: _ | 'E' :: _ =>
      (takeExponent rest).bind fun (exponent, rest) =>
      (floatNode negative whole fraction exponent).map (·, rest)
    | _ => (floatNode negative whole fraction (false, [])).map (·, rest)
  | _ =>
    (takeExponent rest).bind fun (exponent, rest) =>
    (floatNode negative whole [] exponent).map (·, rest)

/-- A float that is written as a word. -/
def takeSpecialFloat (input : Rest) : Option (Node × Rest) :=
  match (takeSign input).2 with
  | 'i' :: 'n' :: 'f' :: rest | 'n' :: 'a' :: 'n' :: rest => some (.real, rest)
  | _ => none

/-! ## Dates and times -/

/-- A number of exactly `count` digits within bounds. -/
def takeFixed (count least greatest : Nat) (input : Rest) : Option (Nat × Rest) :=
  let digits := input.take count
  if digits.length = count ∧ digits.all Char.isDigit then
    let n := numberIn 10 digits
    if least ≤ n ∧ n ≤ greatest then some (n, input.drop count) else none
  else none

/-- A given character. -/
def takeChar (c : Char) : Rest → Option Rest
  | d :: rest => if c = d then some rest else none
  | [] => none

/-- How many days a month has. -/
def daysIn (year month : Nat) : Nat :=
  if month = 2 then
    if year % 4 = 0 ∧ (year % 100 ≠ 0 ∨ year % 400 = 0) then 29 else 28
  else if [4, 6, 9, 11].contains month then 30
  else 31

/-- A date. -/
def afterDate? (input : Rest) : Option Rest := do
  let (year, rest) ← takeFixed 4 0 9999 input
  let rest ← takeChar '-' rest
  let (month, rest) ← takeFixed 2 1 12 rest
  let rest ← takeChar '-' rest
  let (_, rest) ← takeFixed 2 1 (daysIn year month) rest
  return rest

/-- A time of day with its seconds, and their fraction if one is written. -/
def afterTime? (input : Rest) : Option Rest := do
  let (_, rest) ← takeFixed 2 0 23 input
  let rest ← takeChar ':' rest
  let (_, rest) ← takeFixed 2 0 59 rest
  let rest ← takeChar ':' rest
  let (_, rest) ← takeFixed 2 0 60 rest
  match rest with
  | '.' :: c :: more => if c.isDigit then return more.dropWhile Char.isDigit else return rest
  | _ => return rest

/-- The offset of a time from universal time, if one is written. -/
def afterOffset? : Rest → Option Rest
  | 'Z' :: rest | 'z' :: rest => some rest
  | input@(c :: rest) =>
    if c = '+' ∨ c = '-' then do
      let (_, rest) ← takeFixed 2 0 23 rest
      let rest ← takeChar ':' rest
      let (_, rest) ← takeFixed 2 0 59 rest
      return rest
    else some input
  | [] => some []

/-- A date, a time, or a date and a time with or without an offset. -/
def takeMoment (input : Rest) : Option (Node × Rest) :=
  match afterDate? input with
  | some rest =>
    match rest with
    | c :: more =>
      if c = 'T' ∨ c = 't' ∨ c = ' ' then
        match afterTime? more with
        | some rest => (afterOffset? rest).map (.moment, ·)
        | none => some (.moment, rest)
      else some (.moment, rest)
    | [] => some (.moment, [])
  | none => (afterTime? input).map (.moment, ·)

/-- A number, a date or a time. -/
def takeNumeric (input : Rest) : Option (Node × Rest) :=
  (takeMoment input).orElse fun _ =>
  (takeFloat input).orElse fun _ =>
  (takeSpecialFloat input).orElse fun _ => takeInteger input

end ServiceHost.Toml
