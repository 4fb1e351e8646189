import ServiceHost.Decimal.Integer
import ServiceHost.Json.Writer

/-!
# Socket addresses

An address of four octets or eight groups, and a port.  Octets have no leading zeros; the eight
groups may end with four octets, one run of zero groups may be left out, and a scope number may
follow.  `SocketAddress.text` writes the longest run of zero groups as two colons.
-/

namespace ServiceHost

/-- An internet address. -/
inductive HostAddress where
  /-- Four octets. -/
  | v4 (octets : List Nat)
  /-- Eight groups of 16 bits, and the scope, zero where there is none. -/
  | v6 (groups : List Nat) (scope : Nat)
  deriving DecidableEq, Repr

/-- An address and a port. -/
structure SocketAddress where
  host : HostAddress
  port : Nat
  deriving DecidableEq, Repr

namespace SocketAddress

/-- The value of a digit in a base up to 16. -/
def digitIn? (base : Nat) (c : Char) : Option Nat :=
  let n :=
    if c.isDigit then c.toNat - 0x30
    else if 'a' ≤ c ∧ c ≤ 'f' then c.toNat - 0x57
    else if 'A' ≤ c ∧ c ≤ 'F' then c.toNat - 0x37
    else base
  if n < base then some n else none

/-- A number below `limit` and what is behind it. -/
def takeNumber (base limit : Nat) (input : List Char) : Option (Nat × List Char) :=
  let (digits, rest) := input.span fun c => (digitIn? base c).isSome
  let n := digits.foldl (fun n c => n * base + (digitIn? base c).getD 0) 0
  if digits.isEmpty ∨ limit ≤ n then none else some (n, rest)

/-- An octet without leading zeros and what is behind it. -/
def takeOctet (input : List Char) : Option (Nat × List Char) :=
  match input with
  | '0' :: c :: _ => if c.isDigit then none else takeNumber 10 256 input
  | _ => takeNumber 10 256 input

/-- A dot and an octet. -/
def takeDotOctet : List Char → Option (Nat × List Char)
  | '.' :: rest => takeOctet rest
  | _ => none

/-- Four octets with dots between them. -/
def takeFour (input : List Char) : Option (List Nat × List Char) := do
  let (a, rest) ← takeOctet input
  let (b, rest) ← takeDotOctet rest
  let (c, rest) ← takeDotOctet rest
  let (d, rest) ← takeDotOctet rest
  return ([a, b, c, d], rest)

/-- A group of at most four hexadecimal digits. -/
def takeGroup (input : List Char) : Option (Nat × List Char) :=
  let digits := input.takeWhile fun c => (digitIn? 16 c).isSome
  if 4 < digits.length then none else takeNumber 16 0x10000 input

/-- The text behind a colon; in front of the first group there is none. -/
def afterColon? (isFirst : Bool) (input : List Char) : Option (List Char) :=
  match isFirst, input with
  | true, rest => some rest
  | false, ':' :: rest => some rest
  | false, _ => none

/-- At most `room` groups with colons between them: the groups, whether four octets ended them,
and what is left.  Four octets count as two groups. -/
def takeGroups (isFirst : Bool) : Nat → List Char → List Nat × Bool × List Char
  | 0, input => ([], false, input)
  | room + 1, input =>
    match (if 0 < room then (afterColon? isFirst input).bind takeFour else none) with
    | some ([a, b, c, d], rest) => ([a * 256 + b, c * 256 + d], true, rest)
    | _ =>
      match (afterColon? isFirst input).bind takeGroup with
      | none => ([], false, input)
      | some (group, rest) =>
        let (groups, embedded, rest) := takeGroups false room rest
        (group :: groups, embedded, rest)

/-- Eight groups, one run of which may be left out. -/
def takeEight (input : List Char) : Option (List Nat × List Char) :=
  match takeGroups true 8 input with
  | (front, embedded, rest) =>
    if front.length = 8 then some (front, rest)
    else if embedded then none
    else
      match rest with
      | ':' :: ':' :: rest =>
        let (back, _, rest) := takeGroups true (7 - front.length) rest
        some (front ++ List.replicate (8 - front.length - back.length) 0 ++ back, rest)
      | _ => none

/-- A colon and a port at the end. -/
def port? : List Char → Option Nat
  | ':' :: rest =>
    match takeNumber 10 0x10000 rest with
    | some (port, []) => some port
    | _ => none
  | _ => none

/-- A percent sign and a scope number, if they are there. -/
def takeScope (input : List Char) : Nat × List Char :=
  match input with
  | '%' :: rest => (takeNumber 10 0x100000000 rest).getD (0, input)
  | _ => (0, input)

/-- The socket address that a text stands for. -/
def parse? (text : String) : Option SocketAddress :=
  match text.toList with
  | '[' :: rest =>
    (takeEight rest).bind fun (groups, rest) =>
    let (scope, rest) := takeScope rest
    match rest with
    | ']' :: rest => (port? rest).map fun port => ⟨.v6 groups scope, port⟩
    | _ => none
  | input =>
    (takeFour input).bind fun (octets, rest) => (port? rest).map fun port => ⟨.v4 octets, port⟩

/-! ## Writing -/

/-- Four octets with dots between them. -/
def fourText (octets : List Nat) : List Char :=
  ['.'].intercalate (octets.map natText)

/-- Groups in hexadecimal with colons between them. -/
def groupsText (groups : List Nat) : List Char :=
  [':'].intercalate (groups.map (Nat.toDigits 16))

/-- Start and length of a run. -/
abbrev Run := Nat × Nat

/-- The first of the longest runs of zeros among groups from position `i` on, given the run that
ends before it and the longest one so far. -/
def longestZeros (i : Nat) (current longest : Run) : List Nat → Run
  | [] => longest
  | group :: rest =>
    if group = 0 then
      let current : Run := if current.2 = 0 then (i, 1) else (current.1, current.2 + 1)
      longestZeros (i + 1) current (if longest.2 < current.2 then current else longest) rest
    else longestZeros (i + 1) (0, 0) longest rest

/-- Eight groups; an address of four octets in disguise shows them. -/
def eightText (groups : List Nat) : List Char :=
  match groups with
  | [0, 0, 0, 0, 0, 0xFFFF, a, b] =>
    "::ffff:".toList ++ fourText [a / 256, a % 256, b / 256, b % 256]
  | groups =>
    let (start, length) := longestZeros 0 (0, 0) (0, 0) groups
    if 1 < length then
      groupsText (groups.take start) ++ [':', ':'] ++ groupsText (groups.drop (start + length))
    else groupsText groups

/-- The text of an address. -/
def text (address : SocketAddress) : String :=
  String.ofList <|
    (match address.host with
    | .v4 octets => fourText octets
    | .v6 groups scope =>
      '[' :: eightText groups ++ (if scope = 0 then [] else '%' :: natText scope) ++ [']']) ++
      ':' :: natText address.port

/-- The address under which this host itself reaches an address it listens on: one that stands
for all interfaces becomes the loopback address of its kind. -/
def loopback (address : SocketAddress) : SocketAddress :=
  match address.host with
  | .v4 octets =>
    if octets.all (· == 0) then { address with host := .v4 [127, 0, 0, 1] } else address
  | .v6 groups _ =>
    if groups.all (· == 0) then { address with host := .v6 [0, 0, 0, 0, 0, 0, 0, 1] 0 } else address

end SocketAddress

end ServiceHost
