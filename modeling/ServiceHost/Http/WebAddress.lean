import ServiceHost.Http.SocketAddress
import ServiceHost.Octets
import ServiceHost.Text.Percent

/-!
# Web addresses

An absolute address starts with a scheme.  The schemes of the web need a host and may have a port;
other schemes may have a host behind two slashes or none at all.  Anything may follow the host.
`WebAddress.isValid` says whether a text is such an address.  Hosts with letters beyond ASCII are
not looked into.
-/

namespace ServiceHost.WebAddress

/-- How addresses of a scheme are read. -/
inductive SchemeKind where
  /-- There must be a host. -/
  | web
  /-- There may be a host, without a port. -/
  | file
  /-- There may be a host. -/
  | other
  deriving DecidableEq, Repr

/-- The kind of a scheme. -/
def SchemeKind.of (scheme : String) : SchemeKind :=
  if ["http", "https", "ws", "wss", "ftp"].contains scheme then .web
  else if scheme = "file" then .file
  else .other

/-- Whether a backslash counts as a slash. -/
def SchemeKind.takesBackslash : SchemeKind → Bool
  | .other => false
  | _ => true

/-! ## Hosts -/

/-- The number that a part of a host stands for: decimal, octal or hexadecimal.  There is an inner
result when the part is a number at all, though none below 2 to the 32. -/
def hostNumber? (part : List Char) : Option (Option Nat) :=
  let valueIn (base : Nat) (digits : List Char) : Option (Option Nat) :=
    if digits.isEmpty then some (some 0)
    else if digits.all fun c => (SocketAddress.digitIn? base c).isSome then
      some ((SocketAddress.takeNumber base 0x100000000 digits).map (·.1))
    else none
  match part with
  | [] => none
  | '0' :: 'x' :: digits | '0' :: 'X' :: digits => valueIn 16 digits
  | '0' :: c :: digits => valueIn 8 (c :: digits)
  | digits => valueIn 10 digits

/-- The parts of a host between its dots, without an empty one at the end. -/
def hostParts (host : List Char) : List (List Char) :=
  let parts := host.splitOn '.'
  if parts.getLast? = some [] then parts.dropLast else parts

/-- Whether the last part of a host is a number. -/
def endsInNumber (host : List Char) : Bool :=
  match (hostParts host).getLast? with
  | none => false
  | some last => (!last.isEmpty && last.all Char.isDigit) || (hostNumber? last).isSome

/-- Whether a host that ends in a number is an address: at most four numbers, the last of which
fills the octets that the others leave. -/
def isFourNumbers (host : List Char) : Bool :=
  let parts := hostParts host
  match (parts.mapM fun part => (hostNumber? part).join) with
  | none => false
  | some numbers =>
    numbers.length ≤ 4 && numbers.dropLast.all (· ≤ 255) &&
      numbers.getLast?.all (· < Nat.pow 256 (5 - numbers.length))

/-- Whether a text is an address of eight groups, in which a run of any length may be left out. -/
def isEightGroups (text : List Char) : Bool :=
  match SocketAddress.takeGroups true 8 text with
  | (front, _, []) => front.length == 8
  | (front, embedded, ':' :: ':' :: rest) =>
    !embedded && front.length < 8 &&
      (SocketAddress.takeGroups true (8 - front.length) rest).2.2.isEmpty
  | _ => false

/-- The characters that no host has. -/
def forbiddenInHost : List Char :=
  [' ', '#', '/', ':', '<', '>', '?', '@', '[', '\\', ']', '^', '|']

/-- Whether a host in brackets is an address. -/
def isBracketed (host : List Char) : Bool :=
  host.getLast? == some ']' && isEightGroups (host.drop 1).dropLast

/-- Whether a text is a host of the web. -/
def isWebHost (host : List Char) : Bool :=
  if host.head? = some '[' then isBracketed host
  else
    let name := (Percent.decode (String.ofList host)).toList
    !name.isEmpty &&
      name.all (fun c => 0x20 < c.toNat && c.toNat != 0x7F && c.toNat != 0xFFFD && c != '%' &&
        !forbiddenInHost.contains c) &&
      (!endsInNumber name || isFourNumbers name)

/-- Whether a text is a host of another scheme. -/
def isOtherHost (host : List Char) : Bool :=
  if host.head? = some '[' then isBracketed host
  else host.all fun c => c.toNat != 0 && !forbiddenInHost.contains c

/-! ## Authorities -/

/-- Whether a character ends the part of an address that names the host. -/
def endsAuthority (kind : SchemeKind) (c : Char) : Bool :=
  c == '/' || c == '?' || c == '#' || (kind.takesBackslash && c == '\\')

/-- What stands behind the last at sign, and whether there is one behind something. -/
def afterUser (authority : List Char) : List Char × Bool :=
  let host := (authority.reverse.takeWhile (· != '@')).reverse
  (host, host.length + 1 < authority.length)

/-- The host up to a colon outside brackets, and the rest. -/
def takeHost (inBrackets : Bool) : List Char → List Char × List Char
  | [] => ([], [])
  | c :: rest =>
    if c = ':' ∧ !inBrackets then ([], c :: rest)
    else
      let (host, rest) := takeHost ((inBrackets || c == '[') && c != ']') rest
      (c :: host, rest)

/-- Whether what follows a host is nothing or a port. -/
def isPort : List Char → Bool
  | [] => true
  | ':' :: digits =>
    digits.isEmpty ||
      (digits.all Char.isDigit && (SocketAddress.takeNumber 10 0x10000 digits).isSome)
  | _ => false

/-- Whether a text is a user, a host and a port. -/
def isAuthority (kind : SchemeKind) (authority : List Char) : Bool :=
  let (afterAt, hasUser) := afterUser authority
  let (host, port) := takeHost false afterAt
  if host.isEmpty then
    kind == .other && !hasUser && port.isEmpty && !authority.contains '@'
  else (if kind = .web then isWebHost host else isOtherHost host) && isPort port

/-- Whether a text is a drive letter, which stands for no host. -/
def isDrive : List Char → Bool
  | [letter, mark] => letter.isAlpha && (mark == ':' || mark == '|')
  | _ => false

/-- Whether what stands between the slashes of a file is a host. -/
def isFileHost (host : List Char) : Bool :=
  host.isEmpty || isDrive host || isWebHost host

/-! ## Whole addresses -/

/-- The characters that are dropped wherever they stand. -/
def isDropped (c : Char) : Bool :=
  c == '\t' || c == '\n' || c == '\r'

/-- The characters that are dropped at both ends. -/
def isEdge (c : Char) : Bool :=
  c.toNat ≤ 0x20

/-- A text without the characters that mean nothing. -/
def trimmed (text : List Char) : List Char :=
  (((text.dropWhile isEdge).reverse.dropWhile isEdge).reverse).filter (!isDropped ·)

/-- Whether a character may stand in a scheme. -/
def isSchemeChar (c : Char) : Bool :=
  c.isAlphanum || c == '+' || c == '-' || c == '.'

/-- The scheme and what stands behind its colon. -/
def takeScheme? (text : List Char) : Option (String × List Char) :=
  match text.span isSchemeChar with
  | (c :: scheme, ':' :: rest) =>
    if c.isAlpha then some ((String.ofList (c :: scheme)).toLower, rest) else none
  | _ => none

/-- Whether a character is a slash of some kind. -/
def isSlash (c : Char) : Bool :=
  c == '/' || c == '\\'

/-- Whether what follows a scheme is in order. -/
def isRest (kind : SchemeKind) (rest : List Char) : Bool :=
  match kind with
  | .web => isAuthority .web ((rest.dropWhile isSlash).takeWhile (!endsAuthority .web ·))
  | .file =>
    if (rest.take 2).length = 2 ∧ (rest.take 2).all isSlash then
      isFileHost ((rest.drop 2).takeWhile (!endsAuthority .file ·))
    else true
  | .other =>
    if ['/', '/'].isPrefixOf rest then
      isAuthority .other ((rest.drop 2).takeWhile (!endsAuthority .other ·))
    else true

/-- Whether a text is an absolute address. -/
def isValid (text : String) : Bool :=
  match takeScheme? (trimmed text.toList) with
  | none => false
  | some (scheme, rest) => isRest (.of scheme) rest

end ServiceHost.WebAddress
