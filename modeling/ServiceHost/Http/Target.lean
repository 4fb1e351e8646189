import ServiceHost.Octets
import ServiceHost.Text.Split
import ServiceHost.Text.Utf8

/-!
# Request targets

What a request asks for: a path and a query, in the absolute form behind a scheme and an
authority.  The target of a request for a whole host is an authority alone, and `*` stands for
the server itself.  A fragment is dropped.  `Target.parse?` reads a target, and `Target.below?`
makes it relative to a path under which something is mounted.
-/

namespace ServiceHost

/-- A request target. -/
structure Target where
  /-- The scheme, in the absolute form. -/
  scheme : Option String := none
  /-- The authority, in the absolute and authority forms. -/
  authority : Option String := none
  /-- The path; empty only in the authority form. -/
  path : String
  /-- The query, without its question mark. -/
  query : Option String := none
  deriving DecidableEq, Repr

namespace Target

/-- The longest target. -/
def maxLength : Nat := 65534

/-! ## Path and query -/

/-- The octets of a path: visible ASCII without marks that end a path or delimit a target, and
everything beyond ASCII. -/
def isPathOctet (b : UInt8) : Bool :=
  b == 0x21 || b == 0x22 || (0x24 ≤ b && b ≤ 0x3B) || b == 0x3D || (0x40 ≤ b && b ≤ 0x5F) ||
    (0x61 ≤ b && b ≤ 0x7E) || 0x80 ≤ b

/-- The octets of a query. -/
def isQueryOctet (b : UInt8) : Bool :=
  b == 0x21 || (0x24 ≤ b && b ≤ 0x3B) || b == 0x3D || (0x3F ≤ b && b ≤ 0x7E) || 0x80 ≤ b

/-- Whether octets are what may follow a path and query: nothing, or a fragment. -/
def isFragment (octets : Octets) : Bool :=
  octets.head?.all (· == 0x23)

/-- A path, and a query behind a question mark. -/
def takeQuery (octets : Octets) : Option (Octets × Option Octets) :=
  match octets.span isPathOctet with
  | (path, 0x3F :: rest) =>
    let (query, rest) := rest.span isQueryOctet
    if isFragment rest then some (path, some query) else none
  | (path, rest) => if isFragment rest then some (path, none) else none

/-- Octets as text. -/
def text? (octets : Octets) : Option String :=
  (Utf8.decode? octets).map String.ofList

/-- Text that may be absent. -/
def optionalText? : Option Octets → Option (Option String)
  | none => some none
  | some octets => (text? octets).map some

/-- A target from its path and query on; an empty path is the root. -/
def ofPath? (scheme authority : Option String) (octets : Octets) : Option Target :=
  (takeQuery octets).bind fun (path, query) =>
  (text? path).bind fun path =>
  (optionalText? query).map fun query =>
  { scheme, authority, path := if path.isEmpty then "/" else path, query }

/-! ## Scheme and authority -/

/-- The octets of a scheme. -/
def isSchemeOctet (b : UInt8) : Bool :=
  Octets.isDigit b || Octets.isLetter b || (Octets.ascii "+-.~").contains b

/-- The longest scheme. -/
def maxSchemeLength : Nat := 64

/-- What separates a scheme from the authority. -/
def schemeMark : Octets := Octets.ascii "://"

/-- The scheme and what follows its mark; a target need not have one. -/
def takeScheme (octets : Octets) : Option (Option Octets × Octets) :=
  let (scheme, rest) := octets.span isSchemeOctet
  if schemeMark.isPrefixOf rest && 3 < octets.length then
    if scheme.length ≤ maxSchemeLength then some (some scheme, rest.drop 3) else none
  else some (none, octets)

/-- The octets of an authority, apart from the per cent sign. -/
def isAuthorityOctet (b : UInt8) : Bool :=
  Octets.isDigit b || Octets.isLetter b || (Octets.ascii "!$&'()*+,-.:;=@[]_~").contains b

/-- What has been seen of an authority. -/
structure AuthorityScan where
  /-- The colons since the last bracket or at sign. -/
  colons : Nat := 0
  opened : Bool := false
  closed : Bool := false
  /-- Whether there was a per cent sign since the last bracket or at sign. -/
  percent : Bool := false
  /-- Whether the last octet was an at sign. -/
  atSign : Bool := false

namespace AuthorityScan

/-- Go on by one octet. -/
def next? (scan : AuthorityScan) (b : UInt8) : Option AuthorityScan :=
  let scan := { scan with atSign := b == 0x40 }
  if b = 0x3A then
    if scan.colons < 8 then some { scan with colons := scan.colons + 1 } else none
  else if b = 0x5B then
    if scan.percent || scan.opened then none else some { scan with opened := true }
  else if b = 0x5D then
    if !scan.opened || scan.closed then none
    else some { scan with closed := true, colons := 0, percent := false }
  else if b = 0x40 then some { scan with colons := 0, percent := false }
  else if b = 0x25 then some { scan with percent := true }
  else if isAuthorityOctet b then some scan
  else none

/-- Whether an authority may end here. -/
def isComplete (scan : AuthorityScan) : Bool :=
  scan.opened == scan.closed && scan.colons ≤ 1 && !scan.atSign && !scan.percent

end AuthorityScan

/-- Whether an octet ends an authority. -/
def endsAuthority (b : UInt8) : Bool :=
  b == 0x2F || b == 0x3F || b == 0x23

/-- An authority and the rest: user information, a host in brackets or not, and a port. -/
def takeAuthority (octets : Octets) : Option (Octets × Octets) :=
  let (authority, rest) := octets.span fun b => !endsAuthority b
  match authority.foldlM AuthorityScan.next? {} with
  | some scan => if scan.isComplete then some (authority, rest) else none
  | none => none

/-! ## Whole targets -/

/-- Any target that does not start with a slash. -/
def parseOther? (octets : Octets) : Option Target :=
  (takeScheme octets).bind fun (scheme, rest) =>
  (takeAuthority rest).bind fun (authority, rest) =>
  match scheme with
  | some scheme =>
    if authority.isEmpty then none
    else ofPath? (text? scheme) (text? authority) rest
  | none =>
    if rest.isEmpty then some { authority := text? authority, path := "" } else none

/-- The target that octets stand for. -/
def parse? (octets : Octets) : Option Target :=
  if octets.isEmpty || maxLength < octets.length then none
  else if octets = Octets.ascii "*" then some { path := "*" }
  else if octets.head? = some 0x2F then ofPath? none none octets
  else parseOther? octets

/-- A target as text. -/
def render (target : Target) : String :=
  ((target.scheme.map (· ++ "://")).getD "") ++ target.authority.getD "" ++ target.path ++
    ((target.query.map ("?" ++ ·)).getD "")

/-- The path below a path under which something is mounted; there is none when the path only
starts with the same letters. -/
def pathBelow? (mountPath path : String) : Option String :=
  (dropLeading? mountPath path).bind fun rest =>
  if rest.toList.head? = some '/' then some rest
  else if rest.isEmpty then some "/"
  else none

/-- The target as seen from a path under which something is mounted: the path below it and the
query, read as a target of their own. -/
def below? (mountPath : String) (target : Target) : Option Target :=
  (pathBelow? mountPath target.path).bind fun path =>
  parse? (Utf8.ofString (render { path, query := target.query }))

end Target

end ServiceHost
