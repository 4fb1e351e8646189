import ServiceHost.Octets

/-!
# UTF-8

A character is written as one to four octets.  Reading is either strict, where one malformed
octet refuses the whole sequence, or lossy, where each maximal malformed part becomes one
replacement character U+FFFD.  Both read one character at a time with `Utf8.next`, which always
leaves fewer octets than it was given.
-/

namespace ServiceHost.Utf8

/-- The octets of one character. -/
def encodeChar (c : Char) : Octets :=
  let n := c.toNat
  if n < 0x80 then [n.toUInt8]
  else if n < 0x800 then [(0xC0 + n / 0x40).toUInt8, (0x80 + n % 0x40).toUInt8]
  else if n < 0x10000 then
    [(0xE0 + n / 0x1000).toUInt8, (0x80 + n / 0x40 % 0x40).toUInt8, (0x80 + n % 0x40).toUInt8]
  else
    [(0xF0 + n / 0x40000).toUInt8, (0x80 + n / 0x1000 % 0x40).toUInt8,
      (0x80 + n / 0x40 % 0x40).toUInt8, (0x80 + n % 0x40).toUInt8]

/-- The octets of a text. -/
def encode (text : List Char) : Octets :=
  text.flatMap encodeChar

/-- The octets of a string. -/
def ofString (text : String) : Octets :=
  encode text.toList

/-- What the first octet of a character says about the rest of it. -/
structure Lead where
  /-- The bits of the scalar value that the first octet holds. -/
  bits : Nat
  /-- How many octets follow. -/
  more : Nat
  /-- The least second octet. -/
  least : UInt8 := 0x80
  /-- The greatest second octet. -/
  greatest : UInt8 := 0xBF

/-- The lead of a character that starts with `b`; no character starts with any other octet. -/
def lead? (b : UInt8) : Option Lead :=
  if b < 0x80 then some { bits := b.toNat, more := 0 }
  else if b < 0xC2 then none
  else if b < 0xE0 then some { bits := b.toNat - 0xC0, more := 1 }
  else if b = 0xE0 then some { bits := 0, more := 2, least := 0xA0 }
  else if b = 0xED then some { bits := 0xD, more := 2, greatest := 0x9F }
  else if b < 0xF0 then some { bits := b.toNat - 0xE0, more := 2 }
  else if b = 0xF0 then some { bits := 0, more := 3, least := 0x90 }
  else if b < 0xF4 then some { bits := b.toNat - 0xF0, more := 3 }
  else if b = 0xF4 then some { bits := 4, more := 3, greatest := 0x8F }
  else none

/-- Read `more` continuation octets, the first of them within bounds of its own.  The result is
the scalar value, or none where an octet does not continue it, and what is left. -/
def continuation (value : Nat) : Nat → UInt8 → UInt8 → Octets → Option Nat × Octets
  | 0, _, _, rest => (some value, rest)
  | _ + 1, _, _, [] => (none, [])
  | more + 1, least, greatest, b :: rest =>
    if least ≤ b ∧ b ≤ greatest then
      continuation (value * 0x40 + b.toNat % 0x40) more 0x80 0xBF rest
    else (none, b :: rest)

theorem length_continuation (value more : Nat) (least greatest : UInt8) (rest : Octets) :
    (continuation value more least greatest rest).2.length ≤ rest.length := by
  induction more generalizing value least greatest rest with
  | zero => simp [continuation]
  | succ more ih =>
    cases rest with
    | nil => simp [continuation]
    | cons b rest =>
      simp only [continuation]
      split
      · exact Nat.le_trans (ih ..) (by simp)
      · simp

/-- The first character of `b :: rest`, or none for a maximal malformed part, and what is left. -/
def next (b : UInt8) (rest : Octets) : Option Char × Octets :=
  match lead? b with
  | none => (none, rest)
  | some l =>
    let (value, left) := continuation l.bits l.more l.least l.greatest rest
    (value.map Char.ofNat, left)

theorem length_next (b : UInt8) (rest : Octets) : (next b rest).2.length ≤ rest.length := by
  unfold next
  split
  · simp
  · exact length_continuation ..

/-- Lossy reading in front of the characters already read, which stand in reverse. -/
def decodeLossyOnto (done : List Char) : Octets → List Char
  | [] => done.reverse
  | b :: rest => decodeLossyOnto ((next b rest).1.getD '\uFFFD' :: done) (next b rest).2
termination_by octets => octets.length
decreasing_by exact Nat.lt_succ_of_le (length_next b rest)

/-- The characters of octets, with U+FFFD for each maximal malformed part. -/
def decodeLossy (octets : Octets) : List Char :=
  decodeLossyOnto [] octets

/-- Strict reading in front of the characters already read, which stand in reverse. -/
def decodeOnto? (done : List Char) : Octets → Option (List Char)
  | [] => some done.reverse
  | b :: rest =>
    match (next b rest).1 with
    | none => none
    | some c => decodeOnto? (c :: done) (next b rest).2
termination_by octets => octets.length
decreasing_by exact Nat.lt_succ_of_le (length_next b rest)

/-- The characters of octets, when they are well formed throughout. -/
def decode? (octets : Octets) : Option (List Char) :=
  decodeOnto? [] octets

/-- The text of octets, with U+FFFD for each maximal malformed part. -/
def toText (octets : Octets) : String :=
  String.ofList (decodeLossy octets)

end ServiceHost.Utf8
