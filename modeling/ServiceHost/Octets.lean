/-!
# Octet sequences

Everything that arrives on a connection is a list of octets.  This file fixes that type, the
octets of an ASCII text, and unsigned integers in network order.
-/

namespace ServiceHost

/-- A finite sequence of octets. -/
abbrev Octets := List UInt8

namespace Octets

/-- The octets of an ASCII text, one for each character. -/
def ascii (text : String) : Octets :=
  text.toList.map fun c => c.toNat.toUInt8

/-- The number that octets in network order stand for. -/
def toNat (octets : Octets) : Nat :=
  octets.foldl (fun n b => n * 256 + b.toNat) 0

/-- The lowest `width` octets of a number, in network order. -/
def ofNat : Nat → Nat → Octets
  | 0, _ => []
  | width + 1, n => ofNat width (n / 256) ++ [(n % 256).toUInt8]

/-- The first `n` octets and the rest, when there are that many. -/
def splitExactly (n : Nat) (octets : Octets) : Option (Octets × Octets) :=
  if n ≤ octets.length then some (octets.take n, octets.drop n) else none

/-- An upper-case ASCII letter becomes its lower-case one, and every other octet stays. -/
def lowerOctet (b : UInt8) : UInt8 :=
  if 0x41 ≤ b ∧ b ≤ 0x5A then b + 0x20 else b

/-- ASCII letters in lower case. -/
def lower (octets : Octets) : Octets :=
  octets.map lowerOctet

/-- Whether an octet is an ASCII decimal digit. -/
def isDigit (b : UInt8) : Bool :=
  0x30 ≤ b && b ≤ 0x39

/-- Whether an octet is an ASCII letter. -/
def isLetter (b : UInt8) : Bool :=
  (0x41 ≤ b && b ≤ 0x5A) || (0x61 ≤ b && b ≤ 0x7A)

/-- The value of a hexadecimal digit in either case. -/
def hexValue? (b : UInt8) : Option UInt8 :=
  if 0x30 ≤ b ∧ b ≤ 0x39 then some (b - 0x30)
  else if 0x41 ≤ b ∧ b ≤ 0x46 then some (b - 0x37)
  else if 0x61 ≤ b ∧ b ≤ 0x66 then some (b - 0x57)
  else none

/-- The octets of a token, the grammar of method and header names: letters, digits and a few
marks. -/
def isTokenOctet (b : UInt8) : Bool :=
  isDigit b || isLetter b || (ascii "!#$%&'*+-.^_`|~").contains b

/-- The bits of octets, the highest of each first. -/
def bits (octets : Octets) : List Bool :=
  octets.flatMap fun b => [b &&& 0x80 != 0, b &&& 0x40 != 0, b &&& 0x20 != 0, b &&& 0x10 != 0,
    b &&& 0x08 != 0, b &&& 0x04 != 0, b &&& 0x02 != 0, b &&& 0x01 != 0]

theorem length_splitExactly {n : Nat} {octets front back : Octets}
    (h : splitExactly n octets = some (front, back)) :
    octets = front ++ back ∧ front.length = n := by
  unfold splitExactly at h
  split at h
  · next hn =>
    simp only [Option.some.injEq, Prod.mk.injEq] at h
    obtain ⟨rfl, rfl⟩ := h
    exact ⟨(List.take_append_drop _ _).symm, by simp [hn]⟩
  · simp at h

end Octets

end ServiceHost
