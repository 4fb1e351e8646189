import ServiceHost.Octets

/-!
# The string code of header compression

Header compression may write a string in a fixed prefix code over the 256 octets and one end
mark.  The code is canonical: codes of one length are consecutive numbers in the order of their
symbols, and longer codes follow on, so the lengths alone determine it.  A coded string ends
with fewer than eight one bits of padding; the end mark itself never stands in a string.
-/

namespace ServiceHost.Huffman

/-- The code lengths of the octets 0 to 255 and, last, of the end mark. -/
def codeLengths : List Nat :=
  [13, 23, 28, 28, 28, 28, 28, 28, 28, 24, 30, 28, 28, 30, 28, 28,
   28, 28, 28, 28, 28, 28, 30, 28, 28, 28, 28, 28, 28, 28, 28, 28,
   6, 10, 10, 12, 13, 6, 8, 11, 10, 10, 8, 11, 8, 6, 6, 6,
   5, 5, 5, 6, 6, 6, 6, 6, 6, 6, 7, 8, 15, 6, 12, 10,
   13, 6, 7, 7, 7, 7, 7, 7, 7, 7, 7, 7, 7, 7, 7, 7,
   7, 7, 7, 7, 7, 7, 7, 7, 8, 7, 8, 13, 19, 13, 14, 6,
   15, 5, 6, 5, 6, 5, 6, 6, 6, 5, 7, 7, 6, 6, 6, 5,
   6, 7, 6, 5, 5, 6, 7, 7, 7, 7, 7, 15, 11, 14, 13, 28,
   20, 22, 20, 20, 22, 22, 22, 23, 22, 23, 23, 23, 23, 23, 24, 23,
   24, 24, 22, 23, 24, 23, 23, 23, 23, 21, 22, 23, 22, 23, 23, 24,
   22, 21, 20, 22, 22, 23, 23, 21, 23, 22, 22, 24, 21, 22, 23, 23,
   21, 21, 22, 21, 23, 22, 23, 23, 20, 22, 22, 22, 23, 22, 22, 23,
   26, 26, 20, 19, 22, 23, 22, 25, 26, 26, 26, 27, 27, 26, 24, 25,
   19, 21, 26, 27, 27, 26, 27, 24, 21, 21, 26, 26, 28, 27, 27, 27,
   20, 24, 20, 21, 22, 21, 21, 23, 22, 22, 25, 25, 24, 24, 26, 23,
   26, 27, 26, 26, 27, 27, 27, 27, 27, 28, 27, 27, 27, 27, 27, 26,
   30]

/-- The longest code. -/
def maxLength : Nat := 30

/-- The symbols with codes of one length, in order. -/
def symbolsOfLength (length : Nat) : List Nat :=
  (codeLengths.zipIdx.filter fun (l, _) => l == length).map fun (_, symbol) => symbol

/-- Number symbols consecutively. -/
def numbered (length first : Nat) : List Nat → List (Nat × Nat × Nat)
  | [] => []
  | symbol :: rest => (symbol, length, first) :: numbered length (first + 1) rest

/-- Symbol, length and code of every symbol from one length on.  The first code of a length is
the first unused one of the length before, with a zero bit behind it. -/
def codesFrom : Nat → Nat → Nat → List (Nat × Nat × Nat)
  | 0, _, _ => []
  | more + 1, length, first =>
    let symbols := symbolsOfLength length
    numbered length first symbols ++ codesFrom more (length + 1) ((first + symbols.length) * 2)

/-- Symbol, length and code of every symbol. -/
def codes : List (Nat × Nat × Nat) :=
  codesFrom maxLength 1 0

/-- A prefix code as a binary tree; a zero bit leads left. -/
inductive CodeTree where
  /-- No code goes through here. -/
  | empty
  /-- The code of a symbol ends here. -/
  | leaf (symbol : Nat)
  /-- The codes that go on with a zero bit, and those that go on with a one bit. -/
  | fork (zero one : CodeTree)
  deriving Repr

namespace CodeTree

/-- Add a code, given as its bits. -/
def insert (symbol : Nat) : List Bool → CodeTree → CodeTree
  | [], _ => leaf symbol
  | false :: bits, fork zero one => fork (zero.insert symbol bits) one
  | true :: bits, fork zero one => fork zero (one.insert symbol bits)
  | false :: bits, _ => fork (empty.insert symbol bits) empty
  | true :: bits, _ => fork empty (empty.insert symbol bits)

/-- The subtree that a bit leads to. -/
def child : CodeTree → Bool → CodeTree
  | fork zero one, bit => if bit then one else zero
  | _, _ => empty

end CodeTree

/-- The `length` lowest bits of a code, the highest first. -/
def codeBits (length code : Nat) : List Bool :=
  (List.range length).map fun i => code.testBit (length - 1 - i)

/-- The whole code as a tree. -/
def codeTree : CodeTree :=
  codes.foldl (fun tree (symbol, length, code) => tree.insert symbol (codeBits length code)) .empty

/-- Where reading stands inside a code. -/
structure Cursor where
  /-- What the bits read so far leave of the code. -/
  tree : CodeTree
  /-- How many bits of the current code have been read. -/
  depth : Nat
  /-- Whether all of them were ones. -/
  ones : Bool

/-- Reading starts at the root. -/
def Cursor.start : Cursor :=
  { tree := codeTree, depth := 0, ones := true }

/-- Read bits behind the octets already decoded, which stand in reverse. -/
def decodeBits (at_ : Cursor) (done : Octets) : List Bool → Option Octets
  | [] => if at_.depth < 8 ∧ at_.ones then some done.reverse else none
  | bit :: bits =>
    match at_.tree.child bit with
    | .leaf symbol =>
      if symbol < 256 then decodeBits Cursor.start (symbol.toUInt8 :: done) bits else none
    | tree => decodeBits { tree, depth := at_.depth + 1, ones := at_.ones && bit } done bits

/-- The string that coded octets stand for. -/
def decode? (octets : Octets) : Option Octets :=
  decodeBits Cursor.start [] octets.bits

end ServiceHost.Huffman
