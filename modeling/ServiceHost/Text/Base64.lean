import ServiceHost.Octets

/-!
# Base 64

Three octets are written as four digits of six bits.  One or two octets at the end take two or
three digits; no padding is written, and padding at the end is read as nothing.
-/

namespace ServiceHost.Base64

/-- The digits in order of their values. -/
def alphabet : Octets :=
  Octets.ascii "ABCDEFGHIJKLMNOPQRSTUVWXYZabcdefghijklmnopqrstuvwxyz0123456789+/"

/-- The digit of a value below 64. -/
def digit (n : Nat) : UInt8 :=
  alphabet.getD n 0

/-- The value of a digit. -/
def value? (b : UInt8) : Option Nat :=
  alphabet.findIdx? (· == b)

/-- Octets in base 64. -/
def encode : Octets → Octets
  | a :: b :: c :: rest =>
    let n := (a.toNat * 256 + b.toNat) * 256 + c.toNat
    digit (n / 0x40000) :: digit (n / 0x1000 % 64) :: digit (n / 64 % 64) :: digit (n % 64) ::
      encode rest
  | [a, b] =>
    let n := a.toNat * 256 + b.toNat
    [digit (n / 1024), digit (n / 16 % 64), digit (n % 16 * 4)]
  | [a] => [digit (a.toNat / 4), digit (a.toNat % 4 * 16)]
  | [] => []

/-- The octets of digit values; unused bits at the end are zero. -/
def decodeValues? : List Nat → Option Octets
  | a :: b :: c :: d :: rest =>
    let n := ((a * 64 + b) * 64 + c) * 64 + d
    (decodeValues? rest).map fun more =>
      (n / 0x10000).toUInt8 :: (n / 0x100 % 256).toUInt8 :: (n % 256).toUInt8 :: more
  | [a, b, c] =>
    let n := (a * 64 + b) * 64 + c
    if n % 4 = 0 then some [(n / 1024).toUInt8, (n / 4 % 256).toUInt8] else none
  | [a, b] =>
    let n := a * 64 + b
    if n % 16 = 0 then some [(n / 16).toUInt8] else none
  | [_] => none
  | [] => some []

/-- The octets that base 64 stands for. -/
def decode? (text : Octets) : Option Octets :=
  ((text.takeWhile (· != 0x3D)).mapM value?).bind decodeValues?

end ServiceHost.Base64
