import ServiceHost.Text.Utf8

/-!
# Percent escapes

A percent sign and two hexadecimal digits stand for one octet.  Decoding leaves a percent sign
that no two digits follow as it is, so it accepts every text; the octets are then read as UTF-8,
with U+FFFD for malformed parts.
-/

namespace ServiceHost.Percent

/-- Replace each escape by its octet. -/
def decodeOctets : Octets → Octets
  | 0x25 :: high :: low :: rest =>
    match Octets.hexValue? high, Octets.hexValue? low with
    | some h, some l => (h * 16 + l) :: decodeOctets rest
    | _, _ => 0x25 :: decodeOctets (high :: low :: rest)
  | b :: rest => b :: decodeOctets rest
  | [] => []

/-- The text that a text with escapes stands for. -/
def decode (text : String) : String :=
  Utf8.toText (decodeOctets (Utf8.ofString text))

/-- The upper-case hexadecimal digit of a number below 16. -/
def upperDigit (n : UInt8) : UInt8 :=
  if n < 10 then n + 0x30 else n + 0x37

/-- The escape of one octet. -/
def escape (b : UInt8) : Octets :=
  [0x25, upperDigit (b / 16), upperDigit (b % 16)]

/-- Escape the octets that `raw` does not allow to stand for themselves. -/
def encodeOctets (raw : UInt8 → Bool) (octets : Octets) : Octets :=
  octets.flatMap fun b => if raw b then [b] else escape b

end ServiceHost.Percent
