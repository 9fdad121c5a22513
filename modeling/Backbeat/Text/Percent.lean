import Backbeat.Text.Hex

/-!
# Percent encoding

An octet may be written as a percent sign and two hexadecimal digits.  Decoding leaves a percent
sign alone that is not followed by two digits.
-/

namespace Backbeat.Text

/-- The capital hexadecimal digit of a value below sixteen. -/
def capitalHexDigit (value : Nat) : Char :=
  (hexDigit value).toUpper

/-- Whether an octet is a letter, a digit or one of the marks `-._~`. -/
def isUnreserved (octet : UInt8) : Bool :=
  (0x61 ≤ octet && octet ≤ 0x7A) || (0x41 ≤ octet && octet ≤ 0x5A) ||
    (0x30 ≤ octet && octet ≤ 0x39) || octet == 0x2D || octet == 0x2E || octet == 0x5F ||
    octet == 0x7E

/-- An octet as it is written when all but the `plain` ones are encoded. -/
def percentOctet (plain : UInt8 → Bool) (octet : UInt8) : List Char :=
  if plain octet then [Char.ofNat octet.toNat]
  else ['%', capitalHexDigit (octet.toNat / 16), capitalHexDigit (octet.toNat % 16)]

/-- Octets with all but the `plain` ones encoded. -/
def percentEncode (plain : UInt8 → Bool) (octets : List UInt8) : List Char :=
  octets.flatMap (percentOctet plain)

def hexOctet? (octet : UInt8) : Option UInt8 :=
  (hexValue? (Char.ofNat octet.toNat)).map UInt8.ofNat

def percentDecode : List UInt8 → List UInt8
  | [] => []
  | 0x25 :: high :: low :: rest =>
    match hexOctet? high, hexOctet? low with
    | some high, some low => (16 * high + low) :: percentDecode rest
    | _, _ => 0x25 :: percentDecode (high :: low :: rest)
  | octet :: rest => octet :: percentDecode rest

end Backbeat.Text
