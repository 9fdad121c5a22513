import Backbeat.Text.Percent
import Backbeat.Text.Utf8

/-!
# Forms

A form is a list of named values in one string of octets.  The pairs are separated by `&`, and a
name is separated from its value by the first `=` in its pair.  A plus stands for a space, other
octets may be percent-encoded, and what is no text is read with replacement.
-/

namespace Backbeat.Text.Form

def pairMark : UInt8 := 0x26

def valueMark : UInt8 := 0x3D

/-- The octet that a plus stands for, or the octet itself. -/
def readPlus (octet : UInt8) : UInt8 :=
  if octet = 0x2B then 0x20 else octet

def readPart (octets : List UInt8) : String :=
  Utf8.decodeLossy (percentDecode (octets.map readPlus))

/-- The name and the value of a pair; a pair without `=` has the empty value. -/
def readPair (octets : List UInt8) : String × String :=
  (readPart (octets.takeWhile (· ≠ valueMark)),
    readPart ((octets.dropWhile (· ≠ valueMark)).drop 1))

/-- The pairs of a form.  Empty pairs are passed over. -/
def read (octets : List UInt8) : List (String × String) :=
  ((octets.splitOn pairMark).filter (! ·.isEmpty)).map readPair

end Backbeat.Text.Form
