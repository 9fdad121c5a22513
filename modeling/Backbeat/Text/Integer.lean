/-!
# Decimal integers

An integer is written as an optional sign followed by one or more ASCII digits; leading zeros
are allowed and nothing else is.  A reader is given the values its target can hold and says why
a text is refused.  Characters are judged from left to right and the first bad position decides:
a value that has outgrown its bound is refused as such even when a letter follows.
-/

namespace Backbeat.Text

/-- Why a text is not an integer of the wanted range. -/
inductive IntegerFault where
  | empty
  | invalidDigit
  | tooLarge
  | tooSmall
deriving DecidableEq

def IntegerFault.message : IntegerFault → String
  | .empty => "cannot parse integer from empty string"
  | .invalidDigit => "invalid digit found in string"
  | .tooLarge => "number too large to fit in target type"
  | .tooSmall => "number too small to fit in target type"

def digitValue? (character : Char) : Option Nat :=
  if '0' ≤ character ∧ character ≤ '9' then some (character.toNat - '0'.toNat) else none

/-- Read on from `value`, never letting it exceed `limit`; `excess` is the fault of doing so. -/
def scanDigits (limit : Nat) (excess : IntegerFault) (value : Nat) :
    List Char → Except IntegerFault Nat
  | [] => .ok value
  | character :: rest =>
    match digitValue? character with
    | none => .error .invalidDigit
    | some digit =>
      if 10 * value + digit ≤ limit then
        scanDigits limit excess (10 * value + digit) rest
      else
        .error excess

/-- One or more digits of a value that is at most `limit`, after a sign was seen. -/
def scanSigned (limit : Nat) (excess : IntegerFault) : List Char → Except IntegerFault Nat
  | [] => .error .invalidDigit
  | digits => scanDigits limit excess 0 digits

/-- A natural number of at most `limit`; the only sign it may carry is a plus. -/
def readNat (limit : Nat) : List Char → Except IntegerFault Nat
  | [] => .error .empty
  | '+' :: digits => scanSigned limit .tooLarge digits
  | digits => scanDigits limit .tooLarge 0 digits

/-- An integer between `-lowest` and `highest`, with an optional sign. -/
def readInt (lowest highest : Nat) : List Char → Except IntegerFault Int
  | [] => .error .empty
  | '+' :: digits => (scanSigned highest .tooLarge digits).map Int.ofNat
  | '-' :: digits => (scanSigned lowest .tooSmall digits).map fun value => -Int.ofNat value
  | digits => (scanDigits highest .tooLarge 0 digits).map Int.ofNat

def max16 : Nat := 0xFFFF

def max32 : Nat := 0xFFFF_FFFF

def max64 : Nat := 0xFFFF_FFFF_FFFF_FFFF

/-- The largest signed number of thirty-two bits. -/
def maxSigned32 : Nat := 0x7FFF_FFFF

/-- The largest signed number of sixty-four bits. -/
def maxSigned64 : Nat := 0x7FFF_FFFF_FFFF_FFFF

def readSigned64 : List Char → Except IntegerFault Int :=
  readInt (maxSigned64 + 1) maxSigned64

end Backbeat.Text
