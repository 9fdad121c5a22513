import Backbeat.Text.Blank

/-!
# Characters that leave a mark of their own

A character is printable when it shows by itself what it is.  Controls, blanks other than the
space, format characters, combining marks and characters without an assigned shape are not: they
disappear, change their neighbours, or depend on a private agreement.

The ranges are those of the Unicode general categories `Cf` and `Co`, of the noncharacters, of
the unassigned planes, and of the blocks of combining marks that belong to no single script.
-/

namespace Backbeat.Text

/-- Whether a character controls a terminal and prints nothing. -/
def isControl (character : Char) : Bool :=
  character.toNat < 0x20 || (0x7F ≤ character.toNat && character.toNat < 0xA0)

/-- Format characters: they steer the layout of their neighbours. -/
def formatRanges : List (Nat × Nat) :=
  [(0xAD, 0xAD), (0x600, 0x605), (0x61C, 0x61C), (0x6DD, 0x6DD), (0x70F, 0x70F),
   (0x890, 0x891), (0x8E2, 0x8E2), (0x180E, 0x180E), (0x200B, 0x200F), (0x202A, 0x202E),
   (0x2060, 0x206F), (0xFEFF, 0xFEFF), (0xFFF9, 0xFFFB), (0x110BD, 0x110BD),
   (0x110CD, 0x110CD), (0x13430, 0x1343F), (0x1BCA0, 0x1BCA3), (0x1D173, 0x1D17A)]

/-- Combining marks: they extend the character before them. -/
def combiningRanges : List (Nat × Nat) :=
  [(0x300, 0x36F), (0x483, 0x489), (0x591, 0x5BD), (0x5BF, 0x5BF), (0x5C1, 0x5C2),
   (0x5C4, 0x5C5), (0x5C7, 0x5C7), (0x610, 0x61A), (0x64B, 0x65F), (0x1AB0, 0x1ACE),
   (0x1DC0, 0x1DFF), (0x20D0, 0x20F0), (0x302A, 0x302F), (0x3099, 0x309A), (0xFE00, 0xFE0F),
   (0xFE20, 0xFE2F)]

/-- Private characters, noncharacters and the planes to which nothing visible is assigned. -/
def unassignedRanges : List (Nat × Nat) :=
  [(0xE000, 0xF8FF), (0xFDD0, 0xFDEF), (0xFFFE, 0xFFFF), (0x1FFFE, 0x1FFFF),
   (0x2FFFE, 0x2FFFF), (0x33480, 0x10FFFF)]

/-- Whether a code point lies in one of the ranges, both ends included. -/
def inRanges (ranges : List (Nat × Nat)) (point : Nat) : Bool :=
  ranges.any fun range => range.1 ≤ point && point ≤ range.2

/-- Whether a character shows by itself what it is. -/
def isPrintable (character : Char) : Bool :=
  !isControl character && (character == ' ' || !isBlank character) &&
    !inRanges formatRanges character.toNat && !inRanges combiningRanges character.toNat &&
    !inRanges unassignedRanges character.toNat

end Backbeat.Text
