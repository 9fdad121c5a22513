import Backbeat.Text.Hex

/-!
# Universally unique identifiers

An identifier is 128 bits.  It is written as thirty-two small hexadecimal digits in
five groups; it may be read in either case, with or without the hyphens, in braces, or behind
the name of its scheme.
-/

namespace Backbeat

structure Uuid where
  bits : BitVec 128
deriving DecidableEq

namespace Uuid

def value (id : Uuid) : Nat :=
  id.bits.toNat

/-- The identifier of a number, of which only the lowest 128 bits count. -/
def ofNat (value : Nat) : Uuid where
  bits := BitVec.ofNat 128 value

/-- The identifier that thirty-two hexadecimal digits write. -/
def ofDigits? (digits : List Char) : Option Uuid :=
  if digits.length = 32 then (Text.readHex digits).map ofNat else none

/-- The identifier of five hyphenated groups of digits. -/
def ofHyphenated? (text : List Char) : Option Uuid :=
  let groups := text.splitOn '-'
  if groups.map List.length = [8, 4, 4, 4, 12] then ofDigits? groups.flatten else none

/-- What may stand before a hyphenated identifier as the name of its scheme. -/
def schemes : List (List Char) :=
  ["urn:uuid:".toList, "URN:UUID:".toList]

/-- The identifier that a text of any accepted form writes. -/
def ofText? (text : List Char) : Option Uuid :=
  match text.length with
  | 32 => ofDigits? text
  | 36 => ofHyphenated? text
  | 38 =>
    if text.head? = some '\x7b' ∧ text.getLast? = some '\x7d' then
      ofHyphenated? (text.drop 1).dropLast
    else
      none
  | 45 => if text.take 9 ∈ schemes then ofHyphenated? (text.drop 9) else none
  | _ => none

def ofString? (text : String) : Option Uuid :=
  ofText? text.toList

/-- Digits in the groups of eight, four, four, four and what is left. -/
def grouped (digits : List Char) : List (List Char) :=
  [digits.take 8, (digits.drop 8).take 4, (digits.drop 12).take 4, (digits.drop 16).take 4,
    digits.drop 20]

def toText (id : Uuid) : List Char :=
  List.intercalate ['-'] (grouped (Text.writeHex 32 id.value))

def toString (id : Uuid) : String :=
  String.ofList id.toText

instance : ToString Uuid := ⟨toString⟩

theorem flatten_grouped (digits : List Char) : (grouped digits).flatten = digits := by
  have fourth : (digits.drop 16).take 4 ++ digits.drop 20 = digits.drop 16 := by
    rw [← List.drop_drop (i := 4) (j := 16)]
    exact List.take_append_drop 4 _
  have third : (digits.drop 12).take 4 ++ digits.drop 16 = digits.drop 12 := by
    rw [← List.drop_drop (i := 4) (j := 12)]
    exact List.take_append_drop 4 _
  have second : (digits.drop 8).take 4 ++ digits.drop 12 = digits.drop 8 := by
    rw [← List.drop_drop (i := 4) (j := 8)]
    exact List.take_append_drop 4 _
  show digits.take 8 ++ ((digits.drop 8).take 4 ++ ((digits.drop 12).take 4 ++
    ((digits.drop 16).take 4 ++ (digits.drop 20 ++ [])))) = digits
  rw [List.append_nil, fourth, third, second]
  exact List.take_append_drop 8 digits

theorem mem_of_mem_grouped {digits group : List Char} {character : Char}
    (listed : group ∈ grouped digits) (member : character ∈ group) : character ∈ digits := by
  rw [← flatten_grouped digits]
  exact List.mem_flatten.mpr ⟨group, listed, member⟩

/-- The text of an identifier falls into its groups at the hyphens. -/
theorem splitOn_toText (id : Uuid) :
    id.toText.splitOn '-' = grouped (Text.writeHex 32 id.value) := by
  apply List.splitOn_intercalate
  · intro group listed hyphen
    obtain ⟨digit, small, same⟩ :=
      Text.eq_hexDigit_of_mem_writeHex (mem_of_mem_grouped listed hyphen)
    have value := Text.hexValue?_hexDigit small
    rw [← same] at value
    cases value
  · exact List.cons_ne_nil _ _

/-- An identifier is read back from its text. -/
theorem ofHyphenated?_toText (id : Uuid) : ofHyphenated? id.toText = some id := by
  have lengths : (grouped (Text.writeHex 32 id.value)).map List.length = [8, 4, 4, 4, 12] := by
    simp [grouped]
  have digits : Text.readHex (Text.writeHex 32 id.value) = some id.value :=
    Text.readHex_writeHex id.bits.isLt
  rw [ofHyphenated?, splitOn_toText, if_pos lengths, flatten_grouped]
  rw [ofDigits?, if_pos (Text.length_writeHex 32 id.value), digits]
  exact congrArg some (congrArg Uuid.mk (BitVec.ofNat_toNat 128 id.bits))

/-- Different identifiers have different texts. -/
theorem eq_of_toString_eq {left right : Uuid} (same : left.toString = right.toString) :
    left = right := by
  have texts : left.toText = right.toText := by
    simpa [toString] using congrArg String.toList same
  have read := congrArg ofHyphenated? texts
  rw [ofHyphenated?_toText, ofHyphenated?_toText] at read
  exact Option.some.inj read

/-- The bits that say of which version and variant an identifier is. -/
def kindMask : BitVec 128 :=
  BitVec.ofNat 128 0x00000000_0000_F000_C000_000000000000

/-- Those bits of a random identifier: the version is 4. -/
def randomKind : BitVec 128 :=
  BitVec.ofNat 128 0x00000000_0000_4000_8000_000000000000

/-- The random identifier with the other bits of `entropy`. -/
def version4 (entropy : Nat) : Uuid where
  bits := (BitVec.ofNat 128 entropy &&& ~~~ kindMask) ||| randomKind

/-- Whether an identifier says of itself that it is a random one. -/
def isVersion4 (id : Uuid) : Bool :=
  id.bits &&& kindMask == randomKind

end Uuid

end Backbeat
