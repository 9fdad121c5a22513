/-!
# Blank characters and trimming

A character is blank when Unicode gives it the property `White_Space`.  Every reader of this
library that ignores surrounding space ignores exactly these characters: the zero-width space
and the byte-order mark are not among them.

Text is trimmed as a list of characters, so that the readers built on it can be reasoned about
by induction; `trimText` is the same operation on strings.
-/

namespace Backbeat.Text

/-- The characters with the Unicode property `White_Space`. -/
def isBlank (character : Char) : Bool :=
  let point := character.toNat
  (0x09 ≤ point && point ≤ 0x0D) || point == 0x20 || point == 0x85 || point == 0xA0 ||
    point == 0x1680 || (0x2000 ≤ point && point ≤ 0x200A) || point == 0x2028 ||
    point == 0x2029 || point == 0x202F || point == 0x205F || point == 0x3000

/-- The text without the blanks at its two ends. -/
def trim (text : List Char) : List Char :=
  ((text.dropWhile isBlank).reverse.dropWhile isBlank).reverse

def trimText (text : String) : String :=
  String.ofList (trim text.toList)

/-- The trimmed text, unless nothing is left of it. -/
def trimmed? (text : List Char) : Option (List Char) :=
  match trim text with
  | [] => none
  | kept => some kept

@[simp]
theorem toList_trimText (text : String) : (trimText text).toList = trim text.toList := by
  simp [trimText]

end Backbeat.Text
