/-!
# Comparison without letter case

Only the ASCII letters have two cases here; every other character is equal to itself alone.
-/

namespace Backbeat.Text

/-- The text with its ASCII capital letters made small. -/
def fold (text : List Char) : List Char :=
  text.map Char.toLower

def foldText (text : String) : String :=
  String.ofList (fold text.toList)

/-- Whether two strings differ at most in the case of ASCII letters. -/
def sameCaseless (left right : String) : Bool :=
  fold left.toList == fold right.toList

theorem sameCaseless_iff (left right : String) :
    sameCaseless left right = true ↔ fold left.toList = fold right.toList := by
  simp [sameCaseless]

end Backbeat.Text
