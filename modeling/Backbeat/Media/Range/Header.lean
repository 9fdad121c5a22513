import Backbeat.Media.Range
import Backbeat.Text.Blank
import Backbeat.Text.Integer

/-!
# Ranges in a request header

A header asks for one range: the unit, which may be left out, and two numbers with a hyphen
between them, of which the second may be missing.  Blanks are allowed around each piece.  A blank
header asks for nothing.
-/

namespace Backbeat.ByteRange

/-- The unit that ranges are counted in, as it is written before them. -/
def unitMark : List Char := "bytes=".toList

/-- The text after the unit, or the whole text where the unit is left out. -/
def dropUnit (text : List Char) : List Char :=
  if unitMark.isPrefixOf text then text.drop unitMark.length else text

def ofSpec (header : List Char) : Except RangeFault ByteRange :=
  let shown := String.ofList header
  match (dropUnit header).splitOn '-' with
  | [start, stop] =>
    match Text.readNat Text.max64 (Text.trim start) with
    | .error _ => .error (.badStart shown)
    | .ok start =>
      match Text.trimmed? stop with
      | none => .ok (fromStart start)
      | some digits =>
        match Text.readNat Text.max64 digits with
        | .error _ => .error (.badEnd shown)
        | .ok stop => closed start stop
  | _ => .error (.malformed shown)

/-- The range that a header asks for, if it asks for one. -/
def ofHeader (header : String) : Except RangeFault (Option ByteRange) :=
  match Text.trimmed? header.toList with
  | none => .ok none
  | some spec => (ofSpec spec).map some

/-- The range that a request asks for, which may have no header. -/
def ofHeader? (header : Option String) : Except RangeFault (Option ByteRange) :=
  match header with
  | none => .ok none
  | some text => ofHeader text

def toHeader (range : ByteRange) : String :=
  match range.stop with
  | none => s!"bytes={range.start}-"
  | some stop => s!"bytes={range.start}-{stop}"

end Backbeat.ByteRange
