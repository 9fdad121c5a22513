import Backbeat.Data.Action
import Backbeat.Text.Integer

/-!
# Byte ranges

A range asks for the bytes from one place to another, both included, or to the end.  Resolved
against the size of an object it becomes a span: its start must lie in the object, and its end is
drawn back to the last byte.
-/

namespace Backbeat

inductive RangeFault where
  | notPlain
  | malformed (header : String)
  | badStart (header : String)
  | badEnd (header : String)
  | reversed (start stop : Nat)
  | beyond (start size : Nat)
  | outside (contentRange : String)
  | described (text : String)
deriving DecidableEq

def RangeFault.message : RangeFault → String
  | .notPlain => "range header is not valid ASCII"
  | .malformed header => "malformed range `" ++ header ++ "`"
  | .badStart header => s!"invalid range start in `{header}`"
  | .badEnd header => s!"invalid range end in `{header}`"
  | .reversed start stop => s!"end {stop} before start {start}"
  | .beyond start size => s!"start {start} not below object size {size}"
  | .outside contentRange => contentRange
  | .described text => text

/-- A range of bytes, both ends included; without an end it goes on to the last byte. -/
structure ByteRange where
  start : Nat
  stop : Option Nat
deriving DecidableEq

/-- A range within an object of a known size, both ends included. -/
structure Span where
  start : Nat
  stop : Nat
  total : Nat
deriving DecidableEq

namespace ByteRange

/-- The range between two places, of which the second is not before the first. -/
def closed (start stop : Nat) : Except RangeFault ByteRange :=
  if stop < start then .error (.reversed start stop) else .ok ⟨start, some stop⟩

def fromStart (start : Nat) : ByteRange := ⟨start, none⟩

/-- The bytes of a range that an object of a size has. -/
def resolve (range : ByteRange) (size : Nat) : Except RangeFault Span :=
  if size ≤ range.start then .error (.beyond range.start size)
  else
    let last := size - 1
    .ok ⟨range.start, (range.stop.map (min last)).getD last, size⟩

end ByteRange

namespace Span

def length (span : Span) : Checked Nat :=
  if span.stop < span.start then .error .subtractOverflow
  else if Text.max64 < span.stop - span.start + 1 then .error .addOverflow
  else .ok (span.stop - span.start + 1)

/-- The value of the header that announces a span. -/
def contentRange (span : Span) : String :=
  s!"bytes {span.start}-{span.stop}/{span.total}"

/-- The value of the header that asks for a span. -/
def header (span : Span) : String :=
  s!"bytes={span.start}-{span.stop}"

end Span

end Backbeat
