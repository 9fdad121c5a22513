import Backbeat.Media.Stream

/-!
# Bodies in parts

A body is cut into parts of at least a given size, between two pieces of the stream, never inside
one.  What is left at the end is smaller, and a body that breaks off leaves the fault besides.
-/

namespace Backbeat

/-- A body in parts: the full ones, the rest, and the fault that the body broke off with. -/
structure Parts where
  full : List ByteArray
  rest : ByteArray
  fault : Option StreamFault

namespace Parts

def size (parts : Parts) : Nat :=
  parts.full.foldr (fun part size => part.size + size) parts.rest.size

/-- The rest as a part of its own, which it is unless the body broke off or nothing is left. -/
def last (parts : Parts) : List ByteArray :=
  if parts.fault.isSome || parts.rest.isEmpty then [] else [parts.rest]

/-- All parts that are to be uploaded. -/
def pieces (parts : Parts) : List ByteArray :=
  parts.full ++ parts.last

end Parts

namespace ByteStream

/-- Cut a stream into parts of at least `size` bytes, going on with a part that was begun. -/
def partsFrom (size : Nat) (begun : ByteArray) : ByteStream → Parts
  | [] => ⟨[], begun, none⟩
  | .fault fault :: _ => ⟨[], begun, some fault⟩
  | .data bytes :: later =>
    let grown := begun ++ bytes
    if size ≤ grown.size then
      let parts := partsFrom size ByteArray.empty later
      { parts with full := grown :: parts.full }
    else
      partsFrom size grown later

def parts (size : Nat) (stream : ByteStream) : Parts :=
  partsFrom size ByteArray.empty stream

end ByteStream

end Backbeat
