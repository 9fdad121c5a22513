import Backbeat.Media.Fault

/-!
# Streams of bytes

A stream is a list of pieces.  It yields the bytes of its data pieces and ends where the list
ends, or breaks where a fault stands.
-/

namespace Backbeat

inductive Piece where
  | data (bytes : ByteArray)
  | fault (fault : StreamFault)

abbrev ByteStream : Type := List Piece

namespace ByteStream

/-- Append the bytes of a stream, or say how it broke. -/
def collectInto (gathered : ByteArray) : ByteStream → Except StreamFault ByteArray
  | [] => .ok gathered
  | .data bytes :: rest => collectInto (gathered ++ bytes) rest
  | .fault fault :: _ => .error fault

def collect (stream : ByteStream) : Except StreamFault ByteArray :=
  collectInto ByteArray.empty stream

def ofChunks (chunks : List ByteArray) : ByteStream :=
  chunks.map .data

def withoutEmpty (stream : ByteStream) : ByteStream :=
  stream.filter fun piece =>
    match piece with
    | .data bytes => !bytes.isEmpty
    | .fault _ => true

end ByteStream

/-- A byte string cut into slices of `size` bytes, of which the last may be shorter. -/
def slices (size : Nat) (bytes : ByteArray) : List ByteArray :=
  (List.range ((bytes.size + size - 1) / size)).map fun index =>
    bytes.extract (index * size) (index * size + size)

end Backbeat
