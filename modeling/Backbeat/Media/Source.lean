import Backbeat.Media.Stream

/-!
# Sources of bytes

A source is read from in several calls: each yields at most as many bytes as there is space for,
and none at the end of the source, or it fails.  A source may be without an end.  A stream is read
piece by piece.
-/

namespace Backbeat

/-- What can be read from. -/
class Source (ρ : Type) where
  read : ρ → (space : Nat) → Except StreamFault ByteArray × ρ
  /-- No more is read than there is space for. -/
  read_le : ∀ {source space bytes after},
    read source space = (.ok bytes, after) → bytes.size ≤ space

namespace ByteStream

/-- Read from the piece that is next, never from two. -/
def read (stream : ByteStream) (space : Nat) : Except StreamFault ByteArray × ByteStream :=
  match stream with
  | [] => (.ok ByteArray.empty, [])
  | .fault fault :: rest => (.error fault, rest)
  | .data bytes :: rest =>
    if bytes.size ≤ space then (.ok bytes, rest)
    else (.ok (bytes.extract 0 space), .data (bytes.extract space bytes.size) :: rest)

theorem read_le {stream after : ByteStream} {space : Nat} {bytes : ByteArray}
    (got : stream.read space = (.ok bytes, after)) : bytes.size ≤ space := by
  cases stream with
  | nil =>
    cases got
    exact Nat.zero_le space
  | cons piece rest =>
    cases piece with
    | fault fault => cases got
    | data bytes =>
      rw [read] at got
      split at got
      · next fits =>
        cases got
        exact fits
      · cases got
        rw [ByteArray.size_extract]
        omega

instance : Source ByteStream where
  read := read
  read_le := read_le

end ByteStream

end Backbeat
