import Backbeat.Data.Capacity
import Backbeat.Media.Settings
import Backbeat.Media.Sink

/-!
# Copying a stream to a sink

A copy reads the source in chunks of a fixed size, and writes each chunk until all of it is taken
before the next one is written.  A read takes at most one chunk of the piece that is next, never
parts of two, and a read of no bytes is the end of the source.  The sink is flushed once, after
the last chunk, also when the source broke; after a failed write it is left alone.  When both
sides fail, the sink's fault is reported.  Chunks for which there can be no room are never read: the
copy traps instead.
-/

namespace Backbeat

/-- What the reads of a source yield: chunks, and the fault that ended them, if one did. -/
structure Reading where
  chunks : List ByteArray
  fault : Option StreamFault

/-- The reads of a source in chunks of `size` bytes. -/
def ByteStream.reads (size : Nat) : ByteStream → Reading
  | [] => ⟨[], none⟩
  | .fault fault :: _ => ⟨[], some fault⟩
  | .data bytes :: rest =>
    if bytes.isEmpty then ⟨[], none⟩
    else
      let later := reads size rest
      ⟨slices size bytes ++ later.chunks, later.fault⟩

/-- Why a copy failed, and how many bytes of whole chunks were written before. -/
inductive CopyError where
  | read (fault : StreamFault) (copied : Nat)
  | write (fault : StreamFault) (copied : Nat)
deriving DecidableEq

namespace CopyError

/-- The bytes of the chunks that were written whole. -/
def copied : CopyError → Nat
  | .read _ copied => copied
  | .write _ copied => copied

def message : CopyError → String
  | .read fault copied => s!"read failed after {copied} bytes: {fault.message}"
  | .write fault copied => s!"write failed after {copied} bytes: {fault.message}"

def isDisconnect : CopyError → Bool
  | .read .. => false
  | .write fault _ => fault.isDisconnect

end CopyError

/-- Write chunks to a sink and flush it at the end, counting from `written`. -/
def deliver {σ : Type} [Sink σ] (sink : σ) (written : Nat) :
    List ByteArray → Except (StreamFault × Nat) Nat × σ
  | [] =>
    match Sink.flush sink with
    | (.ok (), after) => (.ok written, after)
    | (.error fault, after) => (.error (fault, written), after)
  | chunk :: rest =>
    match writeAll sink chunk with
    | (.ok (), after) => deliver after (written + chunk.size) rest
    | (.error fault, after) => (.error (fault, written), after)

/-- The result of a copy from those of its two sides. -/
def copyResult (sourceFault : Option StreamFault) (delivered : Except (StreamFault × Nat) Nat) :
    Except CopyError Nat :=
  match sourceFault, delivered with
  | _, .error (fault, copied) => .error (.write fault copied)
  | some fault, .ok copied => .error (.read fault copied)
  | none, .ok copied => .ok copied

section Copying

variable {σ : Type} [Sink σ]

/-- The copy of a source, given room for its chunks. -/
def copy (requested : Nat) (source : ByteStream) (sink : σ) : Except CopyError Nat × σ :=
  let reading := source.reads (effectiveChunkSize requested)
  let (delivered, after) := deliver sink 0 reading.chunks
  (copyResult reading.fault delivered, after)

/-- The number of bytes that a copy reports, whether it failed or not. -/
def copiedBy : Except CopyError Nat → Nat
  | .ok copied => copied
  | .error error => error.copied

/-- Copy a source.  There must be room for a chunk before the first one is read, and a number for
the bytes of the chunks that were written. -/
def runCopy (requested : Nat) (source : ByteStream) (sink : σ) :
    Checked (Except CopyError Nat × σ) := do
  allocate (effectiveChunkSize requested)
  let (result, after) := copy requested source sink
  -- The count only grows, so that it was never too large if it is not so in the end.
  countBytes (copiedBy result)
  return (result, after)

theorem runCopy_of_lt {requested : Nat} (beyond : Text.maxSigned64 < effectiveChunkSize requested)
    (source : ByteStream) (sink : σ) :
    runCopy requested source sink = .error .capacityOverflow := by
  rw [runCopy, allocate_of_lt beyond]
  rfl

end Copying

end Backbeat
