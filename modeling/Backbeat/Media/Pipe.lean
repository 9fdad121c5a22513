import Backbeat.Media.Copy

/-!
# Pipes

A pipe copies a source in the background, and what it copies is read at its other end.  Empty
pieces of the source are passed over, a source that breaks just ends the pipe, and a reader who
hangs up makes the copy stop.
-/

namespace Backbeat

/-- The fault of writing to a pipe whose reader has hung up. -/
def hungUp : StreamFault := ⟨.brokenPipe, "broken pipe"⟩

/-- The writing end of a pipe whose reader keeps at most `kept` bytes. -/
def pipeSink (requested : Nat) (kept : Option Nat) : BoundedSink where
  atOnce := some (effectiveChunkSize requested)
  inAll := kept.map fun most => (most, .fault hungUp)

/-- Open a pipe and read what comes out of it.  Its reading end has room for a chunk from the start,
and a trap of the copy in the background counts as one of the whole run. -/
def openPipe (requested : Nat) (source : ByteStream) (kept : Option Nat) : Checked ByteArray := do
  allocate (effectiveChunkSize requested)
  let (_, sink) ← runCopy requested source.withoutEmpty (pipeSink requested kept)
  return sink.taken

theorem openPipe_of_lt {requested : Nat} (beyond : Text.maxSigned64 < effectiveChunkSize requested)
    (source : ByteStream) (kept : Option Nat) :
    openPipe requested source kept = .error .capacityOverflow := by
  rw [openPipe, allocate_of_lt beyond]
  rfl

end Backbeat
