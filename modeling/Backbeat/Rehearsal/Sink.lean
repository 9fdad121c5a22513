import Backbeat.Media.Sink

/-!
# Sinks that list their calls

A sink that lists the calls made to it, with what came of them, and answers them as the sink that
it keeps.
-/

namespace Backbeat.Rehearsal

/-- A call to a sink.  What a write was offered is the bytes themselves. -/
inductive SinkCall where
  | write (offered : ByteArray) (result : Except StreamFault Nat)
  | flush (result : Except StreamFault Unit)

namespace SinkCall

def IsWrite : SinkCall → Prop
  | .write .. => True
  | .flush _ => False

def offered : SinkCall → ByteArray
  | .write bytes _ => bytes
  | .flush _ => ByteArray.empty

def taken : SinkCall → ByteArray
  | .write bytes (.ok count) => bytes.extract 0 count
  | _ => ByteArray.empty

/-- The fault of the call.  A write that takes nothing is one. -/
def fault? : SinkCall → Option StreamFault
  | .write _ (.ok 0) => some .tookNothing
  | .write _ (.ok (_ + 1)) => none
  | .write _ (.error fault) => some fault
  | .flush (.ok ()) => none
  | .flush (.error fault) => some fault

end SinkCall

/-- A sink with the calls made to it so far, the first one first. -/
structure ListedSink (σ : Type) where
  kept : σ
  calls : List SinkCall := []

namespace ListedSink

variable {σ : Type} [Sink σ]

def write (sink : ListedSink σ) (bytes : ByteArray) (place : Nat) :
    Except StreamFault Nat × ListedSink σ :=
  let (result, kept) := Sink.write sink.kept bytes place
  (result, ⟨kept, sink.calls ++ [.write (bytes.extract place bytes.size) result]⟩)

def flush (sink : ListedSink σ) : Except StreamFault Unit × ListedSink σ :=
  let (result, kept) := Sink.flush sink.kept
  (result, ⟨kept, sink.calls ++ [.flush result]⟩)

instance : Sink (ListedSink σ) where
  write := write
  flush := flush
  write_le := by
    intro sink bytes place taken after written
    obtain ⟨result, kept⟩ := Prod.mk.inj written
    exact Sink.write_le (Prod.ext result (congrArg ListedSink.kept kept))

theorem write_eq {sink after : σ} {bytes : ByteArray} {place : Nat}
    {result : Except StreamFault Nat} (wrote : Sink.write sink bytes place = (result, after))
    (calls : List SinkCall) :
    Sink.write (⟨sink, calls⟩ : ListedSink σ) bytes place =
      (result, ⟨after, calls ++ [.write (bytes.extract place bytes.size) result]⟩) := by
  show write _ _ _ = _
  rw [write, wrote]

theorem flush_eq {sink after : σ} {result : Except StreamFault Unit}
    (flushed : Sink.flush sink = (result, after)) (calls : List SinkCall) :
    Sink.flush (⟨sink, calls⟩ : ListedSink σ) = (result, ⟨after, calls ++ [.flush result]⟩) := by
  show flush _ = _
  rw [flush, flushed]

end ListedSink

end Backbeat.Rehearsal
