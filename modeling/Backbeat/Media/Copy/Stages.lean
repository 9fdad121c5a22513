import Backbeat.Media.Copy
import Backbeat.Media.Source

/-!
# A copy in two stages

A producer reads chunks from the source and hands them over in a channel that has room for one
chunk, and a consumer writes them to the sink.  Both go on independently.  When a write fails, the
consumer cancels the copy and drops its end of the channel; the producer looks whether the copy was
cancelled before each read and before each chunk that it hands over.
-/

namespace Backbeat

inductive Producer where
  | reading
  | offering (chunk : ByteArray)
  | ended (fault : Option StreamFault)

/-- Where the consumer is.  After a failed write it first cancels the copy, and then it leaves. -/
inductive Consumer where
  | receiving
  | writing (chunk : ByteArray) (place : Nat)
  | failed (fault : StreamFault)
  | leaving (fault : StreamFault)
  | ended (delivered : Except (StreamFault × Nat) Nat)

/-- A copy under way, with the bytes of the chunks that were written whole, and how many chunks
were read and how many of them written whole. -/
structure TwoStage (ρ σ : Type) where
  source : ρ
  sink : σ
  producer : Producer := .reading
  consumer : Consumer := .receiving
  channel : Option ByteArray := none
  cancelled : Bool := false
  written : Nat := 0
  chunksRead : Nat := 0
  chunksWritten : Nat := 0

namespace TwoStage

variable {ρ σ : Type} [Source ρ] [Sink σ] {size : Nat}

/-- What one of the stages does next, if it is its turn. -/
inductive Step (size : Nat) : TwoStage ρ σ → TwoStage ρ σ → Prop
  | halt {copy : TwoStage ρ σ} (going : ∀ fault, copy.producer ≠ .ended fault)
      (cancelled : copy.cancelled = true) :
      Step size copy { copy with producer := .ended none }
  | read {copy : TwoStage ρ σ} {chunk : ByteArray} {source : ρ} (place : copy.producer = .reading)
      (going : copy.cancelled = false) (got : Source.read copy.source size = (.ok chunk, source))
      (some_bytes : chunk.isEmpty = false) :
      Step size copy
        { copy with source, producer := .offering chunk, chunksRead := copy.chunksRead + 1 }
  | readEnd {copy : TwoStage ρ σ} {chunk : ByteArray} {source : ρ}
      (place : copy.producer = .reading) (going : copy.cancelled = false)
      (got : Source.read copy.source size = (.ok chunk, source)) (no_bytes : chunk.isEmpty = true) :
      Step size copy { copy with source, producer := .ended none }
  | readFault {copy : TwoStage ρ σ} {fault : StreamFault} {source : ρ}
      (place : copy.producer = .reading) (going : copy.cancelled = false)
      (got : Source.read copy.source size = (.error fault, source)) :
      Step size copy { copy with source, producer := .ended (some fault) }
  | handOver {copy : TwoStage ρ σ} {chunk : ByteArray} (place : copy.producer = .offering chunk)
      (going : copy.cancelled = false) (there : ∀ delivered, copy.consumer ≠ .ended delivered)
      (room : copy.channel = none) :
      Step size copy { copy with channel := some chunk, producer := .reading }
  | turnedAway {copy : TwoStage ρ σ} {chunk : ByteArray}
      {delivered : Except (StreamFault × Nat) Nat} (place : copy.producer = .offering chunk)
      (going : copy.cancelled = false) (gone : copy.consumer = .ended delivered) :
      Step size copy { copy with producer := .ended none }
  | receive {copy : TwoStage ρ σ} {chunk : ByteArray} (place : copy.consumer = .receiving)
      (waiting : copy.channel = some chunk) :
      Step size copy { copy with channel := none, consumer := .writing chunk 0 }
  | write {copy : TwoStage ρ σ} {chunk : ByteArray} {start more : Nat} {sink : σ}
      (place : copy.consumer = .writing chunk start) (inside : start < chunk.size)
      (wrote : Sink.write copy.sink chunk start = (.ok (more + 1), sink)) :
      Step size copy { copy with sink, consumer := .writing chunk (start + (more + 1)) }
  | writeNothing {copy : TwoStage ρ σ} {chunk : ByteArray} {start : Nat} {sink : σ}
      (place : copy.consumer = .writing chunk start) (inside : start < chunk.size)
      (wrote : Sink.write copy.sink chunk start = (.ok 0, sink)) :
      Step size copy { copy with sink, consumer := .failed .tookNothing }
  | writeFault {copy : TwoStage ρ σ} {chunk : ByteArray} {start : Nat} {fault : StreamFault}
      {sink : σ} (place : copy.consumer = .writing chunk start) (inside : start < chunk.size)
      (wrote : Sink.write copy.sink chunk start = (.error fault, sink)) :
      Step size copy { copy with sink, consumer := .failed fault }
  | wroteAll {copy : TwoStage ρ σ} {chunk : ByteArray} {start : Nat}
      (place : copy.consumer = .writing chunk start) (past : chunk.size ≤ start) :
      Step size copy
        { copy with
          consumer := .receiving
          written := copy.written + chunk.size
          chunksWritten := copy.chunksWritten + 1 }
  | cancel {copy : TwoStage ρ σ} {fault : StreamFault} (place : copy.consumer = .failed fault) :
      Step size copy { copy with cancelled := true, consumer := .leaving fault }
  | leave {copy : TwoStage ρ σ} {fault : StreamFault} (place : copy.consumer = .leaving fault) :
      Step size copy
        { copy with channel := none, consumer := .ended (.error (fault, copy.written)) }
  | flush {copy : TwoStage ρ σ} {fault : Option StreamFault} {sink : σ}
      (place : copy.consumer = .receiving) (drained : copy.channel = none)
      (closed : copy.producer = .ended fault) (flushed : Sink.flush copy.sink = (.ok (), sink)) :
      Step size copy { copy with sink, consumer := .ended (.ok copy.written) }
  | flushFault {copy : TwoStage ρ σ} {fault : Option StreamFault} {broken : StreamFault} {sink : σ}
      (place : copy.consumer = .receiving) (drained : copy.channel = none)
      (closed : copy.producer = .ended fault)
      (flushed : Sink.flush copy.sink = (.error broken, sink)) :
      Step size copy { copy with sink, consumer := .ended (.error (broken, copy.written)) }

/-- Where a copy can come to, whichever stage has its turn when. -/
inductive Reaches (size : Nat) (start : TwoStage ρ σ) : TwoStage ρ σ → Prop
  | refl : Reaches size start start
  | tail {copy next : TwoStage ρ σ} (before : Reaches size start copy)
    (step : Step size copy next) :
      Reaches size start next

/-- The result of a copy both of whose stages have ended. -/
def result? (copy : TwoStage ρ σ) : Option (Except CopyError Nat) :=
  match copy.producer, copy.consumer with
  | .ended fault, .ended delivered => some (copyResult fault delivered)
  | _, _ => none

end TwoStage

end Backbeat
