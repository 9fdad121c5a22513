import Backbeat.Media.Copy.Stages
import Backbeat.Media.Pipe

/-!
# A pipe and its reader

The copy writes into a duplex, which holds at most as many bytes as a chunk has, and the reader
takes them out at the other end.  A write into a full duplex waits until something is taken out of
it.  When the consumer of the copy has ended, the writing end is gone, and the reader comes to the
end of what it reads once the duplex is empty.  A reader who keeps a beginning only may hang up as
soon as it has got that; from then on every write fails.
-/

namespace Backbeat

/-- What was written to a pipe and not yet read from it. -/
structure Duplex where
  capacity : Nat
  buffer : ByteArray := ByteArray.empty
  hungUp : Bool := false

namespace Duplex

def Full (duplex : Duplex) : Prop :=
  duplex.hungUp = false ∧ duplex.capacity ≤ duplex.buffer.size

/-- The number of offered bytes that there is room for. -/
def room (duplex : Duplex) (offered : Nat) : Nat :=
  min offered (duplex.capacity - duplex.buffer.size)

def write (duplex : Duplex) (bytes : ByteArray) (place : Nat) :
    Except StreamFault Nat × Duplex :=
  if duplex.hungUp then (.error Backbeat.hungUp, duplex)
  else
    let count := duplex.room (bytes.size - place)
    (.ok count, { duplex with buffer := duplex.buffer ++ bytes.extract place (place + count) })

instance : Sink Duplex where
  write := write
  flush duplex := (.ok (), duplex)
  write_le := by
    intro duplex bytes place taken after written
    rw [write] at written
    split at written
    · cases written
    · cases written
      exact Nat.min_le_left _ _

end Duplex

/-- A copy into a duplex and what its reader has got, with whether it has come to the end. -/
structure Piping where
  copy : TwoStage ByteStream Duplex
  delivered : List ByteArray := []
  ended : Bool := false

namespace Piping

def start (requested : Nat) (source : ByteStream) : Piping where
  copy := { source := source.withoutEmpty, sink := { capacity := effectiveChunkSize requested } }

/-- The number of bytes that the reader has got. -/
def got (piping : Piping) : Nat :=
  piping.delivered.foldr (fun bytes count => bytes.size + count) 0

/-- The consumer has bytes to write, and there is no room for any. -/
def Waits (copy : TwoStage ByteStream Duplex) : Prop :=
  ∃ chunk place, copy.consumer = .writing chunk place ∧ place < chunk.size ∧ copy.sink.Full

/-- The reader goes on: it has neither come to the end nor hung up. -/
def Reading (piping : Piping) : Prop :=
  piping.ended = false ∧ piping.copy.sink.hungUp = false

/-- What one of the stages or the reader does next, if it is its turn.  The reader asks for at most
`size` bytes at a time and, if `kept` says so, keeps a beginning only. -/
inductive Step (size : Nat) (kept : Option Nat) : Piping → Piping → Prop
  | copy {piping : Piping} {next : TwoStage ByteStream Duplex}
      (step : TwoStage.Step size piping.copy next)
      (free : Waits piping.copy → next.consumer = piping.copy.consumer) :
      Step size kept piping { piping with copy := next }
  | receive {piping : Piping} {count : Nat} (reading : piping.Reading) (some_bytes : 0 < count)
      (asked : count ≤ size) (there : count ≤ piping.copy.sink.buffer.size) :
      Step size kept piping
        { piping with
          copy.sink.buffer :=
            piping.copy.sink.buffer.extract count piping.copy.sink.buffer.size
          delivered := piping.delivered ++ [piping.copy.sink.buffer.extract 0 count] }
  | receiveEnd {piping : Piping} {delivered : Except (StreamFault × Nat) Nat}
      (reading : piping.Reading) (drained : piping.copy.sink.buffer = ByteArray.empty)
      (closed : piping.copy.consumer = .ended delivered) :
      Step size kept piping { piping with ended := true }
  | hangUp {piping : Piping} {most : Nat} (reading : piping.Reading) (keeps : kept = some most)
      (enough : most ≤ piping.got) :
      Step size kept piping { piping with copy.sink.hungUp := true }

/-- Where a pipe can come to in a number of steps, whoever has its turn when. -/
inductive Reaches (size : Nat) (kept : Option Nat) (start : Piping) : Nat → Piping → Prop
  | refl : Reaches size kept start 0 start
  | tail {steps : Nat} {piping next : Piping} (before : Reaches size kept start steps piping)
      (step : Step size kept piping next) : Reaches size kept start (steps + 1) next

/-- Both stages have ended, and the reader is done. -/
def Finished (piping : Piping) : Prop :=
  piping.copy.result?.isSome ∧ ¬ piping.Reading

end Piping

end Backbeat
