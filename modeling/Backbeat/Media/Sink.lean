import Backbeat.Media.Stream

/-!
# Sinks of bytes

A sink is written to in several calls: it takes at least none and at most all of the bytes that it
is offered, or it fails.  `writeAll` offers what is left until all of it is taken.

A `BoundedSink` keeps what it takes.  It may take only so many bytes at a time, and only so many
in all.
-/

namespace Backbeat

/-- What can be written to.  Bytes are offered from a place on. -/
class Sink (σ : Type) where
  /-- The number of offered bytes that are taken. -/
  write : σ → (bytes : ByteArray) → (place : Nat) → Except StreamFault Nat × σ
  /-- Let go of what was taken. -/
  flush : σ → Except StreamFault Unit × σ
  /-- No more is taken than is offered. -/
  write_le : ∀ {sink bytes place taken after},
    write sink bytes place = (.ok taken, after) → taken ≤ bytes.size - place

/-- Offer the bytes from a place on until all are taken.  A call that takes none is a fault. -/
def writeFrom {σ : Type} [Sink σ] (sink : σ) (bytes : ByteArray) (place : Nat) :
    Except StreamFault Unit × σ :=
  if bytes.size ≤ place then (.ok (), sink)
  else
    match Sink.write sink bytes place with
    | (.error fault, after) => (.error fault, after)
    | (.ok 0, after) => (.error .tookNothing, after)
    | (.ok (more + 1), after) => writeFrom after bytes (place + (more + 1))
termination_by bytes.size - place

def writeAll {σ : Type} [Sink σ] (sink : σ) (bytes : ByteArray) : Except StreamFault Unit × σ :=
  writeFrom sink bytes 0

inductive WhenFull where
  | fault (fault : StreamFault)
  | takeNothing

/-- A sink with bounds.  The sizes of successful writes are kept, the latest first. -/
structure BoundedSink where
  atOnce : Option Nat := none
  inAll : Option (Nat × WhenFull) := none
  flushFault : Option StreamFault := none
  taken : ByteArray := ByteArray.empty
  sizes : List Nat := []
  flushes : Nat := 0

namespace BoundedSink

def take (sink : BoundedSink) (bytes : ByteArray) (place count : Nat) : BoundedSink :=
  { sink with
    taken := sink.taken ++ bytes.extract place (place + count)
    sizes := count :: sink.sizes }

/-- The number of bytes that a call may take of those offered. -/
def roomAtOnce (sink : BoundedSink) (offered : Nat) : Nat :=
  match sink.atOnce with
  | none => offered
  | some most => min offered most

def write (sink : BoundedSink) (bytes : ByteArray) (place : Nat) :
    Except StreamFault Nat × BoundedSink :=
  let offered := sink.roomAtOnce (bytes.size - place)
  match sink.inAll with
  | none => (.ok offered, sink.take bytes place offered)
  | some (limit, full) =>
    if limit ≤ sink.taken.size then
      match full with
      | .fault fault => (.error fault, sink)
      | .takeNothing => (.ok 0, sink)
    else
      let count := min offered (limit - sink.taken.size)
      (.ok count, sink.take bytes place count)

def flush (sink : BoundedSink) : Except StreamFault Unit × BoundedSink :=
  let after := { sink with flushes := sink.flushes + 1 }
  match sink.flushFault with
  | none => (.ok (), after)
  | some fault => (.error fault, after)

theorem roomAtOnce_le (sink : BoundedSink) (offered : Nat) : sink.roomAtOnce offered ≤ offered := by
  unfold roomAtOnce
  split <;> omega

instance : Sink BoundedSink where
  write := write
  flush := flush
  write_le := by
    intro sink bytes place taken after written
    have room := roomAtOnce_le sink (bytes.size - place)
    unfold write at written
    grind

def writes (sink : BoundedSink) : List Nat :=
  sink.sizes.reverse

end BoundedSink

end Backbeat
