import Backbeat.Media.Service
import Backbeat.Rehearsal.Bucket

/-!
# Visits to object stores

What a caller does with an object store through a media service, one time after another: to put
objects and to open them.  Of a put the caller learns the size, and of an object that is opened all
that is delivered.
-/

namespace Backbeat.Rehearsal

inductive Visit where
  | put (key contentType : String) (chunks : List ByteArray)
  | opening (key : String) (range : Option ByteRange)

/-- What is delivered of an object. -/
structure Delivery where
  contentType : String
  total : Nat
  span : Option Span
  bytes : Except StreamFault ByteArray

def Delivery.ofMedia (media : OpenedMedia) : Delivery where
  contentType := media.contentType
  total := media.total
  span := media.span
  bytes := media.stream.collect

/-- What a caller learns from a visit. -/
inductive Outcome where
  | put (size : Except MediaError Nat)
  | opening (delivery : Except MediaError Delivery)

variable {σ : Type} [ObjectStore σ]

def Visit.make : Visit → Action σ MediaError Outcome
  | .put key contentType chunks => do
    let receipt ← (ObjectStore.put key contentType (.ofChunks chunks)).attempt
    return .put (receipt.map PutReceipt.size)
  | .opening key range => do
    let media ← (MediaService.openMedia key range).attempt
    return .opening (media.map Delivery.ofMedia)

/-! ## A few visits -/

namespace Sample

/-- An object is put, put again with enough bytes for two parts, and opened from the second part on;
another one is missing. -/
def visits : List Visit :=
  [.put "k" "x/y" [[1].toByteArray, [2].toByteArray], .put "k" "x/z" [bulk, tail],
    .opening "k" (some (.fromStart leastPartSize)), .opening "m" none]

def outcomes : List Outcome :=
  [.put (.ok 2), .put (.ok (leastPartSize + 2)),
    .opening (.ok ⟨"x/z", leastPartSize + 2,
      some ⟨leastPartSize, leastPartSize + 1, leastPartSize + 2⟩, .ok tail⟩),
    .opening (.error (.notFound "m"))]

end Sample

end Backbeat.Rehearsal
