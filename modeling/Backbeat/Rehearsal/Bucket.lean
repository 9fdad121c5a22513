import Backbeat.Bucket.Service
import Backbeat.Bucket.Store
import Backbeat.Rehearsal.Exchanges

/-!
# A small bucket

A bucket that is empty, in a service that lists its exchanges and can be disturbed, and a body that
just fills a part and leaves two bytes for another one.
-/

namespace Backbeat.Rehearsal.Sample

/-- A store with the smallest parts, in a bucket of a service with some disturbances. -/
def bucketStore (disturbances : List Bucket.Disturbance) :
    BucketStore (ListedHost Bucket.Service) where
  service := { kept := { buckets := ["beats"], disturbances } }
  endpoint := "http://127.0.0.1:9000"
  bucket := "beats"
  partSize := leastPartSize
  leastPartSize_le := Nat.le_refl leastPartSize

/-- As many bytes as there must be in a part. -/
def bulk : ByteArray :=
  ⟨Array.replicate leastPartSize 7⟩

/-- The two bytes behind them. -/
def tail : ByteArray :=
  [1, 2].toByteArray

theorem size_bulk : bulk.size = leastPartSize :=
  Array.size_replicate

theorem leastPartSize_le_size_bulk : leastPartSize ≤ bulk.size :=
  Nat.le_of_eq size_bulk.symm

/-- The bytes fill one part, and two bytes are left. -/
theorem parts_bulk_tail :
    (ByteStream.ofChunks [bulk, tail]).parts leastPartSize = ⟨[bulk], tail, none⟩ := by
  have unfilled : ¬leastPartSize ≤ tail.size := by decide
  simp only [ByteStream.ofChunks, List.map, ByteStream.parts, ByteStream.partsFrom,
    ByteArray.empty_append, if_pos leastPartSize_le_size_bulk, if_neg unfilled]

theorem pieces_bulk_tail : Parts.pieces ⟨[bulk], tail, none⟩ = [bulk, tail] := rfl

/-- A body of as many bytes that breaks off. -/
def brokenBody : ByteStream :=
  [.data bulk, .fault ⟨.other, "client gone"⟩]

theorem parts_brokenBody :
    brokenBody.parts leastPartSize = ⟨[bulk], ByteArray.empty, some ⟨.other, "client gone"⟩⟩ := by
  simp only [brokenBody, ByteStream.parts, ByteStream.partsFrom, ByteArray.empty_append,
    if_pos leastPartSize_le_size_bulk]

theorem pieces_brokenBody :
    Parts.pieces ⟨[bulk], ByteArray.empty, some ⟨.other, "client gone"⟩⟩ = [bulk] := rfl

end Backbeat.Rehearsal.Sample
