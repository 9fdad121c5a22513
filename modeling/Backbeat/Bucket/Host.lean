import Backbeat.Bucket.Request

/-!
# Hosts of buckets

A store in a bucket works with whoever answers its requests at an endpoint.  All that it knows of
that host is the answers, so nothing else of a host is given here.
-/

namespace Backbeat.Bucket

/-- A host in state `σ`: what becomes of a request that is sent to an endpoint. -/
class Host (σ : Type) where
  serve : (endpoint : String) → Request → σ → Except Refusal Reply × σ

end Backbeat.Bucket
