import Backbeat.Bucket.Host

/-!
# Hosts that list their exchanges

A host that lists what it is asked together with what it answers, the latest last, and answers as
the host that it keeps.
-/

namespace Backbeat.Rehearsal

open Bucket (Host Request Reply Refusal)

/-- A request with what it was answered. -/
structure Exchange where
  request : Request
  answer : Except Refusal Reply

/-- A host with the exchanges that it has had so far. -/
structure ListedHost (σ : Type) where
  kept : σ
  exchanges : List Exchange := []

instance {σ : Type} [Host σ] : Host (ListedHost σ) where
  serve endpoint request host :=
    let (answer, kept) := Host.serve endpoint request host.kept
    (answer, ⟨kept, host.exchanges ++ [⟨request, answer⟩]⟩)

end Backbeat.Rehearsal
