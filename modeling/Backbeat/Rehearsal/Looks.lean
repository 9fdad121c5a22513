import Backbeat.Media.Store

/-!
# Looks at object stores

What a reader learns of a store by asking, one time after another, for the size of an object or for
bytes of it.  A refusal is learnt like any other answer.
-/

namespace Backbeat.Rehearsal

inductive Look where
  | stat (key : String)
  | getRange (key : String) (span : Option Span)

/-- What a look shows. -/
inductive Sight where
  | head (found : Except MediaError ObjectHead)
  | stream (found : Except MediaError ByteStream)

variable {σ : Type} [ObjectStore σ]

def Look.take : Look → Action σ MediaError Sight
  | .stat key => do return .head (← (ObjectStore.stat key).attempt)
  | .getRange key span => do return .stream (← (ObjectStore.getRange key span).attempt)

/-- What looks at a store show one after the other, or the trap that they run into. -/
def seen (looks : List Look) (store : σ) : Checked (Except MediaError (List Sight)) :=
  ((Action.each Look.take looks).run store).map Prod.fst

end Backbeat.Rehearsal
