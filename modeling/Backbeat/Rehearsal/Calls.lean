import Backbeat.Media.Store

/-!
# Object stores that list their calls

An object store that lists the calls made to it, the latest first, and answers them as the store
that it keeps.
-/

namespace Backbeat.Rehearsal

inductive StoreCall where
  | stat (key : String)
  | getRange (key : String) (span : Option Span)
  | put (key contentType : String)
  | presignGet (key : String) (seconds : Nat)

/-- An object store with the calls made to it so far. -/
structure ListedStore (σ : Type) where
  kept : σ
  calls : List StoreCall := []

namespace ListedStore

variable {σ α : Type}

def call (listed : StoreCall) (action : Action σ MediaError α) :
    Action (ListedStore σ) MediaError α := do
  Action.change fun store => { store with calls := listed :: store.calls }
  action.onPart kept fun kept store => { store with kept }

instance [ObjectStore σ] : ObjectStore (ListedStore σ) where
  stat key := call (.stat key) (ObjectStore.stat key)
  getRange key span := call (.getRange key span) (ObjectStore.getRange key span)
  put key contentType body := call (.put key contentType) (ObjectStore.put key contentType body)
  presignGet key seconds := call (.presignGet key seconds) (ObjectStore.presignGet key seconds)

theorem run_call {listed : StoreCall} {action : Action σ MediaError α} {store : ListedStore σ}
    {result : Except MediaError α} {after : σ}
    (ran : action.run store.kept = .ok (result, after)) :
    (call listed action).run store = .ok (result, ⟨after, listed :: store.calls⟩) := by
  unfold call
  rw [Action.run_bind_of_ok (Action.run_change _ _)]
  exact Action.run_onPart ran

end ListedStore

end Backbeat.Rehearsal
