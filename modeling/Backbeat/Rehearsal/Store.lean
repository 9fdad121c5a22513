import Backbeat.Media.Store

/-!
# Object stores in rehearsal

An object store that can be made to fail when it is asked for an object's size or for a URL.
-/

namespace Backbeat.Rehearsal

structure RehearsedStore (σ : Type) where
  kept : σ
  statFault : Option String := none
  presignFault : Option String := none

namespace RehearsedStore

variable {σ α : Type}

/-- An action on the store that is rehearsed. -/
def onKept {ε : Type} (action : Action σ ε α) : Action (RehearsedStore σ) ε α :=
  action.onPart kept fun kept store => { store with kept }

def call (fault : RehearsedStore σ → Option String) (action : Action σ MediaError α) :
    Action (RehearsedStore σ) MediaError α := do
  match ← Action.look fault with
  | some cause => .fail (.backend cause)
  | none => onKept action

instance [ObjectStore σ] : ObjectStore (RehearsedStore σ) where
  stat key := call statFault (ObjectStore.stat key)
  getRange key span := onKept (ObjectStore.getRange key span)
  put key contentType body := onKept (ObjectStore.put key contentType body)
  presignGet key seconds := call presignFault (ObjectStore.presignGet key seconds)

end RehearsedStore

end Backbeat.Rehearsal
