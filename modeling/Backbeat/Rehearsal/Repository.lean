import Backbeat.Catalog.Repository

/-!
# Repositories in rehearsal

A repository whose calls can be made to fail.  A rival can be set on it, who becomes the owner of
an archive just after someone was told that it has none.
-/

namespace Backbeat.Rehearsal

structure RehearsedRepository (ρ : Type) where
  kept : ρ
  getFault : Option String := none
  findFault : Option String := none
  ownerFault : Option String := none
  saveFault : Option String := none
  rival : Option String := none

namespace RehearsedRepository

variable {ρ α : Type}

/-- An action on the repository that is rehearsed. -/
def onKept {ε : Type} (action : Action ρ ε α) : Action (RehearsedRepository ρ) ε α :=
  action.onPart kept fun kept repository => { repository with kept }

def call (fault : RehearsedRepository ρ → Option String) (action : Action ρ RepositoryError α) :
    Action (RehearsedRepository ρ) RepositoryError α := do
  match ← Action.look fault with
  | some cause => .fail (.backend cause)
  | none => onKept action

def claim [Repository ρ] (id : Uuid) : Action (RehearsedRepository ρ) RepositoryError Unit := do
  match ← Action.look rival with
  | none => pure ()
  | some user => let _ ← onKept (Repository.saveOwner id user)

/-- Look an owner up, and let the rival in where there is none. -/
def lookUp [Repository ρ] (id : Uuid) : Action (RehearsedRepository ρ) RepositoryError String := do
  match ← (onKept (Repository.ownerOf id)).attempt with
  | .ok owner => pure owner
  | .error error =>
    claim id
    .fail error

/-- Look an owner up unless that is to fail. -/
def ownerOf [Repository ρ] (id : Uuid) : Action (RehearsedRepository ρ) RepositoryError String := do
  match ← Action.look ownerFault with
  | some cause => .fail (.backend cause)
  | none => lookUp id

instance [Repository ρ] : Repository (RehearsedRepository ρ) where
  getById id := call getFault (Repository.getById id)
  findMatching choice filter excluded :=
    call findFault (Repository.findMatching choice filter excluded)
  ownerOf := ownerOf
  saveOwner id user := call saveFault (Repository.saveOwner id user)

end RehearsedRepository

end Backbeat.Rehearsal
