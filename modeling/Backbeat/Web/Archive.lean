import Backbeat.Web.App

/-!
# Acquiring an archive

The first user who fetches the archive of a beat becomes its owner, and everyone else is turned
away.  Acquiring takes up to three steps, each of them atomic: the owner is looked up; where there
is none, the user is recorded unless someone else was faster; and whoever is the owner by then is
compared with the user.
-/

namespace Backbeat.Web

/-- What looking an owner up says: who it is, or that there is none yet. -/
def ownerOrNone (answer : Except RepositoryError String) : Except RepositoryError (Option String) :=
  match answer with
  | .ok owner => .ok (some owner)
  | .error error => if error.isNotFound then .ok none else .error error

def requireOwner (owner user : String) : Except WebError Unit :=
  if owner = user then .ok () else .error .foreignOwner

def linkJson (url : String) : Json :=
  .obj [("url", .str url)]

variable {σ μ ρ : Type} [Repository ρ]

/-- The owner of an archive once a user has asked for it. -/
def ownerFor (id : Uuid) (user : String) : Action ρ RepositoryError String := do
  match ← Action.ofExcept (ownerOrNone (← (Repository.ownerOf id).attempt)) with
  | some owner => pure owner
  | none => Repository.saveOwner id user

/-- Let a user have an archive who is its owner or can become it. -/
def acquire (id : Uuid) (user : String) : Handler σ μ ρ Unit := do
  let owner ← Handler.onRepository (ownerFor id user)
  Action.ofExcept (requireOwner owner user)

def Site.archive [ObjectStore σ] (site : Site) (segment : String) (request : Request) :
    Handler σ μ ρ Response := do
  let user ← Action.ofExcept (readUser request)
  let id ← Action.ofExcept (readId segment)
  let beat ← Handler.namedBeat id
  Action.ofExcept (requireUploaded beat.archiveUploaded "archive" beat)
  acquire beat.id user
  let url ← Handler.onStore (site.media.downloadUrl beat.archivePath)
  return .ofJson 200 (linkJson url)

end Backbeat.Web
