import Backbeat.Catalog.Memory
import Backbeat.Data.Crowd
import Backbeat.Web.Archive

/-!
# The steps of acquiring an archive

A request for an archive takes up to four atomic steps on a catalog in memory, and other requests
may get at the catalog between them: the beat is looked up and must have its archive uploaded, its
owner is looked up, the user claims it if there is none, and the owner is compared with the user.
A claim is an event, whether the user becomes the owner by it or not.

The link that is handed out at the end is not a matter of the catalog, and it is given here as a
function of the beat.
-/

namespace Backbeat.Web

/-- A user asks for the archive of a beat. -/
structure ArchiveRequest where
  beat : Uuid
  user : String
deriving DecidableEq

/-- A process in which archives are claimed. -/
abbrev Acquisition (α : Type) : Type := Process MemoryCatalog ArchiveRequest WebError α

namespace Acquisition

def checkOwner (id : Uuid) : Acquisition (Option String) :=
  .atomic (fun catalog => ((ownerOrNone (catalog.ownerOf id)).mapError .repository, catalog))
    fun _ => none

def claim (id : Uuid) (user : String) : Acquisition String :=
  .atomic
    (fun catalog =>
      let (owner, after) := catalog.saveOwner id user
      (.ok owner, after))
    fun _ => some ⟨id, user⟩

def compare (owner user : String) : Acquisition Unit :=
  .atomic (fun catalog => (requireOwner owner user, catalog)) fun _ => none

end Acquisition

namespace ArchiveRequest

variable (link : Beat → String) (request : ArchiveRequest)

/-- The beat that is asked about, if its archive has been uploaded. -/
def find (catalog : MemoryCatalog) : Except WebError Beat := do
  let beat ← (catalog.getById request.beat).mapError .repository
  requireUploaded beat.archiveUploaded "archive" beat
  return beat

/-- What is left once the owner is known. -/
def conclude (beat : Beat) (owner : String) : Acquisition Response := do
  Acquisition.compare owner request.user
  return .ofJson 200 (linkJson (link beat))

/-- What is left once the beat has been seen to have no owner. -/
def claim (beat : Beat) : Acquisition Response := do
  let owner ← Acquisition.claim beat.id request.user
  request.conclude link beat owner

/-- What is left once the beat is known. -/
def settle (beat : Beat) : Acquisition Response := do
  match ← Acquisition.checkOwner beat.id with
  | some owner => request.conclude link beat owner
  | none => request.claim link beat

def steps : Acquisition Response := do
  let beat ← .atomic (fun catalog => (request.find catalog, catalog)) fun _ => none
  request.settle link beat

variable {κ : Type}

/-- A crowd of requests that work on one catalog. -/
def crowd (requests : κ → ArchiveRequest) (catalog : MemoryCatalog) :
    Crowd κ MemoryCatalog ArchiveRequest WebError Response where
  service := catalog
  processes caller := (requests caller).steps link

end ArchiveRequest

end Backbeat.Web
