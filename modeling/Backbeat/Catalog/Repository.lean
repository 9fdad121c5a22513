import Backbeat.Catalog.Choice
import Backbeat.Catalog.Filter
import Backbeat.Data.Action
import Backbeat.Failure.Report
import Backbeat.Json.Reader
import Backbeat.Json.Record

/-!
# Repositories of beats

A repository answers for beats and for the users who have acquired their archives.  This module
says what can be asked of one and how it may refuse.
-/

namespace Backbeat

inductive CatalogFault where
  | syntaxFault (fault : Json.ReadFault)
  | noList
  | beat (fault : Json.RecordFault)

def CatalogFault.message : CatalogFault → String
  | .syntaxFault fault => fault.message
  | .noList => "the catalog is not a list"
  | .beat fault => fault.message

inductive RepositoryError where
  | notFound (what : String)
  | backend (cause : String)
  | catalog (fault : CatalogFault)

namespace RepositoryError

def message : RepositoryError → String
  | .notFound what => s!"Beat not found: {what}"
  | .backend cause => s!"Repository backend error: {cause}"
  | .catalog fault => "Catalog parse error: " ++ fault.message

def isNotFound : RepositoryError → Bool
  | .notFound _ => true
  | _ => false

def report (error : RepositoryError) : Report :=
  match error with
  | .notFound what =>
    .ofFailure
      { kind := .notFound, message := s!"beat not found: {what}", reason := some "NotFound" }
  | _ =>
    .causedBy { kind := .general, message := error.message, reason := some "Internal" }
      (.ofText error.message)

end RepositoryError

/-- What can be asked of a repository in state `σ`. -/
class Repository (σ : Type) where
  /-- The beat of an identifier. -/
  getById : Uuid → Action σ RepositoryError Beat
  /-- One beat that a filter accepts and whose identifier text is not excluded. -/
  findMatching : Choice → Filter → List String → Action σ RepositoryError Beat
  /-- The user who acquired the archive of a beat. -/
  ownerOf : Uuid → Action σ RepositoryError String
  /-- Record a user as owner unless there is one already, and say who is the owner then. -/
  saveOwner : Uuid → String → Action σ RepositoryError String

end Backbeat
