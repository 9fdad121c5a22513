import Backbeat.Catalog.Repository

/-!
# Refusals of the feed

What can go wrong when a beat is selected or recorded, in which words, and what a client is told
of it.
-/

namespace Backbeat

inductive FeedFault where
  | noUser
  | noRoom
  | described (text : String)
deriving DecidableEq

def FeedFault.message : FeedFault → String
  | .noUser => "user id is required"
  | .noRoom => "max history must be at least 1"
  | .described text => text

inductive FeedError where
  | notFound (what : String)
  | retriesExceeded (attempts : Nat)
  | invalid (fault : FeedFault)
  | backend (cause : String)
deriving DecidableEq

namespace FeedError

def name : FeedError → String
  | .notFound _ => "NotFound"
  | .retriesExceeded _ => "RetriesExceeded"
  | .invalid _ => "Invalid"
  | .backend _ => "Backend"

def message : FeedError → String
  | .notFound what => s!"No beat found: {what}"
  | .retriesExceeded attempts =>
    s!"History update gave up after {attempts} conflicting attempts"
  | .invalid fault => "Invalid feed request: " ++ fault.message
  | .backend cause => s!"History backend error: {cause}"

def isNotFound : FeedError → Bool
  | .notFound _ => true
  | _ => false

/-- The feed's word for a refusal of the repository. -/
def ofRepository (error : RepositoryError) : FeedError :=
  match error with
  | .notFound what => .notFound what
  | _ => .backend error.message

def report (error : FeedError) : Report :=
  match error with
  | .notFound _ =>
    .ofFailure { kind := .notFound, message := error.message, reason := some "NotFound" }
  | .retriesExceeded _ =>
    .causedBy
      { kind := .unavailable, message := "Feed is busy, try again",
        reason := some "RetriesExceeded" }
      (.ofText error.message)
  | .invalid _ =>
    .ofFailure { kind := .badRequest, message := error.message, reason := some "ValidationFailed" }
  | .backend _ =>
    .causedBy { kind := .general, message := error.message, reason := some "Internal" }
      (.ofText error.message)

end FeedError

end Backbeat
