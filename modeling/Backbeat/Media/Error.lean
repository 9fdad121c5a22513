import Backbeat.Failure.Report
import Backbeat.Media.Fault
import Backbeat.Media.Kind
import Backbeat.Media.Range

/-!
# Refusals of media requests

What can go wrong when media are served or accepted, in which words, and what a client is told
of it.  Faults of the store and of streams are internal; everything else is the client's doing.
-/

namespace Backbeat

inductive RequestFault where
  | missingParameter (name : String)
  | badExpiry
  | emptySecret
  | noUploadId
  | described (text : String)
deriving DecidableEq

def RequestFault.message : RequestFault → String
  | .missingParameter name => "missing query parameter `" ++ name ++ "`"
  | .badExpiry => "`exp` must be an integer"
  | .emptySecret => "verification secret must not be empty"
  | .noUploadId => "object store returned no upload id"
  | .described text => text

inductive MediaError where
  | notFound (key : String)
  | invalidRange (fault : RangeFault)
  | invalidSignature
  | urlExpired (expiry now : Int)
  | sizeExceeded (kind : MediaKind) (size : Int) (limit : Nat)
  | invalidKind (name : String)
  | invalid (fault : RequestFault)
  | backend (cause : String)
  | stream (fault : StreamFault)
deriving DecidableEq

namespace MediaError

def name : MediaError → String
  | .notFound _ => "NotFound"
  | .invalidRange _ => "InvalidRange"
  | .invalidSignature => "InvalidHash"
  | .urlExpired .. => "UrlExpired"
  | .sizeExceeded .. => "SizeExceeded"
  | .invalidKind _ => "InvalidMediaType"
  | .invalid _ => "Invalid"
  | .backend _ => "Backend"
  | .stream _ => "Io"

def message : MediaError → String
  | .notFound key => s!"Object not found: {key}"
  | .invalidRange fault => "Invalid range: " ++ fault.message
  | .invalidSignature => "Upload URL signature mismatch"
  | .urlExpired expiry now => s!"Upload URL expired at {expiry} (now {now})"
  | .sizeExceeded kind size limit => s!"{kind.name} too large: {size} > {limit}"
  | .invalidKind name => s!"Invalid media type: {name}"
  | .invalid fault => "Invalid request: " ++ fault.message
  | .backend cause => s!"Storage backend error: {cause}"
  | .stream fault => s!"I/O error: {fault.message}"

def reason : MediaError → String
  | .notFound _ => "NotFound"
  | .invalidRange _ => "InvalidRange"
  | .invalidSignature => "InvalidHash"
  | .urlExpired .. => "URLExpired"
  | .sizeExceeded .. => "SizeExceeded"
  | .invalidKind _ => "InvalidMediaType"
  | .invalid _ => "ValidationFailed"
  | .backend _ => "Internal"
  | .stream _ => "Internal"

def failureKind : MediaError → FailureKind
  | .notFound _ => .notFound
  | .backend _ => .general
  | .stream _ => .general
  | _ => .badRequest

def failure (error : MediaError) : Failure :=
  { kind := error.failureKind, message := error.message, reason := some error.reason }

/-- The report of a refusal; an internal one keeps its cause. -/
def report (error : MediaError) : Report :=
  if error.failureKind.isInternal then .causedBy error.failure (.ofText error.message)
  else .ofFailure error.failure

end MediaError

end Backbeat
