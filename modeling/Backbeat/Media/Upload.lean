import Backbeat.Catalog.Filter.Query
import Backbeat.Media.Error

/-!
# What an upload says of itself

An upload names the object, its kind and the time at which its permission ends, all in the query
of its URL.  The URL is kept exactly as it was received, because the signature covers it whole.
-/

namespace Backbeat

/-- What an upload request claims about itself.  A negative length is an unknown one. -/
structure Upload where
  kind : MediaKind
  contentType : String
  declaredLength : Int
  name : String
  expiry : Int
  url : String
deriving DecidableEq

namespace Upload

/-- The value of a query parameter that must not be empty. -/
def parameter (query : Query) (name : String) : Except MediaError String :=
  match query.get? name with
  | none => .error (.invalid (.missingParameter name))
  | some value => if value.isEmpty then .error (.invalid (.missingParameter name)) else .ok value

def readKind (name : String) : Except MediaError MediaKind :=
  match MediaKind.ofName? name with
  | some kind => .ok kind
  | none => .error (.invalidKind name)

def readExpiry (text : String) : Except MediaError Int :=
  match Text.readSigned64 text.toList with
  | .ok expiry => .ok expiry
  | .error _ => .error (.invalid .badExpiry)

/-- The upload of a query.  That a signature is present is all that is asked of it here. -/
def ofQuery (query : Query) (contentType : String) (declaredLength : Int) (url : String) :
    Except MediaError Upload := do
  let name ← parameter query "name"
  let kind ← readKind (← parameter query "type")
  let expiry ← readExpiry (← parameter query "exp")
  let _ ← parameter query "hash"
  return { kind, contentType, declaredLength, name, expiry, url }

end Upload

end Backbeat
