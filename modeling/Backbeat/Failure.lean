import Backbeat.Json.Value

/-!
# Failures

A failure is what a client is told when a request cannot be served: a kind with its status code,
a message, and optionally a reason a program can branch on and details about the fields at fault.
A general failure is an internal one, and its message is never shown.
-/

namespace Backbeat

inductive FailureKind where
  | badRequest
  | notAuthenticated
  | forbidden
  | notFound
  | lengthRequired
  | general
  | unavailable
deriving DecidableEq

namespace FailureKind

def code : FailureKind → Nat
  | .badRequest => 400
  | .notAuthenticated => 401
  | .forbidden => 403
  | .notFound => 404
  | .lengthRequired => 411
  | .general => 500
  | .unavailable => 503

def name : FailureKind → String
  | .badRequest => "BadRequest"
  | .notAuthenticated => "NotAuthenticated"
  | .forbidden => "Forbidden"
  | .notFound => "NotFound"
  | .lengthRequired => "LengthRequired"
  | .general => "GeneralError"
  | .unavailable => "Unavailable"

/-- The name of a kind in small letters and hyphens. -/
def className : FailureKind → String
  | .badRequest => "bad-request"
  | .notAuthenticated => "not-authenticated"
  | .forbidden => "forbidden"
  | .notFound => "not-found"
  | .lengthRequired => "length-required"
  | .general => "general-error"
  | .unavailable => "unavailable"

def all : List FailureKind :=
  [.badRequest, .notAuthenticated, .forbidden, .notFound, .lengthRequired, .general, .unavailable]

def ofName? (name : String) : Option FailureKind :=
  all.find? fun kind => kind.name == name

def isInternal (kind : FailureKind) : Bool :=
  kind == .general

@[simp]
theorem ofName?_name (kind : FailureKind) : ofName? kind.name = some kind := by
  cases kind <;> decide

end FailureKind

structure Failure where
  kind : FailureKind
  message : String
  reason : Option String := none
  details : Option Json := none

namespace Failure

/-- The message that stands for every internal one. -/
def internalMessage : String := "Internal server error"

/-- The failure as a client may see it. -/
def sanitized (failure : Failure) : Failure :=
  { failure with message := if failure.kind.isInternal then internalMessage else failure.message }

def text (failure : Failure) : String :=
  let name := failure.kind.name
  let code := failure.kind.code
  let message := failure.message
  s!"{name} ({code}): {message}"

def toJson (failure : Failure) : Json :=
  .obj <|
    [("name", .str failure.kind.name), ("message", .str failure.message),
      ("code", .nat failure.kind.code), ("className", .str failure.kind.className)] ++
    (failure.reason.map fun reason => ("reason", Json.str reason)).toList ++
    (failure.details.map fun details => ("errors", details)).toList

end Failure

end Backbeat
