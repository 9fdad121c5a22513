import Backbeat.Failure
import Backbeat.Json.Printer
import Backbeat.Media.Stream
import Backbeat.Text.Caseless
import Backbeat.Text.Utf8
import Backbeat.Web.Target

/-!
# Requests and responses

Both carry headers, whose values are octets and need not be text.  The names of headers are
compared without letter case, and of several headers of one name the first counts.
-/

namespace Backbeat.Web

inductive Method where
  | get
  | head
  | put
  | post
  | other (name : String)
deriving DecidableEq

namespace Method

def ofName (name : String) : Method :=
  if name = "GET" then .get
  else if name = "HEAD" then .head
  else if name = "PUT" then .put
  else if name = "POST" then .post
  else .other name

def name : Method → String
  | .get => "GET"
  | .head => "HEAD"
  | .put => "PUT"
  | .post => "POST"
  | .other name => name

end Method

/-- The names of headers with the octets of their values. -/
abbrev Headers : Type := List (String × List UInt8)

/-- The value of the first header of a name. -/
def Headers.get? (headers : Headers) (name : String) : Option (List UInt8) :=
  (headers.find? fun header => Text.sameCaseless header.1 name).map Prod.snd

structure Request where
  method : Method
  target : Target
  headers : Headers := []
  body : ByteStream := []

def Request.header? (request : Request) (name : String) : Option (List UInt8) :=
  request.headers.get? name

structure Response where
  status : Nat
  headers : Headers := []
  body : ByteArray := ByteArray.empty

namespace Response

def header? (response : Response) (name : String) : Option (List UInt8) :=
  response.headers.get? name

/-- The response with one more header of a text. -/
def withHeader (response : Response) (name value : String) : Response :=
  { response with headers := response.headers ++ [(name, Text.Utf8.encode value)] }

/-- The response with the length of its body in a header. -/
def withLength (response : Response) : Response :=
  response.withHeader "content-length" (toString response.body.size)

/-- The response without its body; its headers stay. -/
def withoutBody (response : Response) : Response :=
  { response with body := ByteArray.empty }

def ofBody (status : Nat) (contentType : String) (body : ByteArray) : Response :=
  ({ status, body : Response }.withHeader "content-type" contentType).withLength

def ofText (status : Nat) (text : String) : Response :=
  ofBody status "text/plain; charset=utf-8" text.toUTF8

def ofJson (status : Nat) (value : Json) : Response :=
  ofBody status "application/json" value.render.toUTF8

/-- The response that tells a client of a failure. -/
def ofFailure (failure : Failure) : Response :=
  ofJson failure.kind.code failure.toJson

end Response

end Backbeat.Web
