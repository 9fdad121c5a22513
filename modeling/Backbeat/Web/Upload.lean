import Backbeat.Web.App

/-!
# Uploads

A medium is put to a signed URL with its length declared.  The URLs for the media of a new beat
are issued together.
-/

namespace Backbeat

def IssuedUpload.toJson (issued : IssuedUpload) : Json :=
  .obj
    [("name", .str issued.name), ("media_type", .str issued.kind.name),
      ("expires_at", .int issued.expiry), ("upload_url", .str issued.url)]

namespace Web

/-- The length that a request declares for its body. -/
def readLength (request : Request) : Except WebError Int :=
  match request.header? "content-length" with
  | none => .error .noLength
  | some octets =>
    match Text.plainText? octets with
    | none => .error .badLength
    | some text =>
      match Text.readSigned64 (Text.trim text.toList) with
      | .error _ => .error .badLength
      | .ok length => if length < 0 then .error .badLength else .ok length

/-- The content type of a body about which nothing is said. -/
def unknownContentType : String := "application/octet-stream"

def readContentType (request : Request) : String :=
  ((request.header? "content-type").bind Text.plainText?).getD unknownContentType

/-- What a request claims about the medium that it brings. -/
def readUpload (request : Request) : Except WebError Upload := do
  let length ← readLength request
  (Upload.ofQuery request.target.parameters (readContentType request) length
    request.target.url).mapError .media

def confirmation (upload : Upload) (receipt : PutReceipt) : Json :=
  .obj
    [("name", .str upload.name), ("type", .str upload.kind.name), ("size", .nat receipt.size),
      ("etag", .orNull .str receipt.etag)]

namespace Site

variable {σ μ ρ : Type} [ObjectStore σ]

def upload (site : Site) (moment : Moment) (request : Request) : Handler σ μ ρ Response := do
  let upload ← Action.ofExcept (readUpload request)
  let receipt ← Handler.onStore (site.media.upload upload request.body moment.now)
  return .ofJson 200 (confirmation upload receipt)

def issue (site : Site) (moment : Moment) : Handler σ μ ρ Response := do
  let issued ← Action.ofChecked (site.media.issue moment.mint moment.now)
  return .ofJson 200 (.obj (issued.map fun upload => (upload.kind.name, upload.toJson)))

end Site

end Web

end Backbeat
