import Backbeat.Media.Settings
import Backbeat.Media.Signature
import Backbeat.Media.Store
import Backbeat.Uuid

/-!
# Serving and accepting media

Media go out by asking the store for the object's size, clamping the requested range against it,
and opening a stream; a range that cannot be satisfied fails before any content is fetched.  They
come in only through a signed URL that has not expired, with a declared length within the limit;
the store is not touched unless all that holds.
-/

namespace Backbeat

/-- Who signs the URLs, and the settings of delivery. -/
structure MediaService where
  signer : Signer
  settings : MediaSettings

/-- An object opened for delivery.  The span is set when a range was asked for. -/
structure OpenedMedia where
  stream : ByteStream
  contentType : String
  total : Nat
  span : Option Span

/-- The number of bytes that the stream is to yield. -/
def OpenedMedia.length (media : OpenedMedia) : Checked Nat :=
  match media.span with
  | none => .ok media.total
  | some span => span.length

structure IssuedUpload where
  name : String
  kind : MediaKind
  expiry : Int
  url : String
deriving DecidableEq

/-- A number of seconds as a signed number of sixty-four bits. -/
def signedSeconds (seconds : Nat) : Int :=
  Int.bmod seconds (Text.max64 + 1)

/-- The time so many seconds after `now`. -/
def expiryAt (now : Int) (seconds : Nat) : Checked Int :=
  let expiry := now + signedSeconds seconds
  if -(Text.maxSigned64 + 1) ≤ expiry ∧ expiry ≤ Text.maxSigned64 then .ok expiry
  else .error .addOverflow

namespace MediaService

variable {σ : Type} [ObjectStore σ]

def openMedia (key : String) (range : Option ByteRange) : Action σ MediaError OpenedMedia := do
  let head ← ObjectStore.stat key
  let span ← Action.ofExcept (range.mapM fun range =>
    (range.resolve head.size).mapError .invalidRange)
  let stream ← ObjectStore.getRange key span
  return { stream, contentType := head.contentType, total := head.size, span }

/-- Refuse an upload that is not signed, not in time or too large. -/
def allow (service : MediaService) (upload : Upload) (now : Int) : Except MediaError Unit := do
  service.signer.verify upload.url upload now
  service.settings.limits.check upload.kind upload.declaredLength

def upload (service : MediaService) (upload : Upload) (body : ByteStream) (now : Int) :
    Action σ MediaError PutReceipt := do
  Action.ofExcept (service.allow upload now)
  ObjectStore.put upload.name upload.contentType body

def uploadUrlFor (service : MediaService) (name : String) (kind : MediaKind) (now : Int) :
    Checked IssuedUpload :=
  (expiryAt now service.settings.urlSeconds).map fun expiry =>
    { name, kind, expiry, url := (service.signer.build name kind expiry).toString }

/-- Signed URLs for the media of a new beat, under the names that `mint` gives them. -/
def issue (service : MediaService) (mint : MediaKind → Uuid) (now : Int) :
    Checked (List IssuedUpload) :=
  MediaKind.all.mapM fun kind => service.uploadUrlFor (mint kind).toString kind now

/-- A URL that fetches an object straight from the store. -/
def downloadUrl (service : MediaService) (key : String) : Action σ MediaError String :=
  ObjectStore.presignGet key service.settings.urlSeconds

end MediaService

end Backbeat
