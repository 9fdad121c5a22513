import Backbeat.Bucket.Host
import Backbeat.Bucket.Parts
import Backbeat.Data.Capacity
import Backbeat.Digest.Hmac
import Backbeat.Media.Store
import Backbeat.Text.Blank
import Backbeat.Text.Integer
import Backbeat.Text.Percent

/-!
# An object store in a bucket

A store is one bucket of a host.  A body that is smaller than a part is put whole; a larger one is
uploaded in parts as it comes in.  When a part or the body fails, the upload is aborted and the
first failure is what is reported.  A part for which there can be no room is a trap, and so are
more parts than can be numbered.
-/

namespace Backbeat

open Bucket (Host Request Reply Refusal)

/-- The least size that all parts of an upload but the last must have. -/
def leastPartSize : Nat := 5 * 1024 * 1024

/-- A bucket of a host in state `σ`, and how to sign for it. -/
structure BucketStore (σ : Type) where
  service : σ
  endpoint : String
  bucket : String
  key : String := ""
  partSize : Nat := 8 * 1024 * 1024
  leastPartSize_le : leastPartSize ≤ partSize := by decide

namespace BucketStore

variable {σ : Type}

def connectAttempts : Nat := 10

/-- The longest time in seconds that a URL can be signed for. -/
def longestPresign : Nat := 604800

/-- The content type of an object of which none is known. -/
def unknownContentType : String := "application/octet-stream"

/-- The store with parts of a size, which cannot be too small. -/
def withPartSize (store : BucketStore σ) (size : Nat) : BucketStore σ :=
  { store with partSize := max size leastPartSize, leastPartSize_le := Nat.le_max_right _ _ }

/-- Whether a request can be sent: a key is not empty, and a content type is a header value. -/
def isSendable (request : Request) : Bool :=
  request.key?.all (! ·.isEmpty) && request.contentType?.all Text.isHeaderText

section Requests

variable [Host σ]

def send (request : Request) : Action (BucketStore σ) Refusal Reply :=
  Action.answer fun store =>
    if isSendable request then
      let (answer, service) := Host.serve store.endpoint request.arriving store.service
      (answer, { store with service })
    else
      (.error .unsendable, store)

/-- Send a request any refusal of which is the store's fault. -/
def demand (request : Request) : Action (BucketStore σ) MediaError Reply :=
  (send request).mapError fun refusal => .backend refusal.message

/-- Look for the bucket, and create it if the service says that it is missing. -/
def ensureBucket (bucket : String) : (attempts : Nat) → Action (BucketStore σ) MediaError Unit
  | 0 => .fail (.backend Refusal.unreachable.message)
  | attempts + 1 => do
    match ← (send (.headBucket bucket)).attempt with
    | .ok _ => pure ()
    | .error refusal =>
      if refusal.isNotFound then
        let _ ← demand (.createBucket bucket)
      else if attempts = 0 then
        Action.fail (.backend refusal.message)
      else
        ensureBucket bucket attempts

def connect : Action (BucketStore σ) MediaError Unit := do
  ensureBucket (← Action.look BucketStore.bucket) connectAttempts

def readLength (length : String) : Except MediaError Nat :=
  match Text.readSigned64 length.toList with
  | .ok size => .ok size.toNat
  | .error fault => .error (.backend fault.message)

def stat (key : String) : Action (BucketStore σ) MediaError ObjectHead := do
  let bucket ← Action.look BucketStore.bucket
  let reply ← (send (.headObject bucket key)).mapError fun refusal =>
    if refusal.isNotFound then .notFound key else .backend refusal.message
  match reply with
  | .head length contentType =>
    let size ← Action.ofExcept (readLength length)
    return ⟨size, (contentType.map Text.trimText).getD unknownContentType⟩
  | _ => return ⟨0, unknownContentType⟩

def getRange (key : String) (span : Option Span) :
    Action (BucketStore σ) MediaError ByteStream := do
  let bucket ← Action.look BucketStore.bucket
  let range := span.map fun span => (span.start, span.stop)
  let reply ← (send (.getObject bucket key range)).mapError fun refusal =>
    if refusal.isNoSuchKey then .notFound key else .backend refusal.message
  match reply with
  | .content data => return [.data data]
  | _ => return []

def tagOf : Reply → Option String
  | .tagged etag => etag
  | _ => none

/-- The upload in a reply, which must name one. -/
def uploadOf : Reply → Except MediaError String
  | .created (some upload) => .ok upload
  | _ => .error (.invalid .noUploadId)

def putWhole (bucket key contentType : String) (data : ByteArray) :
    Action (BucketStore σ) MediaError PutReceipt := do
  let reply ← demand (.putObject bucket key contentType data)
  return ⟨tagOf reply, data.size⟩

/-- Count a part by its number, which is a signed one of thirty-two bits, and with its bytes. -/
def countPart (number sent : Nat) : Checked Unit :=
  if number ≤ Text.maxSigned32 then countBytes sent else .error .addOverflow

/-- Upload parts, numbered on from `number` when `sent` bytes were sent, and list them with their
tags. -/
def uploadParts (bucket key upload : String) (number sent : Nat) :
    List ByteArray → Action (BucketStore σ) MediaError (List (Nat × Option String))
  | [] => pure []
  | data :: rest => do
    Action.ofChecked (countPart number (sent + data.size))
    let reply ← demand (.uploadPart bucket key upload number data)
    let later ← uploadParts bucket key upload (number + 1) (sent + data.size) rest
    return (number, tagOf reply) :: later

/-- Upload the parts of a body, which may then turn out to have broken off. -/
def uploadBody (bucket key upload : String) (parts : Parts) :
    Action (BucketStore σ) MediaError (List (Nat × Option String)) := do
  let listed ← uploadParts bucket key upload 1 0 parts.pieces
  match parts.fault with
  | some fault => Action.fail (.stream fault)
  | none => return listed

/-- Upload a body to a created upload, and complete it; what fails before that aborts it. -/
def fillUpload (bucket key upload : String) (parts : Parts) :
    Action (BucketStore σ) MediaError PutReceipt := do
  match ← (uploadBody bucket key upload parts).attempt with
  | .ok listed =>
    let reply ← demand (.completeUpload bucket key upload listed)
    return ⟨tagOf reply, parts.size⟩
  | .error error =>
    (send (.abortUpload bucket key upload)).regardless
    Action.fail error

def putInParts (bucket key contentType : String) (parts : Parts) :
    Action (BucketStore σ) MediaError PutReceipt := do
  let reply ← demand (.createUpload bucket key contentType)
  let upload ← Action.ofExcept (uploadOf reply)
  fillUpload bucket key upload parts

/-- Put a body that is cut into parts: in one piece unless a part is full. -/
def putCut (bucket key contentType : String) (parts : Parts) :
    Action (BucketStore σ) MediaError PutReceipt :=
  if parts.full.isEmpty then
    match parts.fault with
    | some fault => Action.fail (.stream fault)
    | none => putWhole bucket key contentType parts.rest
  else
    putInParts bucket key contentType parts

/-- Put a body, with room for one part of it at a time. -/
def put (key contentType : String) (body : ByteStream) :
    Action (BucketStore σ) MediaError PutReceipt := do
  let bucket ← Action.look BucketStore.bucket
  let size ← Action.look BucketStore.partSize
  Action.ofChecked (allocate size)
  putCut bucket key contentType (body.parts size)

end Requests

/-- The octets that stand for themselves in the path of a URL. -/
def isPathOctet (octet : UInt8) : Bool :=
  Text.isUnreserved octet || octet == 0x2F

def objectPath (bucket key : String) : String :=
  String.ofList <|
    Text.percentEncode isPathOctet s!"/{bucket}/{key}".toUTF8.data.toList

/-- A signed URL that fetches an object for so many seconds. -/
def presign (store : BucketStore σ) (key : String) (seconds : Nat) : Except MediaError String :=
  if key.isEmpty then .error (.backend Refusal.unsendable.message)
  else if longestPresign < seconds then .error (.backend "the URL would live too long")
  else
    let asked := s!"{objectPath store.bucket key}?X-Amz-Expires={seconds}"
    let tag := Text.hexOfBytes (Digest.hmacSha256 store.key.toUTF8 asked.toUTF8)
    .ok s!"{store.endpoint}{asked}&X-Amz-Signature={tag}"

instance [Host σ] : ObjectStore (BucketStore σ) where
  stat := stat
  getRange := getRange
  put := put
  presignGet key seconds := .answer fun store => (store.presign key seconds, store)

end BucketStore

end Backbeat
