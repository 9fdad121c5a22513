import Backbeat.Text.Header

/-!
# Requests to an object service

What an S3 service can be asked about its buckets and objects, and what it replies.  A large
object may be uploaded in numbered parts: the upload is created, takes its parts, and is completed
with the list of them or aborted.
-/

namespace Backbeat.Bucket

inductive Request where
  | headBucket (bucket : String)
  | createBucket (bucket : String)
  | headObject (bucket key : String)
  | getObject (bucket key : String) (range : Option (Nat × Nat))
  | putObject (bucket key contentType : String) (data : ByteArray)
  | createUpload (bucket key contentType : String)
  | uploadPart (bucket key upload : String) (number : Nat) (data : ByteArray)
  | completeUpload (bucket key upload : String) (parts : List (Nat × Option String))
  | abortUpload (bucket key upload : String)

namespace Request

def name : Request → String
  | .headBucket _ => "HeadBucket"
  | .createBucket _ => "CreateBucket"
  | .headObject .. => "HeadObject"
  | .getObject .. => "GetObject"
  | .putObject .. => "PutObject"
  | .createUpload .. => "CreateMultipartUpload"
  | .uploadPart .. => "UploadPart"
  | .completeUpload .. => "CompleteMultipartUpload"
  | .abortUpload .. => "AbortMultipartUpload"

/-- The key that a request is about; one about a bucket has none. -/
def key? : Request → Option String
  | .headBucket _ => none
  | .createBucket _ => none
  | .headObject _ key => some key
  | .getObject _ key _ => some key
  | .putObject _ key _ _ => some key
  | .createUpload _ key _ => some key
  | .uploadPart _ key _ _ _ => some key
  | .completeUpload _ key _ _ => some key
  | .abortUpload _ key _ => some key

def contentType? : Request → Option String
  | .putObject _ _ contentType _ => some contentType
  | .createUpload _ _ contentType => some contentType
  | _ => none

def data? : Request → Option ByteArray
  | .putObject _ _ _ data => some data
  | .uploadPart _ _ _ _ data => some data
  | _ => none

/-- The upload that a request goes on with. -/
def upload? : Request → Option String
  | .uploadPart _ _ upload _ _ => some upload
  | .completeUpload _ _ upload _ => some upload
  | .abortUpload _ _ upload => some upload
  | _ => none

/-- The request as it arrives, where a content type is the value of a header. -/
def arriving : Request → Request
  | .putObject bucket key contentType data =>
    .putObject bucket key (Text.headerValue contentType) data
  | .createUpload bucket key contentType => .createUpload bucket key (Text.headerValue contentType)
  | request => request

end Request

/-- A reply.  The length of an object is told as a text, as it stands in a header. -/
inductive Reply where
  | done
  | head (length : String) (contentType : Option String)
  | content (data : ByteArray)
  | tagged (etag : Option String)
  | created (upload : Option String)

/-- Why a request is not fulfilled: the service refuses it, or it never gets there. -/
inductive Refusal where
  | refused (status : Nat) (code : String)
  | unsendable
  | unreachable
deriving DecidableEq

namespace Refusal

def isNotFound : Refusal → Bool
  | .refused status _ => status == 404
  | _ => false

def isNoSuchKey : Refusal → Bool
  | .refused _ code => code == "NoSuchKey"
  | _ => false

def message : Refusal → String
  | .refused status code => s!"service error {status} {code}"
  | .unsendable => "the request cannot be sent"
  | .unreachable => "the service cannot be reached"

end Refusal

end Backbeat.Bucket
