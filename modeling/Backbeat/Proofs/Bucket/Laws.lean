import Backbeat.Media.Store.Memory
import Backbeat.Proofs.Bucket.Likeness
import Backbeat.Proofs.Media.Bytes
import Backbeat.Proofs.Text.Unreserved
import Backbeat.Text.Integer
import Mathlib.Data.List.Forall2
import Mathlib.Logic.Function.Basic

/-!
# What is asked of a host

Of the host that a store works with only its answers are known.  This module says what is taken of
them where something is proved about the objects that a bucket shows.
-/

namespace Backbeat

open Bucket (Host Request Reply Refusal)

namespace Bucket.Request

/-- Whether a request looks at an object. -/
def looks : Request → Bool
  | .headObject .. => true
  | .getObject .. => true
  | _ => false

/-- Whether an object appears when a request is granted. -/
def commits : Request → Bool
  | .putObject .. => true
  | .completeUpload .. => true
  | _ => false

end Bucket.Request

/-- What a host shows of its objects does not depend on more than `shown`, and only requests that
look or commit can change that. -/
structure ShownBy {σ φ : Type} [Host σ] (endpoint : String) (shown : σ → φ) : Prop where
  looked : ∀ request : Request, request.looks = true →
    AnsweredAlike (fun service other => shown service = shown other) endpoint request
  kept : ∀ (request : Request) (service : σ), request.looks = false → request.commits = false →
    shown (Host.serve endpoint request service).2 = shown service

/-! ## Buckets in good order -/

/-- A key that stands for itself in a URL. -/
def IsPlainKey (key : String) : Prop :=
  key.isEmpty = false ∧ Text.Unreserved key.toList

/-- A content type that is a header value, and neither begins nor ends with a blank. -/
def IsPlainType (contentType : String) : Prop :=
  contentType.isEmpty = false ∧ Text.isHeaderText contentType = true ∧
    Text.trimText contentType = contentType

/-- The sizes up to which a service takes what it is sent: those of a key, of a content type, of
what one request carries and of an object are in bytes, and an upload has so many parts at most. -/
structure ServiceLimits where
  keyBytes : Nat
  typeBytes : Nat
  requestBytes : Nat
  objectBytes : Nat
  parts : Nat
  objectBytes_le : objectBytes ≤ Text.maxSigned64 := by decide
  parts_le : parts ≤ Text.maxSigned32 := by decide

namespace ServiceLimits

/-- The limits of S3, where a content type shares eight KiB with all other headers of a request. -/
def s3 : ServiceLimits where
  keyBytes := 1024
  typeBytes := 1024
  requestBytes := 5 * 1024 * 1024 * 1024
  objectBytes := 5 * 1024 * 1024 * 1024 * 1024
  parts := 10000

variable (limits : ServiceLimits)

/-- A key that stands for itself in a URL and is not too long. -/
def TakesKey (key : String) : Prop :=
  IsPlainKey key ∧ key.utf8ByteSize ≤ limits.keyBytes

def TakesType (contentType : String) : Prop :=
  IsPlainType contentType ∧ contentType.utf8ByteSize ≤ limits.typeBytes

/-- A body that is neither too large as a whole nor in the parts that it is cut into, and has not
too many of them. -/
structure TakesBody (partSize : Nat) (body : ByteStream) : Prop where
  object : body.yielded.size ≤ limits.objectBytes
  requests : ∀ data ∈ (body.parts partSize).pieces, data.size ≤ limits.requestBytes
  parts : (body.parts partSize).pieces.length ≤ limits.parts

end ServiceLimits

/-- An upload that takes parts, and the parts that it has with their tags. -/
structure OpenUpload where
  key : String
  contentType : String
  parts : Nat → Option (ByteArray × String)

namespace OpenUpload

/-- The upload with a part in place of what it has under the number. -/
def grow (upload : OpenUpload) (number : Nat) (data : ByteArray) (tag : String) : OpenUpload :=
  { upload with parts := Function.update upload.parts number (some (data, tag)) }

/-- An upload has a part under the number and with the tag that a list tells. -/
def Has (upload : OpenUpload) (listed : Nat × Option String) (data : ByteArray) : Prop :=
  ∃ tag, listed.2 = some tag ∧ upload.parts listed.1 = some (data, tag)

/-- A list of parts completes an upload to the pieces that it names: they are there under ascending
numbers, and none but the last is too small. -/
structure CompletedBy (upload : OpenUpload) (listed : List (Nat × Option String))
    (pieces : List ByteArray) : Prop where
  some_part : listed ≠ []
  ascending : (listed.map Prod.fst).Pairwise (· < ·)
  have_them : List.Forall₂ upload.Has listed pieces
  large : ∀ data ∈ pieces.dropLast, leastPartSize ≤ data.size

end OpenUpload

/-- How the state of a host is read as that of a bucket: whether it is one in which no request
fails without a cause, its objects, and its uploads by their names. -/
structure BucketView (σ : Type) where
  Sound : σ → Prop
  object? : σ → (key : String) → Option StoredObject
  upload? : σ → (upload : String) → Option OpenUpload

namespace BucketView

variable {σ : Type} (view : BucketView σ)

/-- A bucket has become one with the same objects. -/
def Keeps (service after : σ) : Prop :=
  view.Sound after ∧ view.object? after = view.object? service

/-- A bucket has become one with an object in place of what it had under a key. -/
def Puts (key : String) (object : StoredObject) (service after : σ) : Prop :=
  view.Sound after ∧
    view.object? after = Function.update (view.object? service) key (some object)

theorem Keeps.puts {view : BucketView σ} {service middle after : σ} {key : String}
    {object : StoredObject} (keeps : view.Keeps service middle)
    (puts : view.Puts key object middle after) : view.Puts key object service after :=
  ⟨puts.1, by rw [puts.2, keeps.2]⟩

/-- What S3 makes of the requests about a bucket that are in order and within its limits: what is
asked of an object is told, the ends of a range are both included, and an object is what was put or
uploaded last. -/
structure Lawful [Host σ] (limits : ServiceLimits) (endpoint bucket : String) : Prop where
  head_missing {service : σ} {key : String} : view.Sound service → limits.TakesKey key →
    view.object? service key = none →
    ∃ refusal after,
      Host.serve endpoint (.headObject bucket key) service = (.error refusal, after) ∧
        refusal.isNotFound = true ∧ view.Keeps service after
  head_found {service : σ} {key : String} {object : StoredObject} : view.Sound service →
    limits.TakesKey key → view.object? service key = some object →
    ∃ after,
      Host.serve endpoint (.headObject bucket key) service =
        (.ok (.head (toString object.data.size) (some object.contentType)), after) ∧
          view.Keeps service after
  get_whole {service : σ} {key : String} {object : StoredObject} : view.Sound service →
    limits.TakesKey key → view.object? service key = some object →
    ∃ after,
      Host.serve endpoint (.getObject bucket key none) service =
        (.ok (.content object.data), after) ∧ view.Keeps service after
  get_range {service : σ} {key : String} {object : StoredObject} {start stop : Nat} :
    view.Sound service → limits.TakesKey key → view.object? service key = some object →
    start ≤ stop → stop < object.data.size →
    ∃ after,
      Host.serve endpoint (.getObject bucket key (some (start, stop))) service =
        (.ok (.content (object.data.extract start (stop + 1))), after) ∧ view.Keeps service after
  put {service : σ} {key contentType : String} {data : ByteArray} : view.Sound service →
    limits.TakesKey key → limits.TakesType contentType → data.size ≤ limits.requestBytes →
    ∃ reply after,
      Host.serve endpoint (.putObject bucket key contentType data) service =
        (.ok reply, after) ∧ view.Puts key ⟨contentType, data⟩ service after
  create {service : σ} {key contentType : String} : view.Sound service →
    limits.TakesKey key → limits.TakesType contentType →
    ∃ upload after,
      Host.serve endpoint (.createUpload bucket key contentType) service =
        (.ok (.created (some upload)), after) ∧ view.Keeps service after ∧
          view.upload? after upload = some ⟨key, contentType, fun _ => none⟩
  part {service : σ} {upload : String} {opened : OpenUpload} {number : Nat} {data : ByteArray} :
    view.Sound service → view.upload? service upload = some opened →
    0 < number → number ≤ limits.parts → data.size ≤ limits.requestBytes →
    ∃ tag after,
      Host.serve endpoint (.uploadPart bucket opened.key upload number data) service =
        (.ok (.tagged (some tag)), after) ∧ view.Keeps service after ∧
          view.upload? after upload = some (opened.grow number data tag)
  complete {service : σ} {upload : String} {opened : OpenUpload}
    {listed : List (Nat × Option String)} {pieces : List ByteArray} : view.Sound service →
    view.upload? service upload = some opened → opened.CompletedBy listed pieces →
    listed.length ≤ limits.parts → (joined pieces).size ≤ limits.objectBytes →
    ∃ reply after,
      Host.serve endpoint (.completeUpload bucket opened.key upload listed) service =
        (.ok reply, after) ∧
          view.Puts opened.key ⟨opened.contentType, joined pieces⟩ service after

end BucketView

end Backbeat
